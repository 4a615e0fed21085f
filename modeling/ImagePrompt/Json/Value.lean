import ImagePrompt.Number.Binary64
/-!
# JSON values

Values of the data format, with the members of an object as a list. A reader
keeps that list in increasing order of the keys, each key once; `Json.Sorted`
says so at every level.
-/

namespace ImagePrompt

/-- A number is an integer of 64 bits, signed or not, or else a floating-point number. -/
inductive Json.Number where
  | integer (value : Int)
  | real (value : Binary64)
  deriving DecidableEq, Repr

inductive Json where
  | null
  | bool (value : Bool)
  | number (value : Json.Number)
  | string (value : String)
  | array (elements : List Json)
  | object (members : List (String × Json))
  deriving Repr, Inhabited

abbrev Members := List (String × Json)

namespace Members

def get? (members : Members) (key : String) : Option Json :=
  members.lookup key

def without (keys : List String) (members : Members) : Members :=
  members.filter fun member => !keys.contains member.1

/-- Puts a member in the place of its key, instead of the one that had the key. -/
def insert (key : String) (value : Json) : Members → Members
  | [] => [(key, value)]
  | (k, v) :: rest =>
    if key < k then (key, value) :: (k, v) :: rest
    else if key == k then (key, value) :: rest
    else (k, v) :: insert key value rest

/-- The members in increasing order of their keys; the last of several with one key stays. -/
def sorted (members : Members) : Members :=
  members.foldl (fun done member => insert member.1 member.2 done) []

def Increasing (members : Members) : Prop :=
  (members.map Prod.fst).Pairwise (· < ·)

end Members

namespace Json

def get? (key : String) : Json → Option Json
  | .object members => Members.get? members key
  | _ => none

def string? : Json → Option String
  | .string s => some s
  | _ => none

def array? : Json → Option (List Json)
  | .array elements => some elements
  | _ => none

def object? : Json → Option Members
  | .object members => some members
  | _ => none

def ofMembers (members : Members) : Json :=
  .object (Members.sorted members)

def ofNat (n : Nat) : Json := .number (.integer n)

def ofReal (x : Binary64) : Json := .number (.real x)

mutual

/-- Each object in the value lists its members in strictly increasing order of the keys. -/
def Sorted : Json → Prop
  | .array elements => SortedElements elements
  | .object members => Members.Increasing members ∧ SortedMembers members
  | _ => True

def SortedElements : List Json → Prop
  | [] => True
  | v :: rest => v.Sorted ∧ SortedElements rest

def SortedMembers : List (String × Json) → Prop
  | [] => True
  | (_, v) :: rest => v.Sorted ∧ SortedMembers rest

end

end Json

end ImagePrompt
