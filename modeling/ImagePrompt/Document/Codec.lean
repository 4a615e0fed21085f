import ImagePrompt.Json.Printer
import ImagePrompt.Text.Visible
/-!
# Typed values in JSON

A codec pairs the reading of a typed value with its written form. Records read
their members in the order of the keys, so that of two faults the one under the
smaller key is reported, and keep the members that they do not know.
-/

namespace ImagePrompt

inductive Wanted where
  | text
  | flag
  | sequence
  | real
  | unsigned64
  | unsigned32
  | record (type : String)
  deriving DecidableEq, Repr

inductive DecodeError where
  | wrongKind (found : Json) (wanted : Wanted)
  | outOfRange (found : Int) (wanted : Wanted)
  | missing (key : String)
  | unsupported (setting found : String) (known : List String)
  | strengthOutside (found : Reading)
  | notAnImage (found : Json)
  deriving Repr

def Wanted.name : Wanted → String
  | .text => "a string"
  | .flag => "a boolean"
  | .sequence => "a sequence"
  | .real => "f64"
  | .unsigned64 => "u64"
  | .unsigned32 => "u32"
  | .record type => "struct " ++ type

def Json.describe : Json → String
  | .null => "null"
  | .bool true => "boolean `true`"
  | .bool false => "boolean `false`"
  | .number (.integer n) => "integer `" ++ (Json.Number.integer n).text ++ "`"
  | .number (.real x) => "floating point `" ++ (Json.Number.real x).text ++ "`"
  | .string s => "string " ++ Text.quoted s
  | .array _ => "sequence"
  | .object _ => "map"

def DecodeError.message : DecodeError → String
  | .wrongKind found wanted =>
    "invalid type: " ++ found.describe ++ ", expected " ++ wanted.name
  | .outOfRange found wanted =>
    "invalid value: integer `" ++ toString found ++ "`, expected " ++ wanted.name
  | .missing key => "missing field `" ++ key ++ "`"
  | .unsupported setting found known =>
    "unsupported " ++ setting ++ " `" ++ found ++ "` (expected one of " ++
      String.intercalate ", " known ++ ")"
  | .strengthOutside found => "strength " ++ found.display ++ " outside [0, 1]"
  | .notAnImage found =>
    "image reference must be a path string or an object, got " ++ found.compact

/-- A way to read values of a type and its written form. -/
structure Codec (α : Type) where
  decode : Json → Except DecodeError α
  encode : α → Json

namespace Codec

def value : Codec Json := ⟨.ok, id⟩

def text : Codec String where
  decode
    | .string s => .ok s
    | other => .error (.wrongKind other .text)
  encode := .string

def flag : Codec Bool where
  decode
    | .bool b => .ok b
    | other => .error (.wrongKind other .flag)
  encode := .bool

/-- Floating-point numbers; an integer stands for the nearest one. -/
def real : Codec Binary64 where
  decode
    | .number (.integer n) => .ok (Binary64.ofInt n)
    | .number (.real x) => .ok x
    | other => .error (.wrongKind other .real)
  encode := .ofReal

/-- Natural numbers up to a limit, written as integers. -/
def natural (limit : Nat) (wanted : Wanted) : Codec Nat where
  decode
    | .number (.integer n) =>
      if 0 ≤ n && n ≤ limit then .ok n.toNat else .error (.outOfRange n wanted)
    | other => .error (.wrongKind other wanted)
  encode := .ofNat

def unsigned64 : Codec Nat := natural (Nat.pow 2 64 - 1) .unsigned64

def unsigned32 : Codec Nat := natural (Nat.pow 2 32 - 1) .unsigned32

def named {α : Type} (ofName : String → Except DecodeError α) (name : α → String) : Codec α where
  decode
    | .string s => ofName s
    | other => .error (.wrongKind other .text)
  encode a := .string (name a)

/-- Lists; the first element that cannot be read is reported. -/
def list {α : Type} (c : Codec α) : Codec (List α) where
  decode
    | .array elements => elements.mapM c.decode
    | other => .error (.wrongKind other .sequence)
  encode as := .array (as.map c.encode)

def record {α : Type} (name : String) (read : Members → Except DecodeError α)
    (write : α → Members) : Codec α where
  decode
    | .object members => read members
    | other => .error (.wrongKind other (.record name))
  encode a := .ofMembers (write a)

end Codec

def findNamed {α : Type} (setting : String) (all : List α) (name : α → String)
    (wanted : String) : Except DecodeError α :=
  match all.find? (fun a => name a == wanted) with
  | some a => .ok a
  | none => .error (.unsupported setting wanted (all.map name))

namespace Members

variable {α : Type}

/-- Reads a member that may be absent or null. -/
def optional (members : Members) (key : String) (c : Codec α) :
    Except DecodeError (Option α) :=
  match Members.get? members key with
  | none => .ok none
  | some .null => .ok none
  | some v => do
    let a ← c.decode v
    return some a

/-- Reads a member that may be absent but not null. -/
def present (members : Members) (key : String) (c : Codec α) :
    Except DecodeError (Option α) :=
  match Members.get? members key with
  | none => .ok none
  | some v => do
    let a ← c.decode v
    return some a

/-- Reads a member that has a value when absent. -/
def defaulting (members : Members) (key : String) (c : Codec α) (default : α) :
    Except DecodeError α :=
  match Members.get? members key with
  | none => .ok default
  | some v => c.decode v

def list (members : Members) (key : String) (c : Codec α) : Except DecodeError (List α) :=
  defaulting members key c.list []

def ofOption (key : String) (c : Codec α) : Option α → Members
  | none => []
  | some a => [(key, c.encode a)]

/-- Writes a list unless it is empty. -/
def ofList (key : String) (c : Codec α) : List α → Members
  | [] => []
  | as => [(key, c.list.encode as)]

/-- Writes a truth value unless it is false. -/
def ofFlag (key : String) : Bool → Members
  | false => []
  | true => [(key, .bool true)]

def ofValue (key : String) (c : Codec α) (a : α) : Members :=
  [(key, c.encode a)]

end Members

end ImagePrompt
