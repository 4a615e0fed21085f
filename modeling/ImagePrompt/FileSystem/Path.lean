import ImagePrompt.Text.Case
import ImagePrompt.Text.Split
/-!
# Paths

Paths as texts and the components that they are made of. Empty components and
dots inside a path say nothing; a dot at its start and double dots do.
-/

namespace ImagePrompt.Path

inductive Component where
  | root
  | here
  | up
  | name (text : String)
  deriving DecidableEq, Repr

def isAbsolute (p : String) : Bool := p.toList.head? == some '/'

def names (p : String) : List String :=
  (Text.split '/' p).filter (· != "")

def endsInSlash (p : String) : Bool := p.toList.getLast? == some '/'

def Component.ofName (s : String) : Component :=
  if s == "." then .here else if s == ".." then .up else .name s

def Component.text : Component → String
  | .root => ""
  | .here => "."
  | .up => ".."
  | .name text => text

def components (p : String) : List Component :=
  let parts := (names p).map Component.ofName
  let named := parts.filter (· != .here)
  if isAbsolute p then .root :: named
  else if parts.head? == some .here then .here :: named
  else named

/-- Two spellings of a path have the same components. -/
def same (p q : String) : Bool := components p == components q

def ofComponents : List Component → String
  | [.root] => "/"
  | cs => String.intercalate "/" (cs.map Component.text)

/-- The path without its last component; the root has none. -/
def parent? (p : String) : Option String :=
  match (components p).getLast? with
  | none => none
  | some .root => none
  | some _ => some (ofComponents (components p).dropLast)

/-- The paths above a path, the nearest first, as many as `fuel` allows. -/
def above : Nat → String → List String
  | 0, _ => []
  | fuel + 1, p =>
    match parent? p with
    | none => []
    | some q => q :: above fuel q

def ancestors (p : String) : List String := p :: above (components p).length p

def join (p name : String) : String :=
  if isAbsolute name || p == "" then name
  else if endsInSlash p then p ++ name
  else p ++ "/" ++ name

/-- What follows the last dot of the last name, unless that dot begins the name. -/
def extension? (p : String) : Option String :=
  match (components p).getLast? with
  | some (.name text) =>
    let back := text.toList.reverse
    let tail := back.takeWhile (· != '.')
    match back.dropWhile (· != '.') with
    | [] => none
    | [_] => none
    | _ => some (String.ofList tail.reverse)
  | _ => none

end ImagePrompt.Path
