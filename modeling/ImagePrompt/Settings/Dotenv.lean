import ImagePrompt.Bytes.Words
import ImagePrompt.Settings.Environment
import ImagePrompt.Text.Alphanumeric
import ImagePrompt.Text.Blank
import ImagePrompt.Text.Utf8
/-!
# Files of assignments

Files that give values to names, one assignment on a line. A value may be
quoted in part, may name other values by a dollar sign, and ends at a blank;
a comment may follow. A name that comes twice has the later value.
-/

namespace ImagePrompt

namespace Dotenv

structure LineError where
  line : String
  index : Nat
  deriving DecidableEq, Repr

def LineError.message (e : LineError) : String :=
  "Error parsing line: '" ++ e.line ++ "', error at line index: " ++ toString e.index

inductive Error where
  | notText
  | line (error : LineError)
  deriving DecidableEq, Repr

def Error.message : Error → String
  | .notText => "stream did not contain valid UTF-8: stream did not contain valid UTF-8"
  | .line error => error.message

/-! ## Values -/

inductive Reference where
  | outside
  | bare
  | braced
  deriving DecidableEq, Repr

/-- What is known of a value before its next character. Texts are held last character first. -/
structure ValueState where
  output : List Char := []
  reference : Reference := .outside
  name : List Char := []
  singleQuoted : Bool := false
  doubleQuoted : Bool := false
  escaped : Bool := false
  ending : Bool := false
  deriving DecidableEq, Repr

namespace ValueState

def push (s : ValueState) (c : Char) : ValueState := { s with output := c :: s.output }

def substitute (lookup : String → String) (s : ValueState) : ValueState :=
  { s with
    output := (lookup (String.ofList s.name.reverse)).toList.reverse ++ s.output
    name := []
    reference := .outside }

def unescape? (s : ValueState) (c : Char) : Option ValueState :=
  let s := { s with escaped := false }
  if c == '\\' || c == '\'' || c == '"' || c == '$' || c == ' ' then some (s.push c)
  else if c == 'n' then some (s.push '\n')
  else none

def refer (lookup : String → String) (s : ValueState) (c : Char) : ValueState :=
  if Text.isAlphanumeric c then { s with name := c :: s.name }
  else if s.reference == .braced then
    if c == '}' then s.substitute lookup else { s with name := c :: s.name }
  else if c == '{' && s.name.isEmpty then { s with reference := .braced }
  else if c == '$' then { s.substitute lookup with reference := .bare }
  else (s.substitute lookup).push c

def next? (lookup : String → String) (s : ValueState) (c : Char) : Option ValueState :=
  if s.ending then if c == ' ' || c == '\t' then some s else none
  else if s.escaped then s.unescape? c
  else if s.singleQuoted then
    some (if c == '\'' then { s with singleQuoted := false } else s.push c)
  else if s.reference != .outside then some (s.refer lookup c)
  else if c == '$' then some { s with reference := .bare }
  else if s.doubleQuoted then
    some (if c == '"' then { s with doubleQuoted := false }
      else if c == '\\' then { s with escaped := true }
      else s.push c)
  else if c == '\'' then some { s with singleQuoted := true }
  else if c == '"' then some { s with doubleQuoted := true }
  else if c == '\\' then some { s with escaped := true }
  else if c == ' ' || c == '\t' then some { s with ending := true }
  else some (s.push c)

/-- The state after some characters, up to a comment, or the index of one that may not stand
where it does. -/
def read (lookup : String → String) (index : Nat) (s : ValueState) :
    List Char → Except Nat ValueState
  | [] => .ok s
  | c :: rest =>
    if s.ending && c == '#' then .ok s
    else
      match s.next? lookup c with
      | some s => read lookup (index + 1) s rest
      | none => .error index

def isOpen (s : ValueState) : Bool :=
  s.reference == .braced || s.singleQuoted || s.doubleQuoted

end ValueState

def readValue (lookup : String → String) (cs : List Char) : Except LineError String :=
  match ValueState.read lookup 0 {} cs with
  | .error index => .error ⟨String.ofList cs, index⟩
  | .ok s =>
    if s.isOpen then .error ⟨String.ofList cs, Text.Utf8.size cs - 1⟩
    else .ok (String.ofList (s.substitute lookup).output.reverse)

/-! ## Lines -/

/-- A place in a line: the number of octets before it, and the characters behind it. -/
structure Cursor where
  position : Nat
  rest : List Char

namespace Cursor

def skip (isSkipped : Char → Bool) (c : Cursor) : Cursor where
  position := c.position + Text.Utf8.size (c.rest.takeWhile isSkipped)
  rest := c.rest.dropWhile isSkipped

def skipSpace (c : Cursor) : Cursor := c.skip Text.isSpace

/-- Nothing but a comment follows. -/
def isIdle (c : Cursor) : Bool := c.rest.isEmpty || c.rest.head? == some '#'

def beginsName (c : Char) : Bool := c.isAlpha || c == '_'

def isInName (c : Char) : Bool := c.isAlphanum || c == '_' || c == '.'

/-- Reads a name and the white space behind it, or gives the position where no name stands. -/
def readName (c : Cursor) : Except Nat (String × Cursor) :=
  if (c.rest.head?.map beginsName).getD false then
    .ok (String.ofList (c.rest.takeWhile isInName), (c.skip isInName).skipSpace)
  else .error c.position

def readEquals (c : Cursor) : Except Nat Cursor :=
  match c.rest with
  | '=' :: rest => .ok ⟨c.position + 1, rest⟩
  | _ => .error c.position

/-- Reads the name of an assignment, behind a word that may say that it is exported. -/
def readAssigned (c : Cursor) : Except Nat (String × Cursor) := do
  let (name, behind) ← c.readName
  match behind.readEquals with
  | .ok value => return (name, value)
  | .error position =>
    if name == "export" then
      let (name, behind) ← behind.readName
      let value ← behind.readEquals
      return (name, value)
    else .error position

end Cursor

def readLine (lookup : String → String) (line : String) :
    Except LineError (Option (String × String)) :=
  let start := Cursor.skipSpace ⟨0, (Text.trimEnd line).toList⟩
  if start.isIdle then .ok none
  else
    match start.readAssigned with
    | .error position => .error ⟨line, position⟩
    | .ok (name, behind) =>
      let behind := behind.skipSpace
      if behind.isIdle then .ok (some (name, ""))
      else (readValue lookup behind.rest).map fun value => some (name, value)

/-! ## Files -/

/-- The value that a name stands for: in the environment, else by the latest assignment. -/
def valueOf (environment : Environment) (done : List (String × String)) (name : String) : String :=
  ((environment.value? name).or (done.reverse.lookup name)).getD ""

def readLines (environment : Environment) (done : List (String × String)) :
    List Bytes → Except Error (List (String × String))
  | [] => .ok done
  | line :: rest =>
    match Text.Utf8.decode? line with
    | none => .error .notText
    | some text =>
      match readLine (valueOf environment done) text with
      | .error e => .error (.line e)
      | .ok none => readLines environment done rest
      | .ok (some assignment) => readLines environment (done ++ [assignment]) rest

/-- The lines of a file, without the line break of either kind behind each. -/
def linesOf : Bytes → List Bytes
  | [] => []
  | 0x0d :: 0x0a :: rest => [] :: linesOf rest
  | 0x0a :: rest => [] :: linesOf rest
  | b :: rest =>
    match rest, linesOf rest with
    | [], _ => [[b]]
    | _, [] => [[b]]
    | _, line :: lines => (b :: line) :: lines

def parse (environment : Environment) (bytes : Bytes) : Except Error (List (String × String)) :=
  readLines environment [] (linesOf bytes)

end Dotenv

end ImagePrompt
