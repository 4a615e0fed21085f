import ImagePrompt.Document.Basic
/-!
# Lines of the instruction text

The lines that a document is rendered to, and the phrases that they are made
of. Names like `golden_hour` are spelled with spaces; free text stays as it is.
-/

namespace ImagePrompt

/-- A name with spaces for underscores and none around it. -/
def spaced (s : String) : String :=
  String.ofList ((Text.trim s).toList.map fun c => if c == '_' then ' ' else c)

def phrase (s : Option String) (f : String → String) : List String :=
  ((Text.filled s).map f).toList

def filledUnless (word : String) (s : Option String) : Option String :=
  (Text.filled s).filter (· != word)

def phrases (ss : List (Option String)) (f : String → String) : List String :=
  ss.flatMap (phrase · f)

def commaList (items : List String) : String := String.intercalate ", " items

/-- The text of a value that is free of form: texts, numbers and truth values say something. -/
def freeText : Json → Option String
  | .string s => if Text.isBlank s then none else some (Text.trim s)
  | .number n => some n.text
  | .bool b => some (if b then "true" else "false")
  | _ => none

def freePhrase (v : Option Json) (f : String → String) : List String :=
  ((v.bind freeText).map f).toList

inductive PromptLine where
  /-- What the user wants, in the user's words. -/
  | intent (text : String)
  | labelled (label body : String)
  /-- A subject; `number` is its place in the document, from one on. -/
  | subject (number : Nat) (body : String)
  | preserve (elements : List String)
  /-- A declared image; `number` is its place among the attached ones, from one on. -/
  | reference (number : Nat) (declared : DeclaredImage)
  /-- A change to one thing: what to do, to what, and how. -/
  | edit (action target description : Option String)
  | avoid (items : List String)

namespace PromptLine

/-- A section with its parts separated by commas, left out if it has none. -/
def listed (label : String) (parts : List String) : List PromptLine :=
  if parts.isEmpty then [] else [.labelled label (commaList parts)]

def role (declared : DeclaredImage) : String :=
  match declared.origin with
  | .baseImage => "base image to edit"
  | .subject index =>
    declared.image.usageLabel ++ " reference for subject " ++ toString (index + 1)
  | .inputImage => declared.image.usageLabel ++ " reference"
  | .reference _ => declared.image.usageLabel ++ " reference"

def describe (declared : DeclaredImage) : String :=
  role declared ++
    String.join
      ((declared.image.strength.map fun s => ", strength " ++ s.text).toList ++
        phrase declared.image.target (fun t => ", applies to " ++ spaced t) ++
        phrase declared.image.description (fun t => " (" ++ t ++ ")"))

def text : PromptLine → String
  | .intent text => text
  | .labelled label body => label ++ ": " ++ body
  | .subject number body => "Subject " ++ toString number ++ ": " ++ body
  | .preserve elements => "Preserve exactly: " ++ commaList elements
  | .reference number declared => "Image " ++ toString number ++ ": " ++ describe declared
  | .edit action target description =>
    "Edit:" ++
      String.join
        (phrases [action, target] (fun t => " " ++ spaced t) ++
          phrase description (fun t => " (" ++ t ++ ")"))
  | .avoid items => "Avoid: " ++ commaList items

end PromptLine

end ImagePrompt
