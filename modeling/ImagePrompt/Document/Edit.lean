import ImagePrompt.Document.Codec
import ImagePrompt.Text.Blank
import ImagePrompt.Text.Case
/-!
# Edits and locks

Changes to single things in a picture, and the things that must not change.
-/

namespace ImagePrompt

structure Edit where
  target : Option String := none
  action : Option String := none
  description : Option String := none
  extra : Members := []

namespace Edit

def keys : List String := ["target", "action", "description"]

def read (ms : Members) : Except DecodeError Edit := do
  let action ← ms.optional "action" .text
  let description ← ms.optional "description" .text
  let target ← ms.optional "target" .text
  return { target, action, description, extra := ms.without keys }

def members (e : Edit) : Members :=
  .ofOption "target" .text e.target ++
  .ofOption "action" .text e.action ++
  .ofOption "description" .text e.description ++
  e.extra

def codec : Codec Edit := .record "Edit" read members

end Edit

/-- The things that must come through an edit unchanged. -/
structure Lock where
  elements : List String := []
  extra : Members := []

namespace Lock

def keys : List String := ["elements"]

def read (ms : Members) : Except DecodeError Lock := do
  let elements ← ms.list "elements" .text
  return { elements, extra := ms.without keys }

def members (l : Lock) : Members :=
  .ofList "elements" .text l.elements ++
  l.extra

def codec : Codec Lock := .record "Lock" read members

end Lock

namespace Lock

/-- Two names of a thing are equal up to white space around them and the case of ASCII letters. -/
def sameThing (a b : String) : Bool :=
  Text.sameLetters (Text.trim a) (Text.trim b)

def covers (l : Lock) (target : String) : Bool :=
  l.elements.any (sameThing · target)

end Lock

end ImagePrompt
