import ImagePrompt.Rendering.Line
/-!
# Guidance by locks, images and edits

Locks come before images and images before edits: an edit of a thing that is
locked, or that a declared image governs, is dropped with a warning.
-/

namespace ImagePrompt

inductive EditFate where
  | locked (target : String)
  | governed (target : String)
  | applied

namespace PromptDocument

def lockedElements (d : PromptDocument) : List String :=
  ((d.lock.map Lock.elements).getD []).filter (!Text.isBlank ·)

def locks (d : PromptDocument) (target : String) : Bool :=
  d.lock.any (·.covers target)

def governs (d : PromptDocument) (target : String) : Bool :=
  d.declaredImages.any fun declared => declared.image.target.any (Lock.sameThing · target)

/-- What becomes of an edit; one without a target always stands. -/
def fate (d : PromptDocument) (e : Edit) : EditFate :=
  match Text.filled e.target with
  | none => .applied
  | some target =>
    if d.locks target then .locked target
    else if d.governs target then .governed target
    else .applied

def editWarning (d : PromptDocument) (e : Edit) : Option String :=
  match d.fate e with
  | .locked target => some ("edit on `" ++ target ++ "` dropped: target is locked")
  | .governed target =>
    some ("edit on `" ++ target ++ "` dropped: a reference image governs it")
  | .applied => none

def editLine (d : PromptDocument) (e : Edit) : Option PromptLine :=
  match d.fate e with
  | .applied =>
    if (phrases [e.action, e.target, e.description] id).isEmpty then none
    else some (.edit e.action e.target e.description)
  | _ => none

def referenceLines : Nat → List DeclaredImage → List PromptLine
  | _, [] => []
  | number, declared :: rest => .reference number declared :: referenceLines (number + 1) rest

/-- The lines of locks, images and edits, in this order. -/
def guidanceLines (d : PromptDocument) : List PromptLine :=
  (if d.lockedElements.isEmpty then [] else [.preserve d.lockedElements]) ++
  referenceLines 1 d.declaredImages ++
  d.edits.filterMap d.editLine

end PromptDocument

end ImagePrompt
