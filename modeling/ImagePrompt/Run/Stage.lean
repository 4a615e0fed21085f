import ImagePrompt.Failure
/-!
# Stages of a run

The stages that a run goes through, and a part of a run as the stages that it
enters and what it comes to. A part that fails ends in the stage that says so.
-/

namespace ImagePrompt

inductive Stage where
  | received
  | normalized
  | imagesLoaded
  | dispatched
  | writtenToDisk
  | done
  | failed (kind : FailureKind)
  deriving DecidableEq, Repr

def Stage.name : Stage → String
  | .received => "received"
  | .normalized => "normalized"
  | .imagesLoaded => "images_loaded"
  | .dispatched => "dispatched"
  | .writtenToDisk => "written_to_disk"
  | .done => "done"
  | .failed kind => "failed(" ++ kind.name ++ ")"

/-- A part of a run: the stages that it enters, and its result. -/
structure Passage (α : Type) where
  stages : List Stage
  result : Except Failure α

namespace Passage

variable {α β : Type}

def ok (stages : List Stage) (a : α) : Passage α := ⟨stages, .ok a⟩

def fail (stages : List Stage) (f : Failure) : Passage α :=
  ⟨stages ++ [.failed f.kind], .error f⟩

def andThen (p : Passage α) (next : α → Passage β) : Passage β :=
  match p.result with
  | .ok a => ⟨p.stages ++ (next a).stages, (next a).result⟩
  | .error f => ⟨p.stages, .error f⟩

end Passage

end ImagePrompt
