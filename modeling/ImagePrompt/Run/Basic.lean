import ImagePrompt.Output.Writer
import ImagePrompt.Run.Preparation
/-!
# Runs

A run prepares a request, asks a provider for the picture and writes it to a
file. A pipeline makes one run after another with the same provider and keeps
the stages of all of them.
-/

namespace ImagePrompt

structure RunOutcome where
  imagePath : String
  promptText : String
  remark : Option String
  resolution : Option Resolution
  hybrid : Bool
  warnings : List String
  deriving DecidableEq, Repr

/-- What a run finds and changes: the state of the provider, and the files. -/
structure World (σ : Type) where
  state : σ
  files : FileSystem

/-- What a run meets when it writes: the time, and what goes wrong. -/
structure Moment where
  time : Timestamp
  fault : Option WriteFault := none
  deriving DecidableEq, Repr

namespace PreparedRun

def outputName (r : PreparedRun) (m : Moment) (picture : GeneratedPicture) : OutputName where
  directory := r.outputDirectory
  time := m.time
  extension := extensionFor picture.mediaType

def outcome (r : PreparedRun) (picture : GeneratedPicture) (path : String) : RunOutcome where
  imagePath := path
  promptText := r.request.promptText
  remark := picture.remark
  resolution := r.request.resolution
  hybrid := r.hybrid
  warnings := r.warnings

def writePicture (r : PreparedRun) (m : Moment) (picture : GeneratedPicture) (fs : FileSystem) :
    FileSystem × Passage RunOutcome :=
  let (fs, written) := OutputWriter.write (r.outputName m picture) picture.bytes m.fault fs
  match written with
  | .ok path => (fs, .ok [.dispatched, .writtenToDisk, .done] (r.outcome picture path))
  | .error f => (fs, .fail [.dispatched] f)

def execute {σ : Type} (r : PreparedRun) (p : Provider σ) (m : Moment) (w : World σ) :
    World σ × Passage RunOutcome :=
  match p.generate r.request w.state with
  | (.error f, state) => ({ w with state }, .fail [] f)
  | (.ok picture, state) =>
    let (files, passage) := r.writePicture m picture w.files
    ({ state, files }, passage)

end PreparedRun

namespace GenerationRequest

def run {σ : Type} (r : GenerationRequest) (p : Provider σ) (m : Moment) (w : World σ) :
    World σ × Passage RunOutcome :=
  let preparation := r.prepare w.files
  match preparation.result with
  | .error f => (w, ⟨preparation.stages, .error f⟩)
  | .ok prepared =>
    let (w, execution) := prepared.execute p m w
    (w, ⟨preparation.stages ++ execution.stages, execution.result⟩)

end GenerationRequest

structure Pipeline (σ : Type) where
  provider : Provider σ
  stages : List Stage := []

namespace Pipeline

variable {σ : Type}

def record {α : Type} (p : Pipeline σ) (passage : Passage α) : Pipeline σ :=
  { p with stages := p.stages ++ passage.stages }

def run (p : Pipeline σ) (r : GenerationRequest) (m : Moment) (w : World σ) :
    Pipeline σ × World σ × Except Failure RunOutcome :=
  let (w, passage) := r.run p.provider m w
  (p.record passage, w, passage.result)

end Pipeline

end ImagePrompt
