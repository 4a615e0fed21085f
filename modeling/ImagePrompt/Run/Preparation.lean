import ImagePrompt.Document.Normalized
import ImagePrompt.Picture.Binding
import ImagePrompt.Provider.Basic
import ImagePrompt.Rendering.Basic
import ImagePrompt.Run.Stage
/-!
# Preparing a run

Everything that happens to a prompt before a provider is asked: it is
normalized, the supplied files are bound to its declarations and read, and its
instruction text is written.
-/

namespace ImagePrompt

structure GenerationRequest where
  prompt : Json
  inputImages : List String := []
  outputDirectory : String
  model : String

structure PreparedRun where
  request : PictureRequest
  outputDirectory : String
  hybrid : Bool
  warnings : List String

namespace GenerationRequest

/-- A run over images: the document declares some, or some files are supplied. -/
def hasImages (r : GenerationRequest) (n : NormalizedPrompt) : Bool :=
  !n.images.isEmpty || !r.inputImages.isEmpty

def loadImages (r : GenerationRequest) (fs : FileSystem) (n : NormalizedPrompt) :
    Passage (List LoadedImage) :=
  if r.hasImages n then
    match LoadedImage.loadAll fs n.images r.inputImages with
    | .ok images => .ok [.imagesLoaded] images
    | .error f => .fail [] f
  else .ok [] []

def prepared (r : GenerationRequest) (n : NormalizedPrompt) (images : List LoadedImage) :
    PreparedRun where
  request :=
    { model := r.model
      promptText := n.document.promptText
      document := n.payload
      images
      aspectRatio := n.document.settings.aspectRatio
      size := n.document.settings.effectiveSize
      resolution := n.resolution
      seed := n.document.settings.seed
      safetyFilter := n.document.settings.safetyFilter }
  outputDirectory := r.outputDirectory
  hybrid := n.document.isHybrid
  warnings := n.warnings ++ n.document.renderWarnings

/-- Prepares a run. Nothing has been sent when this fails. -/
def prepare (r : GenerationRequest) (fs : FileSystem) : Passage PreparedRun :=
  match normalize r.prompt with
  | .error e => .fail [.received] e.failure
  | .ok n =>
    (Passage.ok [.received, .normalized] ()).andThen fun _ =>
      (r.loadImages fs n).andThen fun images => .ok [] (r.prepared n images)

end GenerationRequest

end ImagePrompt
