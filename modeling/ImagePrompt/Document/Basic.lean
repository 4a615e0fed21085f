import ImagePrompt.Document.Resolution
import ImagePrompt.Document.Subject
import ImagePrompt.Document.Photograph
import ImagePrompt.Document.Style
import ImagePrompt.Document.GraphicDesign
import ImagePrompt.Document.UiDesign
import ImagePrompt.Document.Edit
/-!
# Prompt documents

The structured request that describes one picture, and the images that it
declares. Each declared image has an origin, whose label tells it from every
other; they are attached in the order of their origins.
-/

namespace ImagePrompt

structure PromptDocument where
  userIntent : Option String := none
  settings : Meta := {}
  subjects : List Subject := []
  scene : Option Scene := none
  composition : Option Composition := none
  technical : Option Technical := none
  textRendering : Option TextRendering := none
  styleModifiers : Option StyleModifiers := none
  advanced : Option Advanced := none
  graphicDesign : Option GraphicDesign := none
  uiDesign : Option UiDesign := none
  inputImage : Option ImageRef := none
  baseImage : Option ImageRef := none
  referenceImages : List ImageRef := []
  edits : List Edit := []
  lock : Option Lock := none
  extra : Members := []

namespace PromptDocument

def keys : List String :=
  ["user_intent", "meta", "subject", "scene", "composition", "technical", "text_rendering",
    "style_modifiers", "advanced", "graphic_design", "ui_design", "input_image", "base_image",
    "reference_images", "edits", "lock"]

def read (ms : Members) : Except DecodeError PromptDocument := do
  let advanced ← ms.optional "advanced" Advanced.codec
  let baseImage ← ms.optional "base_image" ImageRef.codec
  let composition ← ms.optional "composition" Composition.codec
  let edits ← ms.list "edits" Edit.codec
  let graphicDesign ← ms.optional "graphic_design" GraphicDesign.codec
  let inputImage ← ms.optional "input_image" ImageRef.codec
  let lock ← ms.optional "lock" Lock.codec
  let settings ← ms.defaulting "meta" Meta.codec {}
  let referenceImages ← ms.list "reference_images" ImageRef.codec
  let scene ← ms.optional "scene" Scene.codec
  let styleModifiers ← ms.optional "style_modifiers" StyleModifiers.codec
  let subjects ← ms.list "subject" Subject.codec
  let technical ← ms.optional "technical" Technical.codec
  let textRendering ← ms.optional "text_rendering" TextRendering.codec
  let uiDesign ← ms.optional "ui_design" UiDesign.codec
  let userIntent ← ms.optional "user_intent" .text
  return { userIntent, settings, subjects, scene, composition, technical, textRendering,
           styleModifiers, advanced, graphicDesign, uiDesign, inputImage, baseImage,
           referenceImages, edits, lock, extra := ms.without keys }

def members (d : PromptDocument) : Members :=
  .ofOption "user_intent" .text d.userIntent ++
  .ofValue "meta" Meta.codec d.settings ++
  .ofList "subject" Subject.codec d.subjects ++
  .ofOption "scene" Scene.codec d.scene ++
  .ofOption "composition" Composition.codec d.composition ++
  .ofOption "technical" Technical.codec d.technical ++
  .ofOption "text_rendering" TextRendering.codec d.textRendering ++
  .ofOption "style_modifiers" StyleModifiers.codec d.styleModifiers ++
  .ofOption "advanced" Advanced.codec d.advanced ++
  .ofOption "graphic_design" GraphicDesign.codec d.graphicDesign ++
  .ofOption "ui_design" UiDesign.codec d.uiDesign ++
  .ofOption "input_image" ImageRef.codec d.inputImage ++
  .ofOption "base_image" ImageRef.codec d.baseImage ++
  .ofList "reference_images" ImageRef.codec d.referenceImages ++
  .ofList "edits" Edit.codec d.edits ++
  .ofOption "lock" Lock.codec d.lock ++
  d.extra

def codec : Codec PromptDocument := .record "PromptDocument" read members

end PromptDocument

/-- Where a document declares an image. Subjects and references count from zero. -/
inductive ImageOrigin where
  | inputImage
  | subject (index : Nat)
  | baseImage
  | reference (index : Nat)
  deriving DecidableEq, Repr

def ImageOrigin.label : ImageOrigin → String
  | .inputImage => "input_image"
  | .subject index => "subject[" ++ toString index ++ "].input_image"
  | .baseImage => "base_image"
  | .reference index => "reference_images[" ++ toString index ++ "]"

structure DeclaredImage where
  origin : ImageOrigin
  image : ImageRef

namespace PromptDocument

/-- The images of a list of subjects, the first of which has this index. -/
def subjectImages : Nat → List Subject → List DeclaredImage
  | _, [] => []
  | index, s :: rest =>
    (s.inputImage.map (⟨.subject index, ·⟩)).toList ++ subjectImages (index + 1) rest

def numberedReferences : Nat → List ImageRef → List DeclaredImage
  | _, [] => []
  | index, r :: rest => ⟨.reference index, r⟩ :: numberedReferences (index + 1) rest

/-- The images that a document declares, in the order in which they are attached. -/
def declaredImages (d : PromptDocument) : List DeclaredImage :=
  (d.inputImage.map (⟨.inputImage, ·⟩)).toList ++ subjectImages 0 d.subjects ++
    (d.baseImage.map (⟨.baseImage, ·⟩)).toList ++ numberedReferences 0 d.referenceImages

/-- A document that combines single images with a base image or a set of references. -/
def isHybrid (d : PromptDocument) : Bool :=
  (d.inputImage.isSome || d.subjects.any (·.inputImage.isSome)) &&
    (d.baseImage.isSome || !d.referenceImages.isEmpty)

end PromptDocument

end ImagePrompt
