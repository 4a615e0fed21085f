import ImagePrompt.Document.Basic
import ImagePrompt.Failure
import ImagePrompt.Json.Parser
/-!
# Normalized prompts

A document that passed every check, with what later stages need of it: the
document written again, the images in the order in which they are attached,
the resolution, and remarks on what the document says to no effect.
-/

namespace ImagePrompt

inductive SchemaError where
  | notJson (error : Json.SyntaxError)
  | notObject (found : Json)
  | undecodable (error : DecodeError)
  | outOfRange (error : RangeError)
  | emptyPath (origin : ImageOrigin)

def Json.kindName : Json → String
  | .null => "null"
  | .bool _ => "a boolean"
  | .number _ => "a number"
  | .string _ => "a string"
  | .array _ => "an array"
  | .object _ => "an object"

def SchemaError.message : SchemaError → String
  | .notJson error => "prompt is not valid JSON: " ++ error.message
  | .notObject found => "prompt document must be a JSON object, got " ++ found.kindName
  | .undecodable error => "prompt document: " ++ error.message
  | .outOfRange error => error.message
  | .emptyPath origin => origin.label ++ " has an empty path"

def SchemaError.failure (e : SchemaError) : Failure := .schema e.message

structure NormalizedPrompt where
  document : PromptDocument
  /-- The document with image shorthands written out and unknown members kept. -/
  payload : Json
  images : List DeclaredImage
  resolution : Option Resolution
  warnings : List String

namespace PromptDocument

def strengthWarnings (images : List DeclaredImage) : List String :=
  images.filterMap fun declared =>
    declared.image.advisory.map fun note => declared.origin.label ++ ": " ++ note

def domainWarnings (d : PromptDocument) : List String :=
  let domain := d.settings.effectiveDomain
  let ignored (title : String) := title ++ " section ignored for domain " ++ domain.name
  (if d.graphicDesign.isSome && domain != .graphicDesign then [ignored "graphic_design"] else []) ++
    (if d.uiDesign.isSome && domain != .uiDesign then [ignored "ui_design"] else [])

def payload (d : PromptDocument) : Json := codec.encode d

/-- Checks what decoding leaves open: the ranges of the settings and the paths of the images. -/
def check (d : PromptDocument) : Except SchemaError Unit :=
  match d.settings.rangeError? with
  | some e => .error (.outOfRange e)
  | none =>
    match d.declaredImages.find? (fun declared => Text.isBlank declared.image.path) with
    | some declared => .error (.emptyPath declared.origin)
    | none => .ok ()

end PromptDocument

def normalize (raw : Json) : Except SchemaError NormalizedPrompt :=
  match raw with
  | .object ms =>
    match PromptDocument.read ms with
    | .error e => .error (.undecodable e)
    | .ok document => do
      document.check
      return {
        document
        payload := document.payload
        images := document.declaredImages
        resolution := document.settings.resolution
        warnings :=
          PromptDocument.strengthWarnings document.declaredImages ++ document.domainWarnings }
  | other => .error (.notObject other)

def normalizeText (text : String) : Except SchemaError NormalizedPrompt :=
  match Json.parse text with
  | .ok raw => normalize raw
  | .error e => .error (.notJson e)

end ImagePrompt
