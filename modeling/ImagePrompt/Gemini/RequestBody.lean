import ImagePrompt.Bytes.Base64
import ImagePrompt.Json.Printer
import ImagePrompt.Provider.Basic
/-!
# Bodies of requests

What a request says to the service: the pictures in their order, the
instruction text, the structured prompt, and the settings of the picture.
Members stand in the order of their keys.
-/

namespace ImagePrompt.Gemini

def textPart (text : String) : Json := .object [("text", .string text)]

def picturePart (mediaType : String) (bytes : Bytes) : Json :=
  .object [("inlineData", .object
    [("data", .string (Base64.encode bytes)), ("mimeType", .string mediaType)])]

def structuredHeading : String := "STRUCTURED_PROMPT_JSON:\n"

/-- The parts of a request: the pictures, the instruction text and the structured prompt. -/
def parts (request : PictureRequest) : List Json :=
  request.images.map (fun image => picturePart image.mediaType image.bytes) ++
    [textPart request.promptText, textPart (structuredHeading ++ request.document.indented)]

def optional (key : String) (value : Option Json) : Members :=
  (value.map (key, ·)).toList

def imageConfig (request : PictureRequest) : Json :=
  .object (optional "aspectRatio" (request.aspectRatio.map fun ratio => .string ratio.name) ++
    [("imageSize", .string request.size.name)])

def generationConfig (request : PictureRequest) : Json :=
  .object ([("imageConfig", imageConfig request),
    ("responseModalities", .array [.string "TEXT", .string "IMAGE"])] ++
    optional "seed" (request.seed.map Json.ofNat))

def harmCategories : List String :=
  ["HARM_CATEGORY_HARASSMENT", "HARM_CATEGORY_HATE_SPEECH", "HARM_CATEGORY_SEXUALLY_EXPLICIT",
    "HARM_CATEGORY_DANGEROUS_CONTENT"]

/-- One setting of the filter for each kind of harm. -/
def safetySettings (filter : SafetyFilter) : Json :=
  .array (harmCategories.map fun category =>
    .object [("category", .string category), ("threshold", .string filter.threshold)])

def body (request : PictureRequest) : Json :=
  .object ([("contents", .array [.object
      [("parts", .array (parts request)), ("role", .string "user")]]),
    ("generationConfig", generationConfig request)] ++
    optional "safetySettings" (request.safetyFilter.map safetySettings) ++
    [("tools", .array [.object [("google_search", .object [])]])])

end ImagePrompt.Gemini
