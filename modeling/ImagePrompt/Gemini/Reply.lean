import ImagePrompt.Bytes.Base64
import ImagePrompt.Json.Parser
import ImagePrompt.Provider.Basic
import ImagePrompt.Text.Blank
/-!
# Replies of the service

What an answer holds: pictures and texts in the parts of its candidates, and
the service's own words on why there is no picture. Thoughts are passed over.
-/

namespace ImagePrompt.Gemini

structure ReplyPicture where
  bytes : Bytes
  mediaType : Option String
  deriving DecidableEq, Repr

def candidates (reply : Json) : List Json :=
  ((reply.get? "candidates").bind Json.array?).getD []

def candidateParts (candidate : Json) : List Json :=
  (((candidate.get? "content").bind (Json.get? "parts")).bind Json.array?).getD []

def isThought (part : Json) : Bool :=
  match part.get? "thought" with
  | some (.bool b) => b
  | _ => false

def spokenParts (reply : Json) : List Json :=
  ((candidates reply).flatMap candidateParts).filter fun part => !isThought part

/-- The text of a part, without the blanks around it, if that says something. -/
def partText? (part : Json) : Option String :=
  (Text.filled ((part.get? "text").bind Json.string?)).map Text.trim

def texts (reply : Json) : List String := (spokenParts reply).filterMap partText?

def partPicture? (part : Json) : Option (String × Option String) := do
  let inline ← ((part.get? "inlineData").or (part.get? "inline_data")).bind Json.object?
  let data ← (Members.get? inline "data").bind Json.string?
  guard (data != "")
  return (data,
    ((Members.get? inline "mimeType").or (Members.get? inline "mime_type")).bind Json.string?)

/-- The pictures of some parts, or why the first that cannot be decoded cannot. -/
def picturesOf : List Json → Except Base64.Error (List ReplyPicture)
  | [] => .ok []
  | part :: rest =>
    match partPicture? part with
    | none => picturesOf rest
    | some (data, mediaType) => do
      let bytes ← Base64.decode (Text.Utf8.encode data)
      let pictures ← picturesOf rest
      return ⟨bytes, mediaType⟩ :: pictures

def pictures (reply : Json) : Except Base64.Error (List ReplyPicture) :=
  picturesOf (spokenParts reply)

def shownLength : Nat := 512

def reasons (reply : Json) : List String :=
  let feedback (key : String) :=
    (((reply.get? "promptFeedback").bind (Json.get? key)).bind Json.string?).toList
  (feedback "blockReason").map ("prompt blocked: " ++ ·) ++
    feedback "blockReasonMessage" ++
    ((candidates reply).filterMap fun candidate =>
      (candidate.get? "finishReason").bind Json.string?).map ("finish reason: " ++ ·) ++
    (if (texts reply).isEmpty then []
      else ["model said: " ++
        Text.truncate shownLength (String.intercalate " " (texts reply))])

def noPictureReason (reply : Json) : String :=
  match reasons reply with
  | [] => "Gemini returned no image"
  | rs => "Gemini returned no image (" ++ String.intercalate "; " rs ++ ")"

/-- The picture of a reply, which has to be the only one. -/
def pictureOfReply (reply : Json) : Except Failure GeneratedPicture :=
  match pictures reply with
  | .error e => .error (.service ("Gemini image base64 decode failed: " ++ e.message))
  | .ok [] => .error (.service (noPictureReason reply))
  | .ok [picture] =>
    .ok {
      bytes := picture.bytes
      mediaType := picture.mediaType
      remark :=
        if (texts reply).isEmpty then none else some (String.intercalate "\n" (texts reply)) }
  | .ok several =>
    .error (.service ("Gemini returned " ++ toString several.length ++
      " images; expected exactly one"))

/-! ## Answers -/

/-- What the service says about a failure: its message, else the text of its answer. -/
def explanation (text : String) : String :=
  let said := match Json.parse text with
    | .ok v => ((v.get? "error").bind (Json.get? "message")).bind Json.string?
    | .error _ => none
  said.getD (Text.truncate shownLength (Text.trim text))

def isSuccess (status : Nat) : Bool := 200 ≤ status && status < 300

/-- A status by which the service refuses a credential. -/
def isRefusal (status : Nat) : Bool := status == 401 || status == 403

def pictureOfAnswer (status : Nat) (body : Bytes) : Except Failure GeneratedPicture :=
  let text := Text.Utf8.decodeLossy body
  let code := "(" ++ toString status ++ "): "
  if isSuccess status then
    match Json.parse text with
    | .ok reply => pictureOfReply reply
    | .error e =>
      .error (.service ("Gemini returned invalid JSON payload (" ++ e.message ++ "): " ++
        Text.truncate 256 text))
  else if isRefusal status then
    .error (.authentication ("Gemini rejected the credential " ++ code ++ explanation text))
  else .error (.service ("Gemini request failed " ++ code ++ explanation text))

end ImagePrompt.Gemini
