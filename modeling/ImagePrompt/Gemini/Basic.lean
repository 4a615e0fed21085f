import ImagePrompt.Gemini.Reply
import ImagePrompt.Gemini.RequestBody
import ImagePrompt.Provider.Network
import ImagePrompt.Url.Reader
/-!
# The Gemini service

A provider that asks a service on the web. A request is built and checked,
sent once, and answered by what the service replies; the credential stands in
the request and nowhere else.
-/

namespace ImagePrompt

structure Gemini where
  base : String
  apiKey : Option String

namespace Gemini

/-- The service at an address, whose blanks around it and slashes at its end say nothing. -/
def ofBase (base : String) (apiKey : Option String) : Gemini where
  base := Text.dropEnd '/' (Text.trim base)
  apiKey := apiKey

def modelPath (model : String) : String :=
  let name := Text.trim model
  if "models/".toList.isPrefixOf name.toList then name else "models/" ++ name

def endpoint (g : Gemini) (model : String) : String :=
  g.base ++ "/" ++ modelPath model ++ ":generateContent"

/-- A credential that a request can carry: no control characters but tabs. -/
def isCarried (apiKey : String) : Bool :=
  apiKey.toList.all fun c => c == '\t' || (0x20 ≤ c.toNat && c.toNat != 0x7f)

inductive SendError where
  | unbuilt
  | unbuiltFor (url : Url)
  | unsent (url : Url)
  deriving DecidableEq, Repr

def SendError.message : SendError → String
  | .unbuilt => "builder error"
  | .unbuiltFor url => "builder error for url (" ++ url.text ++ ")"
  | .unsent url => "error sending request for url (" ++ url.text ++ ")"

def SendError.failure (endpoint : String) (e : SendError) : Failure :=
  .transport ("Gemini request failed (" ++ endpoint ++ "): " ++ e.message)

def schemes : List String := ["http", "https"]

def build (g : Gemini) (apiKey : String) (request : PictureRequest) :
    Except SendError HttpRequest :=
  match Url.parse? (g.endpoint request.model) with
  | none => .error .unbuilt
  | some url =>
    if (url.host.getD "").isEmpty then .error (.unbuiltFor url)
    else if !isCarried apiKey then .error .unbuilt
    else
      let url := url.withoutCredentials
      if !schemes.contains url.scheme || !url.isSendable then .error (.unbuiltFor url)
      else .ok { url, apiKey, body := (body request).compact }

def receive (endpoint : String) (url : Url) : Exchange → Except Failure GeneratedPicture
  | .unreachable => .error ((SendError.unsent url).failure endpoint)
  | .dropped => .error ((SendError.unsent url).failure endpoint)
  | .truncated _ =>
    .error (.transport "Gemini response body read failed: error decoding response body")
  | .answered status body => pictureOfAnswer status body

def generate (g : Gemini) (request : PictureRequest) (network : Network) :
    Except Failure GeneratedPicture × Network :=
  match g.apiKey with
  | none => (.error (.authentication "GEMINI_API_KEY or GOOGLE_API_KEY not set"), network)
  | some apiKey =>
    let endpoint := g.endpoint request.model
    match g.build apiKey request with
    | .error e => (.error (e.failure endpoint), network)
    | .ok httpRequest =>
      let (exchange, network) := network.send httpRequest
      (receive endpoint httpRequest.url exchange, network)

def provider (g : Gemini) : Provider Network where
  name := "gemini"
  generate := g.generate

end Gemini

end ImagePrompt
