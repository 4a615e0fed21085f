import ImagePrompt.Document.Resolution
import ImagePrompt.Json.Value
import ImagePrompt.Picture.Basic
/-!
# Providers of pictures

What a provider is asked for, what it gives, and what a provider is: a name
and a way to answer a request. A provider may use and change a state of its
own kind, such as the traffic with a service.
-/

namespace ImagePrompt

/-- Everything that a provider needs to know about a picture, checked and read beforehand. -/
structure PictureRequest where
  model : String
  promptText : String
  /-- The normalized prompt. -/
  document : Json
  images : List LoadedImage := []
  aspectRatio : Option AspectRatio := none
  size : ImageSize := .oneK
  resolution : Option Resolution := none
  seed : Option Nat := none
  safetyFilter : Option SafetyFilter := none

structure GeneratedPicture where
  bytes : Bytes
  mediaType : Option String := none
  /-- What a model said besides the picture. -/
  remark : Option String := none
  deriving DecidableEq, Repr

structure Provider (σ : Type) where
  name : String
  generate : PictureRequest → σ → Except Failure GeneratedPicture × σ

def Provider.ofFunction (name : String)
    (generate : PictureRequest → Except Failure GeneratedPicture) {σ : Type} : Provider σ where
  name := name
  generate request state := (generate request, state)

end ImagePrompt
