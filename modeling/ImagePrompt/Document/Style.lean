import ImagePrompt.Document.Codec
/-!
# Style and exclusions

Modifiers of the style of a picture, and what is to stay out of it.
-/

namespace ImagePrompt

structure StyleModifiers where
  medium : Option String := none
  aesthetic : List String := []
  artistReference : List String := []
  extra : Members := []

namespace StyleModifiers

def keys : List String := ["medium", "aesthetic", "artist_reference"]

def read (ms : Members) : Except DecodeError StyleModifiers := do
  let aesthetic ← ms.list "aesthetic" .text
  let artistReference ← ms.list "artist_reference" .text
  let medium ← ms.optional "medium" .text
  return { medium, aesthetic, artistReference, extra := ms.without keys }

def members (s : StyleModifiers) : Members :=
  .ofOption "medium" .text s.medium ++
  .ofList "aesthetic" .text s.aesthetic ++
  .ofList "artist_reference" .text s.artistReference ++
  s.extra

def codec : Codec StyleModifiers := .record "StyleModifiers" read members

end StyleModifiers

/-- What is to stay out of a picture. -/
structure Advanced where
  negativePrompt : List String := []
  extra : Members := []

namespace Advanced

def keys : List String := ["negative_prompt"]

def read (ms : Members) : Except DecodeError Advanced := do
  let negativePrompt ← ms.list "negative_prompt" .text
  return { negativePrompt, extra := ms.without keys }

def members (a : Advanced) : Members :=
  .ofList "negative_prompt" .text a.negativePrompt ++
  a.extra

def codec : Codec Advanced := .record "Advanced" read members

end Advanced

end ImagePrompt
