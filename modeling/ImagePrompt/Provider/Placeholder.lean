import ImagePrompt.Bytes.Sha256
import ImagePrompt.Picture.Solid
import ImagePrompt.Provider.Basic
/-!
# Placeholders

A provider that asks no service: it paints a picture of one colour, which
depends on the prompt and the seed only.
-/

namespace ImagePrompt.Placeholder

def fallbackSize : Resolution := ⟨256, 256⟩

/-- The colour for a prompt and a seed: the first bytes of a digest of both. -/
def colour (promptText : String) (seed : Nat) : Colour :=
  match Sha256.digest (Text.Utf8.encode promptText ++ Bytes.ofNat 8 seed) with
  | red :: green :: blue :: _ => ⟨red, green, blue⟩
  | _ => ⟨0, 0, 0⟩

def picture (request : PictureRequest) : SolidPicture where
  size := request.resolution.getD fallbackSize
  colour := colour request.promptText (request.seed.getD 0)

def generate (request : PictureRequest) : GeneratedPicture where
  bytes := (picture request).png
  mediaType := some "image/png"

def provider {σ : Type} : Provider σ := .ofFunction "dryrun" fun request => .ok (generate request)

end ImagePrompt.Placeholder
