import ImagePrompt.Document.Meta
/-!
# Resolutions

The number of pixels of a picture, by its aspect ratio and size tier.
-/

namespace ImagePrompt

structure Resolution where
  width : Nat
  height : Nat
  deriving DecidableEq, Repr

namespace Resolution

def text (r : Resolution) : String := toString r.width ++ "x" ++ toString r.height

def base : AspectRatio → Resolution
  | .square => ⟨1024, 1024⟩
  | .portrait2x3 => ⟨848, 1264⟩
  | .landscape3x2 => ⟨1264, 848⟩
  | .portrait3x4 => ⟨896, 1200⟩
  | .landscape4x3 => ⟨1200, 896⟩
  | .portrait4x5 => ⟨928, 1152⟩
  | .landscape5x4 => ⟨1152, 928⟩
  | .portrait9x16 => ⟨768, 1376⟩
  | .landscape16x9 => ⟨1376, 768⟩
  | .ultrawide21x9 => ⟨1584, 672⟩

def factor : ImageSize → Nat
  | .oneK => 1
  | .twoK => 2
  | .fourK => 4

/-- The resolution of a ratio at a tier: every tier doubles the one before. -/
def of (ratio : AspectRatio) (size : ImageSize) : Resolution :=
  ⟨(base ratio).width * factor size, (base ratio).height * factor size⟩

end Resolution

/-- The resolution that settings ask for, if they name a ratio. -/
def Meta.resolution (m : Meta) : Option Resolution :=
  m.aspectRatio.map fun ratio => .of ratio m.effectiveSize

end ImagePrompt
