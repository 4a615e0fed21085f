import ImagePrompt.Document.Codec
/-!
# Settings of a prompt document

The domain of the picture, its aspect ratio and size tier, the safety filter,
and the numeric settings with their ranges.
-/

namespace ImagePrompt

inductive Domain where
  | photography
  | graphicDesign
  | uiDesign
  deriving DecidableEq, Repr

namespace Domain

/-- All domains, in the order in which messages list them. -/
def all : List Domain := [.photography, .graphicDesign, .uiDesign]

def name : Domain → String
  | .photography => "photography"
  | .graphicDesign => "graphic_design"
  | .uiDesign => "ui_design"

def ofName : String → Except DecodeError Domain := findNamed "domain" all name

def codec : Codec Domain := .named ofName name

end Domain

inductive AspectRatio where
  | square
  | portrait2x3
  | landscape3x2
  | portrait3x4
  | landscape4x3
  | portrait4x5
  | landscape5x4
  | portrait9x16
  | landscape16x9
  | ultrawide21x9
  deriving DecidableEq, Repr

namespace AspectRatio

def all : List AspectRatio :=
  [.square, .portrait2x3, .landscape3x2, .portrait3x4, .landscape4x3, .portrait4x5,
    .landscape5x4, .portrait9x16, .landscape16x9, .ultrawide21x9]

def name : AspectRatio → String
  | .square => "1:1"
  | .portrait2x3 => "2:3"
  | .landscape3x2 => "3:2"
  | .portrait3x4 => "3:4"
  | .landscape4x3 => "4:3"
  | .portrait4x5 => "4:5"
  | .landscape5x4 => "5:4"
  | .portrait9x16 => "9:16"
  | .landscape16x9 => "16:9"
  | .ultrawide21x9 => "21:9"

def ofName : String → Except DecodeError AspectRatio := findNamed "aspect_ratio" all name

def codec : Codec AspectRatio := .named ofName name

end AspectRatio

inductive ImageSize where
  | oneK
  | twoK
  | fourK
  deriving DecidableEq, Repr

namespace ImageSize

def all : List ImageSize := [.oneK, .twoK, .fourK]

def name : ImageSize → String
  | .oneK => "1K"
  | .twoK => "2K"
  | .fourK => "4K"

def ofName : String → Except DecodeError ImageSize := findNamed "image_size" all name

def codec : Codec ImageSize := .named ofName name

end ImageSize

inductive SafetyFilter where
  | blockNone
  | blockOnlyHigh
  | blockMediumAndAbove
  | blockLowAndAbove
  deriving DecidableEq, Repr

namespace SafetyFilter

def all : List SafetyFilter :=
  [.blockNone, .blockOnlyHigh, .blockMediumAndAbove, .blockLowAndAbove]

def name : SafetyFilter → String
  | .blockNone => "block_none"
  | .blockOnlyHigh => "block_only_high"
  | .blockMediumAndAbove => "block_medium_and_above"
  | .blockLowAndAbove => "block_low_and_above"

/-- The name of a filter as a threshold of the image service. -/
def threshold : SafetyFilter → String
  | .blockNone => "BLOCK_NONE"
  | .blockOnlyHigh => "BLOCK_ONLY_HIGH"
  | .blockMediumAndAbove => "BLOCK_MEDIUM_AND_ABOVE"
  | .blockLowAndAbove => "BLOCK_LOW_AND_ABOVE"

def ofName : String → Except DecodeError SafetyFilter := findNamed "safety_filter" all name

def codec : Codec SafetyFilter := .named ofName name

end SafetyFilter

structure Meta where
  domain : Option Domain := none
  aspectRatio : Option AspectRatio := none
  imageSize : Option ImageSize := none
  quality : Option String := none
  seed : Option Nat := none
  steps : Option Nat := none
  guidanceScale : Option Binary64 := none
  safetyFilter : Option SafetyFilter := none
  extra : Members := []

inductive RangeError where
  | steps (value : Nat)
  | guidanceScale (value : Binary64)
  deriving DecidableEq, Repr

def maxSteps : Nat := 150

def maxGuidanceScale : Binary64 := .ofInt 30

def RangeError.message : RangeError → String
  | .steps value => "meta.steps " ++ toString value ++ " outside [1, " ++ toString maxSteps ++ "]"
  | .guidanceScale value =>
    "meta.guidance_scale " ++ value.display ++ " outside [0, " ++ maxGuidanceScale.display ++ "]"

namespace Meta

def keys : List String :=
  ["domain", "aspect_ratio", "image_size", "quality", "seed", "steps", "guidance_scale",
    "safety_filter"]

def read (ms : Members) : Except DecodeError Meta := do
  let aspectRatio ← ms.optional "aspect_ratio" AspectRatio.codec
  let domain ← ms.optional "domain" Domain.codec
  let guidanceScale ← ms.optional "guidance_scale" .real
  let imageSize ← ms.optional "image_size" ImageSize.codec
  let quality ← ms.optional "quality" .text
  let safetyFilter ← ms.optional "safety_filter" SafetyFilter.codec
  let seed ← ms.optional "seed" .unsigned64
  let steps ← ms.optional "steps" .unsigned32
  return { domain, aspectRatio, imageSize, quality, seed, steps, guidanceScale, safetyFilter,
           extra := ms.without keys }

def members (m : Meta) : Members :=
  .ofOption "domain" Domain.codec m.domain ++
  .ofOption "aspect_ratio" AspectRatio.codec m.aspectRatio ++
  .ofOption "image_size" ImageSize.codec m.imageSize ++
  .ofOption "quality" .text m.quality ++
  .ofOption "seed" .unsigned64 m.seed ++
  .ofOption "steps" .unsigned32 m.steps ++
  .ofOption "guidance_scale" .real m.guidanceScale ++
  .ofOption "safety_filter" SafetyFilter.codec m.safetyFilter ++
  m.extra

def codec : Codec Meta := .record "Meta" read members

/-- The domain, photography unless one is given. -/
def effectiveDomain (m : Meta) : Domain := m.domain.getD .photography

/-- The size tier, the smallest unless one is given. -/
def effectiveSize (m : Meta) : ImageSize := m.imageSize.getD .oneK

def stepsInRange (n : Nat) : Bool := 1 ≤ n && n ≤ maxSteps

def scaleInRange (x : Binary64) : Bool :=
  (Binary64.zero false).le x && x.le maxGuidanceScale

/-- The first numeric setting out of its range. -/
def rangeError? (m : Meta) : Option RangeError :=
  match m.steps.filter (!stepsInRange ·) with
  | some n => some (.steps n)
  | none => (m.guidanceScale.filter (!scaleInRange ·)).map .guidanceScale

end Meta

end ImagePrompt
