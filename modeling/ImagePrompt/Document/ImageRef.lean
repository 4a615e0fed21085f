import ImagePrompt.Document.Codec
import ImagePrompt.Text.Blank
/-!
# References to images

An image that a document declares: where its file is, the role it plays, and
how strongly it is to show in the result.
-/

namespace ImagePrompt

def Binary64.inUnit (x : Binary64) : Bool :=
  (Binary64.zero false).le x && x.le (.ofInt 1)

/-- How much of an image survives into the result, from 0 to 1. -/
structure Strength where
  value : Binary64
  within : value.inUnit = true

namespace Strength

def ofReal (x : Binary64) : Except DecodeError Strength :=
  if h : x.inUnit = true then .ok ⟨x, h⟩ else .error (.strengthOutside (.finite x))

/-- The strength that a reading denotes; only finite numbers are in range. -/
def ofReading : Reading → Except DecodeError Strength
  | .finite x => ofReal x
  | other => .error (.strengthOutside other)

def text (s : Strength) : String := s.value.display

def codec : Codec Strength where
  decode v := do
    let x ← Codec.real.decode v
    ofReal x
  encode s := .ofReal s.value

end Strength

/-- The role that an image plays; roles without a name of their own are kept as written. -/
inductive Usage where
  | identity
  | pose
  | style
  | composition
  | colorPalette
  | lighting
  | background
  | expression
  | clothing
  | texture
  | editBase
  | other (role : String)
  deriving DecidableEq, Repr

namespace Usage

def known : List Usage :=
  [.identity, .pose, .style, .composition, .colorPalette, .lighting, .background, .expression,
    .clothing, .texture, .editBase]

def name : Usage → String
  | .identity => "identity"
  | .pose => "pose"
  | .style => "style"
  | .composition => "composition"
  | .colorPalette => "color_palette"
  | .lighting => "lighting"
  | .background => "background"
  | .expression => "expression"
  | .clothing => "clothing"
  | .texture => "texture"
  | .editBase => "edit_base"
  | .other role => role

def ofName (s : String) : Usage :=
  (known.find? (fun u => u.name == s)).getD (.other s)

def codec : Codec Usage := .named (fun s => .ok (ofName s)) name

def label (u : Usage) : String :=
  String.ofList (u.name.toList.map fun c => if c == '_' then ' ' else c)

/-- The strengths that usually suit a role, in hundredths. -/
def recommendedHundredths : Usage → Option (Nat × Nat)
  | .identity => some (75, 100)
  | .editBase => some (80, 100)
  | .background => some (50, 90)
  | .expression => some (50, 90)
  | .clothing => some (50, 90)
  | .pose => some (40, 80)
  | .composition => some (40, 80)
  | .style => some (30, 70)
  | .lighting => some (30, 70)
  | .texture => some (30, 70)
  | .colorPalette => some (20, 60)
  | .other _ => none

def hundredths (n : Nat) : Binary64 := (Binary64.ofRatio false n 100).getD default

def recommended (u : Usage) : Option (Binary64 × Binary64) :=
  u.recommendedHundredths.map fun (low, high) => (hundredths low, hundredths high)

end Usage

structure ImageRef where
  path : String
  usage : Option Usage := none
  strength : Option Strength := none
  description : Option String := none
  target : Option String := none
  extra : Members := []

namespace ImageRef

def keys : List String := ["path", "usage_type", "strength", "description", "target"]

def read (ms : Members) : Except DecodeError ImageRef := do
  let description ← ms.optional "description" .text
  let path ← ms.present "path" .text
  let strength ← ms.optional "strength" Strength.codec
  let target ← ms.optional "target" .text
  let usage ← ms.optional "usage_type" Usage.codec
  match path with
  | some path => return { path, usage, strength, description, target, extra := ms.without keys }
  | none => .error (.missing "path")

def members (r : ImageRef) : Members :=
  .ofValue "path" .text r.path ++
  .ofOption "usage_type" Usage.codec r.usage ++
  .ofOption "strength" Strength.codec r.strength ++
  .ofOption "description" .text r.description ++
  .ofOption "target" .text r.target ++
  r.extra

/-- References as objects; a text alone is the path. -/
def codec : Codec ImageRef where
  decode
    | .string path => .ok { path }
    | .object ms => read ms
    | other => .error (.notAnImage other)
  encode r := .ofMembers r.members

/-- The role in words, `reference` when none is given. -/
def usageLabel (r : ImageRef) : String :=
  (r.usage.map Usage.label).getD "reference"

/-- A note on a strength outside those that usually suit the role. -/
def advisory (r : ImageRef) : Option String := do
  let strength ← r.strength
  let usage ← r.usage
  let (low, high) ← usage.recommended
  if low.le strength.value && strength.value.le high then none
  else
    return "strength " ++ strength.text ++ " for `" ++ r.path ++
      "` is outside the recommended " ++ low.display ++ "-" ++ high.display ++ " for " ++
      r.usageLabel

end ImageRef

end ImagePrompt
