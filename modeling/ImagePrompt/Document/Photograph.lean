import ImagePrompt.Document.Codec
/-!
# Photographs

The scene of a photograph, how it is taken and composed, and text in it.
-/

namespace ImagePrompt

structure Lighting where
  kind : Option String := none
  direction : Option String := none
  extra : Members := []

namespace Lighting

def keys : List String := ["type", "direction"]

def read (ms : Members) : Except DecodeError Lighting := do
  let direction ← ms.optional "direction" .text
  let kind ← ms.optional "type" .text
  return { kind, direction, extra := ms.without keys }

def members (l : Lighting) : Members :=
  .ofOption "type" .text l.kind ++
  .ofOption "direction" .text l.direction ++
  l.extra

def codec : Codec Lighting := .record "Lighting" read members

end Lighting

structure Scene where
  location : Option String := none
  time : Option String := none
  weather : Option String := none
  lighting : Option Lighting := none
  backgroundElements : List String := []
  extra : Members := []

namespace Scene

def keys : List String := ["location", "time", "weather", "lighting", "background_elements"]

def read (ms : Members) : Except DecodeError Scene := do
  let backgroundElements ← ms.list "background_elements" .text
  let lighting ← ms.optional "lighting" Lighting.codec
  let location ← ms.optional "location" .text
  let time ← ms.optional "time" .text
  let weather ← ms.optional "weather" .text
  return { location, time, weather, lighting, backgroundElements, extra := ms.without keys }

def members (s : Scene) : Members :=
  .ofOption "location" .text s.location ++
  .ofOption "time" .text s.time ++
  .ofOption "weather" .text s.weather ++
  .ofOption "lighting" Lighting.codec s.lighting ++
  .ofList "background_elements" .text s.backgroundElements ++
  s.extra

def codec : Codec Scene := .record "Scene" read members

end Scene

structure Composition where
  framing : Option String := none
  angle : Option String := none
  focusPoint : Option String := none
  extra : Members := []

namespace Composition

def keys : List String := ["framing", "angle", "focus_point"]

def read (ms : Members) : Except DecodeError Composition := do
  let angle ← ms.optional "angle" .text
  let focusPoint ← ms.optional "focus_point" .text
  let framing ← ms.optional "framing" .text
  return { framing, angle, focusPoint, extra := ms.without keys }

def members (c : Composition) : Members :=
  .ofOption "framing" .text c.framing ++
  .ofOption "angle" .text c.angle ++
  .ofOption "focus_point" .text c.focusPoint ++
  c.extra

def codec : Codec Composition := .record "Composition" read members

end Composition

structure Technical where
  cameraModel : Option String := none
  lens : Option String := none
  aperture : Option String := none
  filmStock : Option String := none
  extra : Members := []

namespace Technical

def keys : List String := ["camera_model", "lens", "aperture", "film_stock"]

def read (ms : Members) : Except DecodeError Technical := do
  let aperture ← ms.optional "aperture" .text
  let cameraModel ← ms.optional "camera_model" .text
  let filmStock ← ms.optional "film_stock" .text
  let lens ← ms.optional "lens" .text
  return { cameraModel, lens, aperture, filmStock, extra := ms.without keys }

def members (t : Technical) : Members :=
  .ofOption "camera_model" .text t.cameraModel ++
  .ofOption "lens" .text t.lens ++
  .ofOption "aperture" .text t.aperture ++
  .ofOption "film_stock" .text t.filmStock ++
  t.extra

def codec : Codec Technical := .record "Technical" read members

end Technical

/-- Text that a picture shows, if enabled. -/
structure TextRendering where
  enabled : Bool := false
  textContent : Option String := none
  placement : Option String := none
  fontStyle : Option String := none
  color : Option String := none
  extra : Members := []

namespace TextRendering

def keys : List String := ["enabled", "text_content", "placement", "font_style", "color"]

def read (ms : Members) : Except DecodeError TextRendering := do
  let color ← ms.optional "color" .text
  let enabled ← ms.defaulting "enabled" .flag false
  let fontStyle ← ms.optional "font_style" .text
  let placement ← ms.optional "placement" .text
  let textContent ← ms.optional "text_content" .text
  return { enabled, textContent, placement, fontStyle, color, extra := ms.without keys }

def members (t : TextRendering) : Members :=
  .ofFlag "enabled" t.enabled ++
  .ofOption "text_content" .text t.textContent ++
  .ofOption "placement" .text t.placement ++
  .ofOption "font_style" .text t.fontStyle ++
  .ofOption "color" .text t.color ++
  t.extra

def codec : Codec TextRendering := .record "TextRendering" read members

end TextRendering

end ImagePrompt
