import ImagePrompt.Document.Codec
/-!
# Graphic designs

The design of a printed page: layout, hierarchy, colors, type and elements.
-/

namespace ImagePrompt

structure DesignLayout where
  gridSystem : Option String := none
  alignment : Option String := none
  spacing : Option String := none
  balance : Option String := none
  extra : Members := []

namespace DesignLayout

def keys : List String := ["grid_system", "alignment", "spacing", "balance"]

def read (ms : Members) : Except DecodeError DesignLayout := do
  let alignment ← ms.optional "alignment" .text
  let balance ← ms.optional "balance" .text
  let gridSystem ← ms.optional "grid_system" .text
  let spacing ← ms.optional "spacing" .text
  return { gridSystem, alignment, spacing, balance, extra := ms.without keys }

def members (l : DesignLayout) : Members :=
  .ofOption "grid_system" .text l.gridSystem ++
  .ofOption "alignment" .text l.alignment ++
  .ofOption "spacing" .text l.spacing ++
  .ofOption "balance" .text l.balance ++
  l.extra

def codec : Codec DesignLayout := .record "DesignLayout" read members

end DesignLayout

structure Hierarchy where
  primaryFocus : Option String := none
  visualFlow : Option String := none
  extra : Members := []

namespace Hierarchy

def keys : List String := ["primary_focus", "visual_flow"]

def read (ms : Members) : Except DecodeError Hierarchy := do
  let primaryFocus ← ms.optional "primary_focus" .text
  let visualFlow ← ms.optional "visual_flow" .text
  return { primaryFocus, visualFlow, extra := ms.without keys }

def members (h : Hierarchy) : Members :=
  .ofOption "primary_focus" .text h.primaryFocus ++
  .ofOption "visual_flow" .text h.visualFlow ++
  h.extra

def codec : Codec Hierarchy := .record "Hierarchy" read members

end Hierarchy

structure ColorScheme where
  paletteType : Option String := none
  primaryColor : Option String := none
  secondaryColor : Option String := none
  accentColor : Option String := none
  extra : Members := []

namespace ColorScheme

def keys : List String := ["palette_type", "primary_color", "secondary_color", "accent_color"]

def read (ms : Members) : Except DecodeError ColorScheme := do
  let accentColor ← ms.optional "accent_color" .text
  let paletteType ← ms.optional "palette_type" .text
  let primaryColor ← ms.optional "primary_color" .text
  let secondaryColor ← ms.optional "secondary_color" .text
  return { paletteType, primaryColor, secondaryColor, accentColor, extra := ms.without keys }

def members (c : ColorScheme) : Members :=
  .ofOption "palette_type" .text c.paletteType ++
  .ofOption "primary_color" .text c.primaryColor ++
  .ofOption "secondary_color" .text c.secondaryColor ++
  .ofOption "accent_color" .text c.accentColor ++
  c.extra

def codec : Codec ColorScheme := .record "ColorScheme" read members

end ColorScheme

structure Typography where
  headlineFont : Option String := none
  bodyFont : Option String := none
  extra : Members := []

namespace Typography

def keys : List String := ["headline_font", "body_font"]

def read (ms : Members) : Except DecodeError Typography := do
  let bodyFont ← ms.optional "body_font" .text
  let headlineFont ← ms.optional "headline_font" .text
  return { headlineFont, bodyFont, extra := ms.without keys }

def members (t : Typography) : Members :=
  .ofOption "headline_font" .text t.headlineFont ++
  .ofOption "body_font" .text t.bodyFont ++
  t.extra

def codec : Codec Typography := .record "Typography" read members

end Typography

structure DesignElement where
  kind : String := ""
  content : Option String := none
  style : Option String := none
  placement : Option String := none
  extra : Members := []

namespace DesignElement

def keys : List String := ["type", "content", "style", "placement"]

def read (ms : Members) : Except DecodeError DesignElement := do
  let content ← ms.optional "content" .text
  let placement ← ms.optional "placement" .text
  let style ← ms.optional "style" .text
  let kind ← ms.defaulting "type" .text ""
  return { kind, content, style, placement, extra := ms.without keys }

def members (e : DesignElement) : Members :=
  .ofValue "type" .text e.kind ++
  .ofOption "content" .text e.content ++
  .ofOption "style" .text e.style ++
  .ofOption "placement" .text e.placement ++
  e.extra

def codec : Codec DesignElement := .record "DesignElement" read members

end DesignElement

structure VisualStyle where
  mood : Option String := none
  texture : Option String := none
  effects : Option String := none
  extra : Members := []

namespace VisualStyle

def keys : List String := ["mood", "texture", "effects"]

def read (ms : Members) : Except DecodeError VisualStyle := do
  let effects ← ms.optional "effects" .text
  let mood ← ms.optional "mood" .text
  let texture ← ms.optional "texture" .text
  return { mood, texture, effects, extra := ms.without keys }

def members (v : VisualStyle) : Members :=
  .ofOption "mood" .text v.mood ++
  .ofOption "texture" .text v.texture ++
  .ofOption "effects" .text v.effects ++
  v.extra

def codec : Codec VisualStyle := .record "VisualStyle" read members

end VisualStyle

structure GraphicDesign where
  designType : Option String := none
  layout : Option DesignLayout := none
  hierarchy : Option Hierarchy := none
  colorScheme : Option ColorScheme := none
  typography : Option Typography := none
  elements : List DesignElement := []
  visualStyle : Option VisualStyle := none
  extra : Members := []

namespace GraphicDesign

def keys : List String :=
  ["design_type", "layout", "hierarchy", "color_scheme", "typography", "elements", "visual_style"]

def read (ms : Members) : Except DecodeError GraphicDesign := do
  let colorScheme ← ms.optional "color_scheme" ColorScheme.codec
  let designType ← ms.optional "design_type" .text
  let elements ← ms.list "elements" DesignElement.codec
  let hierarchy ← ms.optional "hierarchy" Hierarchy.codec
  let layout ← ms.optional "layout" DesignLayout.codec
  let typography ← ms.optional "typography" Typography.codec
  let visualStyle ← ms.optional "visual_style" VisualStyle.codec
  return { designType, layout, hierarchy, colorScheme, typography, elements, visualStyle,
           extra := ms.without keys }

def members (g : GraphicDesign) : Members :=
  .ofOption "design_type" .text g.designType ++
  .ofOption "layout" DesignLayout.codec g.layout ++
  .ofOption "hierarchy" Hierarchy.codec g.hierarchy ++
  .ofOption "color_scheme" ColorScheme.codec g.colorScheme ++
  .ofOption "typography" Typography.codec g.typography ++
  .ofList "elements" DesignElement.codec g.elements ++
  .ofOption "visual_style" VisualStyle.codec g.visualStyle ++
  g.extra

def codec : Codec GraphicDesign := .record "GraphicDesign" read members

end GraphicDesign

end ImagePrompt
