import ImagePrompt.Document.Codec
/-!
# Designs of user interfaces

The design of a screen: structure, components, colors, type, states and icons.
-/

namespace ImagePrompt

structure UiLayout where
  arrangement : Option String := none
  columns : Option Json := none
  spacing : Option String := none
  extra : Members := []

namespace UiLayout

def keys : List String := ["structure", "columns", "spacing"]

def read (ms : Members) : Except DecodeError UiLayout := do
  let columns ← ms.optional "columns" .value
  let spacing ← ms.optional "spacing" .text
  let arrangement ← ms.optional "structure" .text
  return { arrangement, columns, spacing, extra := ms.without keys }

def members (l : UiLayout) : Members :=
  .ofOption "structure" .text l.arrangement ++
  .ofOption "columns" .value l.columns ++
  .ofOption "spacing" .text l.spacing ++
  l.extra

def codec : Codec UiLayout := .record "UiLayout" read members

end UiLayout

structure UiComponent where
  kind : String := ""
  variant : Option String := none
  state : Option String := none
  size : Option Json := none
  style : Option String := none
  extra : Members := []

namespace UiComponent

def keys : List String := ["type", "variant", "state", "size", "style"]

def read (ms : Members) : Except DecodeError UiComponent := do
  let size ← ms.optional "size" .value
  let state ← ms.optional "state" .text
  let style ← ms.optional "style" .text
  let kind ← ms.defaulting "type" .text ""
  let variant ← ms.optional "variant" .text
  return { kind, variant, state, size, style, extra := ms.without keys }

def members (c : UiComponent) : Members :=
  .ofValue "type" .text c.kind ++
  .ofOption "variant" .text c.variant ++
  .ofOption "state" .text c.state ++
  .ofOption "size" .value c.size ++
  .ofOption "style" .text c.style ++
  c.extra

def codec : Codec UiComponent := .record "UiComponent" read members

end UiComponent

structure ColorSystem where
  mode : Option String := none
  primary : Option String := none
  extra : Members := []

namespace ColorSystem

def keys : List String := ["mode", "primary"]

def read (ms : Members) : Except DecodeError ColorSystem := do
  let mode ← ms.optional "mode" .text
  let primary ← ms.optional "primary" .text
  return { mode, primary, extra := ms.without keys }

def members (c : ColorSystem) : Members :=
  .ofOption "mode" .text c.mode ++
  .ofOption "primary" .text c.primary ++
  c.extra

def codec : Codec ColorSystem := .record "ColorSystem" read members

end ColorSystem

structure TypographySystem where
  scale : Option String := none
  fontFamily : Option String := none
  extra : Members := []

namespace TypographySystem

def keys : List String := ["scale", "font_family"]

def read (ms : Members) : Except DecodeError TypographySystem := do
  let fontFamily ← ms.optional "font_family" .text
  let scale ← ms.optional "scale" .text
  return { scale, fontFamily, extra := ms.without keys }

def members (t : TypographySystem) : Members :=
  .ofOption "scale" .text t.scale ++
  .ofOption "font_family" .text t.fontFamily ++
  t.extra

def codec : Codec TypographySystem := .record "TypographySystem" read members

end TypographySystem

structure InteractionStates where
  hoverEffect : Option String := none
  focusStyle : Option String := none
  extra : Members := []

namespace InteractionStates

def keys : List String := ["hover_effect", "focus_style"]

def read (ms : Members) : Except DecodeError InteractionStates := do
  let focusStyle ← ms.optional "focus_style" .text
  let hoverEffect ← ms.optional "hover_effect" .text
  return { hoverEffect, focusStyle, extra := ms.without keys }

def members (i : InteractionStates) : Members :=
  .ofOption "hover_effect" .text i.hoverEffect ++
  .ofOption "focus_style" .text i.focusStyle ++
  i.extra

def codec : Codec InteractionStates := .record "InteractionStates" read members

end InteractionStates

structure Styling where
  borderRadius : Option String := none
  shadow : Option String := none
  extra : Members := []

namespace Styling

def keys : List String := ["border_radius", "shadow"]

def read (ms : Members) : Except DecodeError Styling := do
  let borderRadius ← ms.optional "border_radius" .text
  let shadow ← ms.optional "shadow" .text
  return { borderRadius, shadow, extra := ms.without keys }

def members (s : Styling) : Members :=
  .ofOption "border_radius" .text s.borderRadius ++
  .ofOption "shadow" .text s.shadow ++
  s.extra

def codec : Codec Styling := .record "Styling" read members

end Styling

structure Iconography where
  style : Option String := none
  size : Option Json := none
  extra : Members := []

namespace Iconography

def keys : List String := ["style", "size"]

def read (ms : Members) : Except DecodeError Iconography := do
  let size ← ms.optional "size" .value
  let style ← ms.optional "style" .text
  return { style, size, extra := ms.without keys }

def members (i : Iconography) : Members :=
  .ofOption "style" .text i.style ++
  .ofOption "size" .value i.size ++
  i.extra

def codec : Codec Iconography := .record "Iconography" read members

end Iconography

structure UiDesign where
  componentType : Option String := none
  layout : Option UiLayout := none
  components : List UiComponent := []
  colorSystem : Option ColorSystem := none
  typographySystem : Option TypographySystem := none
  interactionStates : Option InteractionStates := none
  styling : Option Styling := none
  iconography : Option Iconography := none
  designSystem : Option String := none
  extra : Members := []

namespace UiDesign

def keys : List String :=
  ["component_type", "layout", "components", "color_system", "typography_system",
    "interaction_states", "styling", "iconography", "design_system"]

def read (ms : Members) : Except DecodeError UiDesign := do
  let colorSystem ← ms.optional "color_system" ColorSystem.codec
  let componentType ← ms.optional "component_type" .text
  let components ← ms.list "components" UiComponent.codec
  let designSystem ← ms.optional "design_system" .text
  let iconography ← ms.optional "iconography" Iconography.codec
  let interactionStates ← ms.optional "interaction_states" InteractionStates.codec
  let layout ← ms.optional "layout" UiLayout.codec
  let styling ← ms.optional "styling" Styling.codec
  let typographySystem ← ms.optional "typography_system" TypographySystem.codec
  return { componentType, layout, components, colorSystem, typographySystem, interactionStates,
           styling, iconography, designSystem, extra := ms.without keys }

def members (u : UiDesign) : Members :=
  .ofOption "component_type" .text u.componentType ++
  .ofOption "layout" UiLayout.codec u.layout ++
  .ofList "components" UiComponent.codec u.components ++
  .ofOption "color_system" ColorSystem.codec u.colorSystem ++
  .ofOption "typography_system" TypographySystem.codec u.typographySystem ++
  .ofOption "interaction_states" InteractionStates.codec u.interactionStates ++
  .ofOption "styling" Styling.codec u.styling ++
  .ofOption "iconography" Iconography.codec u.iconography ++
  .ofOption "design_system" .text u.designSystem ++
  u.extra

def codec : Codec UiDesign := .record "UiDesign" read members

end UiDesign

end ImagePrompt
