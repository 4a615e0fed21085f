import ImagePrompt.Document.GraphicDesign
import ImagePrompt.Document.UiDesign
import ImagePrompt.Proofs.Document.Record
/-!
# The schemas of designs

The places of a graphic design and of the design of a user interface.
-/

namespace ImagePrompt

namespace DesignLayout

def fields : List Field :=
  [.mk "alignment" .optional .text, .mk "balance" .optional .text,
    .mk "grid_system" .optional .text, .mk "spacing" .optional .text]

theorem follows : codec.Follows (fun _ => True) (.record fields) := by
  apply Codec.record_follows
  refine Fieldwise.recordFollows keys ?_ (by decide) (by decide)
  apply Fieldwise.step (Field.text_followed "alignment")
  intro alignment
  apply Fieldwise.step (Field.text_followed "balance")
  intro balance
  apply Fieldwise.step (Field.text_followed "grid_system")
  intro gridSystem
  apply Fieldwise.step (Field.text_followed "spacing")
  intro spacing
  apply Fieldwise.done (fun extra => { gridSystem, alignment, spacing, balance, extra })
  · exact fun _ => rfl
  · intro extra
    simp only [members, ← Multiset.coe_add]
    abel
  · intro extra
    simp

end DesignLayout

namespace Hierarchy

def fields : List Field :=
  [.mk "primary_focus" .optional .text, .mk "visual_flow" .optional .text]

theorem follows : codec.Follows (fun _ => True) (.record fields) := by
  apply Codec.record_follows
  refine Fieldwise.recordFollows keys ?_ (by decide) (by decide)
  apply Fieldwise.step (Field.text_followed "primary_focus")
  intro primaryFocus
  apply Fieldwise.step (Field.text_followed "visual_flow")
  intro visualFlow
  apply Fieldwise.done (fun extra => { primaryFocus, visualFlow, extra })
  · exact fun _ => rfl
  · intro extra
    simp only [members, ← Multiset.coe_add]
    abel
  · intro extra
    simp

end Hierarchy

namespace ColorScheme

def fields : List Field :=
  [.mk "accent_color" .optional .text, .mk "palette_type" .optional .text,
    .mk "primary_color" .optional .text, .mk "secondary_color" .optional .text]

theorem follows : codec.Follows (fun _ => True) (.record fields) := by
  apply Codec.record_follows
  refine Fieldwise.recordFollows keys ?_ (by decide) (by decide)
  apply Fieldwise.step (Field.text_followed "accent_color")
  intro accentColor
  apply Fieldwise.step (Field.text_followed "palette_type")
  intro paletteType
  apply Fieldwise.step (Field.text_followed "primary_color")
  intro primaryColor
  apply Fieldwise.step (Field.text_followed "secondary_color")
  intro secondaryColor
  apply Fieldwise.done
    (fun extra => { paletteType, primaryColor, secondaryColor, accentColor, extra })
  · exact fun _ => rfl
  · intro extra
    simp only [members, ← Multiset.coe_add]
    abel
  · intro extra
    simp

end ColorScheme

namespace Typography

def fields : List Field :=
  [.mk "body_font" .optional .text, .mk "headline_font" .optional .text]

theorem follows : codec.Follows (fun _ => True) (.record fields) := by
  apply Codec.record_follows
  refine Fieldwise.recordFollows keys ?_ (by decide) (by decide)
  apply Fieldwise.step (Field.text_followed "body_font")
  intro bodyFont
  apply Fieldwise.step (Field.text_followed "headline_font")
  intro headlineFont
  apply Fieldwise.done (fun extra => { headlineFont, bodyFont, extra })
  · exact fun _ => rfl
  · intro extra
    simp only [members, ← Multiset.coe_add]
    abel
  · intro extra
    simp

end Typography

namespace DesignElement

def fields : List Field :=
  [.mk "content" .optional .text, .mk "placement" .optional .text, .mk "style" .optional .text,
    .mk "type" (.orElse (.string "")) .text]

theorem follows : codec.Follows (fun _ => True) (.record fields) := by
  apply Codec.record_follows
  refine Fieldwise.recordFollows keys ?_ (by decide) (by decide)
  apply Fieldwise.step (Field.text_followed "content")
  intro content
  apply Fieldwise.step (Field.text_followed "placement")
  intro placement
  apply Fieldwise.step (Field.text_followed "style")
  intro style
  apply Fieldwise.step (Field.filled_followed Codec.text_follows "type" trivial rfl rfl)
  intro kind
  apply Fieldwise.done (fun extra => { kind, content, style, placement, extra })
  · exact fun _ => rfl
  · intro extra
    simp only [members, ← Multiset.coe_add]
    abel
  · intro extra
    simp

end DesignElement

namespace VisualStyle

def fields : List Field :=
  [.mk "effects" .optional .text, .mk "mood" .optional .text, .mk "texture" .optional .text]

theorem follows : codec.Follows (fun _ => True) (.record fields) := by
  apply Codec.record_follows
  refine Fieldwise.recordFollows keys ?_ (by decide) (by decide)
  apply Fieldwise.step (Field.text_followed "effects")
  intro effects
  apply Fieldwise.step (Field.text_followed "mood")
  intro mood
  apply Fieldwise.step (Field.text_followed "texture")
  intro texture
  apply Fieldwise.done (fun extra => { mood, texture, effects, extra })
  · exact fun _ => rfl
  · intro extra
    simp only [members, ← Multiset.coe_add]
    abel
  · intro extra
    simp

end VisualStyle

namespace GraphicDesign

def fields : List Field :=
  [.mk "color_scheme" .optional (.record ColorScheme.fields), .mk "design_type" .optional .text,
    .mk "elements" .unlessEmpty (.list (.record DesignElement.fields)),
    .mk "hierarchy" .optional (.record Hierarchy.fields),
    .mk "layout" .optional (.record DesignLayout.fields),
    .mk "typography" .optional (.record Typography.fields),
    .mk "visual_style" .optional (.record VisualStyle.fields)]

theorem follows : codec.Follows (fun _ => True) (.record fields) := by
  apply Codec.record_follows
  refine Fieldwise.recordFollows keys ?_ (by decide) (by decide)
  apply Fieldwise.step (Field.optional_followed ColorScheme.follows "color_scheme")
  intro colorScheme
  apply Fieldwise.step (Field.text_followed "design_type")
  intro designType
  apply Fieldwise.step (Field.list_followed DesignElement.follows "elements")
  intro elements
  apply Fieldwise.step (Field.optional_followed Hierarchy.follows "hierarchy")
  intro hierarchy
  apply Fieldwise.step (Field.optional_followed DesignLayout.follows "layout")
  intro layout
  apply Fieldwise.step (Field.optional_followed Typography.follows "typography")
  intro typography
  apply Fieldwise.step (Field.optional_followed VisualStyle.follows "visual_style")
  intro visualStyle
  apply Fieldwise.done
    (fun extra => { designType, layout, hierarchy, colorScheme, typography, elements, visualStyle,
                    extra })
  · exact fun _ => rfl
  · intro extra
    simp only [members, ← Multiset.coe_add]
    abel
  · intro extra
    simp

end GraphicDesign

namespace UiLayout

def fields : List Field :=
  [.mk "columns" .optional .any, .mk "spacing" .optional .text, .mk "structure" .optional .text]

theorem follows : codec.Follows (fun _ => True) (.record fields) := by
  apply Codec.record_follows
  refine Fieldwise.recordFollows keys ?_ (by decide) (by decide)
  apply Fieldwise.step (Field.optional_followed Codec.value_follows "columns")
  intro columns
  apply Fieldwise.step (Field.text_followed "spacing")
  intro spacing
  apply Fieldwise.step (Field.text_followed "structure")
  intro arrangement
  apply Fieldwise.done (fun extra => { arrangement, columns, spacing, extra })
  · exact fun _ => rfl
  · intro extra
    simp only [members, ← Multiset.coe_add]
    abel
  · intro extra
    simp

end UiLayout

namespace UiComponent

def fields : List Field :=
  [.mk "size" .optional .any, .mk "state" .optional .text, .mk "style" .optional .text,
    .mk "type" (.orElse (.string "")) .text, .mk "variant" .optional .text]

theorem follows : codec.Follows (fun _ => True) (.record fields) := by
  apply Codec.record_follows
  refine Fieldwise.recordFollows keys ?_ (by decide) (by decide)
  apply Fieldwise.step (Field.optional_followed Codec.value_follows "size")
  intro size
  apply Fieldwise.step (Field.text_followed "state")
  intro state
  apply Fieldwise.step (Field.text_followed "style")
  intro style
  apply Fieldwise.step (Field.filled_followed Codec.text_follows "type" trivial rfl rfl)
  intro kind
  apply Fieldwise.step (Field.text_followed "variant")
  intro variant
  apply Fieldwise.done (fun extra => { kind, variant, state, size, style, extra })
  · exact fun _ => rfl
  · intro extra
    simp only [members, ← Multiset.coe_add]
    abel
  · intro extra
    simp

end UiComponent

namespace ColorSystem

def fields : List Field :=
  [.mk "mode" .optional .text, .mk "primary" .optional .text]

theorem follows : codec.Follows (fun _ => True) (.record fields) := by
  apply Codec.record_follows
  refine Fieldwise.recordFollows keys ?_ (by decide) (by decide)
  apply Fieldwise.step (Field.text_followed "mode")
  intro mode
  apply Fieldwise.step (Field.text_followed "primary")
  intro primary
  apply Fieldwise.done (fun extra => { mode, primary, extra })
  · exact fun _ => rfl
  · intro extra
    simp only [members, ← Multiset.coe_add]
    abel
  · intro extra
    simp

end ColorSystem

namespace TypographySystem

def fields : List Field :=
  [.mk "font_family" .optional .text, .mk "scale" .optional .text]

theorem follows : codec.Follows (fun _ => True) (.record fields) := by
  apply Codec.record_follows
  refine Fieldwise.recordFollows keys ?_ (by decide) (by decide)
  apply Fieldwise.step (Field.text_followed "font_family")
  intro fontFamily
  apply Fieldwise.step (Field.text_followed "scale")
  intro scale
  apply Fieldwise.done (fun extra => { scale, fontFamily, extra })
  · exact fun _ => rfl
  · intro extra
    simp only [members, ← Multiset.coe_add]
    abel
  · intro extra
    simp

end TypographySystem

namespace InteractionStates

def fields : List Field :=
  [.mk "focus_style" .optional .text, .mk "hover_effect" .optional .text]

theorem follows : codec.Follows (fun _ => True) (.record fields) := by
  apply Codec.record_follows
  refine Fieldwise.recordFollows keys ?_ (by decide) (by decide)
  apply Fieldwise.step (Field.text_followed "focus_style")
  intro focusStyle
  apply Fieldwise.step (Field.text_followed "hover_effect")
  intro hoverEffect
  apply Fieldwise.done (fun extra => { hoverEffect, focusStyle, extra })
  · exact fun _ => rfl
  · intro extra
    simp only [members, ← Multiset.coe_add]
    abel
  · intro extra
    simp

end InteractionStates

namespace Styling

def fields : List Field :=
  [.mk "border_radius" .optional .text, .mk "shadow" .optional .text]

theorem follows : codec.Follows (fun _ => True) (.record fields) := by
  apply Codec.record_follows
  refine Fieldwise.recordFollows keys ?_ (by decide) (by decide)
  apply Fieldwise.step (Field.text_followed "border_radius")
  intro borderRadius
  apply Fieldwise.step (Field.text_followed "shadow")
  intro shadow
  apply Fieldwise.done (fun extra => { borderRadius, shadow, extra })
  · exact fun _ => rfl
  · intro extra
    simp only [members, ← Multiset.coe_add]
    abel
  · intro extra
    simp

end Styling

namespace Iconography

def fields : List Field :=
  [.mk "size" .optional .any, .mk "style" .optional .text]

theorem follows : codec.Follows (fun _ => True) (.record fields) := by
  apply Codec.record_follows
  refine Fieldwise.recordFollows keys ?_ (by decide) (by decide)
  apply Fieldwise.step (Field.optional_followed Codec.value_follows "size")
  intro size
  apply Fieldwise.step (Field.text_followed "style")
  intro style
  apply Fieldwise.done (fun extra => { style, size, extra })
  · exact fun _ => rfl
  · intro extra
    simp only [members, ← Multiset.coe_add]
    abel
  · intro extra
    simp

end Iconography

namespace UiDesign

def fields : List Field :=
  [.mk "color_system" .optional (.record ColorSystem.fields), .mk "component_type" .optional .text,
    .mk "components" .unlessEmpty (.list (.record UiComponent.fields)),
    .mk "design_system" .optional .text, .mk "iconography" .optional (.record Iconography.fields),
    .mk "interaction_states" .optional (.record InteractionStates.fields),
    .mk "layout" .optional (.record UiLayout.fields),
    .mk "styling" .optional (.record Styling.fields),
    .mk "typography_system" .optional (.record TypographySystem.fields)]

theorem follows : codec.Follows (fun _ => True) (.record fields) := by
  apply Codec.record_follows
  refine Fieldwise.recordFollows keys ?_ (by decide) (by decide)
  apply Fieldwise.step (Field.optional_followed ColorSystem.follows "color_system")
  intro colorSystem
  apply Fieldwise.step (Field.text_followed "component_type")
  intro componentType
  apply Fieldwise.step (Field.list_followed UiComponent.follows "components")
  intro components
  apply Fieldwise.step (Field.text_followed "design_system")
  intro designSystem
  apply Fieldwise.step (Field.optional_followed Iconography.follows "iconography")
  intro iconography
  apply Fieldwise.step (Field.optional_followed InteractionStates.follows "interaction_states")
  intro interactionStates
  apply Fieldwise.step (Field.optional_followed UiLayout.follows "layout")
  intro layout
  apply Fieldwise.step (Field.optional_followed Styling.follows "styling")
  intro styling
  apply Fieldwise.step (Field.optional_followed TypographySystem.follows "typography_system")
  intro typographySystem
  apply Fieldwise.done
    (fun extra => { componentType, layout, components, colorSystem, typographySystem,
                    interactionStates, styling, iconography, designSystem, extra })
  · exact fun _ => rfl
  · intro extra
    simp only [members, ← Multiset.coe_add]
    abel
  · intro extra
    simp

end UiDesign

end ImagePrompt
