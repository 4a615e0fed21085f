import ImagePrompt.Document.Edit
import ImagePrompt.Document.Photograph
import ImagePrompt.Document.Style
import ImagePrompt.Document.Subject
import ImagePrompt.Proofs.Document.ImageRef
/-!
# The schemas of a photograph

The places of what a photograph shows and of how it is taken, of its style, and of
what is edited in it or locked.
-/

namespace ImagePrompt

namespace Hair

def fields : List Field :=
  [.mk "color" .optional .text, .mk "style" .optional .text]

theorem follows : codec.Follows (fun _ => True) (.record fields) := by
  apply Codec.record_follows
  refine Fieldwise.recordFollows keys ?_ (by decide) (by decide)
  apply Fieldwise.step (Field.text_followed "color")
  intro color
  apply Fieldwise.step (Field.text_followed "style")
  intro style
  apply Fieldwise.done (fun extra => { color, style, extra })
  · exact fun _ => rfl
  · intro extra
    simp only [members, ← Multiset.coe_add]
    abel
  · intro extra
    simp

end Hair

namespace Garment

def fields : List Field :=
  [.mk "color" .optional .text, .mk "fabric" .optional .text, .mk "item" .optional .text]

theorem follows : codec.Follows (fun _ => True) (.record fields) := by
  apply Codec.record_follows
  refine Fieldwise.recordFollows keys ?_ (by decide) (by decide)
  apply Fieldwise.step (Field.text_followed "color")
  intro color
  apply Fieldwise.step (Field.text_followed "fabric")
  intro fabric
  apply Fieldwise.step (Field.text_followed "item")
  intro item
  apply Fieldwise.done (fun extra => { item, color, fabric, extra })
  · exact fun _ => rfl
  · intro extra
    simp only [members, ← Multiset.coe_add]
    abel
  · intro extra
    simp

end Garment

namespace Accessory

def fields : List Field :=
  [.mk "color" .optional .text, .mk "item" .optional .text, .mk "material" .optional .text]

theorem follows : codec.Follows (fun _ => True) (.record fields) := by
  apply Codec.record_follows
  refine Fieldwise.recordFollows keys ?_ (by decide) (by decide)
  apply Fieldwise.step (Field.text_followed "color")
  intro color
  apply Fieldwise.step (Field.text_followed "item")
  intro item
  apply Fieldwise.step (Field.text_followed "material")
  intro material
  apply Fieldwise.done (fun extra => { item, color, material, extra })
  · exact fun _ => rfl
  · intro extra
    simp only [members, ← Multiset.coe_add]
    abel
  · intro extra
    simp

end Accessory

namespace Subject

def fields : List Field :=
  [.mk "accessories" .unlessEmpty (.list (.record Accessory.fields)), .mk "age" .optional .any,
    .mk "clothing" .unlessEmpty (.list (.record Garment.fields)), .mk "description" .optional .text,
    .mk "expression" .optional .text, .mk "gender" .optional .text,
    .mk "hair" .optional (.record Hair.fields),
    .mk "input_image" .optional (.imageReference ImageRef.fields), .mk "name" .optional .text,
    .mk "pose" .optional .text, .mk "position" .optional .text, .mk "type" .optional .text]

theorem follows :
    codec.Follows (fun s => ∀ r, s.inputImage = some r → Text.trim r.path ≠ "")
      (.record fields) := by
  apply Codec.record_follows
  refine Fieldwise.recordFollows keys ?_ (by decide) (by decide)
  apply Fieldwise.step (Field.list_followed Accessory.follows "accessories")
  intro accessories
  apply Fieldwise.step (Field.optional_followed Codec.value_follows "age")
  intro age
  apply Fieldwise.step (Field.list_followed Garment.follows "clothing")
  intro clothing
  apply Fieldwise.step (Field.text_followed "description")
  intro description
  apply Fieldwise.step (Field.text_followed "expression")
  intro expression
  apply Fieldwise.step (Field.text_followed "gender")
  intro gender
  apply Fieldwise.step (Field.optional_followed Hair.follows "hair")
  intro hair
  apply Fieldwise.step (Field.optional_followed ImageRef.follows "input_image")
  intro inputImage
  apply Fieldwise.step (Field.text_followed "name")
  intro name
  apply Fieldwise.step (Field.text_followed "pose")
  intro pose
  apply Fieldwise.step (Field.text_followed "position")
  intro position
  apply Fieldwise.step (Field.text_followed "type")
  intro kind
  apply Fieldwise.done
    (fun extra => { name, kind, description, age, gender, hair, pose, expression, position,
                    clothing, accessories, inputImage, extra })
  · exact fun _ => rfl
  · intro extra
    simp only [members, ← Multiset.coe_add]
    abel
  · intro extra
    simp

end Subject

namespace Lighting

def fields : List Field :=
  [.mk "direction" .optional .text, .mk "type" .optional .text]

theorem follows : codec.Follows (fun _ => True) (.record fields) := by
  apply Codec.record_follows
  refine Fieldwise.recordFollows keys ?_ (by decide) (by decide)
  apply Fieldwise.step (Field.text_followed "direction")
  intro direction
  apply Fieldwise.step (Field.text_followed "type")
  intro kind
  apply Fieldwise.done (fun extra => { kind, direction, extra })
  · exact fun _ => rfl
  · intro extra
    simp only [members, ← Multiset.coe_add]
    abel
  · intro extra
    simp

end Lighting

namespace Scene

def fields : List Field :=
  [.mk "background_elements" .unlessEmpty (.list .text),
    .mk "lighting" .optional (.record Lighting.fields), .mk "location" .optional .text,
    .mk "time" .optional .text, .mk "weather" .optional .text]

theorem follows : codec.Follows (fun _ => True) (.record fields) := by
  apply Codec.record_follows
  refine Fieldwise.recordFollows keys ?_ (by decide) (by decide)
  apply Fieldwise.step (Field.list_followed Codec.text_follows "background_elements")
  intro backgroundElements
  apply Fieldwise.step (Field.optional_followed Lighting.follows "lighting")
  intro lighting
  apply Fieldwise.step (Field.text_followed "location")
  intro location
  apply Fieldwise.step (Field.text_followed "time")
  intro time
  apply Fieldwise.step (Field.text_followed "weather")
  intro weather
  apply Fieldwise.done
    (fun extra => { location, time, weather, lighting, backgroundElements, extra })
  · exact fun _ => rfl
  · intro extra
    simp only [members, ← Multiset.coe_add]
    abel
  · intro extra
    simp

end Scene

namespace Composition

def fields : List Field :=
  [.mk "angle" .optional .text, .mk "focus_point" .optional .text, .mk "framing" .optional .text]

theorem follows : codec.Follows (fun _ => True) (.record fields) := by
  apply Codec.record_follows
  refine Fieldwise.recordFollows keys ?_ (by decide) (by decide)
  apply Fieldwise.step (Field.text_followed "angle")
  intro angle
  apply Fieldwise.step (Field.text_followed "focus_point")
  intro focusPoint
  apply Fieldwise.step (Field.text_followed "framing")
  intro framing
  apply Fieldwise.done (fun extra => { framing, angle, focusPoint, extra })
  · exact fun _ => rfl
  · intro extra
    simp only [members, ← Multiset.coe_add]
    abel
  · intro extra
    simp

end Composition

namespace Technical

def fields : List Field :=
  [.mk "aperture" .optional .text, .mk "camera_model" .optional .text,
    .mk "film_stock" .optional .text, .mk "lens" .optional .text]

theorem follows : codec.Follows (fun _ => True) (.record fields) := by
  apply Codec.record_follows
  refine Fieldwise.recordFollows keys ?_ (by decide) (by decide)
  apply Fieldwise.step (Field.text_followed "aperture")
  intro aperture
  apply Fieldwise.step (Field.text_followed "camera_model")
  intro cameraModel
  apply Fieldwise.step (Field.text_followed "film_stock")
  intro filmStock
  apply Fieldwise.step (Field.text_followed "lens")
  intro lens
  apply Fieldwise.done (fun extra => { cameraModel, lens, aperture, filmStock, extra })
  · exact fun _ => rfl
  · intro extra
    simp only [members, ← Multiset.coe_add]
    abel
  · intro extra
    simp

end Technical

namespace TextRendering

def fields : List Field :=
  [.mk "color" .optional .text, .mk "enabled" .unlessFalse .flag, .mk "font_style" .optional .text,
    .mk "placement" .optional .text, .mk "text_content" .optional .text]

theorem follows : codec.Follows (fun _ => True) (.record fields) := by
  apply Codec.record_follows
  refine Fieldwise.recordFollows keys ?_ (by decide) (by decide)
  apply Fieldwise.step (Field.text_followed "color")
  intro color
  apply Fieldwise.step (Field.flag_followed "enabled")
  intro enabled
  apply Fieldwise.step (Field.text_followed "font_style")
  intro fontStyle
  apply Fieldwise.step (Field.text_followed "placement")
  intro placement
  apply Fieldwise.step (Field.text_followed "text_content")
  intro textContent
  apply Fieldwise.done (fun extra => { enabled, textContent, placement, fontStyle, color, extra })
  · exact fun _ => rfl
  · intro extra
    simp only [members, ← Multiset.coe_add]
    abel
  · intro extra
    simp

end TextRendering

namespace StyleModifiers

def fields : List Field :=
  [.mk "aesthetic" .unlessEmpty (.list .text), .mk "artist_reference" .unlessEmpty (.list .text),
    .mk "medium" .optional .text]

theorem follows : codec.Follows (fun _ => True) (.record fields) := by
  apply Codec.record_follows
  refine Fieldwise.recordFollows keys ?_ (by decide) (by decide)
  apply Fieldwise.step (Field.list_followed Codec.text_follows "aesthetic")
  intro aesthetic
  apply Fieldwise.step (Field.list_followed Codec.text_follows "artist_reference")
  intro artistReference
  apply Fieldwise.step (Field.text_followed "medium")
  intro medium
  apply Fieldwise.done (fun extra => { medium, aesthetic, artistReference, extra })
  · exact fun _ => rfl
  · intro extra
    simp only [members, ← Multiset.coe_add]
    abel
  · intro extra
    simp

end StyleModifiers

namespace Advanced

def fields : List Field :=
  [.mk "negative_prompt" .unlessEmpty (.list .text)]

theorem follows : codec.Follows (fun _ => True) (.record fields) := by
  apply Codec.record_follows
  refine Fieldwise.recordFollows keys ?_ (by decide) (by decide)
  apply Fieldwise.step (Field.list_followed Codec.text_follows "negative_prompt")
  intro negativePrompt
  apply Fieldwise.done (fun extra => { negativePrompt, extra })
  · exact fun _ => rfl
  · intro extra
    simp only [members, ← Multiset.coe_add]
    abel
  · intro extra
    simp

end Advanced

namespace Edit

def fields : List Field :=
  [.mk "action" .optional .text, .mk "description" .optional .text, .mk "target" .optional .text]

theorem follows : codec.Follows (fun _ => True) (.record fields) := by
  apply Codec.record_follows
  refine Fieldwise.recordFollows keys ?_ (by decide) (by decide)
  apply Fieldwise.step (Field.text_followed "action")
  intro action
  apply Fieldwise.step (Field.text_followed "description")
  intro description
  apply Fieldwise.step (Field.text_followed "target")
  intro target
  apply Fieldwise.done (fun extra => { target, action, description, extra })
  · exact fun _ => rfl
  · intro extra
    simp only [members, ← Multiset.coe_add]
    abel
  · intro extra
    simp

end Edit

namespace Lock

def fields : List Field :=
  [.mk "elements" .unlessEmpty (.list .text)]

theorem follows : codec.Follows (fun _ => True) (.record fields) := by
  apply Codec.record_follows
  refine Fieldwise.recordFollows keys ?_ (by decide) (by decide)
  apply Fieldwise.step (Field.list_followed Codec.text_follows "elements")
  intro elements
  apply Fieldwise.done (fun extra => { elements, extra })
  · exact fun _ => rfl
  · intro extra
    simp only [members, ← Multiset.coe_add]
    abel
  · intro extra
    simp

end Lock

end ImagePrompt
