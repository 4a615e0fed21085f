import ImagePrompt.Document.Normalized
import ImagePrompt.Proofs.Document.Design
import ImagePrompt.Proofs.Document.Meta
import ImagePrompt.Proofs.Document.Photograph
import ImagePrompt.Proofs.Text.Blank
/-!
# The schema of a prompt document

The places of a document. What its check asks for beyond decoding, settings in
range and images with a path, is said of the records that hold them.
-/

namespace ImagePrompt.PromptDocument

/-! ## The images declared -/

section Images

variable {p : ImageRef → Prop}

theorem forall_subjectImages {index : Nat} {subjects : List Subject} :
    (∀ declared ∈ subjectImages index subjects, p declared.image) ↔
      ∀ s ∈ subjects, ∀ r, s.inputImage = some r → p r := by
  induction subjects generalizing index with
  | nil => simp [subjectImages]
  | cons s rest ih =>
    rw [subjectImages, List.forall_mem_append, List.forall_mem_cons, ih]
    cases s.inputImage <;> simp

theorem forall_numberedReferences {index : Nat} {references : List ImageRef} :
    (∀ declared ∈ numberedReferences index references, p declared.image) ↔
      ∀ r ∈ references, p r := by
  induction references generalizing index with
  | nil => simp [numberedReferences]
  | cons r rest ih => rw [numberedReferences, List.forall_mem_cons, List.forall_mem_cons, ih]

theorem forall_declaredImages {d : PromptDocument} :
    (∀ declared ∈ d.declaredImages, p declared.image) ↔
      (∀ r, d.inputImage = some r → p r) ∧
      (∀ s ∈ d.subjects, ∀ r, s.inputImage = some r → p r) ∧
      (∀ r, d.baseImage = some r → p r) ∧ ∀ r ∈ d.referenceImages, p r := by
  unfold declaredImages
  rw [List.forall_mem_append, List.forall_mem_append, List.forall_mem_append,
    forall_subjectImages, forall_numberedReferences]
  cases d.inputImage <;> cases d.baseImage <;> simp [and_assoc]

end Images

theorem check_eq_ok_iff {d : PromptDocument} :
    d.check = .ok () ↔ d.settings.rangeError? = none ∧
      ∀ declared ∈ d.declaredImages, Text.trim declared.image.path ≠ "" := by
  unfold check
  cases d.settings.rangeError? with
  | some e => simp
  | none =>
    rw [eq_self_iff_true, true_and]
    cases hfind : d.declaredImages.find? (fun declared => Text.isBlank declared.image.path) with
    | some declared =>
      have hblank : Text.isBlank declared.image.path = true := by simpa using List.find?_some hfind
      rw [Text.isBlank_iff] at hblank
      simpa using ⟨declared, List.mem_of_find?_eq_some hfind, hblank⟩
    | none =>
      rw [List.find?_eq_none] at hfind
      exact iff_of_true rfl fun declared hmem htrim => hfind declared hmem (Text.isBlank_iff.2 htrim)

/-! ## The places -/

def fields : List Field :=
  [.mk "advanced" .optional (.record Advanced.fields),
    .mk "base_image" .optional (.imageReference ImageRef.fields),
    .mk "composition" .optional (.record Composition.fields),
    .mk "edits" .unlessEmpty (.list (.record Edit.fields)),
    .mk "graphic_design" .optional (.record GraphicDesign.fields),
    .mk "input_image" .optional (.imageReference ImageRef.fields),
    .mk "lock" .optional (.record Lock.fields),
    .mk "meta" (.orElse (.object [])) (.record Meta.fields),
    .mk "reference_images" .unlessEmpty (.list (.imageReference ImageRef.fields)),
    .mk "scene" .optional (.record Scene.fields),
    .mk "style_modifiers" .optional (.record StyleModifiers.fields),
    .mk "subject" .unlessEmpty (.list (.record Subject.fields)),
    .mk "technical" .optional (.record Technical.fields),
    .mk "text_rendering" .optional (.record TextRendering.fields),
    .mk "ui_design" .optional (.record UiDesign.fields), .mk "user_intent" .optional .text]

def schema : Schema := .record fields

/-- A document without settings is written with empty ones. -/
theorem settings_followed :
    (Field.mk "meta" (.orElse (.object [])) (.record Meta.fields)).Followed
      (fun ms => ms.defaulting "meta" Meta.codec {}) (Members.ofValue "meta" Meta.codec)
      (fun m => m.rangeError? = none) :=
  Field.filled_followed Meta.follows "meta" rfl rfl rfl

theorem follows : codec.Follows (fun d => d.check = .ok ()) schema := by
  apply Codec.record_follows
  refine Fieldwise.recordFollows keys ?_ (by decide) (by decide)
  apply Fieldwise.step (Field.optional_followed Advanced.follows "advanced")
  intro advanced
  apply Fieldwise.step (Field.optional_followed ImageRef.follows "base_image")
  intro baseImage
  apply Fieldwise.step (Field.optional_followed Composition.follows "composition")
  intro composition
  apply Fieldwise.step (Field.list_followed Edit.follows "edits")
  intro edits
  apply Fieldwise.step (Field.optional_followed GraphicDesign.follows "graphic_design")
  intro graphicDesign
  apply Fieldwise.step (Field.optional_followed ImageRef.follows "input_image")
  intro inputImage
  apply Fieldwise.step (Field.optional_followed Lock.follows "lock")
  intro lock
  apply Fieldwise.step (settings_followed)
  intro settings
  apply Fieldwise.step (Field.list_followed ImageRef.follows "reference_images")
  intro referenceImages
  apply Fieldwise.step (Field.optional_followed Scene.follows "scene")
  intro scene
  apply Fieldwise.step (Field.optional_followed StyleModifiers.follows "style_modifiers")
  intro styleModifiers
  apply Fieldwise.step (Field.list_followed Subject.follows "subject")
  intro subjects
  apply Fieldwise.step (Field.optional_followed Technical.follows "technical")
  intro technical
  apply Fieldwise.step (Field.optional_followed TextRendering.follows "text_rendering")
  intro textRendering
  apply Fieldwise.step (Field.optional_followed UiDesign.follows "ui_design")
  intro uiDesign
  apply Fieldwise.step (Field.text_followed "user_intent")
  intro userIntent
  apply Fieldwise.done
    (fun extra => { userIntent, settings, subjects, scene, composition, technical, textRendering,
                    styleModifiers, advanced, graphicDesign, uiDesign, inputImage, baseImage,
                    referenceImages, edits, lock, extra })
  · exact fun _ => rfl
  · intro extra
    simp only [members, ← Multiset.coe_add]
    abel
  · intro extra
    rw [check_eq_ok_iff, forall_declaredImages (p := fun r => Text.trim r.path ≠ "")]
    simp only [forall_const, implies_true, and_true, true_and]
    tauto

end ImagePrompt.PromptDocument
