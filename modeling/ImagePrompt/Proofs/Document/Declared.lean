import ImagePrompt.Document.Basic
import Mathlib.Data.List.Nodup
import Std.Data.String.ToNat
/-!
# The images that a document declares

Every image of a document is declared once, under the place where it stands, and nothing else is.
The declared images keep the order of these places, and the label of a place is that of no other.
-/

namespace ImagePrompt

namespace ImageOrigin

/-- The order in which images are attached: subjects and references by their indices. -/
def Precedes : ImageOrigin → ImageOrigin → Prop
  | .inputImage, .inputImage => False
  | .inputImage, _ => True
  | .subject _, .inputImage => False
  | .subject i, .subject j => i < j
  | .subject _, _ => True
  | .baseImage, .reference _ => True
  | .baseImage, _ => False
  | .reference i, .reference j => i < j
  | .reference _, _ => False

/-- The kind of an origin, by its place in that order. -/
def kind : ImageOrigin → Nat
  | .inputImage => 0
  | .subject _ => 1
  | .baseImage => 2
  | .reference _ => 3

variable {a b : ImageOrigin}

theorem precedes_of_kind_lt (h : a.kind < b.kind) : a.Precedes b := by
  cases a <;> cases b <;> simp_all [kind, Precedes]

theorem Precedes.ne (h : a.Precedes b) : a ≠ b := by
  rintro rfl
  cases a with
  | inputImage | baseImage => exact h
  | subject i | reference i => exact Nat.lt_irrefl i h

/-- The first letter of a label, by which labels of different kinds are told apart. -/
def initial : ImageOrigin → Char
  | .inputImage => 'i'
  | .subject _ => 's'
  | .baseImage => 'b'
  | .reference _ => 'r'

theorem head?_label (origin : ImageOrigin) : origin.label.toList.head? = some origin.initial := by
  cases origin with
  | inputImage | baseImage => rfl
  | subject index =>
    change ("subject[" ++ toString index ++ "].input_image").toList.head? = some 's'
    simp
  | reference index =>
    change ("reference_images[" ++ toString index ++ "]").toList.head? = some 'r'
    simp

theorem label_subject_inj {i j : Nat} : (subject i).label = (subject j).label ↔ i = j := by
  refine ⟨fun h => ?_, fun h => h ▸ rfl⟩
  change "subject[" ++ toString i ++ "].input_image" = "subject[" ++ toString j ++ "].input_image"
    at h
  rw [String.append_left_inj, String.append_right_inj] at h
  exact Nat.repr_injective h

theorem label_reference_inj {i j : Nat} : (reference i).label = (reference j).label ↔ i = j := by
  refine ⟨fun h => ?_, fun h => h ▸ rfl⟩
  change "reference_images[" ++ toString i ++ "]" = "reference_images[" ++ toString j ++ "]" at h
  rw [String.append_left_inj, String.append_right_inj] at h
  exact Nat.repr_injective h

theorem label_injective (h : a.label = b.label) : a = b := by
  have hinitial : a.initial = b.initial :=
    Option.some.inj ((head?_label a).symm.trans (h ▸ head?_label b))
  cases a with
  | inputImage | baseImage =>
    cases b with
    | inputImage | baseImage => simp_all [initial]
    | subject j | reference j => simp [initial] at hinitial
  | subject i =>
    cases b with
    | subject j => rw [label_subject_inj.1 h]
    | _ => simp [initial] at hinitial
  | reference i =>
    cases b with
    | reference j => rw [label_reference_inj.1 h]
    | _ => simp [initial] at hinitial

end ImageOrigin

namespace PromptDocument

variable {d : PromptDocument} {origin : ImageOrigin} {image : ImageRef} {declared : DeclaredImage}

/-- The image that stands at a place of a document. -/
def imageAt (d : PromptDocument) : ImageOrigin → Option ImageRef
  | .inputImage => d.inputImage
  | .subject i => d.subjects[i]?.bind Subject.inputImage
  | .baseImage => d.baseImage
  | .reference i => d.referenceImages[i]?

/-! ## Subjects and references by their indices -/

theorem subjectImages_eq (index : Nat) (subjects : List Subject) :
    subjectImages index subjects =
      (subjects.zipIdx index).filterMap fun (s, i) => s.inputImage.map (⟨.subject i, ·⟩) := by
  induction subjects generalizing index with
  | nil => rfl
  | cons s rest ih =>
    rw [subjectImages, ih, List.zipIdx_cons]
    cases h : s.inputImage <;> simp [h]

theorem numberedReferences_eq (index : Nat) (references : List ImageRef) :
    numberedReferences index references =
      (references.zipIdx index).map fun (r, i) => ⟨.reference i, r⟩ := by
  induction references generalizing index with
  | nil => rfl
  | cons r rest ih => rw [numberedReferences, ih, List.zipIdx_cons, List.map_cons]

/-- An image of a subject is declared under the index of the subject. -/
theorem mem_subjectImages {subjects : List Subject} :
    declared ∈ subjectImages 0 subjects ↔ ∃ i, declared.origin = .subject i ∧
      subjects[i]?.bind Subject.inputImage = some declared.image := by
  rw [subjectImages_eq, List.mem_filterMap]
  simp only [Prod.exists, List.mem_zipIdx_iff_getElem?, Option.map_eq_some_iff,
    Option.bind_eq_some_iff]
  constructor
  · rintro ⟨s, i, hs, image, himage, rfl⟩
    exact ⟨i, rfl, s, hs, himage⟩
  · rintro ⟨i, horigin, s, hs, himage⟩
    exact ⟨s, i, hs, declared.image, himage, by rw [← horigin]⟩

theorem mem_numberedReferences {references : List ImageRef} :
    declared ∈ numberedReferences 0 references ↔ ∃ i, declared.origin = .reference i ∧
      references[i]? = some declared.image := by
  rw [numberedReferences_eq, List.mem_map]
  simp only [Prod.exists, List.mem_zipIdx_iff_getElem?]
  constructor
  · rintro ⟨r, i, hr, rfl⟩
    exact ⟨i, rfl, hr⟩
  · rintro ⟨i, horigin, hr⟩
    exact ⟨declared.image, i, hr, by rw [← horigin]⟩

/-- Exactly the images of the document are declared, each under its place. -/
theorem mem_declaredImages_iff :
    declared ∈ d.declaredImages ↔ d.imageAt declared.origin = some declared.image := by
  obtain ⟨origin, image⟩ := declared
  unfold declaredImages
  rw [List.mem_append, List.mem_append, List.mem_append, mem_subjectImages, mem_numberedReferences]
  simp only [Option.mem_toList, Option.map_eq_some_iff, DeclaredImage.mk.injEq]
  cases origin <;> simp [imageAt]

/-! ## The order of the places -/

/-- Images in the order of their places. -/
def InOrder (images : List DeclaredImage) : Prop :=
  images.Pairwise fun a b => a.origin.Precedes b.origin

theorem pairwise_zipIdx {α : Type} (as : List α) (index : Nat) :
    (as.zipIdx index).Pairwise fun a b => a.2 < b.2 := by
  have hindices : ((as.zipIdx index).map Prod.snd).Pairwise (· < ·) := by
    rw [List.zipIdx_map_snd]
    exact List.pairwise_lt_range'
  exact List.pairwise_map.1 hindices

theorem inOrder_subjectImages (subjects : List Subject) : InOrder (subjectImages 0 subjects) := by
  rw [InOrder, subjectImages_eq, List.pairwise_filterMap]
  refine (pairwise_zipIdx subjects 0).imp fun hlt a ha b hb => ?_
  obtain ⟨_, -, rfl⟩ := Option.map_eq_some_iff.1 ha
  obtain ⟨_, -, rfl⟩ := Option.map_eq_some_iff.1 hb
  exact hlt

theorem inOrder_numberedReferences (references : List ImageRef) :
    InOrder (numberedReferences 0 references) := by
  rw [InOrder, numberedReferences_eq, List.pairwise_map]
  exact pairwise_zipIdx references 0

theorem inOrder_option (origin : ImageOrigin) (image : Option ImageRef) :
    InOrder (image.map (⟨origin, ·⟩)).toList := by
  unfold InOrder
  cases image <;> simp

theorem inOrder_declaredImages (d : PromptDocument) : InOrder d.declaredImages := by
  have hoption {origin : ImageOrigin} {image : Option ImageRef} :
      ∀ a ∈ (image.map (DeclaredImage.mk origin)).toList, a.origin.kind = origin.kind := by
    cases image <;> simp
  have hsubject : ∀ a ∈ subjectImages 0 d.subjects, a.origin.kind = 1 := by
    intro a ha
    obtain ⟨i, horigin, -⟩ := mem_subjectImages.1 ha
    rw [horigin]
    rfl
  have hreference : ∀ a ∈ numberedReferences 0 d.referenceImages, a.origin.kind = 3 := by
    intro a ha
    obtain ⟨i, horigin, -⟩ := mem_numberedReferences.1 ha
    rw [horigin]
    rfl
  unfold InOrder declaredImages
  simp only [List.pairwise_append, List.mem_append]
  refine ⟨⟨⟨inOrder_option _ _, inOrder_subjectImages _, fun a ha b hb => ?_⟩,
    inOrder_option _ _, fun a ha b hb => ?_⟩, inOrder_numberedReferences _, fun a ha b hb => ?_⟩
  all_goals apply ImageOrigin.precedes_of_kind_lt
  · rw [hoption a ha, hsubject b hb]
    decide
  · rw [hoption b hb]
    rcases ha with ha | ha
    · rw [hoption a ha]
      decide
    · rw [hsubject a ha]
      decide
  · rw [hreference b hb]
    rcases ha with (ha | ha) | ha
    · rw [hoption a ha]
      decide
    · rw [hsubject a ha]
      decide
    · rw [hoption a ha]
      decide

/-! ## Labels and kinds of images -/

theorem nodup_map_label (d : PromptDocument) :
    (d.declaredImages.map fun a => a.origin.label).Nodup :=
  List.pairwise_map.2 (d.inOrder_declaredImages.imp fun h hlabel =>
    h.ne (ImageOrigin.label_injective hlabel))

theorem exists_origin_iff :
    (∃ a ∈ d.declaredImages, a.origin = origin) ↔ (d.imageAt origin).isSome = true := by
  rw [Option.isSome_iff_exists]
  constructor
  · rintro ⟨a, ha, rfl⟩
    exact ⟨a.image, mem_declaredImages_iff.1 ha⟩
  · rintro ⟨image, himage⟩
    exact ⟨⟨origin, image⟩, mem_declaredImages_iff.2 himage, rfl⟩

/-- There are images of one of two kinds, the second of which counts its images. -/
theorem exists_origin_or_iff {numbered : Nat → ImageOrigin} :
    (∃ a ∈ d.declaredImages, a.origin = origin ∨ ∃ i, a.origin = numbered i) ↔
      (d.imageAt origin).isSome = true ∨ ∃ i, (d.imageAt (numbered i)).isSome = true := by
  simp only [← exists_origin_iff]
  constructor
  · rintro ⟨a, ha, horigin | ⟨i, horigin⟩⟩
    · exact .inl ⟨a, ha, horigin⟩
    · exact .inr ⟨i, a, ha, horigin⟩
  · rintro (⟨a, ha, horigin⟩ | ⟨i, a, ha, horigin⟩)
    · exact ⟨a, ha, .inl horigin⟩
    · exact ⟨a, ha, .inr ⟨i, horigin⟩⟩

theorem any_inputImage_iff :
    d.subjects.any (·.inputImage.isSome) = true ↔ ∃ i, (d.imageAt (.subject i)).isSome = true := by
  simp only [List.any_eq_true, List.mem_iff_getElem?, imageAt]
  constructor
  · rintro ⟨s, ⟨i, hi⟩, hs⟩
    exact ⟨i, by rwa [hi]⟩
  · rintro ⟨i, hi⟩
    cases hs : d.subjects[i]? with
    | none => simp [hs] at hi
    | some s => exact ⟨s, ⟨i, hs⟩, by rwa [hs] at hi⟩

theorem isEmpty_referenceImages_iff :
    (!d.referenceImages.isEmpty) = true ↔ ∃ i, (d.imageAt (.reference i)).isSome = true := by
  rw [Bool.not_eq_true', List.isEmpty_eq_false_iff_exists_mem]
  simp only [List.mem_iff_getElem?, imageAt, Option.isSome_iff_exists]
  exact exists_comm

/-- A document is hybrid when it declares an image of each sort: a single one, of the document or
of a subject, and a base image or a reference. -/
theorem isHybrid_iff : d.isHybrid = true ↔
    (∃ a ∈ d.declaredImages, a.origin = .inputImage ∨ ∃ i, a.origin = .subject i) ∧
      ∃ b ∈ d.declaredImages, b.origin = .baseImage ∨ ∃ i, b.origin = .reference i := by
  unfold isHybrid
  rw [exists_origin_or_iff, exists_origin_or_iff, ← any_inputImage_iff,
    ← isEmpty_referenceImages_iff]
  simp only [Bool.and_eq_true, Bool.or_eq_true]
  rfl

/-! ## All images, once each -/

/-- What the list of declared images says of the images that a document holds. -/
structure ImagesListed (d : PromptDocument) : Prop where
  complete : ∀ origin image,
    ⟨origin, image⟩ ∈ d.declaredImages ↔ d.imageAt origin = some image
  once : ∀ origin image, d.imageAt origin = some image →
    ∃! i : Nat, d.declaredImages[i]? = some ⟨origin, image⟩
  ordered : d.declaredImages.Pairwise fun a b => a.origin.Precedes b.origin
  labelled : (d.declaredImages.map fun a => a.origin.label).Nodup
  identified : ∀ a ∈ d.declaredImages, ∀ b ∈ d.declaredImages,
    a.origin.label = b.origin.label → a = b
  hybrid : d.isHybrid = true ↔
    (∃ a ∈ d.declaredImages, a.origin = .inputImage ∨ ∃ i, a.origin = .subject i) ∧
      ∃ b ∈ d.declaredImages, b.origin = .baseImage ∨ ∃ i, b.origin = .reference i

/-- Each image of a document is declared once, in order, under a label of its own. -/
theorem images_listed (d : PromptDocument) : d.ImagesListed := by
  have hnodup := d.nodup_map_label
  constructor
  case complete => exact fun origin image => mem_declaredImages_iff
  case once =>
    intro origin image himage
    have hmem : ⟨origin, image⟩ ∈ d.declaredImages := mem_declaredImages_iff.2 himage
    obtain ⟨i, hi⟩ := List.getElem?_of_mem hmem
    refine ⟨i, hi, fun j hj => ?_⟩
    obtain ⟨hlt, -⟩ := List.getElem?_eq_some_iff.1 hj
    exact (List.getElem?_inj hlt (hnodup.of_map _)).1 (hj.trans hi.symm)
  case ordered => exact d.inOrder_declaredImages
  case labelled => exact hnodup
  case identified => exact fun a ha b hb hlabel => List.inj_on_of_nodup_map hnodup ha hb hlabel
  case hybrid => exact isHybrid_iff

/-- A subject without an image leaves its index unused. -/
example :
    let d : PromptDocument :=
      { subjects := [{}, { inputImage := some { path := "ada.png" } }]
        referenceImages := [{ path := "hat.png" }] }
    d.declaredImages.map (fun a => a.origin.label) =
      ["subject[1].input_image", "reference_images[0]"] ∧ d.isHybrid = true := by
  decide +kernel

end PromptDocument

end ImagePrompt
