import ImagePrompt.Proofs.Rendering.Outline
import Mathlib.Data.List.Basic
/-!
# The outline of a photograph

What subjects, scene, technique, composition and text of a photograph say, and
the lines that they have.
-/

namespace ImagePrompt

open Text

/-! ## Subjects -/

/-- The indices of some elements of a list, counted from a number on. -/
theorem exists_index_cons {α : Type} {p : α → Prop} {number n : Nat} {a : α} {rest : List α} :
    (∃ i b, n = number + i ∧ (a :: rest)[i]? = some b ∧ p b) ↔
      n = number ∧ p a ∨ ∃ i b, n = number + 1 + i ∧ rest[i]? = some b ∧ p b := by
  constructor
  · rintro ⟨i, b, rfl, hb, hp⟩
    cases i with
    | zero =>
      obtain rfl := Option.some.inj hb
      exact .inl ⟨rfl, hp⟩
    | succ i => exact .inr ⟨i, b, by omega, hb, hp⟩
  · rintro (⟨rfl, hp⟩ | ⟨i, b, rfl, hb, hp⟩)
    · exact ⟨0, a, rfl, rfl, hp⟩
    · exact ⟨i + 1, b, by omega, hb, hp⟩

/-- What a record says: its texts, as far as they are there. -/
def Hair.said (h : Hair) : List (Option String) := [h.color, h.style]

def Garment.said (g : Garment) : List (Option String) := [g.color, g.fabric, g.item]

def Accessory.said (a : Accessory) : List (Option String) := [a.material, a.color, a.item]

namespace Subject

def said (s : Subject) : List (Option String) :=
  [s.name, s.kind, s.description, s.age.bind Json.string?, s.gender] ++
    (s.hair.map Hair.said).getD [] ++ [s.pose, s.expression, s.position] ++
    s.clothing.flatMap Garment.said ++ s.accessories.flatMap Accessory.said

def Speaks (s : Subject) : Prop :=
  ImagePrompt.Speaks [s.name, s.kind, s.description] ∨ FreeSpeaks s.age ∨
    ImagePrompt.Speaks [s.gender] ∨ (∃ h, s.hair = some h ∧ ImagePrompt.Speaks h.said) ∨
    ImagePrompt.Speaks [s.pose, s.expression, s.position] ∨
    (∃ g ∈ s.clothing, ImagePrompt.Speaks g.said) ∨ ∃ a ∈ s.accessories, ImagePrompt.Speaks a.said

end Subject

theorem phrases_id_ne_empty {ss : List (Option String)} {word : String}
    (h : word ∈ phrases ss id) : word ≠ "" := by
  unfold phrases at h
  obtain ⟨s, -, hword⟩ := List.mem_flatMap.1 h
  obtain ⟨text, ⟨-, htrim⟩, rfl⟩ := mem_phrase hword
  rintro rfl
  exact htrim (by decide)

theorem wordsOf_ne_empty_iff {ss : List (Option String)} : wordsOf ss ≠ "" ↔ Speaks ss := by
  have hmade : MadeOf (Speaks ss) ss (phrases ss id) := .phrases keepsLine_id
  rw [← hmade.ne_nil_iff]
  unfold wordsOf
  cases hwords : phrases ss id with
  | nil => simp
  | cons word rest =>
    have hword : word ≠ "" := phrases_id_ne_empty (hwords ▸ List.mem_cons_self)
    exact iff_of_true (intercalate_ne_empty hword rest) (List.cons_ne_nil _ _)

theorem MadeOf.worn {α : Type} {verb : String} (hverb : IsLine verb)
    (of : α → List (Option String)) (as : List α) :
    MadeOf (∃ a ∈ as, Speaks (of a)) (as.flatMap of)
      (wornPhrase verb (as.map fun a => wordsOf (of a))) := by
  have hitems : MadeOf (∃ a ∈ as, Speaks (of a)) (as.flatMap of)
      ((as.map fun a => wordsOf (of a)).filter (· != "")) := by
    constructor
    · rw [Ne, List.filter_eq_nil_iff]
      simp [wordsOf_ne_empty_iff]
    · intro hsaid item hitem
      obtain ⟨a, ha, rfl⟩ := List.mem_map.1 (List.mem_filter.1 hitem).1
      have hof : Unbroken (of a) := hsaid.mono fun s hs => List.mem_flatMap.2 ⟨a, ha, hs⟩
      exact isLine_unwords ((MadeOf.phrases keepsLine_id).isLine hof)
  exact hitems.gather (fun items => verb ++ " " ++ commaList items) fun h =>
    (hverb.append (by decide)).append (isLine_commaList h)

namespace Subject

theorem madeOf_headWords (s : Subject) :
    MadeOf (ImagePrompt.Speaks [s.name, s.kind, s.description]) [s.name, s.kind, s.description]
      s.headWords := by
  unfold headWords
  rw [List.append_assoc]
  exact .cons keepsLine_id
    (.cons (keepsLine_id.around (by decide) (by decide)) (.phrase keepsLine_id))

theorem madeOf_hairPhrase (h : Hair) : MadeOf (ImagePrompt.Speaks h.said) h.said (hairPhrase h) :=
  (MadeOf.phrases keepsLine_spaced).gather (fun words => String.intercalate " " words ++ " hair")
    fun hwords => (isLine_unwords hwords).append (by decide)

theorem madeOf_words (s : Subject) : MadeOf s.Speaks s.said (s.headWords ++ s.traits) := by
  have hage : MadeOf (FreeSpeaks s.age) [s.age.bind Json.string?] (freePhrase s.age id) :=
    .free keepsLine_id
  have hgender : MadeOf (ImagePrompt.Speaks [s.gender]) [s.gender] (phrase s.gender id) :=
    .phrase keepsLine_id
  have hhair := MadeOf.option madeOf_hairPhrase s.hair
  have hposture : MadeOf (ImagePrompt.Speaks [s.pose, s.expression, s.position])
      [s.pose, s.expression, s.position]
      (phrase s.pose id ++ (phrase s.expression (· ++ " expression") ++
        phrase s.position fun t => "positioned " ++ spaced t)) :=
    .cons keepsLine_id (.cons (keepsLine_id.behind (by decide))
      (.phrase (keepsLine_spaced.before (by decide))))
  have hclothing := MadeOf.worn (by decide : IsLine "wearing") Garment.said s.clothing
  have haccessories := MadeOf.worn (by decide : IsLine "with") Accessory.said s.accessories
  have hall := s.madeOf_headWords.append (hage.append (hgender.append (hhair.append
    (hposture.append (hclothing.append haccessories)))))
  unfold traits
  simp only [List.append_assoc] at hall ⊢
  exact hall.mono (by simp [said])

theorem isLine_appendItems {text : String} {items : List String} (htext : IsLine text)
    (hitems : ∀ item ∈ items, IsLine item) : IsLine (appendItems text items) := by
  induction items generalizing text with
  | nil => exact htext
  | cons item rest ih =>
    obtain ⟨hitem, hrest⟩ := List.forall_mem_cons.1 hitems
    refine ih ?_ hrest
    split
    · exact hitem
    · exact (htext.append (by decide)).append hitem

/-- A subject has its line when there is something to say about it. -/
theorem composed_description? (number : Nat) (s : Subject) :
    Composed [.labelled ("Subject " ++ toString number) s.Speaks] s.said
      (s.description?.map (PromptLine.subject number)).toList := by
  have hwords := s.madeOf_words
  unfold description?
  by_cases hnone : s.headWords ++ s.traits = []
  · have hempty : (s.headWords.isEmpty && s.traits.isEmpty) = true := by
      simpa [List.append_eq_nil_iff] using hnone
    rw [if_pos hempty]
    exact .absent fun hspeaks => hwords.ne_nil_iff.2 hspeaks hnone
  · have hsome : ¬ (s.headWords.isEmpty && s.traits.isEmpty) = true := by
      simpa [List.append_eq_nil_iff] using hnone
    rw [if_neg hsome]
    refine .single (hwords.ne_nil_iff.1 hnone) ⟨_, rfl⟩ (Composed.labelled_ne _ _) fun hsaid => ?_
    obtain ⟨hhead, htraits⟩ := List.forall_mem_append.1 (hwords.isLine hsaid)
    exact Composed.isLine_labelled (IsLine.append (by decide) (isLine_toString number))
      (isLine_appendItems (isLine_unwords hhead) htraits)

def slots (number : Nat) (subjects : List Subject) : List Slot :=
  Slot.numbered (fun n s => .labelled ("Subject " ++ toString n) s.Speaks) number subjects

theorem composed_lines (number : Nat) (subjects : List Subject) :
    Composed (slots number subjects) (subjects.flatMap said) (lines number subjects) := by
  induction subjects generalizing number with
  | nil => exact .nil
  | cons s rest ih =>
    rw [slots, Slot.numbered_cons]
    exact (s.composed_description? number).cons (ih (number + 1))

/-- Lines with the numbers of the subjects that there is something to say about, in increasing
order. The first of the subjects has the number given. -/
structure Numbered (number : Nat) (subjects : List Subject) (numbers : List Nat)
    (lines : List String) : Prop where
  increasing : numbers.Pairwise (· < ·)
  mem_iff : ∀ n, n ∈ numbers ↔ ∃ i s, n = number + i ∧ subjects[i]? = some s ∧ s.Speaks
  lines : List.Forall₂ (fun n line => ∃ body, line = "Subject " ++ toString n ++ ": " ++ body)
    numbers lines

/-- Subjects that are passed over do not shift the numbers of those behind. -/
theorem exists_numbered {number : Nat} {subjects : List Subject} {lines : List String}
    (h : Fills (slots number subjects) lines) :
    ∃ numbers, Numbered number subjects numbers lines := by
  induction subjects generalizing number lines with
  | nil =>
    cases h
    exact ⟨[], .nil, by simp, .nil⟩
  | cons s rest ih =>
    rw [slots, Slot.numbered_cons] at h
    cases h with
    | present hspeaks hreads hrest =>
      obtain ⟨numbers, hincreasing, hmem, hlines⟩ := ih hrest
      -- The subjects behind count from the next number on.
      have hlater : ∀ n ∈ numbers, number < n := by
        intro n hn
        obtain ⟨i, _, rfl, -⟩ := (hmem n).1 hn
        omega
      refine ⟨number :: numbers, .cons hlater hincreasing, fun n => ?_, .cons hreads hlines⟩
      rw [exists_index_cons, List.mem_cons, hmem]
      exact or_congr_left (and_iff_left hspeaks).symm
    | absent hsilent hrest =>
      obtain ⟨numbers, hincreasing, hmem, hlines⟩ := ih hrest
      refine ⟨numbers, hincreasing, fun n => ?_, hlines⟩
      rw [exists_index_cons, hmem]
      exact (or_iff_right fun h => hsilent h.2).symm

end Subject

/-! ## Scene, technique, composition and text -/

def Lighting.said (l : Lighting) : List (Option String) := [l.kind, l.direction]

def Scene.said (s : Scene) : List (Option String) :=
  [s.location, s.time, s.weather] ++ (s.lighting.map Lighting.said).getD [] ++
    s.backgroundElements.map some

def Scene.Speaks (s : Scene) : Prop :=
  ImagePrompt.Speaks [s.location, s.time, s.weather] ∨
    (∃ l, s.lighting = some l ∧ ImagePrompt.Speaks l.said) ∨ s.backgroundElements ≠ []

theorem Scene.composed (s : Scene) : Composed [.labelled "Scene" s.Speaks] s.said s.lines := by
  have hwords : MadeOf (ImagePrompt.Speaks [s.location, s.time, s.weather])
      [s.location, s.time, s.weather]
      (phrase s.location (fun t => "Location: " ++ t) ++
        phrase s.time (fun t => "Time: " ++ spaced t) ++
        phrase s.weather fun t => "Weather: " ++ spaced t) := by
    rw [List.append_assoc]
    exact .cons (keepsLine_id.before (by decide))
      (.cons (keepsLine_spaced.before (by decide)) (.phrase (keepsLine_spaced.before (by decide))))
  have hlight (l : Lighting) : MadeOf (ImagePrompt.Speaks l.said) l.said
      (phrases [l.kind, l.direction] spaced) :=
    .phrases keepsLine_spaced
  have hbackground := (MadeOf.items s.backgroundElements).gather
    (fun items => "Background: " ++ commaList items) fun h =>
      IsLine.append (by decide) (isLine_commaList h)
  unfold lines
  refine .ofParts (by decide) (((hwords.append
    (.gather ?_ (fun light => "Lighting: " ++ commaList light) fun h =>
      IsLine.append (by decide) (isLine_commaList h))).append hbackground).congr or_assoc) rfl
    (IsLine.intercalate (by decide))
  have hlighting := MadeOf.option hlight s.lighting
  cases h : s.lighting <;> rwa [h] at hlighting

def Technical.said (t : Technical) : List (Option String) :=
  [t.cameraModel, t.lens, t.aperture, t.filmStock]

theorem Technical.composed (t : Technical) :
    Composed [.labelled "Technical" (Speaks t.said)] t.said t.lines := by
  unfold Technical.lines
  simp only [List.append_assoc]
  exact .listed (by decide) (.cons (keepsLine_id.before (by decide))
    (.cons (keepsLine_id.behind (by decide)) (.cons keepsLine_id
      (.phrase (keepsLine_id.behind (by decide))))))

def Composition.said (c : Composition) : List (Option String) :=
  [c.framing, c.angle, c.focusPoint]

theorem Composition.composed (c : Composition) :
    Composed [.labelled "Composition" (Speaks c.said)] c.said c.lines := by
  unfold Composition.lines
  simp only [List.append_assoc]
  exact .listed (by decide) (.cons keepsLine_spaced
    (.cons (keepsLine_spaced.behind (by decide))
      (.phrase (keepsLine_spaced.before (by decide)))))

def TextRendering.said (t : TextRendering) : List (Option String) :=
  [t.textContent, t.placement, t.fontStyle, t.color]

theorem TextRendering.composed (t : TextRendering) :
    Composed [.labelled "Text" (t.enabled = true ∧ Speaks t.said)] t.said t.lines := by
  have hparts : MadeOf (Speaks t.said) t.said
      (phrase t.textContent (fun s => "text \"" ++ s ++ "\"") ++
        phrase t.placement (fun s => "as " ++ spaced s) ++
        phrase t.fontStyle (fun s => "in " ++ spaced s ++ " style") ++
        phrase t.color (fun s => "colored " ++ s)) := by
    simp only [List.append_assoc]
    exact .cons (keepsLine_id.around (by decide) (by decide))
      (.cons (keepsLine_spaced.before (by decide))
        (.cons (keepsLine_spaced.around (by decide) (by decide))
          (.phrase (keepsLine_id.before (by decide)))))
  unfold TextRendering.lines
  cases henabled : t.enabled with
  | false => exact .absent fun h => Bool.false_ne_true h.1
  | true =>
    simp only [Bool.true_and, true_and, Bool.not_eq_true', ← Bool.not_eq_true, ite_not]
    exact .ofParts (by decide) hparts rfl isLine_unwords

/-! ## Photographs -/

namespace PromptDocument

def photographSaid (d : PromptDocument) : List (Option String) :=
  d.subjects.flatMap Subject.said ++ (d.scene.map Scene.said).getD [] ++
    (d.technical.map Technical.said).getD [] ++ (d.composition.map Composition.said).getD [] ++
    (d.textRendering.map TextRendering.said).getD []

def photographSlots (d : PromptDocument) : List Slot :=
  Subject.slots 1 d.subjects ++
  [.labelled "Scene" (∃ s, d.scene = some s ∧ s.Speaks),
   .labelled "Technical" (∃ t, d.technical = some t ∧ Speaks t.said),
   .labelled "Composition" (∃ c, d.composition = some c ∧ Speaks c.said),
   .labelled "Text" (∃ t, d.textRendering = some t ∧ t.enabled = true ∧ Speaks t.said)]

theorem composed_photographLines (d : PromptDocument) :
    Composed d.photographSlots d.photographSaid d.photographLines := by
  unfold photographSaid photographLines
  simp only [List.append_assoc]
  exact .append (Subject.composed_lines 1 d.subjects)
    (.cons (.option Scene.composed d.scene)
    (.cons (.option Technical.composed d.technical)
    (.cons (.option Composition.composed d.composition)
    (.option TextRendering.composed d.textRendering))))

end PromptDocument

end ImagePrompt
