import ImagePrompt.Proofs.Number.Decimal
import ImagePrompt.Proofs.Rendering.Edits
import ImagePrompt.Proofs.Text.Split
import Mathlib.Data.List.ReduceOption
/-!
# What phrases are made of

The parts of a line come from optional texts and from values that are free of
form. Whether there are any parts is a matter of what says something, and no
part breaks a line unless one of these texts does.
-/

namespace ImagePrompt

open PromptLine Text

/-! ## Optional texts -/

/-- One of some optional texts is there and is not blank. -/
def Speaks (said : List (Option String)) : Prop := ∃ s ∈ said, ∃ text, Says s text

/-- None of the texts that are there breaks a line. -/
def Unbroken (said : List (Option String)) : Prop := ∀ text ∈ said.reduceOption, IsLine text

instance (said : List (Option String)) : Decidable (Unbroken said) :=
  inferInstanceAs (Decidable (∀ text ∈ said.reduceOption, IsLine text))

variable {s : Option String} {said said' : List (Option String)}

theorem speaks_nil : ¬ Speaks [] := by
  rintro ⟨s, hs, -⟩
  cases hs

theorem speaks_cons : Speaks (s :: said) ↔ (∃ text, Says s text) ∨ Speaks said := by
  unfold Speaks
  simp only [List.mem_cons, exists_eq_or_imp]

theorem speaks_singleton : Speaks [s] ↔ ∃ text, Says s text := by
  rw [speaks_cons, or_iff_left speaks_nil]

theorem unbroken_append : Unbroken (said ++ said') ↔ Unbroken said ∧ Unbroken said' := by
  unfold Unbroken
  rw [List.reduceOption_append, List.forall_mem_append]

theorem unbroken_iff : Unbroken said ↔ ∀ text, some text ∈ said → IsLine text := by
  unfold Unbroken
  simp only [List.reduceOption_mem_iff]

theorem Unbroken.mono (h : Unbroken said') (hsub : said ⊆ said') : Unbroken said :=
  unbroken_iff.2 fun text htext => unbroken_iff.1 h text (hsub htext)

/-- A value that is free of form says something: a text that is not blank, a number or a truth
value. -/
inductive FreeSpeaks : Option Json → Prop
  | string {s : String} (h : Text.trim s ≠ "") : FreeSpeaks (some (.string s))
  | number {n : Json.Number} : FreeSpeaks (some (.number n))
  | bool {b : Bool} : FreeSpeaks (some (.bool b))

theorem mem_phrase {f : String → String} {part : String} (h : part ∈ phrase s f) :
    ∃ text, Says s text ∧ part = f text := by
  unfold phrase at h
  rw [Option.mem_toList, Option.map_eq_some_iff] at h
  obtain ⟨text, htext, rfl⟩ := h
  exact ⟨text, filled_eq_some_iff.1 htext, rfl⟩

/-- A word that stands for nothing said is passed over. -/
theorem phrase_filledUnless {word : String} {f : String → String} :
    phrase (filledUnless word s) f = phrase (s.filter (· != word)) f := by
  have hfilled : filled (filledUnless word s) = filled (s.filter (· != word)) := by
    unfold filledUnless filled
    simp only [Option.filter_filter]
    congr 1
    funext t
    cases isBlank t <;> cases t != word <;> rfl
  unfold phrase
  rw [hfilled]

theorem phrase_filledUnless_self {word : String} {f : String → String} :
    phrase (filledUnless word (some word)) f = [] := by
  rw [phrase_filledUnless, Option.filter_some, bne_self_eq_false, if_neg Bool.false_ne_true]
  rfl

theorem phrase_filledUnless_of_ne {word : String} {f : String → String} (h : s ≠ some word) :
    phrase (filledUnless word s) f = phrase s f := by
  have hkept : s.filter (· != word) = s := by
    cases s with
    | none => rfl
    | some t =>
      have hne : t ≠ word := fun ht => h (congrArg some ht)
      rw [Option.filter_some, if_pos (bne_iff_ne.2 hne)]
  rw [phrase_filledUnless, hkept]

/-! ## Words that break no line -/

/-- Words around a text do not break the line. -/
def KeepsLine (f : String → String) : Prop := ∀ t, IsLine t → IsLine (f t)

theorem keepsLine_id : KeepsLine id := fun _ h => h

/-- Spaces for underscores do not break a line. -/
theorem isLine_respelled {cs : List Char} (h : '\n' ∉ cs) :
    IsLine (String.ofList (cs.map fun c => if c == '_' then ' ' else c)) := by
  unfold IsLine
  rw [String.toList_ofList, List.mem_map]
  rintro ⟨c, hc, hbreak⟩
  split at hbreak
  · exact absurd hbreak (by decide)
  · exact h (hbreak ▸ hc)

theorem keepsLine_spaced : KeepsLine spaced := fun _ ht => isLine_respelled ht.trim

section Words

variable {f : String → String} {front back : String} (hf : KeepsLine f)
include hf

theorem KeepsLine.before (h : IsLine front) : KeepsLine fun t => front ++ f t :=
  fun t ht => h.append (hf t ht)

theorem KeepsLine.behind (h : IsLine back) : KeepsLine fun t => f t ++ back :=
  fun t ht => (hf t ht).append h

theorem KeepsLine.around (hfront : IsLine front) (hback : IsLine back) :
    KeepsLine fun t => front ++ f t ++ back :=
  (hf.before hfront).behind hback

end Words

theorem isLine_of_inNumber {t : String} (h : ∀ c ∈ t.toList, InNumber c) : IsLine t := by
  intro hbreak
  rcases h '\n' hbreak with hdigit | hmem
  · exact absurd hdigit (by decide)
  · exact absurd hmem (by decide)

theorem isLine_toString (n : Nat) : IsLine (toString n) :=
  isLine_of_inNumber fun _ hc => inNumber_of_mem_toDigits (by simpa using hc)

theorem isLine_unwords {words : List String} (h : ∀ word ∈ words, IsLine word) :
    IsLine (String.intercalate " " words) :=
  IsLine.intercalate (by decide) h

theorem isLine_commaList {items : List String} (h : ∀ item ∈ items, IsLine item) :
    IsLine (commaList items) :=
  IsLine.intercalate (by decide) h

/-! ## Parts -/

/-- Parts of a line: there are some in one case only, and they break no line if what is said
breaks none. -/
structure MadeOf (present : Prop) (said : List (Option String)) (parts : List String) : Prop where
  ne_nil_iff : parts ≠ [] ↔ present
  isLine : Unbroken said → ∀ part ∈ parts, IsLine part

namespace MadeOf

variable {p p' : Prop} {parts parts' : List String} {f : String → String}

theorem congr (h : MadeOf p said parts) (hp : p ↔ p') : MadeOf p' said parts :=
  ⟨h.ne_nil_iff.trans hp, h.isLine⟩

theorem append (h : MadeOf p said parts) (h' : MadeOf p' said' parts') :
    MadeOf (p ∨ p') (said ++ said') (parts ++ parts') where
  ne_nil_iff := by
    rw [← h.ne_nil_iff, ← h'.ne_nil_iff, ← not_and_or, ← List.append_eq_nil_iff]
  isLine hsaid := by
    obtain ⟨hs, hs'⟩ := unbroken_append.1 hsaid
    exact List.forall_mem_append.2 ⟨h.isLine hs, h'.isLine hs'⟩

theorem mono (h : MadeOf p said parts) (hsub : said ⊆ said') : MadeOf p said' parts :=
  ⟨h.ne_nil_iff, fun hsaid => h.isLine (hsaid.mono hsub)⟩

theorem absent (h : ¬ p) : MadeOf p said [] :=
  ⟨iff_of_false (fun hne => hne rfl) h, fun _ => List.forall_mem_nil _⟩

theorem single {part : String} (h : p) (hpart : Unbroken said → IsLine part) :
    MadeOf p said [part] :=
  ⟨iff_of_true (List.cons_ne_nil _ _) h, fun hsaid => List.forall_mem_singleton.2 (hpart hsaid)⟩

theorem phrase (hf : KeepsLine f) : MadeOf (Speaks [s]) [s] (phrase s f) where
  ne_nil_iff := by
    rw [speaks_singleton]
    unfold ImagePrompt.phrase Says
    rw [Ne, Option.toList_eq_nil_iff, Option.map_eq_none_iff, ← Ne, Option.ne_none_iff_exists']
    simp only [filled_eq_some_iff]
  isLine hsaid part hpart := by
    obtain ⟨text, ⟨rfl, -⟩, rfl⟩ := mem_phrase hpart
    exact hf text (unbroken_iff.1 hsaid text List.mem_cons_self)

/-- A row of phrases: there are some when one of the texts says something. -/
theorem cons {spoken : List (Option String)} (hf : KeepsLine f)
    (h : MadeOf (Speaks spoken) said parts) :
    MadeOf (Speaks (s :: spoken)) (s :: said) (ImagePrompt.phrase s f ++ parts) :=
  ((phrase hf).append h).congr ((or_congr_left speaks_singleton).trans speaks_cons.symm)

/-- A word that stands for nothing said is passed over. -/
theorem phraseUnless {word : String} (hf : KeepsLine f) :
    MadeOf (Speaks [s.filter (· != word)]) [s] (ImagePrompt.phrase (filledUnless word s) f) := by
  rw [phrase_filledUnless]
  refine ⟨(phrase hf).ne_nil_iff, fun hsaid => (phrase hf).isLine ?_⟩
  rw [unbroken_iff] at hsaid ⊢
  intro text htext
  have hsome := List.mem_singleton.1 htext
  obtain ⟨hs, -⟩ := Option.filter_eq_some_iff.1 hsome.symm
  exact hsaid text (hs ▸ List.mem_cons_self)

theorem phrases (hf : KeepsLine f) : MadeOf (Speaks said) said (phrases said f) := by
  induction said with
  | nil => exact absent speaks_nil
  | cons s said ih => exact cons hf ih

theorem free {v : Option Json} (hf : KeepsLine f) :
    MadeOf (FreeSpeaks v) [v.bind Json.string?] (freePhrase v f) := by
  cases v with
  | none => exact absent nofun
  | some v =>
    cases v with
    | null | array _ | object _ => exact absent nofun
    | bool b =>
      have hline : IsLine (if b then "true" else "false") := by cases b <;> decide
      exact single .bool fun _ => hf _ hline
    | number n =>
      have hline : IsLine n.text := isLine_of_inNumber fun _ => Json.Number.inNumber_of_mem_text
      exact single .number fun _ => hf _ hline
    | string s =>
      unfold freePhrase
      by_cases hblank : isBlank s = true
      · have hnone : (some (Json.string s)).bind freeText = none := if_pos hblank
        rw [hnone]
        refine absent ?_
        rintro ⟨hsome⟩
        exact hsome (isBlank_iff.1 hblank)
      · have hsome : (some (Json.string s)).bind freeText = some (Text.trim s) := if_neg hblank
        rw [hsome]
        rw [Bool.not_eq_true, isBlank_eq_false_iff] at hblank
        exact single (.string hblank) fun hsaid =>
          hf _ (unbroken_iff.1 hsaid s List.mem_cons_self).trim

theorem items (items : List String) : MadeOf (items ≠ []) (items.map some) items where
  ne_nil_iff := Iff.rfl
  isLine hsaid item hitem := unbroken_iff.1 hsaid item (List.mem_map_of_mem hitem)

/-- All parts in one. -/
theorem gather (h : MadeOf p said parts) (g : List String → String)
    (hg : (∀ part ∈ parts, IsLine part) → IsLine (g parts)) :
    MadeOf p said (if parts.isEmpty then [] else [g parts]) := by
  cases parts with
  | nil => exact h
  | cons part rest =>
    have hp : p := h.ne_nil_iff.1 (List.cons_ne_nil _ _)
    exact single hp fun hsaid => hg (h.isLine hsaid)

variable {α : Type} {q : α → Prop} {of : α → List (Option String)} {made : α → List String}

theorem option (h : ∀ a, MadeOf (q a) (of a) (made a)) (o : Option α) :
    MadeOf (∃ a, o = some a ∧ q a) ((o.map of).getD []) ((o.map made).getD []) := by
  cases o with
  | none => exact absent (by simp)
  | some a => exact (h a).congr (by simp)

theorem flatMap (h : ∀ a, MadeOf (q a) (of a) (made a)) (as : List α) :
    MadeOf (∃ a ∈ as, q a) (as.flatMap of) (as.flatMap made) := by
  induction as with
  | nil => exact absent (by simp)
  | cons a as ih => exact ((h a).append ih).congr (by simp)

end MadeOf

end ImagePrompt
