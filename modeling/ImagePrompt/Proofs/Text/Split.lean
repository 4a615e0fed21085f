import ImagePrompt.Proofs.Text.Blank
import ImagePrompt.Text.Split
/-!
# Texts that are split

The pieces between separators. Pieces that hold no separator come back when
they have been put together with one between any two of them.
-/

namespace ImagePrompt

namespace Text

variable {separator : Char} {cs : List Char}

theorem splitChars_of_notMem (h : separator ∉ cs) : splitChars separator cs = [cs] := by
  induction cs with
  | nil => rfl
  | cons c cs ih =>
    obtain ⟨hc, hcs⟩ : separator ≠ c ∧ separator ∉ cs := by simpa using h
    have hne : (c == separator) = false := by simpa using Ne.symm hc
    simp only [splitChars, hne, ih hcs, Bool.false_eq_true, if_false]

/-- A separator parts the pieces before it from those behind it. -/
theorem splitChars_append_cons (separator : Char) (cs ds : List Char) :
    splitChars separator (cs ++ separator :: ds) =
      splitChars separator cs ++ splitChars separator ds := by
  induction cs with
  | nil => simp [splitChars]
  | cons c cs ih =>
    obtain ⟨piece, rest, hpieces⟩ := List.exists_cons_of_ne_nil (splitChars_ne_nil separator cs)
    rw [List.cons_append, splitChars, splitChars, ih, hpieces]
    by_cases hc : (c == separator) = true
    · rw [if_pos hc, if_pos hc]
      rfl
    · rw [if_neg hc, if_neg hc]
      rfl

/-- Only separators part pieces of which none holds a character. -/
theorem eq_separator_of_splitChars (h : ∀ piece ∈ splitChars separator cs, piece = []) :
    ∀ c ∈ cs, c = separator := by
  induction cs with
  | nil => simp
  | cons c cs ih =>
    obtain ⟨piece, rest, hpieces⟩ := List.exists_cons_of_ne_nil (splitChars_ne_nil separator cs)
    by_cases hc : (c == separator) = true
    · rw [splitChars, if_pos hc] at h
      exact List.forall_mem_cons.2 ⟨by simpa using hc, ih fun piece hp => h piece (.tail _ hp)⟩
    · rw [splitChars, if_neg hc, hpieces] at h
      cases h (c :: piece) List.mem_cons_self

theorem split_intercalate {pieces : List String} (hne : pieces ≠ [])
    (h : ∀ piece ∈ pieces, separator ∉ piece.toList) :
    split separator (String.intercalate (String.singleton separator) pieces) = pieces := by
  obtain ⟨piece, rest, rfl⟩ := List.exists_cons_of_ne_nil hne
  clear hne
  induction rest generalizing piece with
  | nil =>
    rw [String.intercalate_singleton, split, splitChars_of_notMem (h piece List.mem_cons_self)]
    simp
  | cons next rest ih =>
    obtain ⟨hpiece, hrest⟩ := List.forall_mem_cons.1 h
    have hnext := ih next hrest
    unfold split at hnext ⊢
    rw [String.intercalate_cons_cons, String.toList_append, String.toList_append,
      String.toList_singleton, List.append_assoc, List.singleton_append, splitChars_append_cons,
      splitChars_of_notMem hpiece, List.map_append, List.map_singleton, String.ofList_toList,
      hnext]
    rfl

theorem intercalate_ne_empty {separator s : String} (hs : s ≠ "") (ss : List String) :
    String.intercalate separator (s :: ss) ≠ "" := by
  cases ss with
  | nil => rwa [String.intercalate_singleton]
  | cons t ss =>
    rw [String.intercalate_cons_cons, Ne, String.append_eq_empty_iff, String.append_eq_empty_iff]
    exact fun h => hs h.1.1

/-! ## Texts of one line -/

/-- A text without a line break. -/
def IsLine (s : String) : Prop := '\n' ∉ s.toList

instance (s : String) : Decidable (IsLine s) := inferInstanceAs (Decidable ('\n' ∉ s.toList))

variable {s t : String} {ss : List String}

theorem isLine_append : IsLine (s ++ t) ↔ IsLine s ∧ IsLine t := by
  unfold IsLine
  rw [String.toList_append, List.mem_append, not_or]

theorem IsLine.append (hs : IsLine s) (ht : IsLine t) : IsLine (s ++ t) :=
  isLine_append.2 ⟨hs, ht⟩

theorem IsLine.join (h : ∀ s ∈ ss, IsLine s) : IsLine (String.join ss) := by
  unfold IsLine
  rw [String.toList_join, List.mem_flatMap]
  rintro ⟨s, hs, hmem⟩
  exact h s hs hmem

theorem IsLine.intercalate (hs : IsLine s) (h : ∀ t ∈ ss, IsLine t) :
    IsLine (String.intercalate s ss) := by
  induction ss with
  | nil => simp [IsLine]
  | cons t rest ih =>
    obtain ⟨ht, hrest⟩ := List.forall_mem_cons.1 h
    cases rest with
    | nil => rwa [String.intercalate_singleton]
    | cons next rest =>
      rw [String.intercalate_cons_cons]
      exact (ht.append hs).append (ih hrest)

theorem IsLine.trim (h : IsLine s) : IsLine (trim s) := by
  unfold IsLine Text.trim dropEndSpace
  rw [String.toList_ofList, List.mem_reverse]
  intro hmem
  exact h (List.dropWhile_subset _ (List.mem_reverse.1 (List.dropWhile_subset _ hmem)))

end Text

end ImagePrompt
