import ImagePrompt.Text.Blank
import Mathlib.Data.List.DropRight
import Mathlib.Data.List.TakeWhile
/-!
# Blank text

A text is blank when trimming leaves nothing of it. Texts that differ in the white space around a
core are trimmed alike.
-/

namespace ImagePrompt.Text

theorem dropEndSpace_eq_nil_iff {cs : List Char} :
    dropEndSpace cs = [] ↔ ∀ c ∈ cs, isSpace c = true := by
  unfold dropEndSpace
  rw [List.reverse_eq_nil_iff, List.dropWhile_eq_nil_iff]
  simp

theorem isBlank_iff {s : String} : isBlank s = true ↔ trim s = "" := by
  unfold isBlank trim
  rw [List.all_eq_true, ← String.ofList_nil, String.ofList_inj, dropEndSpace_eq_nil_iff]
  constructor
  · exact fun h c hc => h c (List.dropWhile_subset _ hc)
  · intro h
    have hnil : s.toList.dropWhile isSpace = [] := by
      by_contra hne
      have hhead := h _ (List.head_mem hne)
      exact Bool.false_ne_true ((List.head_dropWhile_not _ hne).symm.trans hhead)
    exact List.dropWhile_eq_nil_iff.1 hnil

theorem isBlank_eq_false_iff {s : String} : isBlank s = false ↔ trim s ≠ "" := by
  rw [← Bool.not_eq_true, isBlank_iff]

theorem filled_eq_some_iff {s : Option String} {t : String} :
    filled s = some t ↔ s = some t ∧ trim t ≠ "" := by
  unfold filled
  rw [Option.filter_eq_some_iff, Bool.not_eq_true', isBlank_eq_false_iff]

/-! ## White space around a text -/

theorem trim_before {front : String} (s : String) (h : isBlank front = true) :
    trim (front ++ s) = trim s := by
  unfold trim
  rw [String.toList_append, List.dropWhile_append_of_pos (List.all_eq_true.1 h)]

theorem dropEndSpace_append {cs back : List Char} (h : ∀ c ∈ back, isSpace c = true) :
    dropEndSpace (cs ++ back) = dropEndSpace cs := by
  have hback : ∀ c ∈ back.reverse, isSpace c = true := fun c hc => h c (List.mem_reverse.1 hc)
  unfold dropEndSpace
  rw [List.reverse_append, List.dropWhile_append_of_pos hback]

theorem trim_behind {back : String} (s : String) (h : isBlank back = true) :
    trim (s ++ back) = trim s := by
  have hback := List.all_eq_true.1 h
  unfold trim
  rw [String.toList_append, List.dropWhile_append]
  split
  · next hall =>
    have hnil := List.isEmpty_iff.1 hall
    have hrest : back.toList.dropWhile isSpace = [] := List.dropWhile_eq_nil_iff.2 hback
    rw [hnil, hrest]
  · rw [dropEndSpace_append hback]

/-- White space is all that trimming drops. -/
theorem exists_eq_trim (s : String) :
    ∃ front back, isBlank front = true ∧ isBlank back = true ∧ s = front ++ trim s ++ back := by
  let kept := s.toList.dropWhile isSpace
  have hblank (cs : List Char) : isBlank (String.ofList (cs.takeWhile isSpace)) = true := by
    rw [isBlank, String.toList_ofList, List.all_eq_true]
    exact fun c hc => List.mem_takeWhile_imp hc
  have hblank' : isBlank (String.ofList (kept.reverse.takeWhile isSpace).reverse) = true := by
    rw [isBlank, String.toList_ofList, List.all_eq_true]
    exact fun c hc => List.mem_takeWhile_imp (List.mem_reverse.1 hc)
  refine ⟨_, _, hblank s.toList, hblank', ?_⟩
  have hkept : dropEndSpace kept ++ (kept.reverse.takeWhile isSpace).reverse = kept := by
    rw [dropEndSpace, ← List.reverse_append, List.takeWhile_append_dropWhile, List.reverse_reverse]
  have hall : s.toList.takeWhile isSpace ++ kept = s.toList := List.takeWhile_append_dropWhile
  rw [trim, String.append_assoc, ← String.ofList_append, hkept, ← String.ofList_append, hall,
    String.ofList_toList]

theorem trim_trim (s : String) : trim (trim s) = trim s := by
  obtain ⟨front, back, hfront, hback, hs⟩ := exists_eq_trim s
  have htrim := congrArg trim hs
  rw [trim_behind _ hback, trim_before _ hfront] at htrim
  exact htrim.symm

/-! ## Texts with no white space at their end -/

theorem dropEndSpace_eq_self_iff {cs : List Char} :
    dropEndSpace cs = cs ↔ ∀ c, cs.getLast? = some c → isSpace c = false := by
  have hlast : dropEndSpace cs = cs ↔ ∀ hne : cs ≠ [], ¬ isSpace (cs.getLast hne) = true :=
    List.rdropWhile_eq_self_iff
  rw [hlast]
  constructor
  · intro h c hc
    have hne : cs ≠ [] := List.ne_nil_of_mem (List.mem_of_getLast? hc)
    obtain rfl : cs.getLast hne = c := by
      rwa [List.getLast?_eq_some_getLast hne, Option.some.injEq] at hc
    simpa using h hne
  · intro h hne
    simpa using h _ (List.getLast?_eq_some_getLast hne)

theorem trimEnd_eq_self_iff {s : String} :
    trimEnd s = s ↔ ∀ c, s.toList.getLast? = some c → isSpace c = false := by
  rw [← dropEndSpace_eq_self_iff, ← String.toList_inj, trimEnd, String.toList_ofList]

theorem trimEnd_trim (s : String) : trimEnd (trim s) = trim s := by
  unfold trimEnd trim
  rw [String.toList_ofList]
  exact congrArg String.ofList (List.rdropWhile_idempotent isSpace _)

theorem trimEnd_append {s t : String} (hs : trimEnd s = s) (ht : trimEnd t = t) :
    trimEnd (s ++ t) = s ++ t := by
  rw [trimEnd_eq_self_iff] at hs ht ⊢
  intro c hc
  rw [String.toList_append, List.getLast?_append, Option.or_eq_some_iff] at hc
  rcases hc with hlast | ⟨-, hlast⟩
  · exact ht c hlast
  · exact hs c hlast

theorem trimEnd_replicate {c : Char} (h : isSpace c = false) (k : Nat) :
    trimEnd (String.ofList (List.replicate k c)) = String.ofList (List.replicate k c) := by
  rw [trimEnd_eq_self_iff, String.toList_ofList]
  intro d hd
  rwa [List.eq_of_mem_replicate (List.mem_of_getLast? hd)]

/-- Such a text is trimmed at its beginning only. -/
theorem trim_of_trimEnd {s : String} (hs : trimEnd s = s) :
    trim s = String.ofList (s.toList.dropWhile isSpace) := by
  rw [trimEnd_eq_self_iff] at hs
  unfold trim
  congr 1
  refine dropEndSpace_eq_self_iff.2 fun c hc => hs c ?_
  have hall := List.takeWhile_append_dropWhile (p := isSpace) (l := s.toList)
  rw [← hall, List.getLast?_append, hc, Option.some_or]

/-- With such a text behind it, a text that is not blank is trimmed as it is without. -/
theorem trim_append {s t : String} (hfilled : isBlank s = false) (hs : trimEnd s = s)
    (ht : trimEnd t = t) : trim (s ++ t) = trim s ++ t := by
  have hne : (s.toList.dropWhile isSpace).isEmpty = false := by
    rw [List.isEmpty_eq_false_iff, Ne, List.dropWhile_eq_nil_iff]
    simpa [isBlank] using hfilled
  rw [trim_of_trimEnd (trimEnd_append hs ht), trim_of_trimEnd hs, String.toList_append,
    List.dropWhile_append, hne, if_neg Bool.false_ne_true, String.ofList_append,
    String.ofList_toList]

/-! ## The end of a text -/

theorem dropEnd_append_replicate (c : Char) (s : String) (k : Nat) :
    dropEnd c (s ++ String.ofList (List.replicate k c)) = dropEnd c s := by
  have hrun : ∀ d ∈ List.replicate k c, (d == c) = true := fun d hd => by
    rw [List.eq_of_mem_replicate hd, beq_self_eq_true]
  unfold dropEnd
  rw [String.toList_append, String.toList_ofList, List.reverse_append, List.reverse_replicate,
    List.dropWhile_append_of_pos hrun]

/-- What is dropped at the end of a text is a run of the one character. -/
theorem exists_eq_dropEnd_append (c : Char) (s : String) :
    ∃ k, s = dropEnd c s ++ String.ofList (List.replicate k c) := by
  have hrun : s.toList.reverse.takeWhile (· == c) =
      List.replicate (s.toList.reverse.takeWhile (· == c)).length c :=
    List.eq_replicate_of_mem fun d hd => by simpa using List.mem_takeWhile_imp hd
  refine ⟨(s.toList.reverse.takeWhile (· == c)).length, ?_⟩
  rw [← List.reverse_replicate, ← hrun, dropEnd, ← String.ofList_append, ← List.reverse_append,
    List.takeWhile_append_dropWhile, List.reverse_reverse, String.ofList_toList]

theorem getLast?_dropEnd_ne (c : Char) (s : String) : (dropEnd c s).toList.getLast? ≠ some c := by
  intro h
  rw [dropEnd, String.toList_ofList, List.getLast?_reverse, List.head?_eq_some_iff] at h
  obtain ⟨rest, hrest⟩ := h
  have hne : s.toList.reverse.dropWhile (· == c) ≠ [] := by simp [hrest]
  have hhead := List.head_dropWhile_not (· == c) hne
  simp [hrest] at hhead

end ImagePrompt.Text

namespace ImagePrompt

open Text

/-- A text with white space around a core. -/
inductive Padded (core : String) : String → Prop
  | mk {front back : String} (hfront : isBlank front = true) (hback : isBlank back = true) :
      Padded core (front ++ core ++ back)

theorem Padded.refl (s : String) : Padded s s := by
  have hpadded : Padded s ("" ++ s ++ "") := .mk rfl rfl
  rwa [String.empty_append, String.append_empty] at hpadded

theorem Padded.trim_eq {core s : String} (h : Padded core s) : trim s = trim core := by
  obtain ⟨hfront, hback⟩ := h
  rw [trim_behind _ hback, trim_before _ hfront]

theorem Padded.of_trim (s : String) : Padded (trim s) s := by
  obtain ⟨front, back, hfront, hback, hs⟩ := exists_eq_trim s
  have hpadded : Padded (trim s) (front ++ trim s ++ back) := .mk hfront hback
  rwa [← hs] at hpadded

end ImagePrompt
