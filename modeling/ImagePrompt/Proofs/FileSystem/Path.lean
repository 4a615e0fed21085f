import ImagePrompt.FileSystem.Path
import ImagePrompt.Proofs.Text.Split
import Mathlib.Data.List.Basic
/-!
# Paths that are joined

The names of a joined path are those of its two parts. It starts where the first
part starts and ends as the second one ends.
-/

namespace ImagePrompt

namespace Path

variable {p q name : String}

theorem join_cases (hrelative : isAbsolute q = false) :
    (p = "" ∧ join p q = q) ∨ (endsInSlash p = true ∧ join p q = p ++ q) ∨
      (p ≠ "" ∧ endsInSlash p = false ∧ join p q = p ++ "/" ++ q) := by
  unfold join
  by_cases hempty : p = ""
  · exact .inl ⟨hempty, by simp [hempty]⟩
  · cases hslash : endsInSlash p with
    | true => exact .inr (.inl ⟨rfl, by simp [hrelative, hempty]⟩)
    | false => exact .inr (.inr ⟨hempty, rfl, by simp [hrelative, hempty]⟩)

theorem names_append_slash (p q : String) : names (p ++ "/" ++ q) = names p ++ names q := by
  have hchars : (p ++ "/" ++ q).toList = p.toList ++ '/' :: q.toList := by simp
  unfold names Text.split
  rw [hchars, Text.splitChars_append_cons, List.map_append, List.filter_append]

@[simp] theorem names_empty : names "" = [] := rfl

theorem exists_eq_append_slash (h : endsInSlash p = true) : ∃ front, p = front ++ "/" := by
  have hlast : p.toList.getLast? = some '/' := by simpa [endsInSlash] using h
  obtain ⟨front, hfront⟩ := List.getLast?_eq_some_iff.1 hlast
  refine ⟨String.ofList front, String.toList_inj.1 ?_⟩
  simp [hfront]

theorem names_join (hrelative : isAbsolute q = false) : names (join p q) = names p ++ names q := by
  rcases join_cases (p := p) hrelative with ⟨rfl, hjoin⟩ | ⟨hslash, hjoin⟩ | ⟨-, -, hjoin⟩
  · rw [hjoin, names_empty, List.nil_append]
  · -- The slash at the end of the first part is the one that parts the names.
    obtain ⟨front, rfl⟩ := exists_eq_append_slash hslash
    have hfront : names (front ++ "/") = names front := by
      simpa using names_append_slash front ""
    rw [hjoin, names_append_slash, hfront]
  · rw [hjoin, names_append_slash]

theorem names_of_notMem (hslash : '/' ∉ name.toList) (hname : name ≠ "") : names name = [name] := by
  unfold names Text.split
  rw [Text.splitChars_of_notMem hslash]
  simp [hname]

/-- The first name of a path with a slash, and what comes behind it. -/
theorem exists_names_eq_cons {c : Char} {cs : List Char} (hslash : '/' ∈ q.toList)
    (hchars : q.toList = c :: cs) (hc : c ≠ '/') (hdot : c ≠ '.') :
    ∃ front back, q = front ++ "/" ++ back ∧ names q = front :: names back ∧
      front ≠ "." ∧ front ≠ ".." := by
  obtain ⟨front, back, hcut, hfront⟩ := List.eq_append_cons_of_mem hslash
  have hq : q = String.ofList front ++ "/" ++ String.ofList back :=
    String.toList_inj.1 (by simp [hcut])
  obtain ⟨rest, rfl⟩ : ∃ rest, front = c :: rest := by
    rw [hchars] at hcut
    cases front with
    | nil => exact absurd (List.cons_eq_cons.1 hcut).1 hc
    | cons d rest => exact ⟨rest, by rw [(List.cons_eq_cons.1 hcut).1]⟩
  have hnames : names (String.ofList (c :: rest)) = [String.ofList (c :: rest)] :=
    names_of_notMem (by simpa using hfront) (by simp [← String.toList_inj])
  refine ⟨_, _, hq, ?_, ?_, ?_⟩
  · rw [hq, names_append_slash, hnames]
    rfl
  · simp [← String.toList_inj, hdot]
  · simp [← String.toList_inj, hdot]

theorem isAbsolute_of_notMem (hslash : '/' ∉ name.toList) : isAbsolute name = false := by
  unfold isAbsolute
  cases hchars : name.toList with
  | nil => rfl
  | cons c cs =>
    rw [hchars] at hslash
    have hc : c ≠ '/' := fun hc => hslash (hc ▸ List.mem_cons_self)
    simpa using hc

theorem endsInSlash_of_notMem (hslash : '/' ∉ name.toList) : endsInSlash name = false := by
  unfold endsInSlash
  cases hlast : name.toList.getLast? with
  | none => rfl
  | some c =>
    have hc : c ≠ '/' := fun hc => hslash (hc ▸ List.mem_of_getLast? hlast)
    simpa using hc

theorem isAbsolute_append (hp : p ≠ "") : isAbsolute (p ++ q) = isAbsolute p := by
  have hchars : p.toList ≠ [] := by simpa using hp
  unfold isAbsolute
  rw [String.toList_append, List.head?_append_of_ne_nil _ hchars]

theorem endsInSlash_append (hq : q ≠ "") : endsInSlash (p ++ q) = endsInSlash q := by
  have hchars : q.toList ≠ [] := by simpa using hq
  unfold endsInSlash
  rw [String.toList_append, List.getLast?_append_of_ne_nil _ hchars]

theorem isAbsolute_join (hrelative : isAbsolute q = false) :
    isAbsolute (join p q) = isAbsolute p := by
  rcases join_cases (p := p) hrelative with ⟨rfl, hjoin⟩ | ⟨hslash, hjoin⟩ | ⟨hp, -, hjoin⟩
  · rw [hjoin, hrelative]
    rfl
  · have hp : p ≠ "" := by
      rintro rfl
      cases hslash
    rw [hjoin, isAbsolute_append hp]
  · rw [hjoin, String.append_assoc, isAbsolute_append hp]

theorem endsInSlash_join (hrelative : isAbsolute q = false) (hq : q ≠ "") :
    endsInSlash (join p q) = endsInSlash q := by
  rcases join_cases (p := p) hrelative with ⟨-, hjoin⟩ | ⟨-, hjoin⟩ | ⟨-, -, hjoin⟩
  · rw [hjoin]
  · rw [hjoin, endsInSlash_append hq]
  · rw [hjoin, endsInSlash_append hq]

theorem endsInSlash_of_names_eq_nil (h : names q = []) : endsInSlash (p ++ "/" ++ q) = true := by
  have hpieces : ∀ piece ∈ Text.splitChars '/' q.toList, piece = [] := by
    simpa [names, Text.split, List.filter_eq_nil_iff] using h
  have hchars := Text.eq_separator_of_splitChars hpieces
  by_cases hq : q = ""
  · subst hq
    rw [String.append_empty, endsInSlash_append (by decide)]
    rfl
  · have hne : q.toList ≠ [] := by simpa using hq
    have hlast : q.toList.getLast hne = '/' := hchars _ (List.getLast_mem hne)
    rw [endsInSlash_append hq]
    simp [endsInSlash, List.getLast?_eq_some_getLast hne, hlast]

theorem utf8ByteSize_join_le (p q : String) :
    (join p q).utf8ByteSize ≤ p.utf8ByteSize + 1 + q.utf8ByteSize := by
  have hslash : ("/" : String).utf8ByteSize = 1 := rfl
  unfold join
  split
  · omega
  · split
    · rw [String.utf8ByteSize_append]
      omega
    · rw [String.utf8ByteSize_append, String.utf8ByteSize_append]
      omega

theorem join_ne_empty (hq : q ≠ "") : join p q ≠ "" := by
  unfold join
  split
  · exact hq
  · split <;> simp [hq]

theorem mem_join {c : Char} (h : c ∈ (join p q).toList) :
    c ∈ p.toList ∨ c = '/' ∨ c ∈ q.toList := by
  unfold join at h
  split at h
  · exact .inr (.inr h)
  · split at h
    · rcases List.mem_append.1 (String.toList_append ▸ h) with hp | hq
      · exact .inl hp
      · exact .inr (.inr hq)
    · simpa using h

/-- Joined to the same directory, relative paths stay different. -/
theorem join_injective (hp : isAbsolute q = false) (hname : isAbsolute name = false)
    (h : join p q = join p name) : q = name := by
  unfold join at h
  rw [hp, hname] at h
  split at h
  · exact h
  · split at h
    · exact String.append_right_inj _ |>.1 h
    · exact String.append_right_inj _ |>.1 h

end Path

end ImagePrompt
