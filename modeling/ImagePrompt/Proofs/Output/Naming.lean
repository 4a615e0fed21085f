import ImagePrompt.Output.Naming
import ImagePrompt.Proofs.FileSystem.Entry
import ImagePrompt.Proofs.Text.Utf8
import Std.Data.String.ToNat
/-!
# The names that a picture may take

Different attempts have different names, and each name that is not too long
stands for an entry of the output directory.
-/

namespace ImagePrompt

theorem isDigit_of_mem_toString {m : Nat} {c : Char} (h : c ∈ (toString m).toList) :
    c.isDigit = true :=
  Nat.isDigit_of_mem_toDigits (b := 10) (n := m) (by decide) (by decide) (by simpa using h)

namespace Timestamp

theorem isDigit_of_mem_padded {width m : Nat} {c : Char} (h : c ∈ (padded width m).toList) :
    c.isDigit = true := by
  have hparts : c ∈ List.replicate (width - (toString m).length) '0' ∨ c ∈ (toString m).toList := by
    simpa [padded] using h
  rcases hparts with hzero | hdigits
  · obtain rfl := List.eq_of_mem_replicate hzero
    rfl
  · exact isDigit_of_mem_toString hdigits

theorem mem_text {t : Timestamp} {c : Char} (h : c ∈ t.text.toList) :
    c.isDigit = true ∨ c = '_' := by
  have hparts : c ∈ (padded 4 t.year).toList ∨ c ∈ (padded 2 t.month).toList ∨
      c ∈ (padded 2 t.day).toList ∨ c = '_' ∨ c ∈ (padded 2 t.hour).toList ∨
      c ∈ (padded 2 t.minute).toList ∨ c ∈ (padded 2 t.second).toList := by
    simpa [text, or_assoc] using h
  rcases hparts with h | h | h | h | h | h | h
  case inr.inr.inr.inl => exact .inr h
  all_goals exact .inl (isDigit_of_mem_padded h)

end Timestamp

namespace OutputName

variable {n : OutputName} {a b attempt : Nat} {c : Char}

/-- What an attempt puts behind the stem. -/
def suffix (attempt : Nat) : String := if attempt = 0 then "" else "_" ++ toString attempt

theorem file_eq (n : OutputName) (attempt : Nat) :
    n.file attempt = n.stem ++ suffix attempt ++ "." ++ n.extension := rfl

theorem suffix_injective (h : suffix a = suffix b) : a = b := by
  have hne : ∀ m : Nat, "_" ++ toString m ≠ "" := by
    intro m hm
    have hchars := congrArg String.toList hm
    simp at hchars
  unfold suffix at h
  split at h <;> split at h
  · omega
  · exact absurd h.symm (hne b)
  · exact absurd h (hne a)
  · exact Nat.repr_injective ((String.append_right_inj "_").1 h)

theorem file_injective (h : n.file a = n.file b) : a = b := by
  rw [file_eq, file_eq, String.append_left_inj, String.append_left_inj,
    String.append_right_inj] at h
  exact suffix_injective h

theorem toList_file (n : OutputName) (attempt : Nat) :
    ∃ cs, (n.file attempt).toList = 'g' :: cs := by
  simp [file_eq, stem]

theorem file_ne (n : OutputName) (attempt : Nat) {other : String}
    (h : other.toList.head? ≠ some 'g') : n.file attempt ≠ other := by
  obtain ⟨cs, hchars⟩ := n.toList_file attempt
  rintro rfl
  exact h (by rw [hchars]; rfl)

theorem relative_file (n : OutputName) (attempt : Nat) :
    Path.isAbsolute (n.file attempt) = false := by
  obtain ⟨cs, hchars⟩ := n.toList_file attempt
  simp [Path.isAbsolute, hchars]

theorem path_injective (h : n.path a = n.path b) : a = b :=
  file_injective (Path.join_injective (n.relative_file a) (n.relative_file b) h)

theorem mem_suffix (h : c ∈ (suffix attempt).toList) : c.isDigit = true ∨ c = '_' := by
  unfold suffix at h
  split at h
  · simp at h
  · rw [String.toList_append] at h
    rcases List.mem_append.1 h with hunder | hdigits
    · exact .inr (List.mem_singleton.1 hunder)
    · exact .inl (isDigit_of_mem_toString hdigits)

theorem mem_file (h : c ∈ (n.file attempt).toList) :
    c.isDigit = true ∨ c ∈ "generated_.".toList ∨ c ∈ n.extension.toList := by
  have hparts : c ∈ "generated_".toList ∨ c ∈ n.time.text.toList ∨
      c ∈ (suffix attempt).toList ∨ c = '.' ∨ c ∈ n.extension.toList := by
    simpa [file_eq, stem, or_assoc] using h
  have hdigit : c.isDigit = true ∨ c = '_' →
      c.isDigit = true ∨ c ∈ "generated_.".toList ∨ c ∈ n.extension.toList := by
    rintro (hdigit | rfl)
    · exact .inl hdigit
    · exact .inr (.inl (by decide))
  rcases hparts with hletter | htime | hsuffix | rfl | hextension
  · exact .inr (.inl (List.mem_append_left ['.'] hletter))
  · exact hdigit (Timestamp.mem_text htime)
  · exact hdigit (mem_suffix hsuffix)
  · exact .inr (.inl (by decide))
  · exact .inr (.inr hextension)

theorem utf8ByteSize_suffix_le (h : attempt < limit) : (suffix attempt).utf8ByteSize ≤ 5 := by
  unfold suffix
  split
  · decide
  · have hascii : Text.Utf8.IsAscii (toString attempt).toList := by
      intro c hc
      have hdigit := Char.isDigit_iff_toNat.1 (isDigit_of_mem_toString hc)
      exact Nat.lt_of_le_of_lt hdigit.2 (by decide)
    have hlength : (toString attempt).length ≤ 4 := by
      rw [Nat.toString_eq_repr, Nat.length_repr_le_iff (by decide)]
      exact h
    have hsize := Text.Utf8.utf8ByteSize_of_ascii hascii
    have hunder : ("_" : String).utf8ByteSize = 1 := rfl
    rw [String.utf8ByteSize_append]
    omega

/-- The names can stand in a directory, and their paths are not too long. -/
structure Fits (n : OutputName) : Prop where
  unslashed : '/' ∉ n.extension.toList
  extension : '\x00' ∉ n.extension.toList
  directory : '\x00' ∉ n.directory.toList
  short : n.stem.utf8ByteSize + n.extension.utf8ByteSize + 6 ≤ 255
  path : n.directory.utf8ByteSize + n.stem.utf8ByteSize + n.extension.utf8ByteSize + 7 < 4096

namespace Fits

theorem utf8ByteSize_file_le (h : attempt < limit) :
    (n.file attempt).utf8ByteSize ≤ n.stem.utf8ByteSize + n.extension.utf8ByteSize + 6 := by
  have hsuffix := utf8ByteSize_suffix_le h
  have hdot : (".": String).utf8ByteSize = 1 := rfl
  rw [file_eq, String.utf8ByteSize_append, String.utf8ByteSize_append, String.utf8ByteSize_append]
  omega

theorem unslashed_file (hfits : n.Fits) (attempt : Nat) : '/' ∉ (n.file attempt).toList := by
  intro hslash
  rcases mem_file hslash with hdigit | hletter | hextension
  · cases hdigit
  · exact absurd hletter (by decide)
  · exact hfits.unslashed hextension

theorem checkPath_path (hfits : n.Fits) (h : attempt < limit) :
    FileSystem.checkPath (n.path attempt) = .ok () := by
  have hfile := utf8ByteSize_file_le (n := n) h
  have hjoin := Path.utf8ByteSize_join_le n.directory (n.file attempt)
  have hpath := hfits.path
  have hsize : ¬ 4096 ≤ (n.path attempt).utf8ByteSize := by
    unfold OutputName.path
    omega
  have hnul : '\x00' ∉ (n.path attempt).toList := by
    intro hnul
    rcases Path.mem_join hnul with hdirectory | hslash | hname
    · exact hfits.directory hdirectory
    · cases hslash
    · rcases mem_file hname with hdigit | hletter | hextension
      · cases hdigit
      · exact absurd hletter (by decide)
      · exact hfits.extension hextension
  have hempty : n.path attempt ≠ "" := Path.join_ne_empty (n.file_ne attempt (by decide))
  unfold FileSystem.checkPath
  simp [hempty, hnul, hsize]

/-- The names of a writer are entries of its directory. -/
theorem place? {fs : FileSystem} {top : Location} (hfits : n.Fits)
    (hopens : fs.Opens n.directory top) (h : attempt < limit) :
    fs.place? (n.path attempt) = some (top ++ [n.file attempt]) := by
  have hshort := Nat.le_trans (utf8ByteSize_file_le h) hfits.short
  have hname : FileSystem.NodeName (n.file attempt) :=
    ⟨n.file_ne attempt (by decide), n.file_ne attempt (by decide), hshort⟩
  exact hopens.place?_join hname (n.file_ne attempt (by decide)) (hfits.unslashed_file attempt)
    (hfits.checkPath_path h)

end Fits

end OutputName

end ImagePrompt
