import ImagePrompt.Json.Printer
import Mathlib.Data.Nat.Digits.Defs
/-!
# The characters of written numbers

A number is written with digits, a point, signs and the letter of an exponent,
in all of its formats.
-/

namespace ImagePrompt

/-- A character that numbers are written with. -/
def InNumber (c : Char) : Prop := c.isDigit = true ∨ c ∈ ['.', '-', '+', 'e']

variable {c : Char}

theorem inNumber_of_mem_toDigits {n : Nat} (h : c ∈ Nat.toDigits 10 n) : InNumber c :=
  .inl (Nat.isDigit_of_mem_toDigits (by decide) (by decide) h)

namespace Decimal

variable {d : Decimal}

theorem inNumber_of_mem_text (h : c ∈ d.text) : InNumber c := inNumber_of_mem_toDigits h

theorem inNumber_of_mem_replicate {n : Nat} (h : c ∈ List.replicate n '0') : InNumber c := by
  rw [List.eq_of_mem_replicate h]
  exact .inl (by decide)

theorem inNumber_of_mem_positional (h : c ∈ d.positional) : InNumber c := by
  unfold positional at h
  simp only at h
  split at h
  · rcases List.mem_append.1 h with h | h
    · exact inNumber_of_mem_text h
    · exact inNumber_of_mem_replicate h
  · split at h
    · rcases List.mem_append.1 h with h | h
      · exact inNumber_of_mem_text (List.mem_of_mem_take h)
      · rcases List.mem_cons.1 h with rfl | h
        · exact .inr (by decide)
        · exact inNumber_of_mem_text (List.mem_of_mem_drop h)
    · rcases List.mem_append.1 h with h | h
      · rcases List.mem_cons.1 h with rfl | h
        · exact .inl (by decide)
        · rcases List.mem_cons.1 h with rfl | h
          · exact .inr (by decide)
          · exact inNumber_of_mem_replicate h
      · exact inNumber_of_mem_text h

theorem inNumber_of_mem_scientific (h : c ∈ d.scientific) : InNumber c := by
  unfold scientific at h
  simp only at h
  rcases List.mem_append.1 h with h | h
  · have htext : ∀ b ∈ d.text, InNumber b := fun b hb => inNumber_of_mem_text hb
    split at h
    · cases h
    · next b heq =>
      rw [heq] at htext
      exact htext c h
    · next b bs _ heq =>
      rw [heq] at htext
      rcases List.mem_cons.1 h with rfl | h
      · exact htext c List.mem_cons_self
      · rcases List.mem_cons.1 h with rfl | h
        · exact .inr (by decide)
        · exact htext c (List.mem_cons_of_mem _ h)
  · rcases List.mem_cons.1 h with rfl | h
    · exact .inr (by decide)
    · rcases List.mem_cons.1 h with rfl | h
      · split <;> exact .inr (by decide)
      · exact inNumber_of_mem_toDigits h

end Decimal

theorem Binary64.inNumber_of_mem_sign {x : Binary64} (h : c ∈ x.sign) : InNumber c := by
  unfold sign at h
  split at h
  · rw [List.mem_singleton.1 h]
    exact .inr (by decide)
  · cases h

theorem Binary64.inNumber_of_mem_display {x : Binary64} (h : c ∈ x.display.toList) :
    InNumber c := by
  rw [display, String.toList_ofList] at h
  rcases List.mem_append.1 h with h | h
  · exact inNumber_of_mem_sign h
  · exact Decimal.inNumber_of_mem_positional h

namespace Json

theorem inNumber_of_mem_realText {x : Binary64} (h : c ∈ realText x) : InNumber c := by
  unfold realText at h
  rcases List.mem_append.1 h with h | h
  · exact Binary64.inNumber_of_mem_sign h
  · split at h
    · exact Decimal.inNumber_of_mem_scientific h
    · split at h
      · rcases List.mem_append.1 h with h | h
        · exact Decimal.inNumber_of_mem_positional h
        · rcases List.mem_cons.1 h with rfl | h
          · exact .inr (by decide)
          · rw [List.mem_singleton.1 h]
            exact .inl (by decide)
      · exact Decimal.inNumber_of_mem_positional h

theorem inNumber_of_mem_integerText {n : Int} (h : c ∈ integerText n) : InNumber c := by
  unfold integerText at h
  split at h
  · rcases List.mem_cons.1 h with rfl | h
    · exact .inr (by decide)
    · exact inNumber_of_mem_toDigits h
  · exact inNumber_of_mem_toDigits h

theorem Number.inNumber_of_mem_text {n : Number} (h : c ∈ n.text.toList) : InNumber c := by
  rw [Number.text, String.toList_ofList] at h
  cases n with
  | integer n => exact inNumber_of_mem_integerText h
  | real x => exact inNumber_of_mem_realText h

end Json

end ImagePrompt
