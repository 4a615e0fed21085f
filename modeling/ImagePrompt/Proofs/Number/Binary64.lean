import ImagePrompt.Json.Value
import Mathlib.Algebra.Order.Field.Power
import Mathlib.Algebra.Order.Ring.Rat
import Mathlib.Data.Nat.Log
import Mathlib.Tactic.Linarith
import Mathlib.Tactic.NormNum
import Mathlib.Tactic.Positivity
import Mathlib.Tactic.Ring
/-!
# The value of a floating-point number

Each finite number is a rational one, its order is theirs, and an integer of
fewer than 54 binary digits is a floating-point number itself.
-/

namespace ImagePrompt.Binary64

def magnitude (x : Binary64) : ℚ := x.significand * 2 ^ x.exponent

def toRat (x : Binary64) : ℚ := if x.negative then -x.magnitude else x.magnitude

theorem toRat_eq_inUnits {x : Binary64} {e : Int} (h : e ≤ x.exponent) :
    x.toRat = x.inUnits e * 2 ^ e := by
  obtain ⟨k, hk⟩ : ∃ k : Nat, x.exponent - e = k := ⟨_, (Int.toNat_of_nonneg (by omega)).symm⟩
  have hpow : (2 : ℚ) ^ x.exponent = 2 ^ k * 2 ^ e := by
    rw [show x.exponent = k + e by omega, zpow_add₀ two_ne_zero, zpow_natCast]
  unfold toRat magnitude inUnits
  rw [hk, Int.toNat_natCast, Nat.shiftLeft_eq, hpow]
  cases x.negative
  · rw [if_neg Bool.false_ne_true, if_neg Bool.false_ne_true]
    push_cast
    ring
  · rw [if_pos rfl, if_pos rfl]
    push_cast
    ring

theorem le_iff {x y : Binary64} : x.le y = true ↔ x.toRat ≤ y.toRat := by
  have hpos : (0 : ℚ) < 2 ^ min x.exponent y.exponent := by positivity
  rw [toRat_eq_inUnits (min_le_left x.exponent y.exponent),
    toRat_eq_inUnits (min_le_right x.exponent y.exponent), mul_le_mul_iff_of_pos_right hpos]
  unfold le
  rw [decide_eq_true_iff]
  exact Int.cast_le.symm

theorem toRat_zero (negative : Bool) : (zero negative).toRat = 0 := by
  cases negative <;> simp [toRat, magnitude, zero]

/-! ## Integers -/

section OfInt

variable {n : Nat}

theorem rescale_of_nonneg {e : Int} (h : 0 ≤ e) : rescale n 1 e = (n, 2 ^ e.toNat) := by
  unfold rescale
  rw [if_pos h, Nat.one_shiftLeft]

theorem rescale_of_neg {e : Int} (h : e < 0) : rescale n 1 e = (n * 2 ^ (-e).toNat, 1) := by
  unfold rescale
  rw [if_neg (not_le.2 h), Nat.shiftLeft_eq]

/-- With the first 53 binary digits of an integer in front of the point, the quotient is large. -/
theorem two_pow_le_rescale (hn : n ≠ 0) :
    2 ^ 52 ≤ (rescale n 1 ((n.log2 : Int) - 52)).1 / (rescale n 1 ((n.log2 : Int) - 52)).2 := by
  have hlow : 2 ^ n.log2 ≤ n := Nat.log2_self_le hn
  by_cases h : 52 ≤ n.log2
  · have htoNat : ((n.log2 : Int) - 52).toNat = n.log2 - 52 := by omega
    have hsplit : 2 ^ 52 * 2 ^ (n.log2 - 52) = 2 ^ n.log2 := by rw [← pow_add]; congr 1; omega
    rw [rescale_of_nonneg (by omega), htoNat, Nat.le_div_iff_mul_le (by positivity), hsplit]
    exact hlow
  · have htoNat : (-((n.log2 : Int) - 52)).toNat = 52 - n.log2 := by omega
    have hsplit : 2 ^ n.log2 * 2 ^ (52 - n.log2) = 2 ^ 52 := by rw [← pow_add]; congr 1; omega
    rw [rescale_of_neg (by omega), htoNat, Nat.div_one, ← hsplit]
    exact Nat.mul_le_mul_right _ hlow

theorem naturalExponent_one (hn : n ≠ 0) : naturalExponent n 1 = (n.log2 : Int) - 52 := by
  have hone : Nat.log2 1 = 0 := by decide
  unfold naturalExponent
  simp only [hone, Nat.cast_zero, sub_zero, Nat.pow_eq]
  rw [if_pos (two_pow_le_rescale hn)]

theorem nearestEven_one (n : Nat) : nearestEven n 1 = n := by
  simp [nearestEven, Nat.mod_one]

theorem le_nearestEven (n d : Nat) : n / d ≤ nearestEven n d := by
  simp only [nearestEven]
  split_ifs <;> omega

/-- An integer as a number, by its first 53 binary digits `q`, perhaps with a carry. -/
theorem ofRatio_one (negative : Bool) (hn : n ≠ 0) (h : n.log2 < 1000) :
    ∃ q, q = nearestEven (rescale n 1 ((n.log2 : Int) - 52)).1
          (rescale n 1 ((n.log2 : Int) - 52)).2 ∧ 2 ^ 52 ≤ q ∧
      ofRatio negative n 1 =
        some (if q = 2 ^ 53 then ⟨negative, 2 ^ 52, (n.log2 : Int) - 52 + 1⟩
          else ⟨negative, q, (n.log2 : Int) - 52⟩) := by
  have hexponent : max minExponent ((n.log2 : Int) - 52) = (n.log2 : Int) - 52 := by
    unfold minExponent
    omega
  refine ⟨_, rfl, (two_pow_le_rescale hn).trans (le_nearestEven _ _), ?_⟩
  unfold ofRatio
  rw [if_neg (by simpa using hn), naturalExponent_one hn, hexponent]
  simp only [beq_iff_eq, Nat.pow_eq]
  rw [if_neg]
  unfold maxExponent
  split_ifs <;> dsimp only <;> omega

theorem ofRatio_of_small (negative : Bool) (hn : n ≠ 0) (h : n < 2 ^ 53) :
    ofRatio negative n 1 =
      some ⟨negative, n * 2 ^ (52 - n.log2), (n.log2 : Int) - 52⟩ := by
  have hlog : n.log2 < 53 := (Nat.log2_lt hn).2 h
  have hscaled : n * 2 ^ (52 - n.log2) < 2 ^ 53 := by
    calc n * 2 ^ (52 - n.log2)
        < 2 ^ (n.log2 + 1) * 2 ^ (52 - n.log2) :=
          Nat.mul_lt_mul_of_pos_right Nat.lt_log2_self (by positivity)
      _ = 2 ^ 53 := by rw [← pow_add]; congr 1; omega
  have hrescale : rescale n 1 ((n.log2 : Int) - 52) = (n * 2 ^ (52 - n.log2), 1) := by
    by_cases hlarge : n.log2 = 52
    · rw [rescale_of_nonneg (by omega), hlarge]
      simp
    · rw [rescale_of_neg (by omega)]
      congr 3
      omega
  obtain ⟨q, hq, -, hofRatio⟩ := ofRatio_one negative hn (by omega)
  rw [hrescale, nearestEven_one] at hq
  subst hq
  rw [hofRatio, if_neg hscaled.ne]

theorem ofRatio_of_large (negative : Bool) (h : 2 ^ 53 ≤ n) (hlog : n.log2 < 1000) :
    ∃ q e, ofRatio negative n 1 = some ⟨negative, q, e⟩ ∧ 2 ^ 52 ≤ q ∧ 0 ≤ e := by
  have hn : n ≠ 0 := by omega
  have hlow : 53 ≤ n.log2 := (Nat.le_log2 hn).2 h
  obtain ⟨q, -, hq, hofRatio⟩ := ofRatio_one negative hn hlog
  by_cases hcarry : q = 2 ^ 53
  · rw [if_pos hcarry] at hofRatio
    exact ⟨_, _, hofRatio, le_rfl, by omega⟩
  · rw [if_neg hcarry] at hofRatio
    exact ⟨_, _, hofRatio, hq, by omega⟩

theorem toRat_ofInt {n : Int} (h : n.natAbs < 2 ^ 53) : (ofInt n).toRat = n := by
  by_cases hn : n = 0
  · subst hn
    exact toRat_zero false
  · have hlog : n.natAbs.log2 < 53 := (Nat.log2_lt (by omega)).2 h
    have hunit : ((2 ^ (52 - n.natAbs.log2) : Nat) : ℚ) * 2 ^ ((n.natAbs.log2 : Int) - 52) = 1 := by
      rw [Nat.cast_pow, Nat.cast_ofNat, ← zpow_natCast, ← zpow_add₀ two_ne_zero]
      rw [show ((52 - n.natAbs.log2 : Nat) : Int) + ((n.natAbs.log2 : Int) - 52) = 0 by omega,
        zpow_zero]
    unfold ofInt toRat magnitude
    rw [ofRatio_of_small _ (by omega) h, Option.getD_some, Nat.cast_mul, mul_assoc, hunit, mul_one,
      Nat.cast_natAbs]
    by_cases hneg : n < 0
    · rw [if_pos (by simpa using hneg), abs_of_neg hneg]
      push_cast
      ring
    · rw [if_neg (by simpa using hneg), abs_of_nonneg (not_lt.1 hneg)]

theorem between_iff {x : Binary64} {high : Nat} (hhigh : high < 2 ^ 53) :
    ((zero false).le x && x.le (ofInt high)) = true ↔ 0 ≤ x.toRat ∧ x.toRat ≤ high := by
  rw [Bool.and_eq_true, le_iff, le_iff, toRat_zero, toRat_ofInt (by simpa using hhigh)]
  simp

/-- An integer of more than 53 binary digits may be rounded, but stays on its side of zero and far
from it. -/
theorem toRat_ofInt_of_large {n : Int} (h : 2 ^ 53 ≤ n.natAbs) (hlog : n.natAbs.log2 < 1000) :
    ∃ m : ℚ, 2 ^ 52 ≤ m ∧ (ofInt n).toRat = if n < 0 then -m else m := by
  obtain ⟨q, e, hofRatio, hq, he⟩ := ofRatio_of_large (decide (n < 0)) h hlog
  refine ⟨q * 2 ^ e, ?_, ?_⟩
  · have hq' : (2 : ℚ) ^ 52 ≤ q := by exact_mod_cast hq
    have he' : (1 : ℚ) ≤ 2 ^ e := one_le_zpow₀ one_le_two he
    calc (2 : ℚ) ^ 52 = 2 ^ 52 * 1 := (mul_one _).symm
      _ ≤ q * 2 ^ e := by gcongr
  · unfold ofInt toRat magnitude
    rw [hofRatio, Option.getD_some]
    simp only [decide_eq_true_eq]

/-- Rounding moves no integer of 64 bits over a small bound. -/
theorem toRat_ofInt_between {n : Int} {high : Nat} (hn : n.natAbs.log2 < 1000)
    (hhigh : high < 2 ^ 52) :
    0 ≤ (ofInt n).toRat ∧ (ofInt n).toRat ≤ high ↔ 0 ≤ (n : ℚ) ∧ (n : ℚ) ≤ high := by
  by_cases hsmall : n.natAbs < 2 ^ 53
  · rw [toRat_ofInt hsmall]
  · obtain ⟨m, hm, heq⟩ := toRat_ofInt_of_large (not_lt.1 hsmall) hn
    have hhigh' : (high : ℚ) < 2 ^ 52 := by exact_mod_cast hhigh
    rw [heq]
    by_cases hneg : n < 0
    · have hneg' : (n : ℚ) < 0 := by exact_mod_cast hneg
      rw [if_pos hneg]
      constructor
      · intro h
        linarith [h.1]
      · intro h
        linarith [h.1]
    · have hlarge : (2 : ℚ) ^ 53 ≤ n := by
        have : (2 : Int) ^ 53 ≤ n := by omega
        exact_mod_cast this
      rw [if_neg hneg]
      constructor
      · intro h
        linarith [h.2]
      · intro h
        linarith [h.2]

end OfInt

end ImagePrompt.Binary64
