import ImagePrompt.Json.Parser
import ImagePrompt.Json.Printer
import ImagePrompt.Proofs.Json.Value
import Mathlib.Data.Nat.Digits.Defs
/-!
# Numbers and strings read back

The reader of numbers takes up the digits of a printed integer, and the reader
of strings undoes each escape, whatever text comes behind.
-/

namespace ImagePrompt.Json.Parser

/-! ## Numbers -/

/-- A text that does not go on with the number in front of it. -/
def EndsNumber (rest : List Char) : Prop :=
  ∀ c ∈ rest.head?, c.isDigit = false ∧ c ≠ '.' ∧ c ≠ 'e' ∧ c ≠ 'E'

theorem endsNumber_nil : EndsNumber [] := by simp [EndsNumber]

theorem endsNumber_cons {c : Char} {rest : List Char}
    (h : c.isDigit = false ∧ c ≠ '.' ∧ c ≠ 'e' ∧ c ≠ 'E') : EndsNumber (c :: rest) := by
  simpa [EndsNumber] using h

theorem le_ofDigitChars (digits : List Char) (n : Nat) : n ≤ Nat.ofDigitChars 10 digits n := by
  induction digits generalizing n with
  | nil => exact le_rfl
  | cons c cs ih =>
    calc n
      _ ≤ 10 * n + (c.toNat - '0'.toNat) := by omega
      _ ≤ Nat.ofDigitChars 10 (c :: cs) n := ih _

/-- Digits are taken up to the last one as long as their value has 64 bits. -/
theorem absorb_eq {digits : List Char} {n : Nat} (h : Nat.ofDigitChars 10 digits n < 2 ^ 64) :
    absorb n digits = (Nat.ofDigitChars 10 digits n, digits.length) := by
  induction digits generalizing n with
  | nil => rfl
  | cons c cs ih =>
    have hvalue : n * 10 + digitValue c = 10 * n + (c.toNat - '0'.toNat) := by
      rw [digitValue, Nat.mul_comm]
    have hnext : 10 * n + (c.toNat - '0'.toNat) < 2 ^ 64 := (le_ofDigitChars cs _).trans_lt h
    rw [absorb, Nat.pow_eq, hvalue, if_pos hnext, ih h]
    rfl

theorem absorb_toDigits {n : Nat} (h : n < 2 ^ 64) :
    absorb 0 (Nat.toDigits 10 n) = (n, (Nat.toDigits 10 n).length) := by
  have hvalue : Nat.ofDigitChars 10 (Nat.toDigits 10 n) 0 = n := Nat.ofDigitChars_ten_toDigits
  have habsorb := absorb_eq (hvalue.symm ▸ h)
  rwa [hvalue] at habsorb

theorem head?_toDigits {n : Nat} (h : 0 < n) : (Nat.toDigits 10 n).head? ≠ some '0' := by
  induction n using Nat.strong_induction_on with
  | _ n ih =>
    by_cases hsmall : n < 10
    · rw [Nat.toDigits_of_lt_base hsmall]
      intro hzero
      have hdigit : n.digitChar.toNat = 48 + n := Nat.toNat_digitChar_of_lt_ten hsmall
      rw [Option.some.inj hzero] at hdigit
      have hvalue : '0'.toNat = 48 := rfl
      omega
    · rw [Nat.toDigits_of_base_le (by decide) (Nat.not_lt.1 hsmall),
        List.head?_append_of_ne_nil _ Nat.toDigits_ne_nil]
      exact ih (n / 10) (by omega) (by omega)

/-- The first digit decides how the digits of a number are told from what follows. -/
theorem exists_toDigits_eq_cons (n : Nat) :
    ∃ c cs, Nat.toDigits 10 n = c :: cs ∧ c.isDigit = true ∧ (c = '0' → cs = []) := by
  obtain ⟨c, cs, hdigits⟩ := List.exists_cons_of_ne_nil (Nat.toDigits_ne_nil (n := n) (b := 10))
  have hc : c.isDigit = true := by
    refine Nat.isDigit_of_mem_toDigits (b := 10) (n := n) (by decide) (by decide) ?_
    rw [hdigits]
    exact List.mem_cons_self
  refine ⟨c, cs, hdigits, hc, ?_⟩
  rintro rfl
  by_cases hn : 0 < n
  · have hhead := head?_toDigits hn
    rw [hdigits] at hhead
    exact absurd rfl hhead
  · obtain rfl := Nat.eq_zero_of_not_pos hn
    rw [Nat.toDigits_zero] at hdigits
    exact (List.cons_eq_cons.1 hdigits).2.symm

theorem takeWhile_digits {digits rest : List Char} (hdigits : ∀ d ∈ digits, d.isDigit = true)
    (hrest : EndsNumber rest) :
    (digits ++ rest).takeWhile Char.isDigit = digits ∧
      (digits ++ rest).dropWhile Char.isDigit = rest := by
  rw [List.takeWhile_append_of_pos hdigits, List.dropWhile_append_of_pos hdigits]
  cases rest with
  | nil => simp
  | cons c cs => simp [(hrest c rfl).1]

/-- An integer is read up to the end of its digits, and exactly. -/
theorem number_toDigits {n : Nat} {negative : Bool} {rest : List Char} (hn : n < 2 ^ 64)
    (hrest : EndsNumber rest) :
    number negative (Nat.toDigits 10 n ++ rest) = .ok (integerOf negative n, rest) := by
  obtain ⟨c, cs, hdigits, hc, hzero⟩ := exists_toDigits_eq_cons n
  have hall : ∀ d ∈ Nat.toDigits 10 n, d.isDigit = true := fun d hd =>
    Nat.isDigit_of_mem_toDigits (by decide) (by decide) hd
  obtain ⟨htake, hdrop⟩ := takeWhile_digits hall hrest
  have habsorb := absorb_toDigits hn
  rw [hdigits] at htake hdrop habsorb
  have hwhole :
      (if c == '0' then [c] else (c :: (cs ++ rest)).takeWhile Char.isDigit) = c :: cs := by
    by_cases h : c = '0'
    · rw [if_pos (beq_iff_eq.2 h), hzero h]
    · rw [if_neg (by simpa using h)]
      exact htake
  have hafter : (if c == '0' then cs ++ rest else (c :: (cs ++ rest)).dropWhile Char.isDigit) =
      rest := by
    by_cases h : c = '0'
    · rw [if_pos (beq_iff_eq.2 h), hzero h, List.nil_append]
    · rw [if_neg (by simpa using h)]
      exact hdrop
  rw [hdigits, List.cons_append, number]
  simp only [hc, Bool.not_true, Bool.false_eq_true, if_false, hwhole, hafter, habsorb, Nat.sub_self]
  cases rest with
  | nil => rfl
  | cons d after =>
    obtain ⟨hdigit, hdot, he, hE⟩ := hrest d rfl
    simp [hdigit, hdot, he, hE]

theorem natAbs_lt_of_bounded {n : Int} (h : (Number.integer n).Bounded) : n.natAbs < 2 ^ 64 := by
  obtain ⟨hlow, hhigh⟩ := h
  omega

theorem integerOf_nonneg {n : Int} (h : 0 ≤ n) : integerOf false n.natAbs = .integer n := by
  have habs : (n.natAbs : Int) = n := Int.natAbs_of_nonneg h
  rw [← habs]
  rfl

theorem integerOf_neg {n : Int} (h : (Number.integer n).Bounded) (hneg : n < 0) :
    integerOf true n.natAbs = .integer n := by
  obtain ⟨hlow, -⟩ := h
  have hexact : ¬ (n.natAbs == 0 || decide (Nat.pow 2 63 < n.natAbs)) = true := by
    rw [Nat.pow_eq, Bool.or_eq_true, beq_iff_eq, decide_eq_true_iff]
    omega
  have habs : -(n.natAbs : Int) = n := by omega
  rw [integerOf, if_pos rfl, if_neg hexact, habs]

/-! ## Strings -/

theorem hexValue?_hexDigit : ∀ n < 16, hexValue? (hexDigit n) = some n := by decide

theorem stringBody_hex {c : Char} {rest : List Char} (h : c.toNat < 0x20) :
    stringBody .plain ('\\' :: 'u' :: '0' :: '0' :: hexDigit (c.toNat / 16) ::
        hexDigit (c.toNat % 16) :: rest) =
      stringBody.push c (stringBody .plain rest) := by
  have hhigh := hexValue?_hexDigit (c.toNat / 16) (by omega)
  have hlow := hexValue?_hexDigit (c.toNat % 16) (by omega)
  have hzero : hexValue? '0' = some 0 := by decide
  have hnumber :
      hexNumber [hexDigit (c.toNat % 16), hexDigit (c.toNat / 16), '0', '0'] = c.toNat := by
    simp only [hexNumber, hhigh, hlow, hzero, Option.getD_some]
    omega
  have hfinish : finishHex none c.toNat rest = .ok (.plain, some c) := by
    have hlone : ¬ (0xdc00 ≤ c.toNat && c.toNat ≤ 0xdfff) = true := by simp; omega
    have hpair : ¬ (0xd800 ≤ c.toNat && c.toNat ≤ 0xdbff) = true := by simp; omega
    simp only [finishHex, if_neg hlone, if_neg hpair, Char.ofNat_toNat]
  have hbackslash : ('\\' == '"') = false := rfl
  simp [stringBody, hzero, hhigh, hlow, hnumber, hfinish]

theorem stringBody_simpleEscape {c l : Char} {rest : List Char} (hl : (l == 'u') = false)
    (h : simpleEscape? l = some c) :
    stringBody .plain ('\\' :: l :: rest) = stringBody.push c (stringBody .plain rest) := by
  simp [stringBody, hl, h]

theorem simpleEscape?_of_toNat {c l : Char} {n : Nat} (hc : (c.toNat == n) = true)
    (h : simpleEscape? l = some (Char.ofNat n)) : simpleEscape? l = some c := by
  rw [h, ← eq_of_beq hc, Char.ofNat_toNat]

theorem stringBody_escapeChar (c : Char) (rest : List Char) :
    stringBody .plain (escapeChar c ++ rest) = stringBody.push c (stringBody .plain rest) := by
  unfold escapeChar
  split_ifs with hquote hbackslash h8 h9 h10 h12 h13 hcontrol
  · obtain rfl := eq_of_beq hquote
    exact stringBody_simpleEscape rfl rfl
  · obtain rfl := eq_of_beq hbackslash
    exact stringBody_simpleEscape rfl rfl
  · exact stringBody_simpleEscape rfl (simpleEscape?_of_toNat h8 rfl)
  · exact stringBody_simpleEscape rfl (simpleEscape?_of_toNat h9 rfl)
  · exact stringBody_simpleEscape rfl (simpleEscape?_of_toNat h10 rfl)
  · exact stringBody_simpleEscape rfl (simpleEscape?_of_toNat h12 rfl)
  · exact stringBody_simpleEscape rfl (simpleEscape?_of_toNat h13 rfl)
  · exact stringBody_hex hcontrol
  · rw [List.singleton_append, stringBody, if_neg hquote, if_neg hbackslash, if_neg hcontrol]

theorem stringBody_flatMap (cs rest : List Char) :
    stringBody .plain (cs.flatMap escapeChar ++ '"' :: rest) = .ok (cs, rest) := by
  induction cs with
  | nil => simp [stringBody]
  | cons c cs ih =>
    rw [List.flatMap_cons, List.append_assoc, stringBody_escapeChar, ih]
    rfl

/-- A string behind its opening quote, and what follows its closing quote. -/
def quoted (s : String) (rest : List Char) : List Char :=
  s.toList.flatMap escapeChar ++ '"' :: rest

theorem quote_append (s : String) (rest : List Char) : quote s ++ rest = '"' :: quoted s rest := by
  simp [quote, quoted]

/-- A string is read back from behind its opening quote. -/
theorem stringText_quoted (s : String) (rest : List Char) :
    stringText (quoted s rest) = .ok (s, rest) := by
  rw [stringText, quoted, stringBody_flatMap]
  exact congrArg (fun text => Except.ok (text, rest)) String.ofList_toList

end ImagePrompt.Json.Parser
