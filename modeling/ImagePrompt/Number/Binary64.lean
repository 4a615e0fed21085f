/-!
# Finite binary floating-point numbers

The numbers of the 64-bit binary format as exact integers, with the one
rounding that every operation on them shares: a quotient of natural numbers
goes to the nearest number of the format, a tie to the even significand.
-/

namespace ImagePrompt

/-- The number `± significand · 2 ^ exponent`; zero keeps its sign. -/
structure Binary64 where
  negative : Bool
  significand : Nat
  exponent : Int
  deriving DecidableEq, Repr

namespace Binary64

/-- The exponent of the subnormal numbers, the least of all. -/
def minExponent : Int := -1074

/-- The exponent of the largest finite number. -/
def maxExponent : Int := 971

def zero (negative : Bool) : Binary64 := ⟨negative, 0, minExponent⟩

instance : Inhabited Binary64 := ⟨zero false⟩

/-- A fraction equal to `num / (den · 2 ^ e)`. -/
def rescale (num den : Nat) (e : Int) : Nat × Nat :=
  if 0 ≤ e then (num, den <<< e.toNat) else (num <<< (-e).toNat, den)

/-- The integer nearest to `num / den`, the even one of two. -/
def nearestEven (num den : Nat) : Nat :=
  let q := num / den
  let r := num % den
  if 2 * r < den then q
  else if den < 2 * r then q + 1
  else if q % 2 == 0 then q
  else q + 1

/-- The exponent at which `num / den` has a significand of 53 binary digits. -/
def naturalExponent (num den : Nat) : Int :=
  let guess : Int := (num.log2 : Int) - (den.log2 : Int) - 52
  let (n, d) := rescale num den guess
  if Nat.pow 2 52 ≤ n / d then guess else guess - 1

/-- The number nearest to `± num / den`, unless it lies beyond the largest one. -/
def ofRatio (negative : Bool) (num den : Nat) : Option Binary64 :=
  if num == 0 then some (zero negative)
  else
    let e := max minExponent (naturalExponent num den)
    let (n, d) := rescale num den e
    let q := nearestEven n d
    let x : Binary64 :=
      if q == Nat.pow 2 53 then ⟨negative, Nat.pow 2 52, e + 1⟩ else ⟨negative, q, e⟩
    if maxExponent < x.exponent then none else some x

def ratio (x : Binary64) : Nat × Nat :=
  if 0 ≤ x.exponent then (x.significand <<< x.exponent.toNat, 1)
  else (x.significand, 1 <<< (-x.exponent).toNat)

def ofInt (n : Int) : Binary64 :=
  (ofRatio (n < 0) n.natAbs 1).getD (zero (n < 0))

def neg (x : Binary64) : Binary64 := { x with negative := !x.negative }

def mul (x y : Binary64) : Option Binary64 :=
  let (a, b) := x.ratio
  let (c, d) := y.ratio
  ofRatio (x.negative != y.negative) (a * c) (b * d)

def div (x y : Binary64) : Option Binary64 :=
  let (a, b) := x.ratio
  let (c, d) := y.ratio
  ofRatio (x.negative != y.negative) (a * d) (b * c)

/-- The number in units of `2 ^ e`, for an `e` at most its exponent. -/
def inUnits (x : Binary64) (e : Int) : Int :=
  let n : Int := ((x.significand <<< (x.exponent - e).toNat : Nat) : Int)
  if x.negative then -n else n

/-- The order of the numbers, in which both zeros are equal. -/
def le (x y : Binary64) : Bool :=
  let e := min x.exponent y.exponent
  x.inUnits e ≤ y.inUnits e

def powerOfTen (k : Nat) : Binary64 :=
  (ofRatio false (Nat.pow 10 k) 1).getD (zero false)

def ofDecimal (negative : Bool) (digits : Nat) (exponent : Int) : Option Binary64 :=
  if 0 ≤ exponent then ofRatio negative (digits * Nat.pow 10 exponent.toNat) 1
  else ofRatio negative digits (Nat.pow 10 (-exponent).toNat)

end Binary64

end ImagePrompt
