import ImagePrompt.Number.Binary64
/-!
# Shortest decimal text

Each finite number has a decimal with the fewest digits among those that round
to it, the nearest of these. Where two are equally near, the format decides. It
is written positionally, or with an exponent when a format says so.
-/

namespace ImagePrompt

/-- The natural number `digits · 10 ^ exponent`. -/
structure Decimal where
  digits : Nat
  exponent : Int
  deriving DecidableEq, Repr

namespace Decimal

def stripZeros : Nat → Decimal → Decimal
  | 0, d => d
  | fuel + 1, d =>
    if d.digits != 0 && d.digits % 10 == 0 then
      stripZeros fuel ⟨d.digits / 10, d.exponent + 1⟩
    else d

def text (d : Decimal) : List Char := Nat.toDigits 10 d.digits

/-- The power of ten of the first digit. -/
def magnitude (d : Decimal) : Int := (d.text.length : Int) - 1 + d.exponent

/-- Digits with a point where the exponent puts it, and a fraction only if it needs one. -/
def positional (d : Decimal) : List Char :=
  let cs := d.text
  if 0 ≤ d.exponent then cs ++ List.replicate d.exponent.toNat '0'
  else
    let places := (-d.exponent).toNat
    if places < cs.length then
      cs.take (cs.length - places) ++ '.' :: cs.drop (cs.length - places)
    else '0' :: '.' :: List.replicate (places - cs.length) '0' ++ cs

/-- One digit, the others behind a point, and the signed power of ten. -/
def scientific (d : Decimal) : List Char :=
  let fraction := match d.text with
    | [] => []
    | [c] => [c]
    | c :: cs => c :: '.' :: cs
  let sign := if d.magnitude < 0 then '-' else '+'
  fraction ++ 'e' :: sign :: Nat.toDigits 10 d.magnitude.natAbs

end Decimal

inductive Tie where
  | toEven
  | up
  deriving DecidableEq, Repr

namespace Binary64

/-- The ends of the interval of magnitudes that round to `x`, over one denominator. The gap
below a power of two is half the gap above it. -/
def neighbourhood (x : Binary64) : (Nat × Nat) × Nat :=
  let m := x.significand
  let lowerQuarters := if m == Nat.pow 2 52 && minExponent < x.exponent then 1 else 2
  let scale (n : Nat) : Nat := if 0 ≤ x.exponent then n <<< x.exponent.toNat else n
  let den := if 0 ≤ x.exponent then 4 else 4 <<< (-x.exponent).toNat
  ((scale (4 * m - lowerQuarters), scale (4 * m + 2)), den)

/-- `d` rounds to `x`: it lies between the ends, which belong to an even significand. -/
def isReadBy (x : Binary64) (d : Decimal) : Bool :=
  let ((low, high), den) := x.neighbourhood
  let (a, b) :=
    if 0 ≤ d.exponent then (d.digits * Nat.pow 10 d.exponent.toNat * den, 1)
    else (d.digits * den, Nat.pow 10 (-d.exponent).toNat)
  if x.significand % 2 == 0 then low * b ≤ a && a ≤ high * b
  else low * b < a && a < high * b

/-- The two decimals next to `x` on the grid of multiples of `10 ^ k`, the nearer one first. -/
def gridNeighbours (tie : Tie) (x : Binary64) (k : Int) : Decimal × Decimal :=
  let (a, b) := x.ratio
  let (n, d) := if 0 ≤ k then (a, b * Nat.pow 10 k.toNat) else (a * Nat.pow 10 (-k).toNat, b)
  let q := n / d
  let r := n % d
  let isLowerNear := 2 * r < d || (2 * r == d && tie == .toEven && q % 2 == 0)
  if isLowerNear then (⟨q, k⟩, ⟨q + 1, k⟩) else (⟨q + 1, k⟩, ⟨q, k⟩)

def decimalMagnitude (x : Binary64) : Int :=
  let (a, b) := x.ratio
  let holds (k : Int) : Bool :=
    if 0 ≤ k then b * Nat.pow 10 k.toNat ≤ a else b ≤ a * Nat.pow 10 (-k).toNat
  let guess : Int := ((a.log2 : Int) - (b.log2 : Int)) * 30103 / 100000
  if holds (guess + 1) then guess + 1
  else if holds guess then guess
  else guess - 1

/-- The first grid, from `count` digits on, that holds a decimal which rounds to `x`. -/
def searchGrids (tie : Tie) (x : Binary64) (top : Int) : Nat → Nat → Decimal
  | 0, count => (gridNeighbours tie x (top - count + 1)).1
  | fuel + 1, count =>
    let (near, far) := gridNeighbours tie x (top - count + 1)
    if x.isReadBy near then near
    else if x.isReadBy far then far
    else searchGrids tie x top fuel (count + 1)

/-- The decimal of fewest digits that rounds to the magnitude of `x`. -/
def shortest (tie : Tie) (x : Binary64) : Decimal :=
  if x.significand == 0 then ⟨0, 0⟩
  else Decimal.stripZeros 20 (searchGrids tie x x.decimalMagnitude 17 1)

/-- A minus sign for negative numbers, zero included. -/
def sign (x : Binary64) : List Char := if x.negative then ['-'] else []

/-- Positional text without an exponent and without a fraction of zero. Of two equally near
decimals it shows the greater one. -/
def display (x : Binary64) : String :=
  String.ofList (x.sign ++ (shortest .up x).positional)

end Binary64

inductive Reading where
  | finite (x : Binary64)
  | infinite (negative : Bool)
  | notANumber
  deriving DecidableEq, Repr

namespace Reading

def display : Reading → String
  | .finite x => x.display
  | .infinite negative => if negative then "-inf" else "inf"
  | .notANumber => "NaN"

def splitDigits (cs : List Char) : List Char × List Char :=
  (cs.takeWhile Char.isDigit, cs.dropWhile Char.isDigit)

def digitsValue (cs : List Char) : Nat :=
  cs.foldl (fun n c => 10 * n + (c.toNat - '0'.toNat)) 0

def exponent? : List Char → Option Int
  | [] => some 0
  | c :: cs =>
    if c == 'e' || c == 'E' then
      let (negative, cs) := match cs with
        | '-' :: r => (true, r)
        | '+' :: r => (false, r)
        | r => (false, r)
      if cs.isEmpty || !cs.all Char.isDigit then none
      else some (if negative then -(digitsValue cs : Int) else digitsValue cs)
    else none

/-- A decimal beyond the largest finite number denotes an infinity. -/
def ofDecimal (negative : Bool) (digits : Nat) (exponent : Int) : Reading :=
  if digits == 0 then .finite (Binary64.zero negative)
  else if 400 < exponent then .infinite negative
  else if exponent < -(800 + (Nat.toDigits 10 digits).length : Int) then
    .finite (Binary64.zero negative)
  else
    match Binary64.ofDecimal negative digits exponent with
    | some x => .finite x
    | none => .infinite negative

def parseMagnitude? (negative : Bool) (cs : List Char) : Option Reading :=
  let word := String.ofList (cs.map Char.toLower)
  if word == "inf" || word == "infinity" then some (.infinite negative)
  else if word == "nan" then some .notANumber
  else
    let (whole, rest) := splitDigits cs
    let (fraction, rest) := match rest with
      | '.' :: r => splitDigits r
      | r => ([], r)
    if whole.isEmpty && fraction.isEmpty then none
    else
      (exponent? rest).map fun e =>
        ofDecimal negative (digitsValue (whole ++ fraction)) (e - fraction.length)

def parse? (s : String) : Option Reading :=
  match s.toList with
  | '-' :: cs => parseMagnitude? true cs
  | '+' :: cs => parseMagnitude? false cs
  | cs => parseMagnitude? false cs

end Reading

end ImagePrompt
