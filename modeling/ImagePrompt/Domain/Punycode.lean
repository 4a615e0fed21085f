/-!
# Punycode

Labels of other than ASCII characters, written with letters and digits. The
ASCII characters come first; behind a hyphen stands a row of numbers, one for
each of the other characters, which tell in turn what is put in and where.
Each number is the step from the last insertion to the next one, when all
insertions are counted: first by place, then by character.
-/

namespace ImagePrompt.Punycode

/-! ## Numbers -/

def base : Nat := 36

def minThreshold : Nat := 1

def maxThreshold : Nat := 26

def initialBias : Nat := 72

/-- The code point before the first insertion. -/
def firstCode : Nat := 0x80

/-- The digit of a place of a number from which on the number goes on; places are counted from
one. -/
def threshold (bias place : Nat) : Nat :=
  min (max (base * place - bias) minThreshold) maxThreshold

def digit? (c : Char) : Option Nat :=
  if 'a' ≤ c && c ≤ 'z' then some (c.toNat - 97)
  else if 'A' ≤ c && c ≤ 'Z' then some (c.toNat - 65)
  else if c.isDigit then some (c.toNat - 48 + 26)
  else none

def digitChar (d : Nat) : Char := Char.ofNat (if d < 26 then 97 + d else 22 + d)

/-- The digits of a number from a place on, the least first. At most `fuel` follow. -/
def writeNumber (bias : Nat) : Nat → Nat → Nat → List Char
  | 0, _, n => [digitChar n]
  | fuel + 1, place, n =>
    let t := threshold bias place
    if n < t then [digitChar n]
    else
      digitChar (t + (n - t) % (base - t)) ::
        writeNumber bias fuel (place + 1) ((n - t) / (base - t))

/-- The number at the front, whose digits from a place on count `weight` times, and what follows
it. -/
def readNumber? (bias : Nat) : Nat → Nat → List Char → Option (Nat × List Char)
  | _, _, [] => none
  | place, weight, c :: rest => do
    let d ← digit? c
    let t := threshold bias place
    if d < t then return (d * weight, rest)
    else
      let (n, rest) ← readNumber? bias (place + 1) (weight * (base - t)) rest
      return (d * weight + n, rest)

/-- A number is scaled down, and the places that this saves are counted. -/
def scale : Nat → Nat → Nat → Nat × Nat
  | 0, places, n => (places, n)
  | fuel + 1, places, n =>
    if 455 < n then scale fuel (places + 1) (n / (base - minThreshold)) else (places, n)

/-- The bias behind a number, when there are now `count` characters. -/
def adapt (n count : Nat) (isFirst : Bool) : Nat :=
  let n := if isFirst then n / 700 else n / 2
  let (places, n) := scale n 0 (n + n / count)
  base * places + base * n / (n + 38)

/-! ## Labels -/

structure State where
  count : Nat
  code : Nat := firstCode
  place : Nat := 0
  bias : Nat := initialBias
  isFirst : Bool := true
  deriving DecidableEq, Repr

namespace State

def after (s : State) (n code place : Nat) : State where
  count := s.count + 1
  code := code
  place := place + 1
  bias := adapt n (s.count + 1) s.isFirst
  isFirst := false

end State

/-- The insertions of a label: each character beyond ASCII, in order, behind as many others as
stand before it and are not greater. -/
def insertions (cs : List Char) : List (Nat × Nat) :=
  let rec collect (before : List Char) : List Char → List (Nat × Nat)
    | [] => []
    | c :: rest =>
      let later := collect (c :: before) rest
      if c.toNat < firstCode then later
      else (c.toNat, (before.filter (· ≤ c)).length) :: later
  (collect [] cs).mergeSort fun a b => a.1 ≤ b.1

def writeInsertions (s : State) : List (Nat × Nat) → List Char
  | [] => []
  | (code, place) :: rest =>
    let n := (code - s.code) * (s.count + 1) + place - s.place
    writeNumber s.bias n 1 n ++ writeInsertions (s.after n code place) rest

def encode (cs : List Char) : List Char :=
  let basic := cs.filter (·.toNat < firstCode)
  let hyphen := if basic.isEmpty then [] else ['-']
  basic ++ hyphen ++ writeInsertions { count := basic.length } (insertions cs)

/-- The label that insertions of at most `fuel` numbers make of one. -/
def insertAll? : Nat → State → List Char → List Char → Option (List Char)
  | _, _, done, [] => some done
  | 0, _, _, _ => none
  | fuel + 1, s, done, cs => do
    let (n, rest) ← readNumber? s.bias 1 1 cs
    let reached := s.place + n
    let code := s.code + reached / (s.count + 1)
    let place := reached % (s.count + 1)
    guard code.isValidChar
    insertAll? fuel (s.after n code place) (done.insertIdx place (Char.ofNat code)) rest

/-- The label of a written form. No hyphen comes first, since it would follow no characters. -/
def decode? (cs : List Char) : Option (List Char) := do
  let digits := (cs.reverse.takeWhile (· != '-')).reverse
  let basic := cs.take (cs.length - digits.length - 1)
  guard (basic != [] || digits.length == cs.length)
  insertAll? digits.length { count := basic.length } basic digits

end ImagePrompt.Punycode
