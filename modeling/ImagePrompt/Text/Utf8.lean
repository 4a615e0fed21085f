/-!
# UTF-8

Texts as octets. Encoding is exact; decoding replaces each maximal ill-formed
run by U+FFFD, and a strict reader refuses such runs instead.
-/

namespace ImagePrompt.Text.Utf8

def encodeChar (c : Char) : List UInt8 :=
  let n := c.toNat
  if n < 0x80 then [UInt8.ofNat n]
  else if n < 0x800 then [UInt8.ofNat (0xc0 + n / 64), UInt8.ofNat (0x80 + n % 64)]
  else if n < 0x10000 then
    [UInt8.ofNat (0xe0 + n / 4096), UInt8.ofNat (0x80 + n / 64 % 64), UInt8.ofNat (0x80 + n % 64)]
  else
    [UInt8.ofNat (0xf0 + n / 262144), UInt8.ofNat (0x80 + n / 4096 % 64),
      UInt8.ofNat (0x80 + n / 64 % 64), UInt8.ofNat (0x80 + n % 64)]

def encode (s : String) : List UInt8 :=
  s.toList.flatMap encodeChar

def size : List Char → Nat
  | [] => 0
  | c :: cs => c.utf8Size + size cs

/-- The range of the octet after a lead octet, and how many follow the lead in all. -/
def continuation (lead : Nat) : Option (Nat × Nat × Nat) :=
  if 0xc2 ≤ lead && lead ≤ 0xdf then some (0x80, 0xbf, 1)
  else if lead == 0xe0 then some (0xa0, 0xbf, 2)
  else if lead == 0xed then some (0x80, 0x9f, 2)
  else if 0xe1 ≤ lead && lead ≤ 0xef then some (0x80, 0xbf, 2)
  else if lead == 0xf0 then some (0x90, 0xbf, 3)
  else if lead == 0xf4 then some (0x80, 0x8f, 3)
  else if 0xf1 ≤ lead && lead ≤ 0xf3 then some (0x80, 0xbf, 3)
  else none

def leadBits (lead tail : Nat) : Nat :=
  if tail == 1 then lead % 32 else if tail == 2 then lead % 16 else lead % 8

inductive Partial where
  | start
  /-- `bits` have been read, `left` octets are missing, the next within `low` to `high`. -/
  | pending (bits left low high : Nat)
  deriving Repr, DecidableEq

def begin (b : UInt8) : List (Option Char) × Partial :=
  if b.toNat < 0x80 then ([some (Char.ofNat b.toNat)], .start)
  else
    match continuation b.toNat with
    | some (low, high, tail) => ([], .pending (leadBits b.toNat tail) tail low high)
    | none => ([none], .start)

/-- The decoder's step: characters completed, `none` for an ill-formed run, and the next state. -/
def step (state : Partial) (b : UInt8) : List (Option Char) × Partial :=
  match state with
  | .start => begin b
  | .pending bits left low high =>
    if low ≤ b.toNat && b.toNat ≤ high then
      let bits := bits * 64 + b.toNat % 64
      if left ≤ 1 then ([some (Char.ofNat bits)], .start)
      else ([], .pending bits (left - 1) 0x80 0xbf)
    else
      let (out, next) := begin b
      (none :: out, next)

/-- The characters of a run of octets from a state on, `none` for each ill-formed run. -/
def scan : Partial → List UInt8 → List (Option Char)
  | .start, [] => []
  | .pending .., [] => [none]
  | state, b :: bs =>
    let (out, next) := step state b
    out ++ scan next bs

/-- The text of some octets, U+FFFD standing for each ill-formed run. -/
def decodeLossy (bs : List UInt8) : String :=
  String.ofList ((scan .start bs).map (·.getD '\ufffd'))

def decode? (bs : List UInt8) : Option String :=
  ((scan .start bs).mapM id).map String.ofList

end ImagePrompt.Text.Utf8
