import ImagePrompt.Bytes.Words
/-!
# Base 64

Bytes as text of 64 symbols and a sign for padding. Reading accepts what
writing produces and nothing else, and says which symbol is at fault.
-/

namespace ImagePrompt.Base64

def symbol (n : Nat) : Char :=
  if n < 26 then Char.ofNat (65 + n)
  else if n < 52 then Char.ofNat (71 + n)
  else if n < 62 then Char.ofNat (n - 4)
  else if n == 62 then '+'
  else '/'

def encodeChars : Bytes → List Char
  | [] => []
  | [a] =>
    let n := a.toNat * 16
    [symbol (n / 64), symbol (n % 64), '=', '=']
  | [a, b] =>
    let n := (a.toNat * 256 + b.toNat) * 4
    [symbol (n / 4096), symbol (n / 64 % 64), symbol (n % 64), '=']
  | a :: b :: c :: rest =>
    let n := (a.toNat * 256 + b.toNat) * 256 + c.toNat
    symbol (n / 262144) :: symbol (n / 4096 % 64) :: symbol (n / 64 % 64) :: symbol (n % 64) ::
      encodeChars rest

def encode (bs : Bytes) : String := String.ofList (encodeChars bs)

/-- Why a text is refused. Offsets count bytes from the start. -/
inductive Error where
  | invalidSymbol (offset symbol : Nat)
  | invalidLength (length : Nat)
  | invalidLastSymbol (offset symbol : Nat)
  | invalidPadding
  deriving DecidableEq, Repr

def Error.message : Error → String
  | .invalidSymbol offset symbol =>
    "Invalid symbol " ++ toString symbol ++ ", offset " ++ toString offset ++ "."
  | .invalidLength length => "Invalid input length: " ++ toString length
  | .invalidLastSymbol offset symbol =>
    "Invalid last symbol " ++ toString symbol ++ ", offset " ++ toString offset ++ "."
  | .invalidPadding => "Invalid padding"

def value? (b : UInt8) : Option Nat :=
  let n := b.toNat
  if 65 ≤ n && n ≤ 90 then some (n - 65)
  else if 97 ≤ n && n ≤ 122 then some (n - 71)
  else if 48 ≤ n && n ≤ 57 then some (n + 4)
  else if n == 43 then some 62
  else if n == 47 then some 63
  else none

def padding : UInt8 := 61

def value (offset : Nat) (b : UInt8) : Except Error Nat :=
  match value? b with
  | some n => .ok n
  | none => .error (.invalidSymbol offset b.toNat)

/-- The bytes of groups of four symbols, none of them padding. -/
def decodeGroups (offset : Nat) : Bytes → Except Error Bytes
  | a :: b :: c :: d :: rest => do
    let x ← value offset a
    let y ← value (offset + 1) b
    let z ← value (offset + 2) c
    let w ← value (offset + 3) d
    let n := ((x * 64 + y) * 64 + z) * 64 + w
    let tail ← decodeGroups (offset + 4) rest
    return UInt8.ofNat (n / 65536) :: UInt8.ofNat (n / 256) :: UInt8.ofNat n :: tail
  | _ => .ok []

/-- The numbers of the symbols of the last group, up to its padding, and the length of that. -/
def lastValues (offset index : Nat) : Bytes → Except Error (List Nat × Nat)
  | [] => .ok ([], 0)
  | b :: rest =>
    if b == padding then
      if index < 2 then .error (.invalidSymbol (offset + index) b.toNat)
      else if rest.all (· == padding) then .ok ([], rest.length + 1)
      else .error (.invalidSymbol (offset + index) b.toNat)
    else do
      let x ← value (offset + index) b
      let (xs, pads) ← lastValues offset (index + 1) rest
      return (x :: xs, pads)

def decodeLast (offset : Nat) (group : Bytes) : Except Error Bytes := do
  let (xs, pads) ← lastValues offset 0 group
  if xs.length < 2 then .error (.invalidLength (offset + xs.length))
  else if (xs.length + pads) % 4 != 0 then .error .invalidPadding
  else
    let unused (bits : Nat) : Except Error Unit :=
      if xs.getLastD 0 % Nat.pow 2 bits == 0 then .ok ()
      else
        .error (.invalidLastSymbol (offset + xs.length - 1)
          (group.getD (xs.length - 1) 0).toNat)
    match xs with
    | [x, y] => do
      unused 4
      return [UInt8.ofNat ((x * 64 + y) / 16)]
    | [x, y, z] => do
      unused 2
      let n := ((x * 64 + y) * 64 + z) / 4
      return [UInt8.ofNat (n / 256), UInt8.ofNat n]
    | [x, y, z, w] =>
      let n := ((x * 64 + y) * 64 + z) * 64 + w
      return [UInt8.ofNat (n / 65536), UInt8.ofNat (n / 256), UInt8.ofNat n]
    | _ => return []

/-- A symbol that stands alone behind complete groups is looked at before all others. -/
def checkTrailing (bs : Bytes) : Except Error Unit :=
  match bs.getLast? with
  | some b =>
    if bs.length % 4 == 1 && b != padding && (value? b).isNone then
      .error (.invalidSymbol (bs.length - 1) b.toNat)
    else .ok ()
  | none => .ok ()

def decode (bs : Bytes) : Except Error Bytes := do
  checkTrailing bs
  if bs.isEmpty then return []
  let lastLength := if bs.length % 4 == 0 then 4 else bs.length % 4
  let offset := bs.length - lastLength
  let front ← decodeGroups 0 (bs.take offset)
  let last ← decodeLast offset (bs.drop offset)
  return front ++ last

end ImagePrompt.Base64
