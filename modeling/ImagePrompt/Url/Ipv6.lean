import ImagePrompt.Text.Split
import ImagePrompt.Url.Percent
/-!
# Addresses of eight pieces

Hosts given by eight numbers of sixteen bits, in base sixteen between colons.
Two colons stand for a run of zeros, and the last two pieces may be written as
four bytes.
-/

namespace ImagePrompt

structure Ipv6 where
  pieces : List Nat
  deriving DecidableEq, Repr

namespace Ipv6

def size : Nat := 8

/-! ## Writing -/

def joined (pieces : List Nat) : String :=
  String.intercalate ":" (pieces.map fun n => String.ofList (Nat.toDigits 16 n))

def zerosFrom (a : Ipv6) (place : Nat) : Nat :=
  ((a.pieces.drop place).takeWhile (· == 0)).length

/-- The first of the longest runs of zeros, if it is longer than one: its place and length. -/
def gap? (a : Ipv6) : Option (Nat × Nat) :=
  let runs := (List.range size).map fun place => (place, a.zerosFrom place)
  let longest := runs.foldl (fun n run => max n run.2) 0
  if longest < 2 then none else runs.find? (·.2 == longest)

def text (a : Ipv6) : String :=
  match a.gap? with
  | none => joined a.pieces
  | some (place, length) =>
    joined (a.pieces.take place) ++ "::" ++ joined (a.pieces.drop (place + length))

/-! ## Reading -/

/-- A piece: up to four digits of base sixteen. -/
def piece? (cs : List Char) : Option Nat := do
  guard (!cs.isEmpty && cs.length ≤ 4)
  let digits ← cs.mapM Percent.value?
  return digits.foldl (fun n d => 16 * n + d) 0

/-- A decimal number of one byte, without a zero in front. -/
def byte? (cs : List Char) : Option Nat := do
  guard (!cs.isEmpty && cs.all Char.isDigit && (cs.length == 1 || cs.head? != some '0'))
  let n := cs.foldl (fun n c => 10 * n + (c.toNat - 48)) 0
  guard (n < 256)
  return n

/-- The two pieces that four bytes between dots stand for. -/
def bytePieces? (cs : List Char) : Option (List Nat) := do
  match ← (Text.splitChars '.' cs).mapM byte? with
  | [a, b, c, d] => return [256 * a + b, 256 * c + d]
  | _ => none

/-- Pieces between colons, of which the last may be four bytes at the end of an address. -/
def pieces? (isEnd : Bool) : List (List Char) → Option (List Nat)
  | [] => some []
  | [last] =>
    match piece? last with
    | some n => some [n]
    | none => if isEnd then bytePieces? last else none
  | cs :: rest => do return (← piece? cs) :: (← pieces? isEnd rest)

def readPieces? (isEnd : Bool) (cs : List Char) : Option (List Nat) :=
  if cs.isEmpty then some [] else pieces? isEnd (Text.splitChars ':' cs)

/-- A text up to the first two colons in a row, and what follows them. -/
def cutGap : List Char → List Char × Option (List Char)
  | ':' :: ':' :: rest => ([], some rest)
  | c :: rest => (c :: (cutGap rest).1, (cutGap rest).2)
  | [] => ([], none)

def parse? (cs : List Char) : Option Ipv6 := do
  match cutGap cs with
  | (all, none) =>
    let pieces ← readPieces? true all
    guard (pieces.length == size)
    return ⟨pieces⟩
  | (front, some back) =>
    let front ← readPieces? false front
    let back ← readPieces? true back
    guard (front.length + back.length < size)
    return ⟨front ++ List.replicate (size - front.length - back.length) 0 ++ back⟩

end Ipv6

end ImagePrompt
