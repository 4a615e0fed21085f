import ImagePrompt.Text.Split
import ImagePrompt.Url.Percent
/-!
# Addresses of four bytes

Hosts given by numbers between dots. A number may be hexadecimal, octal or
decimal, and the last one fills up what is left of the four bytes.
-/

namespace ImagePrompt

structure Ipv4 where
  value : Nat
  deriving DecidableEq, Repr

namespace Ipv4

def bytes (a : Ipv4) : List Nat := [3, 2, 1, 0].map fun i => a.value / Nat.pow 256 i % 256

def text (a : Ipv4) : String := String.intercalate "." (a.bytes.map toString)

/-- The number that digits of a base stand for; zero for no digits, none for another character. -/
def numeral? (base : Nat) (cs : List Char) : Option Nat :=
  cs.foldl (fun n c => do
    let n ← n
    let d ← Percent.value? c
    guard (d < base)
    return n * base + d) (some 0)

def part? (s : String) : Option Nat :=
  match s.toList with
  | [] => none
  | '0' :: 'x' :: cs => numeral? 16 cs
  | '0' :: 'X' :: cs => numeral? 16 cs
  | '0' :: c :: cs => numeral? 8 (c :: cs)
  | cs => numeral? 10 cs

/-- The parts of a name, without an empty one at the end. -/
def parts (s : String) : List String :=
  let all := Text.split '.' s
  if 1 < all.length && all.getLast? == some "" then all.dropLast else all

/-- A name whose last part is a number can only be an address. -/
def isNumeric (s : String) : Bool :=
  match (parts s).getLast? with
  | none => false
  | some last => (last != "" && last.toList.all Char.isDigit) || (part? last).isSome

def parse? (s : String) : Option Ipv4 := do
  let numbers ← (parts s).mapM part?
  let last ← numbers.getLast?
  let front := numbers.dropLast
  guard (front.length ≤ 3 && front.all (· < 256) && last < Nat.pow 256 (4 - front.length))
  return ⟨front.foldl (fun n b => n * 256 + b) 0 * Nat.pow 256 (4 - front.length) + last⟩

end Ipv4

end ImagePrompt
