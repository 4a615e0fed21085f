/-!
# Numbers in bytes

Natural numbers as bytes of either order, and the ASCII bytes of a text.
-/

namespace ImagePrompt

abbrev Bytes := List UInt8

namespace Bytes

def bigEndian (bs : Bytes) : Nat := bs.foldl (fun n b => n * 256 + b.toNat) 0

def littleEndian : Bytes → Nat
  | [] => 0
  | b :: bs => b.toNat + 256 * littleEndian bs

/-- The last `width` bytes of a number, the most significant first. -/
def ofNat (width n : Nat) : Bytes :=
  (List.range width).reverse.map fun i => UInt8.ofNat (n / Nat.pow 256 i)

def ascii (s : String) : Bytes := s.toList.map fun c => UInt8.ofNat c.toNat

def take? (n : Nat) (bs : Bytes) : Option (Bytes × Bytes) :=
  if n ≤ bs.length then some (bs.take n, bs.drop n) else none

end Bytes

end ImagePrompt
