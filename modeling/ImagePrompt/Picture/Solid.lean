import ImagePrompt.Picture.Png
/-!
# Pictures of one colour

A picture of one colour is written with a palette of one entry, so its pixels
are a run of zero bytes, which the compressed stream says in a literal and
repeats. Reading accepts what writing produces.
-/

namespace ImagePrompt

structure Colour where
  red : UInt8
  green : UInt8
  blue : UInt8
  deriving DecidableEq, Repr

structure SolidPicture where
  size : Resolution
  colour : Colour
  deriving DecidableEq, Repr

/-! ## Runs of zeros, compressed -/

namespace ZeroRun

/-- The bits of a number, the most significant of `width` bits first. -/
def bits (width n : Nat) : List Bool :=
  (List.range width).reverse.map fun i => n / Nat.pow 2 i % 2 == 1

def literal : List Bool := bits 8 0x30

def repeatLength : Nat := 258

/-- The code of the longest repeat of the byte before it. -/
def longestRepeat : List Bool := bits 8 0xc5 ++ bits 5 0

def endOfBlock : List Bool := bits 7 0

/-- The beginning of a last block with fixed codes. -/
def lastBlock : List Bool := [true, true, false]

def block : Nat → List Bool
  | 0 => lastBlock ++ endOfBlock
  | n + 1 =>
    lastBlock ++ literal ++
      (List.replicate (n / repeatLength) longestRepeat).flatten ++
      (List.replicate (n % repeatLength) literal).flatten ++ endOfBlock

/-- A byte of eight bits, the first of which counts least. -/
def byte (bs : List Bool) : UInt8 :=
  UInt8.ofNat (bs.foldr (fun b n => b.toNat + 2 * n) 0)

/-- Bits in bytes, the last filled up with zeros. -/
def pack : List Bool → Bytes
  | a :: b :: c :: d :: e :: f :: g :: h :: rest => byte [a, b, c, d, e, f, g, h] :: pack rest
  | [] => []
  | rest => [byte rest]

def stream (count : Nat) : Bytes :=
  [0x78, 0x01] ++ pack (block count) ++ Bytes.ofNat 4 (Checksum.adlerOfZeros count)

end ZeroRun

namespace SolidPicture

/-- The header: one bit for a pixel, and a palette. -/
def header (size : Resolution) : Png.Chunk where
  kind := Png.headerKind
  content := Bytes.ofNat 4 size.width ++ Bytes.ofNat 4 size.height ++ [1, 3, 0, 0, 0]

def palette (c : Colour) : Png.Chunk := ⟨.ascii "PLTE", [c.red, c.green, c.blue]⟩

/-- The number of bytes of the pixels: each row has a byte for its filter. -/
def rawLength (size : Resolution) : Nat := size.height * (1 + (size.width + 7) / 8)

def png (p : SolidPicture) : Bytes :=
  Png.signature ++ (header p.size).bytes ++ (palette p.colour).bytes ++
    (Png.Chunk.mk Png.dataKind (ZeroRun.stream (rawLength p.size))).bytes ++
    (Png.Chunk.mk Png.endKind []).bytes

def ofPng? (bs : Bytes) : Option SolidPicture := do
  let size ← Png.size? bs
  match bs.drop 41 with
  | red :: green :: blue :: _ =>
    let p : SolidPicture := ⟨size, ⟨red, green, blue⟩⟩
    if p.png == bs then some p else none
  | _ => none

end SolidPicture

end ImagePrompt
