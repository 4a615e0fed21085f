import ImagePrompt.Bytes.Words
/-!
# Checksums

The cyclic redundancy check of 32 bits, and the checksum of a run of zeros
that closes a compressed stream.
-/

namespace ImagePrompt.Checksum

def shiftBit (c : UInt32) : UInt32 :=
  if c &&& 1 == 1 then (c >>> 1) ^^^ 0xedb88320 else c >>> 1

def shiftByte (c : UInt32) (b : UInt8) : UInt32 :=
  (List.range 8).foldl (fun c _ => shiftBit c) (c ^^^ b.toUInt32)

def crc32 (bs : Bytes) : Nat :=
  ((bs.foldl shiftByte 0xffffffff) ^^^ 0xffffffff).toNat

def adlerModulus : Nat := 65521

/-- The checksum of a run of zero bytes: the sum is one and the sum of sums counts them. -/
def adlerOfZeros (count : Nat) : Nat := (count % adlerModulus) * 65536 + 1

end ImagePrompt.Checksum
