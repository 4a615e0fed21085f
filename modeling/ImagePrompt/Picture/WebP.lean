import ImagePrompt.Bytes.Words
import ImagePrompt.Document.Resolution
/-!
# Web pictures

Pictures as a container of chunks. The first chunk tells whether the picture
is coded with loss, without loss, or in the extended form, whose header says
which other chunks have to follow.
-/

namespace ImagePrompt.WebP

/-- A chunk: its kind, the length that it says it has, and everything behind its header. -/
structure Chunk where
  kind : Bytes
  length : Nat
  behind : Bytes
  deriving DecidableEq, Repr

namespace Chunk

def headerLength : Nat := 8

def ofBytes? (bs : Bytes) : Option Chunk := do
  let (kind, bs) ← Bytes.take? 4 bs
  let (length, behind) ← Bytes.take? 4 bs
  return ⟨kind, Bytes.littleEndian length, behind⟩

def is (c : Chunk) (kind : String) : Bool := c.kind == .ascii kind

/-- The length of the content with the byte that makes it even. -/
def padded (c : Chunk) : Nat := c.length + c.length % 2

def rest (c : Chunk) : Bytes := c.behind.drop c.padded

end Chunk

def lossySize? (bs : Bytes) : Option Resolution := do
  let (tag, bs) ← Bytes.take? 3 bs
  guard (Bytes.littleEndian tag % 2 == 0)
  let (start, bs) ← Bytes.take? 3 bs
  guard (start == [0x9d, 0x01, 0x2a])
  let (width, bs) ← Bytes.take? 2 bs
  let (height, _) ← Bytes.take? 2 bs
  let size : Resolution :=
    ⟨Bytes.littleEndian width % Nat.pow 2 14, Bytes.littleEndian height % Nat.pow 2 14⟩
  guard (size.width != 0 && size.height != 0)
  return size

def losslessSize? (bs : Bytes) : Option Resolution := do
  let (mark, bs) ← Bytes.take? 1 bs
  guard (mark == [0x2f])
  let (header, _) ← Bytes.take? 4 bs
  let n := Bytes.littleEndian header
  guard (n / Nat.pow 2 29 == 0)
  return ⟨(n + 1) % Nat.pow 2 14, (n / Nat.pow 2 14 + 1) % Nat.pow 2 14⟩

/-! ## The extended form -/

def frameHeaderLength : Nat := 16

/-- A frame of an animation, or one before it, is coded with loss. A frame that is too short for a
chunk is none, and the chunk is looked for while no frame with loss has come. -/
def frameIsLossy? (lossyBefore : Bool) (frame : Chunk) : Option Bool := do
  guard (frameHeaderLength + Chunk.headerLength ≤ frame.length)
  let (_, rest) ← Bytes.take? frameHeaderLength frame.behind
  if lossyBefore then return true
  else
    let inner ← Chunk.ofBytes? rest
    return inner.is "VP8 " || inner.is "ALPH"

/-- The chunks at the front, up to one whose header is cut off, if the frames of an animation
among them are sound. At most `fuel` chunks that begin before `limit` bytes are counted. -/
def chunks? : Nat → Nat → Bool → Bytes → Option (List Chunk)
  | 0, _, _, _ => some []
  | fuel + 1, limit, lossy, bs =>
    if limit == 0 then some []
    else
      match Chunk.ofBytes? bs with
      | none => some []
      | some c => do
        let lossy ← if c.is "ANMF" then frameIsLossy? lossy c else some lossy
        let later ← chunks? fuel (limit - (Chunk.headerLength + c.padded)) lossy c.rest
        return c :: later

/-- The control of an animation is a background and a number of repetitions. -/
def controlIsSound (c : Chunk) : Bool := c.length == 6 && 6 ≤ c.behind.length

/-- The headers of the chunks of the first frame are there. A second one is looked for right behind
the first header, when the frame is long enough for both chunks. -/
def firstFrameIsSound (frame : Chunk) : Bool :=
  match Chunk.ofBytes? (frame.behind.drop frameHeaderLength) with
  | none => false
  | some inner =>
    let needed := frameHeaderLength + Chunk.headerLength + inner.padded + Chunk.headerLength
    frame.length < needed || (Chunk.ofBytes? inner.behind).isSome

/-- The size of a picture in the extended form, whose header is in a chunk: that of its canvas. -/
def extendedSize? (outerLength : Nat) (c : Chunk) : Option Resolution := do
  let (flags, rest) ← Bytes.take? 1 c.behind
  let (_, rest) ← Bytes.take? 3 rest
  let (width, rest) ← Bytes.take? 3 rest
  let (height, _) ← Bytes.take? 3 rest
  let size : Resolution := ⟨Bytes.littleEndian width + 1, Bytes.littleEndian height + 1⟩
  guard (size.width * size.height < Nat.pow 2 32)
  let chunks ← chunks? c.rest.length (outerLength - 12) false c.rest
  let asks (bit : Nat) := Bytes.littleEndian flags / bit % 2 == 1
  let first? (kind : String) := chunks.find? (·.is kind)
  let has (kind : String) := (first? kind).isSome
  if asks 2 then
    guard (((first? "ANIM").map controlIsSound).getD false && has "ANMF")
  else guard (has "VP8 " != has "VP8L")
  guard (!asks 8 || has "EXIF")
  guard (!asks 4 || has "XMP ")
  guard (((first? "ANMF").map firstFrameIsSound).getD true)
  return size

def size? (bs : Bytes) : Option Resolution := do
  let outer ← Chunk.ofBytes? bs
  guard (outer.is "RIFF")
  let (form, bs) ← Bytes.take? 4 outer.behind
  guard (form == .ascii "WEBP")
  let first ← Chunk.ofBytes? bs
  if first.is "VP8 " then lossySize? first.behind
  else if first.is "VP8L" then losslessSize? first.behind
  else if first.is "VP8X" then extendedSize? outer.length first
  else none

end ImagePrompt.WebP
