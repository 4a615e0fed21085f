import ImagePrompt.Bytes.Checksum
import ImagePrompt.Document.Resolution
/-!
# Portable network graphics

Pictures as a signature and a row of chunks. A header chunk comes first and
says how many pixels there are; chunks of other kinds may stand between it and
the image data.
-/

namespace ImagePrompt.Png

def signature : Bytes := [0x89, 0x50, 0x4e, 0x47, 0x0d, 0x0a, 0x1a, 0x0a]

structure Chunk where
  kind : Bytes
  content : Bytes
  deriving DecidableEq, Repr

namespace Chunk

def checksum (c : Chunk) : Bytes := Bytes.ofNat 4 (Checksum.crc32 (c.kind ++ c.content))

def bytes (c : Chunk) : Bytes :=
  Bytes.ofNat 4 c.content.length ++ c.kind ++ c.content ++ c.checksum

/-- A kind that no reader may pass over. -/
def isCritical (c : Chunk) : Bool := (c.kind.headD 0) &&& 0x20 == 0

/-- The chunk at the front, whether its checksum agrees, and what follows it. -/
def take? (bs : Bytes) : Option (Chunk × Bool × Bytes) := do
  let (length, bs) ← Bytes.take? 4 bs
  let (kind, bs) ← Bytes.take? 4 bs
  let (content, bs) ← Bytes.take? (Bytes.bigEndian length) bs
  let (written, rest) ← Bytes.take? 4 bs
  let c : Chunk := ⟨kind, content⟩
  return (c, written == c.checksum, rest)

end Chunk

def headerKind : Bytes := .ascii "IHDR"

def dataKind : Bytes := .ascii "IDAT"

def endKind : Bytes := .ascii "IEND"

def paletteKind : Bytes := .ascii "PLTE"

def transparencyKind : Bytes := .ascii "tRNS"

def backgroundKind : Bytes := .ascii "bKGD"

def frameKind : Bytes := .ascii "fcTL"

def frameDataKind : Bytes := .ascii "fdAT"

/-! ## The header -/

inductive Colour where
  | grey
  | trueColour
  | indexed
  | greyAlpha
  | trueColourAlpha
  deriving DecidableEq, Repr

namespace Colour

def ofCode? : Nat → Option Colour
  | 0 => some .grey
  | 2 => some .trueColour
  | 3 => some .indexed
  | 4 => some .greyAlpha
  | 6 => some .trueColourAlpha
  | _ => none

def depths : Colour → List Nat
  | .grey => [1, 2, 4, 8, 16]
  | .indexed => [1, 2, 4, 8]
  | _ => [8, 16]

/-- The samples of a pixel with its colour spelled out, and with its transparency if there is a
chunk for it. -/
def samples (transparent : Bool) : Colour → Nat
  | .grey => if transparent then 2 else 1
  | .trueColour | .indexed => if transparent then 4 else 3
  | .greyAlpha => 2
  | .trueColourAlpha => 4

end Colour

structure Header where
  size : Resolution
  depth : Nat
  colour : Colour
  deriving DecidableEq, Repr

/-- The header that the content of a chunk tells, which may be longer. -/
def header? (content : Bytes) : Option Header := do
  let (width, content) ← Bytes.take? 4 content
  let (height, content) ← Bytes.take? 4 content
  match content.map UInt8.toNat with
  | depth :: colour :: compression :: filter :: interlacing :: _ =>
    let colour ← Colour.ofCode? colour
    let size : Resolution := ⟨Bytes.bigEndian width, Bytes.bigEndian height⟩
    guard (size.width != 0 && size.height != 0 && colour.depths.contains depth &&
      compression == 0 && filter == 0 && interlacing ≤ 1)
    return { size, depth, colour }
  | _ => none

/-- The most bytes that a row of pixels may take when its samples are spelled out. -/
def rowLimit : Nat := Nat.pow 2 29

def rowLength (h : Header) (transparent : Bool) : Nat :=
  h.size.width * h.colour.samples transparent * (if h.depth == 16 then 2 else 1)

/-! ## The chunks before image data -/

structure Progress where
  palette : Bool := false
  transparent : Bool := false
  frame : Option Nat := none
  deriving DecidableEq, Repr

namespace Progress

/-- A palette: colours of three bytes, at least one and at most as many as a byte tells apart. -/
def withPalette? (p : Progress) (content : Bytes) : Option Progress := do
  let length := content.length
  guard (!p.palette && length != 0 && length % 3 == 0 && length ≤ 768)
  return { p with palette := true }

/-- Transparency, which is passed over where it is unsound. -/
def withTransparency (h : Header) (p : Progress) (content : Bytes) : Progress :=
  let isSound := match h.colour with
    | .grey => 2 ≤ content.length
    | .trueColour => 6 ≤ content.length
    | .indexed => p.palette
    | _ => false
  { p with transparent := p.transparent || isSound }

/-- A frame: numbered in order, of the size of the picture, and with known ways of drawing. -/
def withFrame? (h : Header) (p : Progress) (content : Bytes) : Option Progress := do
  let number := (p.frame.map (· + 1)).getD 0
  let (order, content) ← Bytes.take? 4 content
  let (width, content) ← Bytes.take? 4 content
  let (height, content) ← Bytes.take? 4 content
  let (offsets, content) ← Bytes.take? 8 content
  let (_, content) ← Bytes.take? 4 content
  let (disposal, content) ← Bytes.take? 1 content
  let (blending, _) ← Bytes.take? 1 content
  guard (Bytes.bigEndian order == number && offsets.all (· == 0) &&
    Bytes.bigEndian width == h.size.width && Bytes.bigEndian height == h.size.height &&
    Bytes.bigEndian disposal ≤ 2 && Bytes.bigEndian blending ≤ 1)
  return { p with frame := some number }

/-- What a chunk adds, whose checksum agrees or not. A chunk that may be passed over is, when it
does not agree. -/
def next? (h : Header) (p : Progress) (c : Chunk) (agrees : Bool) : Option Progress :=
  if c.isCritical then
    if agrees && c.kind == paletteKind then p.withPalette? c.content else none
  else if !agrees then some p
  else if c.kind == transparencyKind then some (p.withTransparency h c.content)
  else if c.kind == frameKind then p.withFrame? h c.content
  else if c.kind == backgroundKind && h.colour == .indexed && !p.palette then none
  else some p

end Progress

/-- What the chunks before image data bring, if there are at most `fuel` of them. -/
def progressToData? (h : Header) : Nat → Progress → Bytes → Option Progress
  | 0, _, _ => none
  | fuel + 1, p, bs => do
    let (front, _) ← Bytes.take? 8 bs
    if front.drop 4 == dataKind then return p
    else if front.drop 4 == frameDataKind then
      guard (p.frame.isSome && 4 ≤ Bytes.bigEndian (front.take 4))
      return p
    else
      let (c, agrees, rest) ← Chunk.take? bs
      progressToData? h fuel (← p.next? h c agrees) rest

def size? (bs : Bytes) : Option Resolution := do
  let (front, bs) ← Bytes.take? 8 bs
  guard (front == signature)
  let (first, agrees, bs) ← Chunk.take? bs
  guard (first.kind == headerKind && agrees)
  let header ← header? first.content
  let progress ← progressToData? header bs.length {} bs
  guard (rowLength header progress.transparent ≤ rowLimit)
  return header.size

end ImagePrompt.Png
