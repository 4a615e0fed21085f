import ImagePrompt.Bytes.Words
import ImagePrompt.Document.Resolution
/-!
# Graphics interchange format pictures

A picture's header tells the size of its screen and whether a palette follows.
Extensions may stand before the first block of another kind, which is not
looked at beyond its first bytes.
-/

namespace ImagePrompt.Gif

def extensionKind : UInt8 := 0x21

def trailerKind : UInt8 := 0x3b

def controlLabel : UInt8 := 0xf9

/-- The labels of extensions: plain text, control, comment and application. -/
def labels : List UInt8 := [0x01, controlLabel, 0xfe, 0xff]

def controlLength : Nat := 4

/-- The length of a row of parts, the last of which is empty, and what follows it. The parts before
it are `total` bytes long, and at most `fuel` parts are read. -/
def parts? : Nat → Nat → Bytes → Option (Nat × Bytes)
  | 0, _, _ => none
  | _ + 1, _, [] => none
  | fuel + 1, total, length :: rest =>
    if length == 0 then some (total, rest)
    else do
      let (_, rest) ← Bytes.take? length.toNat rest
      parts? fuel (total + length.toNat) rest

/-- What follows an extension whose label is at the front. Its first part may be empty without
being the last. -/
def skipExtension? : Bytes → Option Bytes
  | label :: length :: rest => do
    guard (labels.contains label)
    let (_, rest) ← Bytes.take? length.toNat rest
    let (total, rest) ← parts? rest.length length.toNat rest
    guard (label != controlLabel || total == controlLength)
    return rest
  | _ => none

/-- A block of another kind begins behind at most `fuel` extensions. Only a last block that stands
behind an extension needs no more bytes. -/
def imageBegins : Nat → Bytes → Bool
  | 0, _ => false
  | _ + 1, [] => false
  | fuel + 1, kind :: rest =>
    if kind == extensionKind then
      match skipExtension? rest with
      | none => false
      | some rest => rest.head? == some trailerKind || imageBegins fuel rest
    else !rest.isEmpty

def size? (bs : Bytes) : Option Resolution := do
  let (version, rest) ← Bytes.take? 6 bs
  guard (version == .ascii "GIF87a" || version == .ascii "GIF89a")
  let (width, rest) ← Bytes.take? 2 rest
  let (height, rest) ← Bytes.take? 2 rest
  let (flags, rest) ← Bytes.take? 1 rest
  let (_, rest) ← Bytes.take? 2 rest
  let flags := Bytes.littleEndian flags
  let colours := if flags / 128 == 1 then Nat.pow 2 (flags % 8 + 1) else 0
  let (_, rest) ← Bytes.take? (3 * colours) rest
  guard (imageBegins rest.length rest)
  return ⟨Bytes.littleEndian width, Bytes.littleEndian height⟩

end ImagePrompt.Gif
