import ImagePrompt.Bytes.Words
import ImagePrompt.Document.Resolution
/-!
# Joint photographic experts group pictures

Pictures as a row of segments, each behind a marker. The size stands in the
frame header; a picture is taken for sound when every segment up to the first
scan is.
-/

namespace ImagePrompt.Jpeg

structure Frame where
  size : Resolution
  components : List UInt8

def fill : UInt8 := 0xff

/-- The next marker, and what follows it. A marker is a byte behind a fill byte. -/
def nextMarker (last : UInt8) : Bytes → Option (UInt8 × Bytes)
  | [] => none
  | m :: rest =>
    if last == fill && m != fill && m != 0 then some (m, rest) else nextMarker m rest

def word? (bs : Bytes) : Option (Nat × Bytes) :=
  (Bytes.take? 2 bs).map fun (w, rest) => (Bytes.bigEndian w, rest)

def skip? (bs : Bytes) : Option Bytes := do
  let (length, rest) ← word? bs
  guard (2 ≤ length)
  return rest.drop (length - 2)

/-- The names of as many components as `count` says, with a sound sampling and table each. -/
def components? : Nat → Bytes → Option (List UInt8 × Bytes)
  | 0, bs => some ([], bs)
  | count + 1, name :: sampling :: table :: rest => do
    let known := [1, 2, 4, 8]
    guard (known.contains (sampling.toNat / 16) && known.contains (sampling.toNat % 16))
    guard (table.toNat < 4)
    let (names, rest) ← components? count rest
    return (name :: names, rest)
  | _ + 1, _ => none

def frame? (bs : Bytes) : Option (Frame × Bytes) := do
  let (length, bs) ← word? bs
  let (precision, bs) ← Bytes.take? 1 bs
  guard (precision == [8])
  let (height, bs) ← word? bs
  let (width, bs) ← word? bs
  guard (width != 0 && height != 0)
  let (count, bs) ← Bytes.take? 1 bs
  let count := Bytes.bigEndian count
  guard (1 ≤ count && count ≤ 4 && length == 8 + 3 * count)
  let (components, rest) ← components? count bs
  return (⟨⟨width, height⟩, components⟩, rest)

/-- What follows `left` bytes of quantization tables. -/
def quantization? : Nat → Nat → Bytes → Option Bytes
  | _, 0, bs => some bs
  | 0, _, _ => none
  | fuel + 1, left, bs => do
    let (info, bs) ← Bytes.take? 1 bs
    let precision := Bytes.bigEndian info / 16
    let needed := 64 * (precision + 1) + 1
    guard (needed ≤ left && precision ≤ 1 && Bytes.bigEndian info % 16 < 4)
    let (_, rest) ← Bytes.take? (needed - 1) bs
    quantization? fuel (left - needed) rest

/-- Codes can be given out, as many of each length as is said, where `code` is the first one of the
length at the front. No length may use up its codes. -/
def codesFit (length code : Nat) : List Nat → Bool
  | [] => true
  | count :: later =>
    let next := code + count
    next < Nat.pow 2 length && codesFit (length + 1) (2 * next) later

def maxDcSymbol : Nat := 15

def codes? : Nat → Nat → Bytes → Option Bytes
  | 0, _, _ => none
  | fuel + 1, left, bs =>
    if left == 0 then some bs
    else do
      guard (16 < left)
      let (info, bs) ← Bytes.take? 1 bs
      let kind := Bytes.bigEndian info / 16
      guard (Bytes.bigEndian info % 16 < 4 && kind ≤ 1)
      let (counts, bs) ← Bytes.take? 16 bs
      let counts := counts.map UInt8.toNat
      guard (counts.sum ≤ 256 && 17 + counts.sum ≤ left && codesFit 1 0 counts)
      let (symbols, rest) ← Bytes.take? counts.sum bs
      guard (kind == 1 || symbols.all fun symbol => symbol.toNat ≤ maxDcSymbol)
      codes? fuel (left - (17 + counts.sum)) rest

def colourCoding? (bs : Bytes) : Option Bytes := do
  let (length, bs) ← word? bs
  guard (14 ≤ length)
  let (tag, _) ← Bytes.take? 5 bs
  if tag == .ascii "Adobe" then
    let (front, _) ← Bytes.take? 12 bs
    guard ((front.getLastD 0).toNat ≤ 2)
  return bs.drop (length - 2)

/-- What follows the first segment of an application, of which a tag of five bytes is read. -/
def application? (bs : Bytes) : Option Bytes := do
  let (length, rest) ← word? bs
  guard (2 ≤ length)
  return rest.drop (if 5 < length then max 5 (length - 2) else length - 2)

/-- The names in a scan header are those of components, and none comes twice. -/
def scanNames? (known : List UInt8) : Nat → List UInt8 → Bytes → Option Bytes
  | 0, _, bs => some bs
  | count + 1, seen, name :: _ :: rest => do
    guard (known.contains name && !seen.contains name)
    scanNames? known count (name :: seen) rest
  | _ + 1, _, _ => none

def scanBegins (frame : Option Frame) (bs : Bytes) : Bool :=
  Option.isSome do
    let (length, bs) ← word? bs
    let (count, bs) ← Bytes.take? 1 bs
    let count := Bytes.bigEndian count
    guard (length == 6 + 2 * count && 1 ≤ count && count ≤ 4)
    let frame ← frame
    let rest ← scanNames? frame.components count [] bs
    let (parameters, _) ← Bytes.take? 3 rest
    match parameters.map UInt8.toNat with
    | [first, last, approximation] =>
      guard (first ≤ 63 && last ≤ 63 && approximation / 16 ≤ 13 && approximation % 16 ≤ 13)
    | _ => none

/-- The frame of a picture, from as many segments up to its first scan as `fuel` allows. -/
def frameOfSegments? : Nat → Option Frame → Bytes → Option Frame
  | 0, _, _ => none
  | fuel + 1, frame, bs => do
    let (marker, bs) ← nextMarker 0 bs
    match marker.toNat with
    | 0xc0 | 0xc1 | 0xc2 =>
      guard frame.isNone
      let (frame, rest) ← frame? bs
      frameOfSegments? fuel (some frame) rest
    | 0xc4 =>
      let (length, rest) ← word? bs
      guard (2 ≤ length)
      frameOfSegments? fuel frame (← codes? length (length - 2) rest)
    | 0xdb =>
      let (length, rest) ← word? bs
      guard (2 ≤ length)
      frameOfSegments? fuel frame (← quantization? length (length - 2) rest)
    | 0xdd =>
      let (length, rest) ← word? bs
      guard (length == 4)
      let (_, rest) ← word? rest
      frameOfSegments? fuel frame rest
    | 0xe0 => frameOfSegments? fuel frame (← application? bs)
    | 0xee => frameOfSegments? fuel frame (← colourCoding? bs)
    | 0xda => if scanBegins frame bs then frame else none
    | 0xd9 | 0xdc | 0xcc => none
    | code =>
      guard (!(0xc3 ≤ code && code ≤ 0xcf))
      frameOfSegments? fuel frame (← skip? bs)

def size? (bs : Bytes) : Option Resolution := do
  let (front, rest) ← Bytes.take? 2 bs
  guard (front == [0xff, 0xd8])
  let frame ← frameOfSegments? rest.length none rest
  return frame.size

end ImagePrompt.Jpeg
