import ImagePrompt.Bytes.Words
import ImagePrompt.FileSystem.Path
/-!
# Picture formats

The formats that a picture's first bytes give away, and those that a request
may carry. A file whose first bytes say nothing is taken by its extension.
-/

namespace ImagePrompt

inductive PictureFormat where
  | png
  | jpeg
  | gif
  | webP
  | tiff
  | dds
  | bmp
  | ico
  | hdr
  | avif
  | openExr
  | qoi
  | pnm
  | farbfeld
  deriving DecidableEq, Repr

/-- The first bytes of a format; a hole stands for any byte. -/
abbrev Signature := List (Option UInt8)

namespace Signature

def ofBytes (bs : Bytes) : Signature := bs.map some

def holes (n : Nat) : Signature := List.replicate n none

def opens : Signature → Bytes → Bool
  | [], _ => true
  | _ :: _, [] => false
  | none :: s, _ :: bs => opens s bs
  | some a :: s, b :: bs => a == b && opens s bs

end Signature

namespace PictureFormat

def name : PictureFormat → String
  | .png => "Png"
  | .jpeg => "Jpeg"
  | .gif => "Gif"
  | .webP => "WebP"
  | .tiff => "Tiff"
  | .dds => "Dds"
  | .bmp => "Bmp"
  | .ico => "Ico"
  | .hdr => "Hdr"
  | .avif => "Avif"
  | .openExr => "OpenExr"
  | .qoi => "Qoi"
  | .pnm => "Pnm"
  | .farbfeld => "Farbfeld"

def mediaType? : PictureFormat → Option String
  | .png => some "image/png"
  | .jpeg => some "image/jpeg"
  | .webP => some "image/webp"
  | .gif => some "image/gif"
  | _ => none

open Signature in
/-- The signatures of the formats, in the order in which they are tried. -/
def signatures : List (Signature × PictureFormat) :=
  [(ofBytes [0x89, 0x50, 0x4e, 0x47, 0x0d, 0x0a, 0x1a, 0x0a], .png),
    (ofBytes [0xff, 0xd8, 0xff], .jpeg),
    (ofBytes (.ascii "GIF89a"), .gif),
    (ofBytes (.ascii "GIF87a"), .gif),
    (ofBytes (.ascii "RIFF") ++ holes 4 ++ ofBytes (.ascii "WEBP"), .webP),
    (ofBytes [0x4d, 0x4d, 0x00, 0x2a], .tiff),
    (ofBytes [0x49, 0x49, 0x2a, 0x00], .tiff),
    (ofBytes (.ascii "DDS "), .dds),
    (ofBytes (.ascii "BM"), .bmp),
    (ofBytes [0x00, 0x00, 0x01, 0x00], .ico),
    (ofBytes (.ascii "#?RADIANCE"), .hdr),
    (ofBytes [0x00, 0x00] ++ holes 2 ++ ofBytes (.ascii "ftypavif"), .avif),
    (ofBytes [0x76, 0x2f, 0x31, 0x01], .openExr),
    (ofBytes (.ascii "qoif"), .qoi)] ++
  (List.range 7).map (fun i => (ofBytes [0x50, UInt8.ofNat (0x31 + i)], .pnm)) ++
  [(ofBytes (.ascii "farbfeld"), .farbfeld)]

def ofBytes? (bs : Bytes) : Option PictureFormat :=
  (signatures.find? fun (s, _) => s.opens bs).map Prod.snd

def ofPath? (path : String) : Option PictureFormat :=
  match (Path.extension? path).map Text.asciiLower with
  | some "png" => some .png
  | some "jpg" => some .jpeg
  | some "jpeg" => some .jpeg
  | some "webp" => some .webP
  | some "gif" => some .gif
  | _ => none

/-- The format of a file: by its first bytes, else by its extension. -/
def of? (path : String) (bs : Bytes) : Option PictureFormat :=
  (ofBytes? bs).or (ofPath? path)

end PictureFormat

end ImagePrompt
