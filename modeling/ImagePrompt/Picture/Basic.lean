import ImagePrompt.Picture.Format
import ImagePrompt.Picture.Gif
import ImagePrompt.Picture.Jpeg
import ImagePrompt.Picture.Png
import ImagePrompt.Picture.WebP
import ImagePrompt.Failure
import ImagePrompt.FileSystem.Basic
/-!
# Pictures from files

A picture that a request may carry: its bytes, media type and size. Its pixels
are not looked at.
-/

namespace ImagePrompt

/-- The size of a picture in a format, if a request may carry such pictures. -/
def PictureFormat.size? : PictureFormat → Bytes → Option Resolution
  | .png, bs => Png.size? bs
  | .jpeg, bs => Jpeg.size? bs
  | .webP, bs => WebP.size? bs
  | .gif, bs => Gif.size? bs
  | _, _ => none

structure LoadedImage where
  path : String
  /-- The label of the declaration that the file satisfies. -/
  declaredAs : Option String := none
  mediaType : String
  size : Resolution
  bytes : Bytes
  deriving DecidableEq, Repr

inductive PictureError where
  | file (error : FileError)
  | unrecognised
  | unsupported (format : PictureFormat)
  | undecodable (mediaType : String)
  deriving DecidableEq, Repr

def PictureError.message : PictureError → String
  | .file error => error.message
  | .unrecognised => "not a recognised image format"
  | .unsupported format => "unsupported image format " ++ format.name
  | .undecodable mediaType => "cannot decode " ++ mediaType

namespace LoadedImage

def ofBytes (path : String) (bytes : Bytes) : Except PictureError LoadedImage :=
  match PictureFormat.of? path bytes with
  | none => .error .unrecognised
  | some format =>
    match format.mediaType? with
    | none => .error (.unsupported format)
    | some mediaType =>
      match format.size? bytes with
      | none => .error (.undecodable mediaType)
      | some size => .ok { path, mediaType, size, bytes }

def read (fs : FileSystem) (path : String) : Except PictureError LoadedImage :=
  match fs.read path with
  | .ok bytes => ofBytes path bytes
  | .error e => .error (.file e)

def load (fs : FileSystem) (path : String) : Except Failure LoadedImage :=
  (read fs path).mapError fun e => .unreadableImage path e.message

end LoadedImage

end ImagePrompt
