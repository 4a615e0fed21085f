import ImagePrompt.Text.Case
import ImagePrompt.Text.Split
import ImagePrompt.Url.Percent
/-!
# Paths of addresses

What follows the host of an address: names between slashes, with the steps
back taken, or any text. A name like that of a drive is never stepped back
from.
-/

namespace ImagePrompt

/-- What follows the host of an address: names between slashes, or any text. -/
inductive UrlPath where
  | names (names : List String)
  | plain (text : String)
  deriving DecidableEq, Repr

namespace UrlPath

def text : UrlPath → String
  | .names all => String.join (all.map ("/" ++ ·))
  | .plain text => text

/-- The text begins with two slashes, so that it would be taken for a host. -/
def looksLikeHost : UrlPath → Bool
  | .names all => 1 < all.length && all.head? == some ""
  | .plain _ => false

def isDot (cs : List Char) : Bool :=
  let s := Text.asciiLower (String.ofList cs)
  s == "." || s == "%2e"

def isDoubleDot (cs : List Char) : Bool :=
  let s := Text.asciiLower (String.ofList cs)
  s == ".." || s == ".%2e" || s == "%2e." || s == "%2e%2e"

/-- A letter and a colon, or a bar for it. -/
def isDrive (cs : List Char) : Bool :=
  match cs with
  | [c, d] => c.isAlpha && (d == ':' || d == '|')
  | _ => false

/-- A drive at the front, and nothing or a backslash behind it. -/
def beginsWithDrive (cs : List Char) : Bool :=
  isDrive (cs.take 2) && (cs.length == 2 || cs[2]? == some '\\')

/-- A step back from the latest of some names, unless that begins with a drive. -/
def stepBack : List String → List String
  | [] => []
  | name :: rest => if beginsWithDrive name.toList then name :: rest else rest

/-- A name as it is kept behind others. In the path of a file, a drive that comes first has a
colon. -/
def kept (isFile : Bool) (done : List String) (name : List Char) : String :=
  let drive := name.take 1 ++ [':']
  if isFile && done.isEmpty && isDrive name then String.ofList drive
  else Percent.encode Percent.inPath name

/-- The names of a path, the steps back taken; those read so far come last to first. -/
def takeSteps (isFile : Bool) (done : List String) : List (List Char) → List String
  | [] => done.reverse
  | [last] =>
    if isDoubleDot last then ("" :: stepBack done).reverse
    else if isDot last then ("" :: done).reverse
    else (kept isFile done last :: done).reverse
  | name :: rest =>
    if isDoubleDot name then takeSteps isFile (stepBack done) rest
    else if isDot name then takeSteps isFile done rest
    else takeSteps isFile (kept isFile done name :: done) rest

def isSlash (isSpecial : Bool) (c : Char) : Bool := c == '/' || (isSpecial && c == '\\')

def pieces (isSpecial : Bool) (cs : List Char) : List (List Char) :=
  Text.splitChars '/' (cs.map fun c => if isSlash isSpecial c then '/' else c)

def below (isSpecial : Bool) (cs : List Char) : List Char :=
  match cs with
  | c :: rest => if isSlash isSpecial c then rest else cs
  | [] => []

/-- The names of a path in which a slash at the front says nothing. -/
def readNames (isSpecial : Bool) (cs : List Char) : List String :=
  takeSteps false [] (pieces isSpecial (below isSpecial cs))

def withoutEmpty (names : List String) : List String :=
  match names.dropWhile (· == "") with
  | [] => [""]
  | name :: rest => name :: rest

end UrlPath

end ImagePrompt
