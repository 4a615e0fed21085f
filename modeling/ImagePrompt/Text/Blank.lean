/-!
# Blank text

White space in the sense of the Unicode property `White_Space`, trimming it at
both ends of a text, and the texts that hold nothing else.
-/

namespace ImagePrompt.Text

/-- Characters with the Unicode property `White_Space`. -/
def isSpace (c : Char) : Bool :=
  let n := c.toNat
  (9 ≤ n && n ≤ 13) || n == 0x20 || n == 0x85 || n == 0xa0 || n == 0x1680 ||
    (0x2000 ≤ n && n ≤ 0x200a) || n == 0x2028 || n == 0x2029 || n == 0x202f ||
    n == 0x205f || n == 0x3000

def dropEndSpace (cs : List Char) : List Char :=
  (cs.reverse.dropWhile isSpace).reverse

def trim (s : String) : String :=
  String.ofList (dropEndSpace (s.toList.dropWhile isSpace))

def trimEnd (s : String) : String :=
  String.ofList (dropEndSpace s.toList)

def isBlank (s : String) : Bool :=
  s.toList.all isSpace

/-- An optional text, dropped when it says nothing. -/
def filled (s : Option String) : Option String :=
  s.filter (fun t => !isBlank t)

def dropEnd (c : Char) (s : String) : String :=
  String.ofList (s.toList.reverse.dropWhile (· == c)).reverse

/-- The first `limit` characters of a text, with an ellipsis when that cuts something off. -/
def truncate (limit : Nat) (s : String) : String :=
  let cs := s.toList
  if cs.length ≤ limit then s else String.ofList (cs.take limit) ++ "…"

end ImagePrompt.Text
