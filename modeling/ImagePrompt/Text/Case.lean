/-!
# Letters of either case

Case mapping and comparison that know the 26 letters of ASCII only; every
other character stands for itself.
-/

namespace ImagePrompt.Text

def asciiLower (s : String) : String :=
  String.ofList (s.toList.map Char.toLower)

def sameLetters (s t : String) : Bool :=
  asciiLower s == asciiLower t

def occursIn (part : List Char) : List Char → Bool
  | [] => part.isEmpty
  | c :: cs => part.isPrefixOf (c :: cs) || occursIn part cs

def contains (s part : String) : Bool :=
  occursIn part.toList s.toList

end ImagePrompt.Text
