/-!
# Splitting text at a character

The pieces of a text between the occurrences of a separator. There is always
one piece more than there are separators.
-/

namespace ImagePrompt.Text

def splitChars (separator : Char) : List Char → List (List Char)
  | [] => [[]]
  | c :: cs =>
    if c == separator then [] :: splitChars separator cs
    else
      match splitChars separator cs with
      | [] => [[c]]
      | piece :: rest => (c :: piece) :: rest

theorem splitChars_ne_nil (separator : Char) (cs : List Char) : splitChars separator cs ≠ [] := by
  cases cs with
  | nil => simp [splitChars]
  | cons c cs =>
    unfold splitChars
    split
    · simp
    · split <;> simp

def split (separator : Char) (s : String) : List String :=
  (splitChars separator s.toList).map String.ofList

def cut (separator : Char) (cs : List Char) : List Char × Option (List Char) :=
  match cs.span (· != separator) with
  | (front, _ :: rest) => (front, some rest)
  | (front, []) => (front, none)

end ImagePrompt.Text
