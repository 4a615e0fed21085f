import ImagePrompt.Text.CombiningClass
import ImagePrompt.Text.Composite
/-!
# Composed text

The form of a text in which the order of marks is fixed and each composite is
written instead of its parts, the Unicode form `NFC`. Texts that differ in
nothing but this have one composed form.
-/

namespace ImagePrompt.Text

/-- The most composites that lie in one another. -/
def maxDepth : Nat := 4

/-- The characters that a character is made of, composites in it taken apart down to a depth. -/
def decompose : Nat → Char → List Char
  | 0, c => [c]
  | depth + 1, c =>
    match parts? c with
    | some (a, b) => decompose depth a ++ [b]
    | none => [c]

/-- A character behind others, which stand last to first: marks of a higher class come after it. -/
def settle (c : Char) : List Char → List Char
  | [] => [c]
  | d :: rest =>
    if combiningClass c != 0 && combiningClass c < combiningClass d then d :: settle c rest
    else c :: d :: rest

def decomposed (cs : List Char) : List Char :=
  ((cs.flatMap (decompose maxDepth)).foldl (fun done c => settle c done) []).reverse

structure Composing where
  /-- What will not change any more, last to first. -/
  done : List Char := []
  /-- The character that marks can still join. -/
  base : Char
  /-- The marks behind it that did not join, last to first. -/
  marks : List Char := []
  deriving DecidableEq, Repr

namespace Composing

def reversed (s : Composing) : List Char := s.marks ++ s.base :: s.done

/-- A mark of the same or a higher class, or any mark before a character that is none, keeps
that character from joining. -/
def isBlocked (s : Composing) (c : Char) : Bool :=
  match s.marks with
  | [] => false
  | mark :: _ => combiningClass c ≤ combiningClass mark

def next (s : Composing) (c : Char) : Composing :=
  let joined := if s.isBlocked c then none else composite? s.base c
  match joined with
  | some whole => { s with base := whole }
  | none =>
    if combiningClass c == 0 then { done := s.reversed, base := c }
    else { s with marks := c :: s.marks }

end Composing

def composed (cs : List Char) : List Char :=
  match decomposed cs with
  | [] => []
  | c :: rest => (rest.foldl Composing.next { base := c }).reversed.reverse

end ImagePrompt.Text
