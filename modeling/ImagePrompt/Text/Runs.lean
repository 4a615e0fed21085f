import ImagePrompt.Text.Ranges
/-!
# Tables of runs

What is known of numbers run by run: an entry holds from its number on, up to
the number of the next entry. A table is written as words, each of them the
number in base sixteen and behind it what is known.
-/

namespace ImagePrompt

/-- Entries in the order of the numbers at which they begin to hold. -/
structure Runs (α : Type) where
  starts : Array Nat
  entries : Array α
  deriving Repr

namespace Runs

def find? {α : Type} (t : Runs α) (n : Nat) : Option (Nat × α) :=
  match Ranges.countUpTo t.starts n t.starts.size 0 t.starts.size with
  | 0 => none
  | i + 1 => do
    let start ← t.starts[i]?
    let entry ← t.entries[i]?
    return (start, entry)

/-- The digit of base sixteen that a character is; capitals are none. -/
def digit? (c : Char) : Option Nat :=
  if c.isDigit then some (c.toNat - 48)
  else if 'a' ≤ c && c ≤ 'f' then some (c.toNat - 87)
  else none

def number (cs : List Char) : Nat := cs.foldl (fun n c => 16 * n + (digit? c).getD 0) 0

def words (text : String) : List (List Char) :=
  let close (word : List Char) (done : List (List Char)) :=
    if word.isEmpty then done else word.reverse :: done
  let (word, done) := text.toList.foldl
    (fun (word, done) c =>
      if c == ' ' || c == '\n' then ([], close word done) else (c :: word, done))
    ([], [])
  (close word done).reverse

def ofText {α : Type} (entry : List Char → α) (text : String) : Runs α :=
  let isDigit (c : Char) := (digit? c).isSome
  let rows := words text
  { starts := (rows.map fun word => number (word.takeWhile isDigit)).toArray
    entries := (rows.map fun word => entry (word.dropWhile isDigit)).toArray }

end Runs

end ImagePrompt
