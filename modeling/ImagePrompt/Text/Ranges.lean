/-!
# Ranges in a table

Sets of numbers as the sorted table of the numbers at which a run of members
begins or ends, by turns.
-/

namespace ImagePrompt.Ranges

/-- The number of entries of a sorted table, from `low` on and before `high`, that are at most
`n`; `low` counts those before it. -/
def countUpTo (table : Array Nat) (n : Nat) : Nat → Nat → Nat → Nat
  | 0, low, _ => low
  | fuel + 1, low, high =>
    if low < high then
      let middle := (low + high) / 2
      if table.getD middle 0 ≤ n then countUpTo table n fuel (middle + 1) high
      else countUpTo table n fuel low middle
    else low

/-- A number lies in a run of members: an odd number of boundaries is at most that number. -/
def holds (table : Array Nat) (n : Nat) : Bool :=
  countUpTo table n table.size 0 table.size % 2 == 1

end ImagePrompt.Ranges
