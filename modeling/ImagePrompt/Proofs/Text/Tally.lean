import Mathlib.Data.List.Count
/-!
# Characters of a kind

How many characters of a text are of a kind, and how the count of a text comes from those of its
pieces.
-/

namespace ImagePrompt.Text

variable {p : Char → Bool}

/-- The number of characters of a kind in a text. -/
def tally (p : Char → Bool) (s : String) : Nat := s.toList.countP p

@[simp] theorem tally_append (s t : String) : tally p (s ++ t) = tally p s + tally p t := by
  unfold tally
  rw [String.toList_append, List.countP_append]

def tallies (p : Char → Bool) : List String → Nat
  | [] => 0
  | item :: rest => tally p item + tallies p rest

@[simp] theorem tallies_nil : tallies p [] = 0 := rfl

@[simp] theorem tallies_cons (item : String) (items : List String) :
    tallies p (item :: items) = tally p item + tallies p items := rfl

@[simp] theorem tallies_append (items items' : List String) :
    tallies p (items ++ items') = tallies p items + tallies p items' := by
  induction items with
  | nil => exact (Nat.zero_add _).symm
  | cons item rest ih => rw [List.cons_append, tallies_cons, tallies_cons, ih, Nat.add_assoc]

/-- A separator stands between any two items, once less than there are items. -/
theorem tally_intercalate (sep : String) {items : List String} (h : items ≠ []) :
    tally p (String.intercalate sep items) + tally p sep =
      tallies p items + items.length * tally p sep := by
  induction items with
  | nil => exact absurd rfl h
  | cons item rest ih =>
    cases rest with
    | nil => simp [String.intercalate_singleton]
    | cons next rest =>
      have ih := ih (List.cons_ne_nil _ _)
      simp only [String.intercalate_cons_cons, tally_append, tallies_cons, List.length_cons,
        Nat.add_mul] at ih ⊢
      omega

/-- A separator without such characters adds nothing. -/
theorem tally_intercalate_of_eq_zero {sep : String} (items : List String) (h : tally p sep = 0) :
    tally p (String.intercalate sep items) = tallies p items := by
  cases items with
  | nil => rfl
  | cons item rest =>
    have hsum := tally_intercalate (p := p) sep (List.cons_ne_nil item rest)
    rwa [h, Nat.mul_zero, Nat.add_zero, Nat.add_zero] at hsum

/-- Items with words in front of them, which count for a separator. -/
theorem tallies_headed {front sep : String} (items : List String)
    (hfront : tally p front = tally p sep) :
    tallies p (if items.isEmpty then [] else [front ++ String.intercalate sep items]) =
      tallies p items + items.length * tally p sep := by
  cases items with
  | nil => simp
  | cons item rest =>
    rw [List.isEmpty_cons, if_neg Bool.false_ne_true, tallies_cons, tallies_nil, tally_append,
      hfront, Nat.add_zero, Nat.add_comm, tally_intercalate sep (List.cons_ne_nil item rest)]

end ImagePrompt.Text
