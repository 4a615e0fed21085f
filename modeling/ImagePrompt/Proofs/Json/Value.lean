import ImagePrompt.Proofs.Json.Members
import ImagePrompt.Proofs.Number.Binary64
/-!
# Values that a reader makes

A reader lists the members of each object in increasing order of the keys, and
keeps a number as an integer only if it is one of 64 bits.
-/

namespace ImagePrompt.Json

variable {vs : List Json} {ms : Members} {key : String} {v : Json}

/-! ## Values in order -/

theorem sortedElements_iff : SortedElements vs ↔ ∀ v ∈ vs, v.Sorted := by
  induction vs with
  | nil => simp [SortedElements]
  | cons v vs ih => simp [SortedElements, ih]

theorem sortedMembers_iff : SortedMembers ms ↔ ∀ m ∈ ms, m.2.Sorted := by
  induction ms with
  | nil => simp [SortedMembers]
  | cons m ms ih => simp [SortedMembers, ih]

theorem SortedMembers.get? (h : SortedMembers ms) (hv : ms.get? key = some v) : v.Sorted :=
  sortedMembers_iff.1 h _ (Members.mem_of_get? hv)

mutual

def decideSorted : (v : Json) → Decidable v.Sorted
  | .array vs => decideSortedElements vs
  | .object ms => @instDecidableAnd _ _ inferInstance (decideSortedMembers ms)
  | .null | .bool _ | .number _ | .string _ => isTrue trivial

def decideSortedElements : (vs : List Json) → Decidable (SortedElements vs)
  | [] => isTrue trivial
  | v :: rest => @instDecidableAnd _ _ (decideSorted v) (decideSortedElements rest)

def decideSortedMembers : (ms : List (String × Json)) → Decidable (SortedMembers ms)
  | [] => isTrue trivial
  | (_, v) :: rest => @instDecidableAnd _ _ (decideSorted v) (decideSortedMembers rest)

end

instance : Decidable v.Sorted := decideSorted v

/-! ## Depth -/

mutual

/-- How many brackets are open at once in the value, at the most. -/
def depth : Json → Nat
  | .array elements => depthElements elements + 1
  | .object members => depthMembers members + 1
  | _ => 0

def depthElements : List Json → Nat
  | [] => 0
  | v :: rest => max v.depth (depthElements rest)

def depthMembers : List (String × Json) → Nat
  | [] => 0
  | (_, v) :: rest => max v.depth (depthMembers rest)

end

theorem depthElements_le_iff {d : Nat} : depthElements vs ≤ d ↔ ∀ v ∈ vs, v.depth ≤ d := by
  induction vs with
  | nil => simp [depthElements]
  | cons v vs ih => simp [depthElements, ih]

theorem depthMembers_le_iff {d : Nat} : depthMembers ms ≤ d ↔ ∀ m ∈ ms, m.2.depth ≤ d := by
  induction ms with
  | nil => simp [depthMembers]
  | cons m ms ih => simp [depthMembers, ih]

theorem depth_array_le_iff {d : Nat} : (Json.array vs).depth ≤ d + 1 ↔ ∀ v ∈ vs, v.depth ≤ d := by
  rw [depth, Nat.succ_le_succ_iff, depthElements_le_iff]

theorem depth_object_le_iff {d : Nat} :
    (Json.object ms).depth ≤ d + 1 ↔ ∀ m ∈ ms, m.2.depth ≤ d := by
  rw [depth, Nat.succ_le_succ_iff, depthMembers_le_iff]

/-! ## Numbers -/

/-- The rational number that a number is. -/
def Number.toRat : Number → ℚ
  | .integer n => n
  | .real x => x.toRat

/-- A number that is no integer outside 64 bits, signed or not. -/
def Number.Bounded : Number → Prop
  | .integer n => -2 ^ 63 ≤ n ∧ n < 2 ^ 64
  | .real _ => True

mutual

/-- Each integer in the value is one of 64 bits, signed or not. -/
def Bounded : Json → Prop
  | .number k => k.Bounded
  | .array elements => BoundedElements elements
  | .object members => BoundedMembers members
  | _ => True

def BoundedElements : List Json → Prop
  | [] => True
  | v :: rest => v.Bounded ∧ BoundedElements rest

def BoundedMembers : List (String × Json) → Prop
  | [] => True
  | (_, v) :: rest => v.Bounded ∧ BoundedMembers rest

end

mutual

def decideBounded : (v : Json) → Decidable v.Bounded
  | .number (.integer n) => inferInstanceAs (Decidable (-2 ^ 63 ≤ n ∧ n < 2 ^ 64))
  | .array vs => decideBoundedElements vs
  | .object ms => decideBoundedMembers ms
  | .null | .bool _ | .number (.real _) | .string _ => isTrue trivial

def decideBoundedElements : (vs : List Json) → Decidable (BoundedElements vs)
  | [] => isTrue trivial
  | v :: rest => @instDecidableAnd _ _ (decideBounded v) (decideBoundedElements rest)

def decideBoundedMembers : (ms : List (String × Json)) → Decidable (BoundedMembers ms)
  | [] => isTrue trivial
  | (_, v) :: rest => @instDecidableAnd _ _ (decideBounded v) (decideBoundedMembers rest)

end

instance : Decidable v.Bounded := decideBounded v

theorem boundedElements_iff : BoundedElements vs ↔ ∀ v ∈ vs, v.Bounded := by
  induction vs with
  | nil => simp [BoundedElements]
  | cons v vs ih => simp [BoundedElements, ih]

theorem boundedMembers_iff : BoundedMembers ms ↔ ∀ m ∈ ms, m.2.Bounded := by
  induction ms with
  | nil => simp [BoundedMembers]
  | cons m ms ih => simp [BoundedMembers, ih]

theorem BoundedMembers.get? (h : BoundedMembers ms) (hv : ms.get? key = some v) : v.Bounded :=
  boundedMembers_iff.1 h _ (Members.mem_of_get? hv)

/-- The floating-point number that a number is read as lies between the same small bounds. -/
theorem Number.toRat_ofInt_between {n : Int} {high : Nat} (hn : (Number.integer n).Bounded)
    (hhigh : high < 2 ^ 52) :
    0 ≤ (Binary64.ofInt n).toRat ∧ (Binary64.ofInt n).toRat ≤ high ↔
      0 ≤ (Number.integer n).toRat ∧ (Number.integer n).toRat ≤ high := by
  obtain ⟨hlow, hup⟩ := hn
  refine Binary64.toRat_ofInt_between ?_ hhigh
  by_cases h : n.natAbs = 0
  · rw [h]
    decide
  · exact ((Nat.log2_lt h).2 (by omega : n.natAbs < 2 ^ 65)).trans (by decide)

end ImagePrompt.Json
