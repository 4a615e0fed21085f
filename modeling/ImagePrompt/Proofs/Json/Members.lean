import ImagePrompt.Json.Value
import Mathlib.Data.List.Nodup
import Mathlib.Data.List.Perm.Basic
import Mathlib.Data.String.Basic
/-!
# Members of an object

What stands under a key after members are put, left out or ordered. Members in
increasing order are known by what stands under each key.
-/

namespace ImagePrompt.Members

variable {ms other : Members} {key k : String} {keys : List String} {v : Json}

/-! ## The value under a key -/

@[simp] theorem get?_nil : get? [] key = none := rfl

theorem get?_cons : get? ((k, v) :: ms) key = if key = k then some v else get? ms key := by
  unfold get?
  rw [List.lookup_cons]
  by_cases h : key = k
  · rw [if_pos h, beq_iff_eq.2 h]
  · rw [if_neg h, beq_eq_false_iff_ne.2 h]

theorem get?_eq_none_iff : ms.get? key = none ↔ key ∉ ms.map Prod.fst := by
  induction ms with
  | nil => simp
  | cons m ms ih =>
    obtain ⟨k, w⟩ := m
    by_cases h : key = k
    · simp [get?_cons, h]
    · rw [get?_cons, if_neg h, ih, List.map_cons, List.mem_cons, or_iff_right h]

theorem eq_nil_of_get? (h : ∀ key, ms.get? key = none) : ms = [] := by
  cases ms with
  | nil => rfl
  | cons m ms =>
    have hm := h m.1
    rw [get?_cons, if_pos rfl] at hm
    cases hm

theorem mem_of_get? (h : ms.get? key = some v) : (key, v) ∈ ms := by
  induction ms with
  | nil => simp at h
  | cons m ms ih =>
    obtain ⟨k, w⟩ := m
    by_cases hk : key = k
    · simp_all [get?_cons]
    · rw [get?_cons, if_neg hk] at h
      exact List.mem_cons_of_mem _ (ih h)

theorem get?_of_mem (hnodup : (ms.map Prod.fst).Nodup) (h : (key, v) ∈ ms) :
    ms.get? key = some v := by
  induction ms with
  | nil => simp at h
  | cons m ms ih =>
    obtain ⟨k, w⟩ := m
    rw [List.map_cons, List.nodup_cons] at hnodup
    rcases List.mem_cons.1 h with h | h
    · obtain ⟨rfl, rfl⟩ := Prod.mk.inj h
      rw [get?_cons, if_pos rfl]
    · have hne : key ≠ k := by
        intro heq
        exact hnodup.1 (List.mem_map.2 ⟨(key, v), h, heq⟩)
      rw [get?_cons, if_neg hne]
      exact ih hnodup.2 h

theorem get?_append : get? (ms ++ other) key = (ms.get? key).or (other.get? key) := by
  induction ms with
  | nil => rfl
  | cons m ms ih =>
    rw [List.cons_append, get?_cons, get?_cons, ih]
    split <;> rfl

theorem get?_eq_of_perm (hnodup : (ms.map Prod.fst).Nodup) (h : ms.Perm other) :
    ms.get? key = other.get? key := by
  have hnodup' : (other.map Prod.fst).Nodup := (h.map Prod.fst).nodup_iff.1 hnodup
  ext v
  constructor
  · exact fun hv => get?_of_mem hnodup' (h.mem_iff.1 (mem_of_get? hv))
  · exact fun hv => get?_of_mem hnodup (h.mem_iff.2 (mem_of_get? hv))

theorem get?_insert : (insert k v ms).get? key = if key = k then some v else ms.get? key := by
  induction ms with
  | nil => rw [insert, get?_cons]
  | cons m ms ih =>
    obtain ⟨k', w⟩ := m
    rw [insert]
    by_cases hlt : k < k'
    · rw [if_pos hlt, get?_cons]
    · rw [if_neg hlt]
      by_cases heq : k = k'
      · subst heq
        rw [if_pos (beq_self_eq_true k), get?_cons, get?_cons]
        split <;> rfl
      · rw [if_neg (by simpa using heq), get?_cons, ih, get?_cons]
        by_cases hk : key = k
        · rw [if_pos hk, if_pos hk, if_neg (by rwa [hk])]
        · rw [if_neg hk, if_neg hk]

theorem get?_without :
    (ms.without keys).get? key = if key ∈ keys then none else ms.get? key := by
  unfold without
  induction ms with
  | nil => simp
  | cons m ms ih =>
    obtain ⟨k, w⟩ := m
    by_cases hk : k ∈ keys
    · rw [List.filter_cons_of_neg (by simpa using hk), ih, get?_cons]
      by_cases hkey : key ∈ keys
      · rw [if_pos hkey, if_pos hkey]
      · rw [if_neg hkey, if_neg hkey, if_neg (by rintro rfl; exact hkey hk)]
    · rw [List.filter_cons_of_pos (by simpa using hk), get?_cons, ih, get?_cons]
      by_cases hkey : key ∈ keys
      · rw [if_pos hkey, if_pos hkey, if_neg (by rintro rfl; exact hk hkey)]
      · rw [if_neg hkey, if_neg hkey]

/-! ## Increasing keys -/

instance decidableIncreasing (ms : Members) : Decidable ms.Increasing :=
  @List.instDecidablePairwise _ _ String.decidableLT _

theorem increasing_nil : Increasing [] := List.Pairwise.nil

theorem increasing_cons :
    Increasing ((k, v) :: ms) ↔ (∀ k' ∈ ms.map Prod.fst, k < k') ∧ Increasing ms :=
  List.pairwise_cons

theorem Increasing.nodup (h : Increasing ms) : (ms.map Prod.fst).Nodup :=
  h.imp fun hlt => ne_of_lt hlt

theorem Increasing.without (h : Increasing ms) : Increasing (ms.without keys) :=
  h.sublist (List.filter_sublist.map Prod.fst)

theorem mem_map_fst_insert :
    k ∈ (insert key v ms).map Prod.fst → k = key ∨ k ∈ ms.map Prod.fst := by
  intro h
  by_contra hnot
  rw [not_or, ← get?_eq_none_iff] at hnot
  rw [← not_not (a := k ∈ _), ← get?_eq_none_iff, get?_insert, if_neg hnot.1] at h
  exact h hnot.2

theorem Increasing.insert (h : Increasing ms) : Increasing (ms.insert key v) := by
  induction ms with
  | nil => exact List.pairwise_singleton _ _
  | cons m ms ih =>
    obtain ⟨k, w⟩ := m
    obtain ⟨hfirst, hrest⟩ := increasing_cons.1 h
    rw [Members.insert]
    by_cases hlt : key < k
    · rw [if_pos hlt]
      refine increasing_cons.2 ⟨?_, h⟩
      intro k' hk'
      rcases List.mem_cons.1 hk' with rfl | hk'
      · exact hlt
      · exact lt_trans hlt (hfirst k' hk')
    · rw [if_neg hlt]
      by_cases heq : key = k
      · rw [if_pos (beq_iff_eq.2 heq), heq]
        exact increasing_cons.2 ⟨hfirst, hrest⟩
      · rw [if_neg (by simpa using heq)]
        refine increasing_cons.2 ⟨?_, ih hrest⟩
        intro k' hk'
        rcases mem_map_fst_insert hk' with rfl | hk'
        · exact lt_of_le_of_ne (not_lt.1 hlt) (Ne.symm heq)
        · exact hfirst k' hk'

theorem increasing_foldl_insert {done : Members} (h : Increasing done) :
    Increasing (ms.foldl (fun done m => done.insert m.1 m.2) done) := by
  induction ms generalizing done with
  | nil => exact h
  | cons m ms ih => exact ih h.insert

theorem increasing_sorted : Increasing ms.sorted := increasing_foldl_insert increasing_nil

theorem mem_of_mem_insert {m : String × Json} (h : m ∈ insert key v ms) :
    m = (key, v) ∨ m ∈ ms := by
  induction ms with
  | nil => simpa [insert] using h
  | cons m' ms ih =>
    obtain ⟨k, w⟩ := m'
    rw [insert] at h
    split at h
    · simpa using h
    · split at h
      · rcases List.mem_cons.1 h with h | h
        · exact .inl h
        · exact .inr (List.mem_cons_of_mem _ h)
      · rcases List.mem_cons.1 h with h | h
        · exact .inr (h ▸ List.mem_cons_self)
        · exact (ih h).imp_right (List.mem_cons_of_mem _)

theorem mem_of_mem_foldl_insert {done : Members} {m : String × Json}
    (h : m ∈ ms.foldl (fun done m => done.insert m.1 m.2) done) : m ∈ ms ∨ m ∈ done := by
  induction ms generalizing done with
  | nil => exact .inr h
  | cons m' ms ih =>
    rcases ih h with h | h
    · exact .inl (List.mem_cons_of_mem _ h)
    · rcases mem_of_mem_insert h with rfl | h
      · exact .inl List.mem_cons_self
      · exact .inr h

theorem mem_of_mem_sorted {m : String × Json} (h : m ∈ ms.sorted) : m ∈ ms :=
  (mem_of_mem_foldl_insert h).resolve_right List.not_mem_nil

theorem Increasing.ext (h : Increasing ms) (h' : Increasing other)
    (heq : ∀ key, ms.get? key = other.get? key) : ms = other := by
  have hperm : ms.Perm other := by
    rw [List.perm_ext_iff_of_nodup (List.Nodup.of_map _ h.nodup) (List.Nodup.of_map _ h'.nodup)]
    rintro ⟨k, v⟩
    constructor
    · exact fun hv => mem_of_get? ((heq k).symm.trans (get?_of_mem h.nodup hv))
    · exact fun hv => mem_of_get? ((heq k).trans (get?_of_mem h'.nodup hv))
  have hanti : ∀ m m' : String × Json, m ∈ ms → m' ∈ other → m.1 < m'.1 → m'.1 < m.1 → m = m' :=
    fun _ _ _ _ hlt hlt' => absurd hlt' (lt_asymm hlt)
  exact hperm.eq_of_pairwise hanti (List.pairwise_map.1 h) (List.pairwise_map.1 h')

/-! ## Several members with one key -/

/-- The last of the values under a key, which stays when the members are ordered. -/
def last? (ms : Members) (key : String) : Option Json := get? ms.reverse key

@[simp] theorem last?_nil : last? [] key = none := rfl

theorem last?_append : last? (ms ++ other) key = (other.last? key).or (ms.last? key) := by
  rw [last?, List.reverse_append, get?_append]
  rfl

theorem last?_singleton : last? [(k, v)] key = if key = k then some v else none := by
  rw [last?, List.reverse_singleton, get?_cons, get?_nil]

theorem last?_without :
    last? (ms.without keys) key = if key ∈ keys then none else ms.last? key := by
  rw [last?, last?, ← get?_without, without, without, List.filter_reverse]

theorem get?_foldl_insert {done : Members} :
    (ms.foldl (fun done m => done.insert m.1 m.2) done).get? key =
      (ms.last? key).or (done.get? key) := by
  induction ms generalizing done with
  | nil => rfl
  | cons m ms ih =>
    obtain ⟨k, w⟩ := m
    rw [List.foldl_cons, ih, get?_insert, ← List.singleton_append, last?_append, last?_singleton,
      Option.or_assoc]
    split <;> rfl

theorem get?_sorted_eq_last? : ms.sorted.get? key = ms.last? key := by
  rw [sorted, get?_foldl_insert, get?_nil, Option.or_none]

theorem get?_sorted (hnodup : (ms.map Prod.fst).Nodup) : ms.sorted.get? key = ms.get? key := by
  rw [get?_sorted_eq_last?, last?, get?_eq_of_perm hnodup ms.reverse_perm.symm]

/-- Members in order stay as they are. -/
theorem Increasing.sorted_eq (h : Increasing ms) : ms.sorted = ms :=
  Increasing.ext increasing_sorted h fun _ => get?_sorted h.nodup

/-! ## One place -/

/-- Sets what stands under a key, or leaves the place empty. -/
def put (key : String) (value : Option Json) (ms : Members) : Members :=
  match value with
  | some v => ms.insert key v
  | none => ms.without [key]

theorem get?_put {value : Option Json} :
    (ms.put k value).get? key = if key = k then value else ms.get? key := by
  cases value with
  | some v => exact get?_insert
  | none =>
    rw [put, get?_without]
    simp only [List.mem_singleton]

theorem mem_of_mem_put {value : Option Json} {m : String × Json} (h : m ∈ ms.put key value) :
    value = some m.2 ∨ m ∈ ms := by
  cases value with
  | some v =>
    rcases mem_of_mem_insert h with rfl | h
    · exact .inl rfl
    · exact .inr h
  | none => exact .inr (List.mem_of_mem_filter h)

theorem Increasing.put {value : Option Json} (h : Increasing ms) :
    Increasing (ms.put key value) := by
  cases value with
  | some v => exact h.insert
  | none => exact h.without

/-! ## Several places -/

section Several

variable {ι : Type} {keyOf : ι → String} {valueOf : ι → Option Json} {places : List ι} {p : ι}

/-- Sets what stands under the keys of some places. -/
def putAll (keyOf : ι → String) (valueOf : ι → Option Json) (places : List ι) (ms : Members) :
    Members :=
  places.foldr (fun p done => put (keyOf p) (valueOf p) done) ms

theorem get?_putAll_of_notMem (h : key ∉ places.map keyOf) :
    (putAll keyOf valueOf places ms).get? key = ms.get? key := by
  unfold putAll
  induction places with
  | nil => rfl
  | cons p places ih =>
    rw [List.map_cons, List.mem_cons, not_or] at h
    rw [List.foldr_cons, get?_put, if_neg h.1, ih h.2]

theorem get?_putAll_of_mem (hnodup : (places.map keyOf).Nodup) (h : p ∈ places) :
    (putAll keyOf valueOf places ms).get? (keyOf p) = valueOf p := by
  unfold putAll
  induction places with
  | nil => simp at h
  | cons q places ih =>
    rw [List.map_cons, List.nodup_cons] at hnodup
    rw [List.foldr_cons, get?_put]
    rcases List.mem_cons.1 h with rfl | h
    · rw [if_pos rfl]
    · have hne : keyOf p ≠ keyOf q := by
        intro heq
        exact hnodup.1 (heq ▸ List.mem_map_of_mem h)
      rw [if_neg hne, ih hnodup.2 h]

theorem Increasing.putAll (h : Increasing ms) : Increasing (putAll keyOf valueOf places ms) := by
  induction places with
  | nil => exact h
  | cons p places ih => exact ih.put

end Several

end ImagePrompt.Members
