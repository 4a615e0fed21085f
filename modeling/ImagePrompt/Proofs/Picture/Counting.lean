import ImagePrompt.Proofs.Picture.Binding
/-!
# Enough files

Whether every declaration finds a file is a question of numbers: each pass
takes one free position for each declaration that it serves, so what is free in
the end does not depend on which declarations name which files.
-/

namespace ImagePrompt

namespace Assignment

variable {α β : Type} {named : α → β → Bool} {files : List β} {taken : List Nat}

/-- How many declarations have no file yet. -/
def unplaced (pairs : List (α × Option Nat)) : Nat := pairs.countP fun pair => pair.2.isNone

@[simp] theorem unplaced_cons_some (d : α) (i : Nat) (pairs : List (α × Option Nat)) :
    unplaced ((d, some i) :: pairs) = unplaced pairs := rfl

@[simp] theorem unplaced_cons_none (d : α) (pairs : List (α × Option Nat)) :
    unplaced ((d, none) :: pairs) = unplaced pairs + 1 := by
  simp [unplaced]

theorem length_positions_add_unplaced (pairs : List (α × Option Nat)) :
    (positions pairs).length + unplaced pairs = pairs.length := by
  induction pairs with
  | nil => rfl
  | cons pair pairs ih =>
    obtain ⟨d, i | i⟩ := pair
    · rw [positions_cons_none, unplaced_cons_none, List.length_cons]
      omega
    · rw [positions_cons_some, unplaced_cons_some, List.length_cons, List.length_cons]
      omega

theorem Fresh.length_le {n : Nat} (h : Fresh n [] taken) : taken.length ≤ n := by
  have hsub : taken.Subperm (List.range n) :=
    List.subperm_of_subset h.nodup fun i hi => List.mem_range.2 (h.lt i hi)
  simpa using hsub.length_le

theorem Fresh.cons_firstFree? {suits : β → Bool} {i : Nat} (h : Fresh files.length [] taken)
    (hfound : firstFree? suits files taken = some i) : Fresh files.length [] (i :: taken) := by
  refine ⟨List.nodup_cons.2 ⟨notMem_of_firstFree? hfound, h.nodup⟩, ?_, by simp⟩
  exact List.forall_mem_cons.2 ⟨lt_length_of_firstFree? hfound, h.lt⟩

theorem firstFree?_eq_none_iff {suits : β → Bool} :
    firstFree? suits files taken = none ↔
      ∀ i file, files[i]? = some file → suits file = true → i ∈ taken := by
  unfold firstFree?
  rw [Option.map_eq_none_iff, List.find?_eq_none]
  constructor
  · intro h i file hfile hsuits
    have hmem : (file, i) ∈ files.zipIdx := List.mem_zipIdx_iff_getElem?.2 hfile
    simpa [hsuits] using h (file, i) hmem
  · rintro h ⟨file, i⟩ hmem
    have hfile : files[i]? = some file := List.mem_zipIdx_iff_getElem?.1 hmem
    by_cases hsuits : suits file = true
    · simp [h i file hfile hsuits]
    · simp [hsuits]

/-- Some position is free as long as fewer are taken than there are files. -/
theorem firstFree?_any_eq_none_iff (h : Fresh files.length [] taken) :
    firstFree? (fun _ => true) files taken = none ↔ taken.length = files.length := by
  rw [firstFree?_eq_none_iff]
  constructor
  · intro hall
    have hsub : (List.range files.length).Subperm taken := by
      refine List.subperm_of_subset List.nodup_range fun i hi => ?_
      have hlt := List.mem_range.1 hi
      exact hall i files[i] (List.getElem?_eq_getElem hlt) rfl
    have hle : files.length ≤ taken.length := by simpa using hsub.length_le
    exact Nat.le_antisymm h.length_le hle
  · intro hlength i file hfile _
    have hsub : taken.Subperm (List.range files.length) :=
      List.subperm_of_subset h.nodup fun i hi => List.mem_range.2 (h.lt i hi)
    have hperm : taken.Perm (List.range files.length) :=
      hsub.perm_of_length_le (by rw [List.length_range]; exact Nat.le_of_eq hlength.symm)
    exact hperm.mem_iff.2 (List.mem_range.2 (List.getElem?_eq_some_iff.1 hfile).1)

/-- The second pass needs a free position for each declaration without a file, and no more. -/
theorem exists_byPosition_iff (pairs : List (α × Option Nat))
    (h : Fresh files.length [] taken) :
    (∃ assigned, byPosition files taken pairs = .ok assigned) ↔
      taken.length + unplaced pairs ≤ files.length := by
  fun_induction byPosition files taken pairs with
  | case1 => simpa [unplaced] using h.length_le
  | case2 taken d i rest ih =>
    rw [unplaced_cons_some, ← ih h, Success.exists_map_eq_ok]
  | case3 taken d rest i hfound ih =>
    have hcount : taken.length + unplaced ((d, none) :: rest) =
        (i :: taken).length + unplaced rest := by
      rw [unplaced_cons_none, List.length_cons]
      omega
    rw [hcount, ← ih (h.cons_firstFree? hfound), Success.exists_map_eq_ok]
  | case4 taken d rest hnone =>
    have hfull : taken.length = files.length := (firstFree?_any_eq_none_iff h).1 hnone
    have hmore : ¬ taken.length + unplaced ((d, none) :: rest) ≤ files.length := by
      rw [unplaced_cons_none]
      omega
    refine iff_of_false ?_ hmore
    rintro ⟨assigned, hassigned⟩
    cases hassigned

theorem mem_of_byPosition_eq_error {pairs : List (α × Option Nat)} {d : α}
    (h : byPosition files taken pairs = .error d) : d ∈ pairs.map Prod.fst := by
  fun_induction byPosition files taken pairs with
  | case1 => cases h
  | case2 taken e i rest ih =>
    have hrest : byPosition files taken rest = .error d := Success.map_eq_error.1 h
    exact List.mem_cons_of_mem e (ih hrest)
  | case3 taken e rest i hfound ih =>
    have hrest : byPosition files (i :: taken) rest = .error d := Success.map_eq_error.1 h
    exact List.mem_cons_of_mem e (ih hrest)
  | case4 taken e rest hnone =>
    obtain rfl := Except.error.inj h
    exact List.mem_cons_self

/-- Every declaration finds a file exactly when there are enough of them, whichever files the
declarations name. -/
theorem exists_assign_iff (named : α → β → Bool) {declared : List α} :
    (∃ assigned, assign named files declared = .ok assigned) ↔
      declared.length ≤ files.length := by
  have hfresh : Fresh files.length [] (positions (byName named files [] declared)) :=
    byName_fresh declared
  have hlength : (byName named files [] declared).length = declared.length := by
    have hfst : (byName named files [] declared).map Prod.fst = declared := map_fst_byName declared
    rw [← List.length_map (f := Prod.fst), hfst]
  rw [← hlength, ← length_positions_add_unplaced]
  exact exists_byPosition_iff _ hfresh

theorem mem_of_assign_eq_error {declared : List α} {d : α}
    (h : assign named files declared = .error d) : d ∈ declared := by
  have hmem := mem_of_byPosition_eq_error h
  rwa [map_fst_byName] at hmem

end Assignment

namespace Binding

variable {named : DeclaredImage → String → Bool} {declared : List DeclaredImage}
  {supplied : List String} {bindings : List Binding}

theorem exists_bindBy_iff (named : DeclaredImage → String → Bool) :
    (∃ bindings, bindBy named declared supplied = .ok bindings) ↔
      declared.length ≤ supplied.length := by
  rw [← Assignment.exists_assign_iff named]
  simp only [bindBy_eq_ok_iff]
  constructor
  · rintro ⟨_, assigned, hassigned, -⟩
    exact ⟨assigned, hassigned⟩
  · rintro ⟨assigned, hassigned⟩
    exact ⟨_, assigned, hassigned, rfl⟩

/-- With too few files, one of the declarations is reported. -/
theorem bindBy_of_lt (named : DeclaredImage → String → Bool)
    (h : supplied.length < declared.length) :
    ∃ d ∈ declared, bindBy named declared supplied =
      .error (.missingFile d.image.path d.origin.label supplied.length) := by
  cases hassign : Assignment.assign named supplied declared with
  | ok assigned =>
    have hle := (Assignment.exists_assign_iff named).1 ⟨assigned, hassign⟩
    omega
  | error d =>
    refine ⟨d, Assignment.mem_of_assign_eq_error hassign, ?_⟩
    unfold bindBy
    rw [hassign]

/-- A property holds of all bound files exactly when it holds of all supplied ones. -/
theorem forall_bound_iff {p : String → Prop}
    (h : bindBy named declared supplied = .ok bindings) :
    (∀ b ∈ bindings, p (supplied.getD b.position "")) ↔ ∀ file ∈ supplied, p file := by
  have hperm := map_position_perm h
  constructor
  · intro hall file hfile
    obtain ⟨i, hi⟩ := List.getElem?_of_mem hfile
    have hlt := (List.getElem?_eq_some_iff.1 hi).1
    have hmem : i ∈ bindings.map Binding.position := hperm.mem_iff.2 (List.mem_range.2 hlt)
    obtain ⟨b, hb, rfl⟩ := List.mem_map.1 hmem
    have hp := hall b hb
    rwa [List.getD_eq_getElem?_getD, hi] at hp
  · intro hall b hb
    have hmem : b.position ∈ bindings.map Binding.position := List.mem_map_of_mem hb
    have hlt : b.position < supplied.length := List.mem_range.1 (hperm.mem_iff.1 hmem)
    rw [List.getD_eq_getElem?_getD, List.getElem?_eq_getElem hlt]
    exact hall _ (List.getElem_mem hlt)

end Binding

end ImagePrompt
