import ImagePrompt.Picture.Binding
import ImagePrompt.Proofs.Success
import Mathlib.Data.List.Perm.Basic
import Mathlib.Data.List.Nodup
/-!
# Every file once

Both passes of an assignment keep one invariant: the positions given out so far
are positions of files, each given out once. What no pass has given out is left
over, so the bindings go through the supplied files exactly once, and the
declarations come first, in their order.
-/

namespace ImagePrompt

namespace Assignment

variable {α β : Type} {named : α → β → Bool} {files : List β} {taken : List Nat}

theorem firstFree?_eq_some_iff {suits : β → Bool} {i : Nat} :
    firstFree? suits files taken = some i ↔
      i ∉ taken ∧ (∃ file, files[i]? = some file ∧ suits file = true) ∧
        ∀ j < i, ∀ file, files[j]? = some file → suits file = true → j ∈ taken := by
  simp only [firstFree?, Option.map_eq_some_iff, List.find?_eq_some_iff_getElem]
  constructor
  · rintro ⟨⟨file, k⟩, ⟨hsuits, j, hj, hget, hbefore⟩, rfl⟩
    simp only [List.getElem_zipIdx, Nat.zero_add, Prod.mk.injEq] at hget
    obtain ⟨hfile, rfl⟩ := hget
    have hlt : j < files.length := by simpa using hj
    simp only [Bool.and_eq_true, Bool.not_eq_true', List.contains_eq_mem,
      decide_eq_false_iff_not] at hsuits
    refine ⟨hsuits.1, ⟨file, by rw [List.getElem?_eq_getElem hlt, hfile], hsuits.2⟩, ?_⟩
    intro k hk other hother hnamed
    obtain ⟨_, rfl⟩ := List.getElem?_eq_some_iff.1 hother
    have := hbefore k hk
    simp only [List.getElem_zipIdx, Nat.zero_add, hnamed] at this
    simpa using this
  · rintro ⟨hi, ⟨file, hget, hsuits⟩, hbefore⟩
    obtain ⟨hlt, hget⟩ := List.getElem?_eq_some_iff.1 hget
    refine ⟨(file, i), ⟨by simp [hi, hsuits], i, by simpa using hlt, by simpa using hget, ?_⟩, rfl⟩
    intro j hj
    by_cases hnamed : suits files[j] = true
    · have hj' : j < files.length := Nat.lt_trans hj hlt
      simp [hbefore j hj _ (List.getElem?_eq_getElem hj') hnamed]
    · simp [hnamed]

theorem lt_length_of_firstFree? {suits : β → Bool} {i : Nat}
    (h : firstFree? suits files taken = some i) : i < files.length := by
  obtain ⟨-, ⟨_, hget, -⟩, -⟩ := firstFree?_eq_some_iff.1 h
  exact (List.getElem?_eq_some_iff.1 hget).1

theorem notMem_of_firstFree? {suits : β → Bool} {i : Nat}
    (h : firstFree? suits files taken = some i) : i ∉ taken :=
  (firstFree?_eq_some_iff.1 h).1

@[simp] theorem positions_cons_some (d : α) (i : Nat) (pairs : List (α × Option Nat)) :
    positions ((d, some i) :: pairs) = i :: positions pairs := rfl

@[simp] theorem positions_cons_none (d : α) (pairs : List (α × Option Nat)) :
    positions ((d, none) :: pairs) = positions pairs := rfl

/-! ## The invariant of both passes -/

/-- The positions are positions of `n` files, each once, and none of them was taken before. -/
structure Fresh (n : Nat) (taken positions : List Nat) : Prop where
  nodup : positions.Nodup
  lt : ∀ i ∈ positions, i < n
  free : ∀ i ∈ positions, i ∉ taken

theorem Fresh.nil {n : Nat} : Fresh n taken [] := by
  constructor <;> simp

theorem Fresh.cons {n i : Nat} {positions : List Nat} (hi : i < n) (hfree : i ∉ taken)
    (h : Fresh n (i :: taken) positions) : Fresh n taken (i :: positions) := by
  constructor
  · rw [List.nodup_cons]
    exact ⟨fun hmem => h.free i hmem List.mem_cons_self, h.nodup⟩
  · simpa [hi] using h.lt
  · intro j hj
    rcases List.mem_cons.1 hj with rfl | hj
    · exact hfree
    · exact fun htaken => h.free j hj (List.mem_cons_of_mem i htaken)

theorem map_fst_byName (declared : List α) :
    (byName named files taken declared).map Prod.fst = declared := by
  fun_induction byName named files taken declared <;> simp_all

theorem byName_fresh (declared : List α) :
    Fresh files.length taken (positions (byName named files taken declared)) := by
  fun_induction byName named files taken declared with
  | case1 => exact Fresh.nil
  | case2 taken d rest i hfound ih =>
    exact Fresh.cons (lt_length_of_firstFree? hfound) (notMem_of_firstFree? hfound) ih
  | case3 taken d rest hnone ih => simpa using ih

theorem map_fst_byPosition {pairs : List (α × Option Nat)} {assigned : List (α × Nat)}
    (h : byPosition files taken pairs = .ok assigned) :
    assigned.map Prod.fst = pairs.map Prod.fst := by
  fun_induction byPosition files taken pairs generalizing assigned with
  | case1 =>
    obtain rfl := Except.ok.inj h
    rfl
  | case2 taken d i rest ih =>
    obtain ⟨rest', hrest, rfl⟩ := Success.map_eq_ok.1 h
    simp [ih hrest]
  | case3 taken d rest i hfound ih =>
    obtain ⟨rest', hrest, rfl⟩ := Success.map_eq_ok.1 h
    simp [ih hrest]
  | case4 => cases h

/-- The second pass keeps the positions of the first pass, which are all taken already, and adds
free ones to them. -/
theorem byPosition_fresh {pairs : List (α × Option Nat)} {assigned : List (α × Nat)}
    (h : byPosition files taken pairs = .ok assigned) (hnodup : (positions pairs).Nodup)
    (hlt : ∀ i ∈ positions pairs, i < files.length) (htaken : ∀ i ∈ positions pairs, i ∈ taken) :
    Fresh files.length [] (assigned.map Prod.snd) ∧
      ∀ i ∈ assigned.map Prod.snd, i ∈ positions pairs ∨ i ∉ taken := by
  fun_induction byPosition files taken pairs generalizing assigned with
  | case1 =>
    obtain rfl := Except.ok.inj h
    exact ⟨Fresh.nil, by simp⟩
  | case2 taken d i rest ih =>
    obtain ⟨rest', hrest, rfl⟩ := Success.map_eq_ok.1 h
    simp only [positions_cons_some, List.nodup_cons, List.forall_mem_cons] at hnodup hlt htaken
    obtain ⟨hfresh, hnew⟩ := ih hrest hnodup.2 hlt.2 htaken.2
    have hi : i ∉ rest'.map Prod.snd := fun hmem =>
      (hnew i hmem).elim hnodup.1 fun hfree => hfree htaken.1
    refine ⟨⟨List.nodup_cons.2 ⟨hi, hfresh.nodup⟩, List.forall_mem_cons.2 ⟨hlt.1, hfresh.lt⟩,
      by simp⟩, List.forall_mem_cons.2 ⟨.inl (by simp), ?_⟩⟩
    intro j hj
    rcases hnew j hj with hold | hfree
    · exact .inl (List.mem_cons_of_mem i hold)
    · exact .inr hfree
  | case3 taken d rest i hfound ih =>
    obtain ⟨rest', hrest, rfl⟩ := Success.map_eq_ok.1 h
    have hfree := notMem_of_firstFree? hfound
    rw [positions_cons_none] at hnodup hlt htaken
    obtain ⟨hfresh, hnew⟩ :=
      ih hrest hnodup hlt fun j hj => List.mem_cons_of_mem i (htaken j hj)
    have hi : i ∉ rest'.map Prod.snd := fun hmem =>
      (hnew i hmem).elim (fun hold => hfree (htaken i hold)) fun hout => hout List.mem_cons_self
    refine ⟨⟨List.nodup_cons.2 ⟨hi, hfresh.nodup⟩,
      List.forall_mem_cons.2 ⟨lt_length_of_firstFree? hfound, hfresh.lt⟩, by simp⟩,
      List.forall_mem_cons.2 ⟨.inr hfree, ?_⟩⟩
    intro j hj
    rcases hnew j hj with hold | hout
    · exact .inl hold
    · exact .inr fun hmem => hout (List.mem_cons_of_mem i hmem)
  | case4 => cases h

/-! ## What an assignment gives out -/

theorem map_fst_assign {declared : List α} {assigned : List (α × Nat)}
    (h : assign named files declared = .ok assigned) : assigned.map Prod.fst = declared := by
  rw [map_fst_byPosition h, map_fst_byName]

theorem assign_fresh {declared : List α} {assigned : List (α × Nat)}
    (h : assign named files declared = .ok assigned) :
    Fresh files.length [] (assigned.map Prod.snd) := by
  have hnamed : Fresh files.length [] (positions (byName named files [] declared)) :=
    byName_fresh declared
  exact (byPosition_fresh h hnamed.nodup hnamed.lt fun _ hi => hi).1

theorem mem_leftovers_iff {assigned : List (α × Nat)} {i : Nat} :
    i ∈ leftovers files assigned ↔ i < files.length ∧ i ∉ assigned.map Prod.snd := by
  rw [leftovers, List.mem_filter, List.mem_range]
  simp only [Bool.not_eq_true', List.contains_eq_mem, decide_eq_false_iff_not]

/-- The positions given out and the positions left over are those of all files, each once. -/
theorem assigned_append_leftovers_perm {declared : List α} {assigned : List (α × Nat)}
    (h : assign named files declared = .ok assigned) :
    (assigned.map Prod.snd ++ leftovers files assigned).Perm (List.range files.length) := by
  have hfresh := assign_fresh h
  have hleft : (leftovers files assigned).Nodup := List.nodup_range.filter _
  have hdisjoint : (assigned.map Prod.snd).Disjoint (leftovers files assigned) :=
    fun _ hi hmem => (mem_leftovers_iff.1 hmem).2 hi
  rw [List.perm_ext_iff_of_nodup (hfresh.nodup.append hleft hdisjoint) List.nodup_range]
  intro i
  rw [List.mem_append, mem_leftovers_iff, List.mem_range]
  constructor
  · rintro (hi | ⟨hi, -⟩)
    · exact hfresh.lt i hi
    · exact hi
  · intro hi
    exact or_iff_not_imp_left.2 fun hout => ⟨hi, hout⟩

/-! ## Declarations that name the same files -/

section Alike

variable {γ : Type} {f : γ → α}

theorem byName_map (declared : List γ) :
    byName named files taken (declared.map f) =
      (byName (named ∘ f) files taken declared).map (Prod.map f id) := by
  induction declared generalizing taken with
  | nil => rfl
  | cons d rest ih =>
    rw [List.map_cons, byName, byName, Function.comp_apply]
    cases firstFree? (named (f d)) files taken with
    | none | some =>
      dsimp only
      rw [ih, List.map_cons]
      rfl

theorem positions_map (pairs : List (γ × Option Nat)) :
    positions (pairs.map (Prod.map f id)) = positions pairs := by
  rw [positions, positions, List.filterMap_map]
  rfl

theorem byPosition_map (pairs : List (γ × Option Nat)) :
    byPosition files taken (pairs.map (Prod.map f id)) =
      ((byPosition files taken pairs).map (List.map (Prod.map f id))).mapError f := by
  induction pairs generalizing taken with
  | nil => rfl
  | cons pair rest ih =>
    obtain ⟨d, place⟩ := pair
    cases place with
    | some i =>
      change (byPosition files taken (rest.map (Prod.map f id))).map ((f d, i) :: ·) =
        (((byPosition files taken rest).map ((d, i) :: ·)).map _).mapError f
      rw [ih]
      cases byPosition files taken rest <;> rfl
    | none =>
      rw [List.map_cons, Prod.map, id, byPosition, byPosition]
      cases firstFree? (fun _ => true) files taken with
      | none => rfl
      | some i =>
        dsimp only
        rw [ih]
        cases byPosition files (i :: taken) rest <;> rfl

theorem assign_map (declared : List γ) :
    assign named files (declared.map f) =
      ((assign (named ∘ f) files declared).map (List.map (Prod.map f id))).mapError f := by
  rw [assign, byName_map, positions_map, byPosition_map]
  rfl

end Alike

end Assignment

namespace Binding

variable {named : DeclaredImage → String → Bool} {declared : List DeclaredImage}
  {supplied : List String} {bindings : List Binding}

theorem bindBy_eq_ok_iff :
    bindBy named declared supplied = .ok bindings ↔
      ∃ assigned, Assignment.assign named supplied declared = .ok assigned ∧
        ofAssignment supplied assigned = bindings := by
  unfold bindBy
  cases Assignment.assign named supplied declared <;> simp

/-- The bindings go through the supplied files, each once. -/
theorem map_position_perm (h : bindBy named declared supplied = .ok bindings) :
    (bindings.map Binding.position).Perm (List.range supplied.length) := by
  obtain ⟨assigned, hassigned, rfl⟩ := bindBy_eq_ok_iff.1 h
  simpa [ofAssignment, Function.comp_def] using
    Assignment.assigned_append_leftovers_perm hassigned

/-- The declarations come first, in their order, and no other binding has a label. -/
theorem map_declaredAs (h : bindBy named declared supplied = .ok bindings) :
    ∃ others, bindings.map Binding.declaredAs =
      declared.map (fun d => some d.origin.label) ++ List.replicate others none := by
  obtain ⟨assigned, hassigned, rfl⟩ := bindBy_eq_ok_iff.1 h
  refine ⟨(Assignment.leftovers supplied assigned).length, ?_⟩
  rw [← Assignment.map_fst_assign hassigned]
  simp [ofAssignment, Function.comp_def, List.map_const']

/-- Only where the images are declared and their paths matter. -/
theorem bindBy_map (f : DeclaredImage → DeclaredImage)
    (horigin : ∀ d, (f d).origin = d.origin) (hpath : ∀ d, (f d).image.path = d.image.path) :
    bindBy named (declared.map f) supplied = bindBy (named ∘ f) declared supplied := by
  rw [bindBy, bindBy, Assignment.assign_map]
  cases Assignment.assign (named ∘ f) supplied declared with
  | error d => simp [Except.map, Except.mapError, horigin, hpath]
  | ok assigned =>
    simp only [Except.map, Except.mapError, ofAssignment, Assignment.leftovers, List.map_map]
    simp [Function.comp_def, horigin]

end Binding

namespace LoadedImage

variable {fs : FileSystem} {declared : List DeclaredImage} {supplied : List String}
  {images : List LoadedImage}

theorem declaredAs_of_ofBinding {b : Binding} {image : LoadedImage}
    (h : ofBinding fs supplied b = .ok image) : image.declaredAs = b.declaredAs := by
  obtain ⟨loaded, -, rfl⟩ := Success.map_eq_ok.1 h
  rfl

theorem loadAll_eq_ok_iff :
    loadAll fs declared supplied = .ok images ↔
      ∃ bindings, Binding.bind fs declared supplied = .ok bindings ∧
        List.Forall₂ (fun b image => ofBinding fs supplied b = .ok image) bindings images := by
  simp only [loadAll, Success.bind_eq_ok, Success.mapM_eq_ok]

theorem length_of_loadAll (h : loadAll fs declared supplied = .ok images) :
    images.length = supplied.length := by
  obtain ⟨bindings, hbind, hload⟩ := loadAll_eq_ok_iff.1 h
  rw [← hload.length_eq]
  simpa using (Binding.map_position_perm hbind).length_eq

theorem map_declaredAs_of_forall₂ {bindings : List Binding}
    (h : List.Forall₂ (fun b image => ofBinding fs supplied b = .ok image) bindings images) :
    images.map LoadedImage.declaredAs = bindings.map Binding.declaredAs := by
  induction h with
  | nil => rfl
  | cons hb _ ih => rw [List.map_cons, List.map_cons, ih, declaredAs_of_ofBinding hb]

theorem map_declaredAs_of_loadAll (h : loadAll fs declared supplied = .ok images) :
    ∃ others, images.map LoadedImage.declaredAs =
      declared.map (fun d => some d.origin.label) ++ List.replicate others none := by
  obtain ⟨bindings, hbind, hload⟩ := loadAll_eq_ok_iff.1 h
  obtain ⟨others, hothers⟩ := Binding.map_declaredAs hbind
  exact ⟨others, (map_declaredAs_of_forall₂ hload).trans hothers⟩

end LoadedImage

end ImagePrompt
