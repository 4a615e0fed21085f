import ImagePrompt.Proofs.Picture.Counting
import Mathlib.Data.List.Count
/-!
# Names before positions

What the two passes prefer. A declaration takes the first file that it names,
unless an earlier declaration has taken that one by its name; only what nobody
has taken so is given out by position, from the front. So no declaration loses
a file that it names to a position, and where each declaration names one file
of its own, the order of the files has no part in who takes which.
-/

namespace ImagePrompt

namespace Assignment

variable {α β : Type} {named : α → β → Bool} {files : List β} {taken : List Nat}
  {declared : List α} {pairs : List (α × Option Nat)} {assigned : List (α × Nat)}
  {d : α} {file : β} {i j k : Nat} {place : Option Nat}

/-! ## The first pass -/

/-- What the first pass gives out is named. -/
theorem named_of_byName
    (h : (byName named files taken declared)[i]? = some (d, some j)) :
    ∃ file, files[j]? = some file ∧ named d file = true := by
  fun_induction byName named files taken declared generalizing i with
  | case1 => simp at h
  | case2 taken e rest first hfound ih =>
    cases i with
    | zero =>
      have hpair : (e, some first) = (d, some j) := by simpa using h
      obtain ⟨rfl, hplace⟩ := Prod.mk.inj hpair
      obtain rfl := Option.some.inj hplace
      exact (firstFree?_eq_some_iff.1 hfound).2.1
    | succ i => exact ih h
  | case3 taken e rest hnone ih =>
    cases i with
    | zero => simp at h
    | succ i => exact ih h

/-- A file that a declaration names goes to it or comes behind its own, or else has been taken. -/
theorem byName_prefers (hpair : (byName named files taken declared)[i]? = some (d, place))
    (hfile : files[j]? = some file) (hnamed : named d file = true) :
    (∃ first ≤ j, place = some first) ∨ j ∈ taken ∨
      ∃ k < i, ∃ e, (byName named files taken declared)[k]? = some (e, some j) := by
  fun_induction byName named files taken declared generalizing i with
  | case1 => simp at hpair
  | case2 taken e rest first hfound ih =>
    have hbefore := (firstFree?_eq_some_iff.1 hfound).2.2
    cases i with
    | zero =>
      have heq : (e, some first) = (d, place) := by simpa using hpair
      obtain ⟨rfl, rfl⟩ := Prod.mk.inj heq
      by_cases hle : first ≤ j
      · exact .inl ⟨first, hle, rfl⟩
      · have hlt : j < first := by omega
        exact .inr (.inl (hbefore j hlt file hfile hnamed))
    | succ i =>
      rcases ih hpair with hown | htaken | ⟨k, hk, other, hother⟩
      · exact .inl hown
      · rcases List.mem_cons.1 htaken with rfl | htaken
        · exact .inr (.inr ⟨0, by omega, e, rfl⟩)
        · exact .inr (.inl htaken)
      · exact .inr (.inr ⟨k + 1, by omega, other, hother⟩)
  | case3 taken e rest hnone ih =>
    cases i with
    | zero =>
      have heq : (e, none) = (d, place) := by simpa using hpair
      obtain ⟨rfl, rfl⟩ := Prod.mk.inj heq
      exact .inr (.inl (firstFree?_eq_none_iff.1 hnone j file hfile hnamed))
    | succ i =>
      rcases ih hpair with hown | htaken | ⟨k, hk, other, hother⟩
      · exact .inl hown
      · exact .inr (.inl htaken)
      · exact .inr (.inr ⟨k + 1, by omega, other, hother⟩)

/-! ## The second pass -/

theorem byPosition_keeps (h : byPosition files taken pairs = .ok assigned)
    (hpair : pairs[i]? = some (d, some j)) : assigned[i]? = some (d, j) := by
  fun_induction byPosition files taken pairs generalizing assigned i with
  | case1 => simp at hpair
  | case2 taken e first rest ih =>
    obtain ⟨rest', hrest, rfl⟩ := Success.map_eq_ok.1 h
    cases i with
    | zero => simpa using hpair
    | succ i =>
      show rest'[i]? = some (d, j)
      exact ih hrest hpair
  | case3 taken e rest first hfound ih =>
    obtain ⟨rest', hrest, rfl⟩ := Success.map_eq_ok.1 h
    cases i with
    | zero => simp at hpair
    | succ i =>
      show rest'[i]? = some (d, j)
      exact ih hrest hpair
  | case4 => cases h

/-- The second pass gives out what is free, and nothing before it is. -/
theorem byPosition_prefers (h : byPosition files taken pairs = .ok assigned)
    (hpair : pairs[i]? = some (d, none)) (hassigned : assigned[i]? = some (d, j)) :
    j ∉ taken ∧ ∀ l < j, l ∈ taken ∨
      ∃ k < i, ∃ e, pairs[k]? = some (e, none) ∧ assigned[k]? = some (e, l) := by
  fun_induction byPosition files taken pairs generalizing assigned i with
  | case1 => simp at hpair
  | case2 taken e first rest ih =>
    obtain ⟨rest', hrest, rfl⟩ := Success.map_eq_ok.1 h
    cases i with
    | zero => simp at hpair
    | succ i =>
      obtain ⟨hfree, hbefore⟩ := ih hrest hpair hassigned
      refine ⟨hfree, fun l hl => ?_⟩
      rcases hbefore l hl with htaken | ⟨k, hk, other, hother⟩
      · exact .inl htaken
      · exact .inr ⟨k + 1, by omega, other, hother⟩
  | case3 taken e rest first hfound ih =>
    obtain ⟨rest', hrest, rfl⟩ := Success.map_eq_ok.1 h
    cases i with
    | zero =>
      have heq : (e, first) = (d, j) := by simpa using hassigned
      obtain ⟨rfl, rfl⟩ := Prod.mk.inj heq
      have hlt := lt_length_of_firstFree? hfound
      obtain ⟨hfree, -, hbefore⟩ := firstFree?_eq_some_iff.1 hfound
      refine ⟨hfree, fun l hl => .inl ?_⟩
      have hl' : l < files.length := by omega
      exact hbefore l hl files[l] (List.getElem?_eq_getElem hl') rfl
    | succ i =>
      obtain ⟨hfree, hbefore⟩ := ih hrest hpair hassigned
      refine ⟨fun hmem => hfree (List.mem_cons_of_mem first hmem), fun l hl => ?_⟩
      rcases hbefore l hl with htaken | ⟨k, hk, other, hother⟩
      · rcases List.mem_cons.1 htaken with rfl | htaken
        · exact .inr ⟨0, by omega, e, rfl, rfl⟩
        · exact .inl htaken
      · exact .inr ⟨k + 1, by omega, other, hother⟩
  | case4 => cases h

/-! ## Both passes -/

theorem mem_positions_iff :
    j ∈ positions pairs ↔ ∃ (i : Nat) (d : α), pairs[i]? = some (d, some j) := by
  unfold positions
  rw [List.mem_filterMap]
  constructor
  · rintro ⟨⟨d, place⟩, hmem, rfl⟩
    obtain ⟨i, hi⟩ := List.getElem?_of_mem hmem
    exact ⟨i, d, hi⟩
  · rintro ⟨i, d, hi⟩
    exact ⟨_, List.mem_of_getElem? hi, rfl⟩

variable (h : assign named files declared = .ok assigned)

include h

theorem getElem?_assigned : assigned[i]?.map Prod.fst = declared[i]? := by
  rw [← map_fst_assign h, List.getElem?_map]

/-- The pair of the first pass that stands behind a place. -/
theorem exists_pair (hi : assigned[i]? = some (d, j)) :
    ∃ place, (byName named files [] declared)[i]? = some (d, place) := by
  have hdeclared : ((byName named files [] declared).map Prod.fst)[i]? = some d := by
    rw [map_fst_byName, ← getElem?_assigned h, hi]
    rfl
  rw [List.getElem?_map] at hdeclared
  obtain ⟨⟨e, place⟩, hpair, rfl⟩ := Option.map_eq_some_iff.1 hdeclared
  exact ⟨place, hpair⟩

/-- No two declarations have one file. -/
theorem assigned_inj {e : α} (hi : assigned[i]? = some (d, j))
    (hk : assigned[k]? = some (e, j)) : i = k := by
  have hnodup := (assign_fresh h).nodup
  have hlt : i < (assigned.map Prod.snd).length := by
    simpa using (List.getElem?_eq_some_iff.1 hi).1
  refine (List.getElem?_inj hlt hnodup).1 ?_
  simp [hi, hk]

theorem lt_length_of_assigned (hi : assigned[i]? = some (d, j)) : j < files.length :=
  (assign_fresh h).lt j (List.mem_map.2 ⟨_, List.mem_of_getElem? hi, rfl⟩)

/-- A file of the first pass is kept. -/
theorem eq_of_byName (hi : assigned[i]? = some (d, j))
    (hpair : (byName named files [] declared)[i]? = some (d, some k)) : k = j := by
  have hkept := byPosition_keeps h hpair
  rw [hi] at hkept
  exact (Prod.mk.inj (Option.some.inj hkept)).2.symm

/-- A declaration has a file of the first pass exactly when it names the file that it has. -/
theorem byName_eq_some_iff (hi : assigned[i]? = some (d, j)) (hfile : files[j]? = some file) :
    (byName named files [] declared)[i]? = some (d, some j) ↔ named d file = true := by
  constructor
  · intro hpair
    obtain ⟨other, hother, hnamed⟩ := named_of_byName hpair
    obtain rfl := Option.some.inj (hfile.symm.trans hother)
    exact hnamed
  · intro hnamed
    obtain ⟨place, hpair⟩ := exists_pair h hi
    cases place with
    | some first =>
      obtain rfl := eq_of_byName h hi hpair
      exact hpair
    | none =>
      -- Without a file of its own it would have found this one, which nobody has by name.
      have hfree := (byPosition_prefers h hpair hi).1
      rcases byName_prefers hpair hfile hnamed with ⟨_, -, hplace⟩ | htaken | ⟨k, -, e, hk⟩
      · cases hplace
      · simp at htaken
      · exact absurd (mem_positions_iff.2 ⟨k, e, hk⟩) hfree

theorem byName_eq_none_iff (hi : assigned[i]? = some (d, j)) (hfile : files[j]? = some file) :
    (byName named files [] declared)[i]? = some (d, none) ↔ named d file = false := by
  obtain ⟨place, hpair⟩ := exists_pair h hi
  rw [← Bool.not_eq_true, ← byName_eq_some_iff h hi hfile, hpair]
  cases place with
  | none => simp
  | some first =>
    obtain rfl := eq_of_byName h hi hpair
    simp

/-- A declaration has a file that it names and none before it, or else that file has gone to an
earlier declaration that names it. -/
theorem assign_prefers (hi : assigned[i]? = some (d, j)) (hfile : files[j]? = some file)
    {l : Nat} {other : β} (hother : files[l]? = some other) (hnamed : named d other = true) :
    (named d file = true ∧ j ≤ l) ∨
      ∃ k < i, ∃ e, assigned[k]? = some (e, l) ∧ named e other = true := by
  obtain ⟨place, hpair⟩ := exists_pair h hi
  rcases byName_prefers hpair hother hnamed with ⟨first, hle, rfl⟩ | htaken | ⟨k, hk, e, htaken⟩
  · obtain rfl := eq_of_byName h hi hpair
    exact .inl ⟨(byName_eq_some_iff h hi hfile).1 hpair, hle⟩
  · simp at htaken
  · have hassigned := byPosition_keeps h htaken
    exact .inr ⟨k, hk, e, hassigned, (byName_eq_some_iff h hassigned hother).1 htaken⟩

/-- Before a file that goes by position, all have gone by name or to an earlier declaration. -/
theorem assign_fills (hi : assigned[i]? = some (d, j)) (hfile : files[j]? = some file)
    (hunnamed : named d file = false) {l : Nat} (hl : l < j) :
    ∃ k e other, assigned[k]? = some (e, l) ∧ files[l]? = some other ∧
      (named e other = true ∨ k < i) := by
  have hpair := (byName_eq_none_iff h hi hfile).2 hunnamed
  have hlt : l < files.length := by
    have hj := lt_length_of_assigned h hi
    omega
  have hget : files[l]? = some files[l] := List.getElem?_eq_getElem hlt
  rcases (byPosition_prefers h hpair hi).2 l hl with htaken | ⟨k, hk, e, -, hassigned⟩
  · obtain ⟨k, e, hk⟩ := mem_positions_iff.1 htaken
    have hassigned := byPosition_keeps h hk
    exact ⟨k, e, _, hassigned, hget, .inl ((byName_eq_some_iff h hassigned hget).1 hk)⟩
  · exact ⟨k, e, _, hassigned, hget, .inr hk⟩

end Assignment

namespace Binding

variable {named : DeclaredImage → String → Bool} {declared : List DeclaredImage}
  {supplied reordered : List String} {bindings : List Binding} {d e : DeclaredImage}
  {file other : String} {i j k l : Nat}

/-- The `i`-th declaration has the `j`-th file. -/
structure Takes (declared : List DeclaredImage) (supplied : List String) (bindings : List Binding)
    (i : Nat) (d : DeclaredImage) (j : Nat) (file : String) : Prop where
  declaration : declared[i]? = some d
  binding : bindings[i]? = some ⟨j, some d.origin.label⟩
  file : supplied[j]? = some file

/-! ## Bindings and assignments -/

theorem take_ofAssignment {assigned : List (DeclaredImage × Nat)}
    (h : Assignment.assign named supplied declared = .ok assigned) :
    (ofAssignment supplied assigned).take declared.length =
      assigned.map fun (d, i) => ⟨i, some d.origin.label⟩ := by
  have hlength : declared.length = assigned.length := by
    rw [← Assignment.map_fst_assign h, List.length_map]
  unfold ofAssignment
  exact List.take_left' (by simpa using hlength.symm)

theorem drop_ofAssignment {assigned : List (DeclaredImage × Nat)}
    (h : Assignment.assign named supplied declared = .ok assigned) :
    (ofAssignment supplied assigned).drop declared.length =
      (Assignment.leftovers supplied assigned).map (⟨·, none⟩) := by
  have hlength : declared.length = assigned.length := by
    rw [← Assignment.map_fst_assign h, List.length_map]
  unfold ofAssignment
  exact List.drop_left' (by simpa using hlength.symm)

theorem takes_iff {assigned : List (DeclaredImage × Nat)}
    (h : Assignment.assign named supplied declared = .ok assigned) :
    Takes declared supplied (ofAssignment supplied assigned) i d j file ↔
      assigned[i]? = some (d, j) ∧ supplied[j]? = some file := by
  have hdeclared := Assignment.getElem?_assigned h (i := i)
  have hlength : assigned.length = declared.length := by
    rw [← Assignment.map_fst_assign h, List.length_map]
  constructor
  · rintro ⟨hd, hbinding, hfile⟩
    have hlt : i < declared.length := (List.getElem?_eq_some_iff.1 hd).1
    rw [← List.getElem?_take_of_lt hlt, take_ofAssignment h, List.getElem?_map] at hbinding
    obtain ⟨⟨e, l⟩, hi, heq⟩ := Option.map_eq_some_iff.1 hbinding
    rw [hi, hd] at hdeclared
    obtain rfl : e = d := Option.some.inj hdeclared
    obtain rfl : l = j := congrArg Binding.position heq
    exact ⟨hi, hfile⟩
  · rintro ⟨hi, hfile⟩
    rw [hi] at hdeclared
    have hlt : i < declared.length := (List.getElem?_eq_some_iff.1 hdeclared.symm).1
    refine ⟨hdeclared.symm, ?_, hfile⟩
    rw [← List.getElem?_take_of_lt hlt, take_ofAssignment h, List.getElem?_map, hi]
    rfl

section Takes

variable (h : bindBy named declared supplied = .ok bindings)

include h

theorem exists_takes (hd : declared[i]? = some d) :
    ∃ j file, Takes declared supplied bindings i d j file := by
  obtain ⟨assigned, hassign, rfl⟩ := bindBy_eq_ok_iff.1 h
  have hdeclared := Assignment.getElem?_assigned hassign (i := i)
  rw [hd] at hdeclared
  obtain ⟨⟨e, j⟩, hi, rfl⟩ := Option.map_eq_some_iff.1 hdeclared
  have hlt := Assignment.lt_length_of_assigned hassign hi
  exact ⟨j, supplied[j], (takes_iff hassign).2 ⟨hi, List.getElem?_eq_getElem hlt⟩⟩

theorem takes_inj (hi : Takes declared supplied bindings i d j file)
    (hk : Takes declared supplied bindings k e j other) : i = k := by
  obtain ⟨assigned, hassign, rfl⟩ := bindBy_eq_ok_iff.1 h
  rw [takes_iff hassign] at hi hk
  exact Assignment.assigned_inj hassign hi.1 hk.1

/-- A declaration has a file that it names and none before it, or else that file has gone to an
earlier declaration that names it. -/
theorem takes_prefers (hi : Takes declared supplied bindings i d j file)
    (hother : supplied[l]? = some other) (hnamed : named d other = true) :
    (named d file = true ∧ j ≤ l) ∨
      ∃ k < i, ∃ e, Takes declared supplied bindings k e l other ∧ named e other = true := by
  obtain ⟨assigned, hassign, rfl⟩ := bindBy_eq_ok_iff.1 h
  rw [takes_iff hassign] at hi
  rcases Assignment.assign_prefers hassign hi.1 hi.2 hother hnamed with
    hown | ⟨k, hk, e, hassigned, hnamed'⟩
  · exact .inl hown
  · exact .inr ⟨k, hk, e, (takes_iff hassign).2 ⟨hassigned, hother⟩, hnamed'⟩

end Takes

/-! ## Every file in its place -/

/-- The bindings go through the files, each once: first those that the declarations have, in their
order, then the others. What goes by position goes from the front. -/
structure GoesThroughFiles (named : DeclaredImage → String → Bool) (declared : List DeclaredImage)
    (supplied : List String) (bindings : List Binding) : Prop where
  permutation : (bindings.map Binding.position).Perm (List.range supplied.length)
  taken : ∀ (i : Nat) (d : DeclaredImage), declared[i]? = some d →
    ∃ j file, Takes declared supplied bindings i d j file
  unlabelled : ∀ b ∈ bindings.drop declared.length, b.declaredAs = none
  leftovers_increase : ((bindings.drop declared.length).map Binding.position).Pairwise (· < ·)
  /-- The first pass finds nothing for just those declarations that do not name the file that they
  have. -/
  unmatched_iff : ∀ i d j file, Takes declared supplied bindings i d j file →
    ((Assignment.byName named supplied [] declared)[i]? = some (d, none) ↔ named d file = false)
  positional_increase : ∀ i d j file k e l other, i < k →
    Takes declared supplied bindings i d j file → named d file = false →
    Takes declared supplied bindings k e l other → named e other = false → j < l
  positional_before_leftovers : ∀ i d j file, Takes declared supplied bindings i d j file →
    named d file = false → ∀ b ∈ bindings.drop declared.length, j < b.position

/-- Whatever the declarations name, every file goes to one binding, in order as far as nothing is
named. -/
theorem bindBy_goesThroughFiles (h : bindBy named declared supplied = .ok bindings) :
    GoesThroughFiles named declared supplied bindings := by
  have hperm := map_position_perm h
  obtain ⟨assigned, hassign, rfl⟩ := bindBy_eq_ok_iff.1 h
  constructor
  case permutation => exact hperm
  case taken => exact fun i d hd => exists_takes h hd
  case unlabelled =>
    rw [drop_ofAssignment hassign]
    simp
  case leftovers_increase =>
    rw [drop_ofAssignment hassign, List.map_map]
    have hincrease : (Assignment.leftovers supplied assigned).Pairwise (· < ·) :=
      List.pairwise_lt_range.filter _
    simpa [Function.comp_def] using hincrease
  case unmatched_iff =>
    intro i d j file htakes
    obtain ⟨hi, hfile⟩ := (takes_iff hassign).1 htakes
    exact Assignment.byName_eq_none_iff hassign hi hfile
  case positional_increase =>
    intro i d j file k e l other hik htakes hunnamed htakes' hunnamed'
    obtain ⟨hi, hfile⟩ := (takes_iff hassign).1 htakes
    obtain ⟨hk, hother⟩ := (takes_iff hassign).1 htakes'
    by_contra hle
    have hne : l ≠ j := by
      rintro rfl
      have heq := Assignment.assigned_inj hassign hi hk
      omega
    have hlt : l < j := by omega
    obtain ⟨m, c, file', hm, hfile', hearly⟩ :=
      Assignment.assign_fills hassign hi hfile hunnamed hlt
    -- The file before it would be that of the later declaration.
    obtain rfl : m = k := Assignment.assigned_inj hassign hm hk
    obtain ⟨rfl, -⟩ := Prod.mk.inj (Option.some.inj (hm.symm.trans hk))
    obtain rfl := Option.some.inj (hfile'.symm.trans hother)
    rcases hearly with hnamed | hlt'
    · rw [hunnamed'] at hnamed
      cases hnamed
    · omega
  case positional_before_leftovers =>
    intro i d j file htakes hunnamed b hb
    obtain ⟨hi, hfile⟩ := (takes_iff hassign).1 htakes
    rw [drop_ofAssignment hassign] at hb
    obtain ⟨l, hl, rfl⟩ := List.mem_map.1 hb
    have hleft := (Assignment.mem_leftovers_iff.1 hl).2
    have hne : l ≠ j := by
      rintro rfl
      exact hleft (List.mem_map.2 ⟨_, List.mem_of_getElem? hi, rfl⟩)
    by_contra hle
    have hlt : l < j := by
      have : ¬ j < l := hle
      omega
    obtain ⟨k, e, -, hk, -⟩ := Assignment.assign_fills hassign hi hfile hunnamed hlt
    exact hleft (List.mem_map.2 ⟨_, List.mem_of_getElem? hk, rfl⟩)

/-- A declaration names the file of its path and no other. -/
def namesPath (d : DeclaredImage) (file : String) : Bool := d.image.path == file

/-- Two declarations of one path, and two of paths that are not supplied. -/
def repeating : List DeclaredImage :=
  [⟨.inputImage, { path := "x" }⟩, ⟨.baseImage, { path := "b" }⟩, ⟨.reference 0, { path := "b" }⟩,
    ⟨.reference 1, { path := "y" }⟩]

theorem repeating_goesThroughFiles :
    ∃ bindings, bindBy namesPath repeating ["a", "b", "b", "c", "d"] = .ok bindings ∧
      bindings.map Binding.position = [0, 1, 2, 3, 4] ∧
      GoesThroughFiles namesPath repeating ["a", "b", "b", "c", "d"] bindings := by
  have hbind : bindBy namesPath repeating ["a", "b", "b", "c", "d"] =
      .ok [⟨0, some "input_image"⟩, ⟨1, some "base_image"⟩, ⟨2, some "reference_images[0]"⟩,
        ⟨3, some "reference_images[1]"⟩, ⟨4, none⟩] := by rfl
  exact ⟨_, hbind, rfl, bindBy_goesThroughFiles hbind⟩

/-! ## A name before any position -/

/-- Each declaration names one of the files, and no two name the same. -/
structure OneFileEach (named : DeclaredImage → String → Bool) (declared : List DeclaredImage)
    (supplied : List String) : Prop where
  one : ∀ d ∈ declared, supplied.countP (named d) = 1
  apart : declared.Pairwise fun d e => ∀ file ∈ supplied, named d file = true → named e file = false

theorem OneFileEach.of_perm (h : OneFileEach named declared supplied)
    (hperm : supplied.Perm reordered) : OneFileEach named declared reordered := by
  constructor
  · intro d hd
    rw [← hperm.countP_eq, h.one d hd]
  · exact h.apart.imp fun hde file hfile => hde file (hperm.mem_iff.2 hfile)

theorem eq_of_countP_eq_one {p : String → Bool} (h : supplied.countP p = 1)
    (hfile : file ∈ supplied) (hother : other ∈ supplied) (hp : p file = true)
    (hp' : p other = true) : file = other := by
  rw [List.countP_eq_length_filter, List.length_eq_one_iff] at h
  obtain ⟨only, honly⟩ := h
  have hmem : file ∈ supplied.filter p := List.mem_filter.2 ⟨hfile, hp⟩
  have hmem' : other ∈ supplied.filter p := List.mem_filter.2 ⟨hother, hp'⟩
  rw [honly, List.mem_singleton] at hmem hmem'
  rw [hmem, hmem']

theorem OneFileEach.named_of_takes (hone : OneFileEach named declared supplied)
    (h : bindBy named declared supplied = .ok bindings)
    (htakes : Takes declared supplied bindings i d j file) : named d file = true := by
  have hd : d ∈ declared := List.mem_of_getElem? htakes.declaration
  have hcount : 0 < supplied.countP (named d) := by
    have := hone.one d hd
    omega
  obtain ⟨other, hother, hnamed⟩ := List.countP_pos_iff.1 hcount
  obtain ⟨l, hl⟩ := List.getElem?_of_mem hother
  rcases takes_prefers h htakes hl hnamed with hown | ⟨k, hk, e, hearlier, hnamed'⟩
  · exact hown.1
  · obtain ⟨hlt, hget⟩ := List.getElem?_eq_some_iff.1 htakes.declaration
    obtain ⟨hlt', hget'⟩ := List.getElem?_eq_some_iff.1 hearlier.declaration
    have hapart := List.pairwise_iff_getElem.1 hone.apart k i hlt' hlt hk
    rw [hget, hget'] at hapart
    have hunnamed := hapart other hother hnamed'
    rw [hnamed] at hunnamed
    cases hunnamed

/-- What a declaration names goes before any position: it lacks only what earlier declarations have
by name, and no position takes a file from it. -/
structure NamesFirst (named : DeclaredImage → String → Bool) (declared : List DeclaredImage)
    (supplied : List String) (bindings : List Binding) : Prop where
  lacking : ∀ i d j file, Takes declared supplied bindings i d j file → named d file = false →
    ∀ (l : Nat) (other : String), supplied[l]? = some other → named d other = true →
      ∃ k < i, ∃ e, Takes declared supplied bindings k e l other ∧ named e other = true
  undisturbed : ∀ i d j file, Takes declared supplied bindings i d j file → named d file = false →
    ∀ k e l other, Takes declared supplied bindings k e l other → named e file = true →
      named e other = true ∧ l < j
  lowest : ∀ i d j file, Takes declared supplied bindings i d j file → named d file = true →
    ∀ l < j, ∀ other, supplied[l]? = some other → named d other = true →
      ∃ k < i, ∃ e, Takes declared supplied bindings k e l other ∧ named e other = true
  own : ∀ i d j file k e other, Takes declared supplied bindings i d j file →
    Takes declared supplied bindings k e j other → i = k
  /-- Where each declaration names a file of its own, it has that file in whatever order they
  come. -/
  orderless : OneFileEach named declared supplied → ∀ reordered, supplied.Perm reordered →
    ∃ bindings', bindBy named declared reordered = .ok bindings' ∧
      ∀ i d j file, Takes declared supplied bindings i d j file →
        named d file = true ∧ ∃ j', Takes declared reordered bindings' i d j' file

/-- A declaration prefers what it names, and what is named goes by position to nobody. -/
theorem bindBy_namesFirst (h : bindBy named declared supplied = .ok bindings) :
    NamesFirst named declared supplied bindings := by
  constructor
  case lacking =>
    intro i d j file htakes hunnamed l other hother hnamed
    rcases takes_prefers h htakes hother hnamed with ⟨hown, -⟩ | hearlier
    · rw [hunnamed] at hown
      cases hown
    · exact hearlier
  case undisturbed =>
    intro i d j file htakes hunnamed k e l other htakes' hnamed
    rcases takes_prefers h htakes' htakes.file hnamed with ⟨hown, hle⟩ | ⟨m, -, c, hm, hnamed'⟩
    · have hne : l ≠ j := by
        rintro rfl
        obtain rfl := takes_inj h htakes htakes'
        obtain rfl := Option.some.inj (htakes.declaration.symm.trans htakes'.declaration)
        rw [hunnamed] at hnamed
        cases hnamed
      exact ⟨hown, by omega⟩
    · -- Only one declaration has the file, and that one does not name it.
      obtain rfl := takes_inj h htakes hm
      obtain rfl := Option.some.inj (htakes.declaration.symm.trans hm.declaration)
      rw [hunnamed] at hnamed'
      cases hnamed'
  case lowest =>
    intro i d j file htakes _ l hl other hother hnamed
    rcases takes_prefers h htakes hother hnamed with ⟨-, hle⟩ | hearlier
    · omega
    · exact hearlier
  case own => exact fun _ _ _ _ _ _ _ htakes htakes' => takes_inj h htakes htakes'
  case orderless =>
    intro hone reordered hperm
    have hone' := hone.of_perm hperm
    have hlength : declared.length ≤ reordered.length := by
      rw [← hperm.length_eq]
      exact (exists_bindBy_iff named).1 ⟨bindings, h⟩
    obtain ⟨bindings', h'⟩ := (exists_bindBy_iff named).2 hlength
    refine ⟨bindings', h', fun i d j file htakes => ?_⟩
    have hnamed := hone.named_of_takes h htakes
    obtain ⟨j', file', htakes'⟩ := exists_takes h' htakes.declaration
    have hnamed' := hone'.named_of_takes h' htakes'
    have hd : d ∈ declared := List.mem_of_getElem? htakes.declaration
    have hfile : file ∈ supplied := List.mem_of_getElem? htakes.file
    have hfile' : file' ∈ supplied := hperm.mem_iff.2 (List.mem_of_getElem? htakes'.file)
    obtain rfl : file' = file := eq_of_countP_eq_one (hone.one d hd) hfile' hfile hnamed' hnamed
    exact ⟨hnamed, j', htakes'⟩

/-- Two declarations of one file each. -/
def separate : List DeclaredImage :=
  [⟨.inputImage, { path := "c" }⟩, ⟨.baseImage, { path := "a" }⟩]

theorem separate_namesFirst :
    ∃ bindings bindings', bindBy namesPath separate ["a", "b", "c"] = .ok bindings ∧
      NamesFirst namesPath separate ["a", "b", "c"] bindings ∧
      bindBy namesPath separate ["b", "c", "a"] = .ok bindings' ∧
      ∀ i d j file, Takes separate ["a", "b", "c"] bindings i d j file →
        ∃ j', Takes separate ["b", "c", "a"] bindings' i d j' file := by
  have hbind : bindBy namesPath separate ["a", "b", "c"] =
      .ok [⟨2, some "input_image"⟩, ⟨0, some "base_image"⟩, ⟨1, none⟩] := by rfl
  have hone : OneFileEach namesPath separate ["a", "b", "c"] := by
    constructor <;> decide
  have hfirst := bindBy_namesFirst hbind
  obtain ⟨bindings', hbind', hsame⟩ := hfirst.orderless hone ["b", "c", "a"] (by decide)
  refine ⟨_, bindings', hbind, hfirst, hbind', ?_⟩
  intro i d j file htakes
  exact (hsame i d j file htakes).2

end Binding

end ImagePrompt
