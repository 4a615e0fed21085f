import ImagePrompt.Proofs.Picture.Precedence
/-!
# The declaration that finds no file

With too few files it depends on the names which declaration is left without
one. Every file that goes by name is one file less to go by position, so the
declarations that name none of what is free are served from the front, as many
of them as there are files that nobody has by name, and the next one is
reported.
-/

namespace ImagePrompt

namespace Assignment

variable {α β : Type} {named : α → β → Bool} {files : List β} {taken : List Nat}
  {declared : List α} {pairs : List (α × Option Nat)} {d e : α} {i j : Nat}

/-- The declarations without a file, in their order. -/
def unmatched (pairs : List (α × Option Nat)) : List α :=
  (pairs.filter fun pair => pair.2.isNone).map Prod.fst

@[simp] theorem unmatched_cons_some (d : α) (i : Nat) (pairs : List (α × Option Nat)) :
    unmatched ((d, some i) :: pairs) = unmatched pairs := rfl

@[simp] theorem unmatched_cons_none (d : α) (pairs : List (α × Option Nat)) :
    unmatched ((d, none) :: pairs) = d :: unmatched pairs := rfl

theorem mem_unmatched_iff : d ∈ unmatched pairs ↔ ∃ i : Nat, pairs[i]? = some (d, none) := by
  unfold unmatched
  constructor
  · intro hmem
    obtain ⟨⟨e, place⟩, hpair, rfl⟩ := List.mem_map.1 hmem
    obtain ⟨hpair, hnone⟩ := List.mem_filter.1 hpair
    obtain rfl : place = none := Option.isNone_iff_eq_none.1 hnone
    exact List.getElem?_of_mem hpair
  · rintro ⟨i, hi⟩
    have hpair : (d, none) ∈ pairs := List.mem_of_getElem? hi
    exact List.mem_map.2 ⟨(d, none), List.mem_filter.2 ⟨hpair, rfl⟩, rfl⟩

/-- The second pass fails where the free files run out: as many declarations without a file stand
before the one that it reports as there were free files at its start. -/
theorem unmatched_of_byPosition_eq_error (h : byPosition files taken pairs = .error d)
    (hfresh : Fresh files.length [] taken) :
    ∃ k, taken.length + k = files.length ∧ (unmatched pairs)[k]? = some d := by
  fun_induction byPosition files taken pairs with
  | case1 => cases h
  | case2 taken e i rest ih =>
    have hrest : byPosition files taken rest = .error d := Success.map_eq_error.1 h
    rw [unmatched_cons_some]
    exact ih hrest hfresh
  | case3 taken e rest i hfound ih =>
    have hrest : byPosition files (i :: taken) rest = .error d := Success.map_eq_error.1 h
    obtain ⟨k, hk, hd⟩ := ih hrest (hfresh.cons_firstFree? hfound)
    have hlength : (i :: taken).length = taken.length + 1 := List.length_cons
    refine ⟨k + 1, by omega, ?_⟩
    rw [unmatched_cons_none, List.getElem?_cons_succ]
    exact hd
  | case4 taken e rest hnone =>
    obtain rfl := Except.error.inj h
    have hfull : taken.length = files.length := (firstFree?_any_eq_none_iff hfresh).1 hnone
    exact ⟨0, by omega, rfl⟩

/-- Who takes what by name, going through the declarations in their order: each takes the first of
the files that it names, those left out that earlier ones have taken. -/
structure GoesByName (named : α → β → Bool) (declared : List α) (files : List β)
    (pairs : List (α × Option Nat)) : Prop where
  declarations : pairs.map Prod.fst = declared
  once : (positions pairs).Nodup
  own : ∀ (i : Nat) d j, pairs[i]? = some (d, some j) →
    ∃ file, files[j]? = some file ∧ named d file = true
  first : ∀ (i : Nat) d place (l : Nat) file, pairs[i]? = some (d, place) → files[l]? = some file →
    named d file = true →
    (∃ j ≤ l, place = some j) ∨ ∃ k < i, ∃ e, pairs[k]? = some (e, some l)

theorem byName_goesByName (named : α → β → Bool) (declared : List α) (files : List β) :
    GoesByName named declared files (byName named files [] declared) where
  declarations := map_fst_byName declared
  once := (byName_fresh declared).nodup
  own _ _ _ hpair := named_of_byName hpair
  first _ _ _ _ _ hpair hfile hnamed := by
    rcases byName_prefers hpair hfile hnamed with hown | htaken | hearlier
    · exact .inl hown
    · simp at htaken
    · exact .inr hearlier

/-- A file that nobody has by name is left for each of so many declarations, and for no more. -/
theorem unmatched_of_assign_eq_error (h : assign named files declared = .error d) :
    ∃ k, (positions (byName named files [] declared)).length + k = files.length ∧
      (unmatched (byName named files [] declared))[k]? = some d :=
  unmatched_of_byPosition_eq_error h (byName_fresh declared)

end Assignment

namespace Binding

variable {named : DeclaredImage → String → Bool} {declared : List DeclaredImage}
  {supplied : List String} {f : Failure}

theorem bindBy_eq_error_iff :
    bindBy named declared supplied = .error f ↔
      ∃ d, Assignment.assign named supplied declared = .error d ∧
        .missingFile d.image.path d.origin.label supplied.length = f := by
  unfold bindBy
  cases Assignment.assign named supplied declared <;> simp

theorem exists_bindBy_eq_error_iff (named : DeclaredImage → String → Bool) :
    (∃ f, bindBy named declared supplied = .error f) ↔ supplied.length < declared.length := by
  rw [← Nat.not_le, ← exists_bindBy_iff named]
  cases bindBy named declared supplied <;> simp

/-- Too few files are a failure, whatever they are named, and it is about the first declaration for
which no file is left besides those that go by name. -/
structure ReportsMissing (named : DeclaredImage → String → Bool) (declared : List DeclaredImage)
    (supplied : List String) (pairs : List (DeclaredImage × Option Nat)) : Prop where
  byName : Assignment.GoesByName named declared supplied pairs
  fails_iff : (∃ f, bindBy named declared supplied = .error f) ↔
    supplied.length < declared.length
  reported : ∀ f, bindBy named declared supplied = .error f →
    (Assignment.positions pairs).length ≤ supplied.length ∧
    ∃ d, (Assignment.unmatched pairs)[supplied.length - (Assignment.positions pairs).length]? =
        some d ∧
      f = .missingFile d.image.path d.origin.label supplied.length
  /-- What has a file by its name is not reported, as long as the labels tell declarations apart. -/
  spared : (declared.map fun d => d.origin.label).Nodup → ∀ (i : Nat) d j,
    pairs[i]? = some (d, some j) → ∀ path count,
    bindBy named declared supplied ≠ .error (.missingFile path d.origin.label count)

/-- The label of a declaration without a file is not that of one with a file. -/
theorem label_ne_of_unmatched {pairs : List (DeclaredImage × Option Nat)} {d e : DeclaredImage}
    {i j : Nat} (hlabels : ((pairs.map Prod.fst).map fun d => d.origin.label).Nodup)
    (hd : pairs[i]? = some (d, some j)) (he : e ∈ Assignment.unmatched pairs) :
    e.origin.label ≠ d.origin.label := by
  intro hsame
  obtain ⟨k, hk⟩ := Assignment.mem_unmatched_iff.1 he
  have hlt : i < pairs.length := (List.getElem?_eq_some_iff.1 hd).1
  have hik : i = k := by
    refine (List.getElem?_inj (by simpa using hlt) hlabels).1 ?_
    simp [hd, hk, hsame]
  subst hik
  rw [hd] at hk
  cases hk

/-- A failure is about numbers, and names decide only whom it reports. -/
theorem bindBy_reportsMissing (named : DeclaredImage → String → Bool)
    (declared : List DeclaredImage) (supplied : List String) :
    ReportsMissing named declared supplied (Assignment.byName named supplied [] declared) := by
  have hnames := Assignment.byName_goesByName named declared supplied
  constructor
  case byName => exact hnames
  case fails_iff => exact exists_bindBy_eq_error_iff named
  case reported =>
    intro f hf
    obtain ⟨d, hassign, rfl⟩ := bindBy_eq_error_iff.1 hf
    obtain ⟨k, hk, hd⟩ := Assignment.unmatched_of_assign_eq_error hassign
    refine ⟨by omega, d, ?_, rfl⟩
    rwa [← hk, Nat.add_sub_cancel_left]
  case spared =>
    intro hlabels i d j hd path count hf
    obtain ⟨e, hassign, heq⟩ := bindBy_eq_error_iff.1 hf
    obtain ⟨k, -, he⟩ := Assignment.unmatched_of_assign_eq_error hassign
    rw [← hnames.declarations] at hlabels
    refine label_ne_of_unmatched hlabels hd (List.mem_of_getElem? he) ?_
    exact (Failure.missingFile.inj heq).2.1

/-- The second declaration has the only file by its name, so the first is left without one. -/
example : bindBy namesPath
    [⟨.inputImage, { path := "x" }⟩, ⟨.baseImage, { path := "a" }⟩, ⟨.reference 0, { path := "y" }⟩]
    ["a"] = .error (.missingFile "x" "input_image" 1) := by rfl

end Binding

end ImagePrompt
