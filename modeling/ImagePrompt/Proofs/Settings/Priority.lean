import ImagePrompt.Proofs.Text.Blank
import ImagePrompt.Settings.Source
import Mathlib.Data.Prod.Lex
import Mathlib.Order.Bounds.Defs
/-!
# Which value counts

Sources come before keys: of all places where a source has something to say
under a key, the one counts that comes first by the place of the source, and
for one source by the place of the key. Sources behind it, and values that say
nothing, are of no account.
-/

namespace ImagePrompt

/-! ## The first of a list -/

section First

variable {α β : Type} {f g : α → Option β} {l : List α} {b : β}

theorem findSome?_congr (h : ∀ a ∈ l, f a = g a) : l.findSome? f = l.findSome? g := by
  induction l with
  | nil => rfl
  | cons a l ih =>
    obtain ⟨ha, hl⟩ := List.forall_mem_cons.1 h
    rw [List.findSome?_cons, List.findSome?_cons, ha, ih hl]

/-- A look-up among the rows whose key is not the one that is gone. -/
theorem lookup_filter_ne {rows : List (String × β)} {key gone : String} :
    (rows.filter (·.1 != gone)).lookup key = if key = gone then none else rows.lookup key := by
  induction rows with
  | nil => simp
  | cons row rows ih =>
    by_cases hrow : row.1 = gone
    · rw [List.filter_cons_of_neg (by simp [hrow]), ih]
      by_cases hkey : key = gone
      · rw [if_pos hkey, if_pos hkey]
      · have hne : (key == row.1) = false := by simp [hrow, hkey]
        rw [if_neg hkey, if_neg hkey, List.lookup_cons, hne]
    · rw [List.filter_cons_of_pos (by simp [hrow]), List.lookup_cons, List.lookup_cons, ih]
      by_cases hkey : key = gone
      · have hne : (key == row.1) = false := by simp [hkey, Ne.symm hrow]
        simp only [hne, if_pos hkey]
      · rw [if_neg hkey, if_neg hkey]

/-- What is found is found at the first place where there is anything. -/
theorem findSome?_eq_some_iff_first :
    l.findSome? f = some b ↔
      ∃ (i : Nat) (a : α), l[i]? = some a ∧ f a = some b ∧
        ∀ j < i, ∀ c, l[j]? = some c → f c = none := by
  rw [List.findSome?_eq_some_iff]
  constructor
  · rintro ⟨before, a, behind, rfl, ha, hbefore⟩
    refine ⟨before.length, a, by simp, ha, fun j hj c hc => hbefore c ?_⟩
    rw [List.getElem?_append_left hj] at hc
    exact List.mem_of_getElem? hc
  · rintro ⟨i, a, hi, ha, hbefore⟩
    obtain ⟨hlt, rfl⟩ := List.getElem?_eq_some_iff.1 hi
    refine ⟨l.take i, l[i], l.drop (i + 1), ?_, ha, fun c hc => ?_⟩
    · rw [List.getElem_cons_drop, List.take_append_drop]
    · obtain ⟨j, hj, rfl⟩ := List.mem_take_iff_getElem.1 hc
      exact hbefore j (by omega) _ (List.getElem?_eq_getElem (by omega))

end First

/-! ## What a source says -/

namespace Source

/-- A source has a value for a key, and the value is not blank. -/
def Yields (s : Source) (key value : String) : Prop :=
  s.get? key = some value ∧ Text.trim value ≠ ""

variable {s s' : Source} {key value : String} {keys : List String}

theorem said?_eq_some_iff :
    s.said? key = some value ↔ ∃ raw, s.Yields key raw ∧ Text.trim raw = value := by
  unfold said? Yields
  rw [Option.filter_eq_some_iff]
  simp only [Option.map_eq_some_iff, bne_iff_ne]
  constructor
  · rintro ⟨⟨raw, hraw, rfl⟩, hne⟩
    exact ⟨raw, ⟨hraw, hne⟩, rfl⟩
  · rintro ⟨raw, ⟨hraw, hne⟩, rfl⟩
    exact ⟨⟨raw, hraw, rfl⟩, hne⟩

theorem said?_eq_none_iff : s.said? key = none ↔ ∀ value, ¬ s.Yields key value := by
  rw [Option.eq_none_iff_forall_ne_some]
  constructor
  · exact fun h value hyields => h _ (said?_eq_some_iff.2 ⟨value, hyields, rfl⟩)
  · intro h value hsaid
    obtain ⟨raw, hyields, -⟩ := said?_eq_some_iff.1 hsaid
    exact h raw hyields

theorem resolve?_eq_none_iff :
    s.resolve? keys = none ↔ ∀ key ∈ keys, ∀ value, ¬ s.Yields key value := by
  simp only [resolve?, List.findSome?_eq_none_iff, Option.map_eq_none_iff, said?_eq_none_iff]

/-- The source `s'` is what is left of `s` when some of its values are deleted, none of which says
anything under one of the keys. -/
structure LeftOf (keys : List String) (s' s : Source) : Prop where
  name : s'.name = s.name
  values : ∀ key ∈ keys,
    s'.get? key = s.get? key ∨ s'.get? key = none ∧ ∀ value, ¬ s.Yields key value

theorem LeftOf.resolve? (h : LeftOf keys s' s) : s'.resolve? keys = s.resolve? keys := by
  have hsaid : ∀ key ∈ keys, s'.said? key = s.said? key := by
    intro key hkey
    rcases h.values key hkey with hsame | ⟨hgone, hblank⟩
    · rw [said?, said?, hsame]
    · rw [said?_eq_none_iff.2 hblank, said?, hgone]
      rfl
  unfold Source.resolve?
  exact findSome?_congr fun key hkey => by rw [hsaid key hkey, h.name]

theorem get?_ofValues {name : String} {values : List (String × String)} :
    (ofValues name values).get? key = values.reverse.lookup key := rfl

/-- Assignments without those to a key that says nothing are left of the assignments. -/
theorem leftOf_ofValues {name : String} {values : List (String × String)} {gone : String}
    (hgone : gone ∈ keys → ∀ value, ¬ (ofValues name values).Yields gone value) :
    LeftOf keys (ofValues name (values.filter (·.1 != gone))) (ofValues name values) where
  name := rfl
  values := by
    intro key hkey
    rw [get?_ofValues, ← List.filter_reverse, lookup_filter_ne, get?_ofValues]
    by_cases hsame : key = gone
    · exact .inr ⟨if_pos hsame, hsame ▸ hgone (hsame ▸ hkey)⟩
    · exact .inl (if_neg hsame)

end Source

/-! ## Places of values -/

section Places

variable {sources : List Source} {keys : List String} {row : ResolvedValue} {i j : Nat}

/-- The `i`-th source has a value for the `j`-th key that is not blank; `row` is what it says
there, without the blanks around it. -/
structure StandsAt (sources : List Source) (keys : List String) (i j : Nat) (row : ResolvedValue) :
    Prop where
  key : keys[j]? = some row.key
  said : ∃ s raw, sources[i]? = some s ∧ s.Yields row.key raw ∧ row.value = Text.trim raw ∧
    row.source = s.name

/-- The places where there is anything, the place of the source first. -/
def filledPlaces (sources : List Source) (keys : List String) : Set (Nat ×ₗ Nat) :=
  {place | ∃ row, StandsAt sources keys (ofLex place).1 (ofLex place).2 row}

theorem mem_filledPlaces_iff : toLex (i, j) ∈ filledPlaces sources keys ↔
    ∃ s key value, sources[i]? = some s ∧ keys[j]? = some key ∧ s.Yields key value := by
  constructor
  · rintro ⟨row, hkey, s, raw, hs, hyields, -, -⟩
    exact ⟨s, row.key, raw, hs, hkey, hyields⟩
  · rintro ⟨s, key, value, hs, hkey, hyields⟩
    exact ⟨⟨key, Text.trim value, s.name⟩, hkey, s, value, hs, hyields, rfl, rfl⟩

theorem Source.resolve?_eq_some_iff {s : Source} :
    s.resolve? keys = some row ↔
      ∃ j : Nat, keys[j]? = some row.key ∧
        (∃ raw, s.Yields row.key raw ∧ row.value = Text.trim raw ∧ row.source = s.name) ∧
        ∀ j' < j, ∀ key, keys[j']? = some key → ∀ value, ¬ s.Yields key value := by
  unfold Source.resolve?
  rw [findSome?_eq_some_iff_first]
  simp only [Option.map_eq_some_iff, Option.map_eq_none_iff, Source.said?_eq_some_iff,
    Source.said?_eq_none_iff]
  constructor
  · rintro ⟨j, key, hkey, ⟨_, ⟨raw, hyields, rfl⟩, rfl⟩, hbefore⟩
    exact ⟨j, hkey, ⟨raw, hyields, rfl, rfl⟩, hbefore⟩
  · rintro ⟨j, hkey, ⟨raw, hyields, hvalue, hsource⟩, hbefore⟩
    exact ⟨j, row.key, hkey, ⟨_, ⟨raw, hyields, rfl⟩, by rw [← hvalue, ← hsource]⟩, hbefore⟩

/-- What is resolved stands at the least of the places. -/
theorem resolveAny_eq_some_iff :
    resolveAny sources keys = some row ↔
      ∃ i j, IsLeast (filledPlaces sources keys) (toLex (i, j)) ∧
        StandsAt sources keys i j row := by
  unfold resolveAny
  rw [findSome?_eq_some_iff_first]
  simp only [Source.resolve?_eq_some_iff, Source.resolve?_eq_none_iff]
  constructor
  · rintro ⟨i, s, hs, ⟨j, hkey, ⟨raw, hyields, hvalue, hsource⟩, hkeys⟩, hsources⟩
    have hstands : StandsAt sources keys i j row := ⟨hkey, s, raw, hs, hyields, hvalue, hsource⟩
    refine ⟨i, j, ⟨⟨row, hstands⟩, fun place hplace => ?_⟩, hstands⟩
    obtain ⟨⟨i', j'⟩, rfl⟩ := toLex.surjective place
    obtain ⟨s', key', value', hs', hkey', hyields'⟩ := mem_filledPlaces_iff.1 hplace
    rw [Prod.Lex.toLex_le_toLex]
    rcases Nat.lt_trichotomy i i' with hlt | rfl | hgt
    · exact .inl hlt
    · refine .inr ⟨rfl, Nat.le_of_not_lt fun hlt => ?_⟩
      rw [hs, Option.some.injEq] at hs'
      exact hkeys j' hlt key' hkey' value' (hs' ▸ hyields')
    · exact absurd hyields' (hsources i' hgt s' hs' key' (List.mem_of_getElem? hkey') value')
  · rintro ⟨i, j, ⟨-, hleast⟩, hkey, s, raw, hs, hyields, hvalue, hsource⟩
    have hnot {i' j' : Nat} {s' : Source} {key' value' : String} (hs' : sources[i']? = some s')
        (hkey' : keys[j']? = some key') (hbefore : i' < i ∨ i = i' ∧ j' < j) :
        ¬ s'.Yields key' value' := by
      intro hyields'
      have hle := hleast (mem_filledPlaces_iff.2 ⟨s', key', value', hs', hkey', hyields'⟩)
      rw [Prod.Lex.toLex_le_toLex] at hle
      omega
    refine ⟨i, s, hs, ⟨j, hkey, ⟨raw, hyields, hvalue, hsource⟩, ?_⟩, ?_⟩
    · exact fun j' hlt key' hkey' value' => hnot hs hkey' (.inr ⟨rfl, hlt⟩)
    · intro i' hlt s' hs' key' hmem value'
      obtain ⟨j', hkey'⟩ := List.getElem?_of_mem hmem
      exact hnot hs' hkey' (.inl hlt)

theorem exists_resolveAny_iff :
    (∃ row, resolveAny sources keys = some row) ↔
      ∃ s ∈ sources, ∃ key ∈ keys, ∃ value, s.Yields key value := by
  rw [← Option.ne_none_iff_exists', resolveAny, Ne, List.findSome?_eq_none_iff]
  simp only [Source.resolve?_eq_none_iff]
  push Not
  rfl

theorem resolveAny_append (more : List Source) (h : resolveAny sources keys = some row) :
    resolveAny (sources ++ more) keys = some row := by
  unfold resolveAny at h ⊢
  rw [List.findSome?_append, h, Option.some_or]

/-- A part of the sources may be put for another that resolves to the same. -/
theorem resolveAny_middle (before behind : List Source) {middle middle' : List Source}
    (h : resolveAny middle' keys = resolveAny middle keys) :
    resolveAny (before ++ middle' ++ behind) keys =
      resolveAny (before ++ middle ++ behind) keys := by
  unfold resolveAny at h ⊢
  simp only [List.findSome?_append, h]

theorem resolveAny_leftOf {s s' : Source} {before behind : List Source} (h : s'.LeftOf keys s) :
    resolveAny (before ++ s' :: behind) keys = resolveAny (before ++ s :: behind) keys := by
  have hsame : resolveAny [s'] keys = resolveAny [s] keys := by
    simp only [resolveAny, List.findSome?_cons, h.resolve?]
  simpa using resolveAny_middle before behind hsame

/-- The value that counts is the first that is not blank, by source and then by key; what stands
behind it and what is blank may be there or not. -/
structure Prioritized (sources : List Source) (keys : List String) : Prop where
  found_iff : (∃ row, resolveAny sources keys = some row) ↔
    ∃ s ∈ sources, ∃ key ∈ keys, ∃ value, s.Yields key value
  least_iff : ∀ row, resolveAny sources keys = some row ↔
    ∃ i j, IsLeast (filledPlaces sources keys) (toLex (i, j)) ∧ StandsAt sources keys i j row
  nonempty : ∀ row, resolveAny sources keys = some row → row.value ≠ ""
  appended : ∀ row more, resolveAny sources keys = some row →
    resolveAny (sources ++ more) keys = some row
  /-- A source that says nothing under the keys may be deleted. -/
  sourceDeleted : ∀ before s behind, sources = before ++ s :: behind →
    (∀ key ∈ keys, ∀ value, ¬ s.Yields key value) →
    resolveAny (before ++ behind) keys = resolveAny sources keys
  /-- Values of a source that say nothing under the keys may be deleted. -/
  valuesDeleted : ∀ before s s' behind, sources = before ++ s :: behind → s'.LeftOf keys s →
    resolveAny (before ++ s' :: behind) keys = resolveAny sources keys
  /-- So may the assignments to a key that says nothing, and those to any other key. -/
  keyDeleted : ∀ before name values behind gone,
    sources = before ++ .ofValues name values :: behind →
    (gone ∈ keys → ∀ value, ¬ (Source.ofValues name values).Yields gone value) →
    resolveAny (before ++ .ofValues name (values.filter (·.1 != gone)) :: behind) keys =
      resolveAny sources keys

theorem resolveAny_prioritized (sources : List Source) (keys : List String) :
    Prioritized sources keys := by
  constructor
  case found_iff => exact exists_resolveAny_iff
  case least_iff => exact fun row => resolveAny_eq_some_iff
  case nonempty =>
    intro row hrow
    obtain ⟨i, j, -, hstands⟩ := resolveAny_eq_some_iff.1 hrow
    obtain ⟨s, raw, -, hyields, hvalue, -⟩ := hstands.said
    rw [hvalue]
    exact hyields.2
  case appended => exact fun row more h => resolveAny_append more h
  case sourceDeleted =>
    rintro before s behind rfl hsilent
    have hnone : resolveAny [] keys = resolveAny [s] keys := by
      simp [resolveAny, Source.resolve?_eq_none_iff.2 hsilent]
    simpa using resolveAny_middle before behind hnone
  case valuesDeleted =>
    rintro before s s' behind rfl hleft
    exact resolveAny_leftOf hleft
  case keyDeleted =>
    rintro before name values behind gone rfl hgone
    exact resolveAny_leftOf (Source.leftOf_ofValues hgone)

end Places

end ImagePrompt
