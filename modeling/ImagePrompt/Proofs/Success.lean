import Mathlib.Data.List.Forall2
/-!
# Results that are no errors

When a step, a step behind another one, or the same step for each element of a
list comes to a result instead of an error.
-/

namespace ImagePrompt.Success

variable {α β ε ε' : Type}

theorem bind_eq_ok {x : Except ε α} {next : α → Except ε β} {b : β} :
    x >>= next = .ok b ↔ ∃ a, x = .ok a ∧ next a = .ok b := by
  cases x <;> simp [bind, Except.bind]

theorem pure_eq_ok {a b : α} : (pure a : Except ε α) = .ok b ↔ a = b := by
  simp [pure, Except.pure]

theorem map_eq_ok {x : Except ε α} {f : α → β} {b : β} :
    x.map f = .ok b ↔ ∃ a, x = .ok a ∧ f a = b := by
  cases x <;> simp [Except.map]

theorem exists_map_eq_ok {x : Except ε α} {f : α → β} :
    (∃ b, x.map f = .ok b) ↔ ∃ a, x = .ok a := by
  cases x <;> simp [Except.map]

theorem map_eq_error {x : Except ε α} {f : α → β} {e : ε} :
    x.map f = .error e ↔ x = .error e := by
  cases x <;> simp [Except.map]

theorem bind_eq_error {x : Except ε α} {next : α → Except ε β} {e : ε} :
    x >>= next = .error e ↔ x = .error e ∨ ∃ a, x = .ok a ∧ next a = .error e := by
  cases x <;> simp [bind, Except.bind]

theorem mapM_eq_ok {f : α → Except ε β} {as : List α} {bs : List β} :
    as.mapM f = .ok bs ↔ List.Forall₂ (fun a b => f a = .ok b) as bs := by
  induction as generalizing bs with
  | nil =>
    rw [List.mapM_nil, pure_eq_ok, List.forall₂_nil_left_iff]
    exact eq_comm
  | cons a as ih =>
    simp only [List.mapM_cons, bind_eq_ok, pure_eq_ok, ih, List.forall₂_cons_left_iff]
    constructor
    · rintro ⟨b, hb, rest, hrest, rfl⟩
      exact ⟨b, rest, hb, hrest, rfl⟩
    · rintro ⟨b, rest, hb, hrest, rfl⟩
      exact ⟨b, hb, rest, hrest, rfl⟩

/-- The error of a list is that of its first element with one. -/
theorem mapM_eq_error {f : α → Except ε β} {as : List α} {e : ε} :
    as.mapM f = .error e ↔
      ∃ before a behind, as = before ++ a :: behind ∧ (∀ b ∈ before, ∃ c, f b = .ok c) ∧
        f a = .error e := by
  induction as with
  | nil => simp [pure, Except.pure]
  | cons first as ih =>
    simp only [List.mapM_cons, bind_eq_error, ih]
    constructor
    · rintro (hfirst | ⟨b, hb, ⟨before, a, behind, rfl, hbefore, ha⟩ | ⟨_, _, hpure⟩⟩)
      · exact ⟨[], first, as, rfl, by simp, hfirst⟩
      · exact ⟨first :: before, a, behind, rfl, List.forall_mem_cons.2 ⟨⟨b, hb⟩, hbefore⟩, ha⟩
      · cases hpure
    · rintro ⟨before, a, behind, heq, hbefore, ha⟩
      cases before with
      | nil =>
        obtain ⟨rfl, -⟩ := List.cons_eq_cons.1 heq
        exact .inl ha
      | cons _ before =>
        obtain ⟨rfl, rfl⟩ := List.cons_eq_cons.1 heq
        obtain ⟨⟨b, hb⟩, hrest⟩ := List.forall_mem_cons.1 hbefore
        exact .inr ⟨b, hb, .inl ⟨before, a, behind, rfl, hrest, ha⟩⟩

theorem exists_forall₂_iff {r : α → β → Prop} {q : β → Prop} {as : List α} :
    (∃ bs, List.Forall₂ r as bs ∧ ∀ b ∈ bs, q b) ↔ ∀ a ∈ as, ∃ b, r a b ∧ q b := by
  induction as with
  | nil => simp
  | cons a as ih =>
    rw [List.forall_mem_cons, ← ih]
    constructor
    · rintro ⟨_, hbs, hq⟩
      obtain ⟨b, bs, hb, hrest, rfl⟩ := List.forall₂_cons_left_iff.1 hbs
      rw [List.forall_mem_cons] at hq
      exact ⟨⟨b, hb, hq.1⟩, bs, hrest, hq.2⟩
    · rintro ⟨⟨b, hb, hqb⟩, bs, hrest, hq⟩
      exact ⟨b :: bs, .cons hb hrest, List.forall_mem_cons.2 ⟨hqb, hq⟩⟩

theorem exists_mapM_iff {f : α → Except ε β} {as : List α} :
    (∃ bs, as.mapM f = .ok bs) ↔ ∀ a ∈ as, ∃ b, f a = .ok b := by
  have h : (∃ bs, List.Forall₂ (fun a b => f a = .ok b) as bs ∧ ∀ b ∈ bs, True) ↔
      ∀ a ∈ as, ∃ b, f a = .ok b ∧ True := exists_forall₂_iff
  simpa only [mapM_eq_ok, implies_true, and_true] using h

theorem mapM_map {γ : Type} {f : α → Except ε β} {g : β → γ} {as : List α} :
    as.mapM (fun a => (f a).map g) = (as.mapM f).map (List.map g) := by
  induction as with
  | nil => rfl
  | cons a as ih =>
    rw [List.mapM_cons, List.mapM_cons, ih]
    cases f a with
    | error e => rfl
    | ok b => cases as.mapM f <;> rfl

end ImagePrompt.Success
