import ImagePrompt.Provider.Basic
/-!
# Registries of providers

Providers by their names, in the order of the names. A provider takes the
place of the one that had its name.
-/

namespace ImagePrompt

structure Registry (σ : Type) where
  providers : List (Provider σ) := []

namespace Registry

variable {σ : Type}

def place (p : Provider σ) : List (Provider σ) → List (Provider σ)
  | [] => [p]
  | q :: rest =>
    if p.name < q.name then p :: q :: rest
    else if p.name == q.name then p :: rest
    else q :: place p rest

def register (r : Registry σ) (p : Provider σ) : Registry σ := ⟨place p r.providers⟩

def get? (r : Registry σ) (name : String) : Option (Provider σ) :=
  r.providers.find? (·.name == name)

def names (r : Registry σ) : List String := r.providers.map (·.name)

theorem find?_place (p : Provider σ) (providers : List (Provider σ)) (name : String) :
    (place p providers).find? (·.name == name) =
      if p.name = name then some p else providers.find? (·.name == name) := by
  have hcons (rest : List (Provider σ)) : (p :: rest).find? (·.name == name) =
      if p.name = name then some p else rest.find? (·.name == name) := by
    by_cases hp : p.name = name <;> simp [hp]
  induction providers with
  | nil => exact hcons []
  | cons q rest ih =>
    unfold place
    split
    · exact hcons (q :: rest)
    · split
      · next hsame =>
        -- The provider that is replaced cannot be found where the new one is not.
        have hq : q.name = p.name := (beq_iff_eq.1 hsame).symm
        rw [hcons, List.find?_cons, hq]
        by_cases hp : p.name = name
        · rw [if_pos hp, if_pos hp]
        · have hne : (p.name == name) = false := beq_eq_false_iff_ne.2 hp
          rw [if_neg hp, if_neg hp, hne]
      · next hother =>
        have hq : q.name ≠ p.name := fun h => hother (beq_iff_eq.2 h.symm)
        rw [List.find?_cons, List.find?_cons, ih]
        by_cases hp : p.name = name
        · have hne : (q.name == name) = false := by simpa [← hp] using hq
          simp [hne, hp]
        · simp [hp]

/-- A provider is found under its name, and what other names stand for stays. -/
theorem get?_register (r : Registry σ) (p : Provider σ) (name : String) :
    (r.register p).get? name = if p.name = name then some p else r.get? name :=
  find?_place p r.providers name

end Registry

end ImagePrompt
