import ImagePrompt.Json.Parser
import ImagePrompt.Proofs.Json.Value
import ImagePrompt.Proofs.Success
/-!
# What the reader makes

Each value that the reader makes lists the members of its objects in order,
keeps no integer outside 64 bits, and has fewer brackets open at once than the
reader allows.
-/

namespace ImagePrompt.Json

/-- A value as readers make them. -/
structure WellFormed (v : Json) : Prop where
  sorted : v.Sorted
  bounded : v.Bounded

/-- A value as a reader makes them that refuses so many open brackets. -/
structure Readable (limit : Nat) (v : Json) : Prop where
  wellFormed : v.WellFormed
  depth_lt : v.depth < limit

section Readable

variable {limit : Nat} {k : Number} {s : String} {v : Json} {vs : List Json} {ms : Members}

instance : Decidable (v.Readable limit) :=
  decidable_of_iff (v.Sorted ∧ v.Bounded ∧ v.depth < limit)
    ⟨fun h => ⟨⟨h.1, h.2.1⟩, h.2.2⟩,
      fun h => ⟨h.wellFormed.sorted, h.wellFormed.bounded, h.depth_lt⟩⟩

theorem readable_null : Json.null.Readable (limit + 1) := ⟨⟨trivial, trivial⟩, Nat.succ_pos limit⟩

theorem readable_bool {b : Bool} : (Json.bool b).Readable (limit + 1) :=
  ⟨⟨trivial, trivial⟩, Nat.succ_pos limit⟩

theorem readable_string : (Json.string s).Readable (limit + 1) :=
  ⟨⟨trivial, trivial⟩, Nat.succ_pos limit⟩

theorem readable_number_iff : (Json.number k).Readable (limit + 1) ↔ k.Bounded :=
  ⟨fun h => h.wellFormed.bounded, fun h => ⟨⟨trivial, h⟩, Nat.succ_pos limit⟩⟩

theorem readable_array_iff :
    (Json.array vs).Readable (limit + 1) ↔ limit ≠ 0 ∧ ∀ v ∈ vs, v.Readable limit := by
  cases limit with
  | zero =>
    refine iff_of_false (fun h => ?_) (fun h => h.1 rfl)
    exact Nat.not_lt_zero _ (Nat.lt_of_succ_lt_succ h.depth_lt)
  | succ limit =>
    constructor
    · intro h
      have hdepth := depth_array_le_iff.1 (Nat.le_of_lt_succ h.depth_lt)
      refine ⟨Nat.succ_ne_zero limit, fun v hv => ⟨⟨?_, ?_⟩, Nat.lt_succ_of_le (hdepth v hv)⟩⟩
      · exact sortedElements_iff.1 h.wellFormed.sorted v hv
      · exact boundedElements_iff.1 h.wellFormed.bounded v hv
    · rintro ⟨-, h⟩
      refine ⟨⟨?_, ?_⟩, Nat.lt_succ_of_le (depth_array_le_iff.2 fun v hv => ?_)⟩
      · exact sortedElements_iff.2 fun v hv => (h v hv).wellFormed.sorted
      · exact boundedElements_iff.2 fun v hv => (h v hv).wellFormed.bounded
      · exact Nat.le_of_lt_succ (h v hv).depth_lt

theorem readable_object_iff :
    (Json.object ms).Readable (limit + 1) ↔
      limit ≠ 0 ∧ ms.Increasing ∧ ∀ m ∈ ms, m.2.Readable limit := by
  cases limit with
  | zero =>
    refine iff_of_false (fun h => ?_) (fun h => h.1 rfl)
    exact Nat.not_lt_zero _ (Nat.lt_of_succ_lt_succ h.depth_lt)
  | succ limit =>
    constructor
    · intro h
      have hdepth := depth_object_le_iff.1 (Nat.le_of_lt_succ h.depth_lt)
      obtain ⟨hkeys, hsorted⟩ := h.wellFormed.sorted
      refine ⟨Nat.succ_ne_zero limit, hkeys, fun m hm => ?_⟩
      refine ⟨⟨?_, ?_⟩, Nat.lt_succ_of_le (hdepth m hm)⟩
      · exact sortedMembers_iff.1 hsorted m hm
      · exact boundedMembers_iff.1 h.wellFormed.bounded m hm
    · rintro ⟨-, hkeys, h⟩
      refine ⟨⟨⟨hkeys, ?_⟩, ?_⟩, Nat.lt_succ_of_le (depth_object_le_iff.2 fun m hm => ?_)⟩
      · exact sortedMembers_iff.2 fun m hm => (h m hm).wellFormed.sorted
      · exact boundedMembers_iff.2 fun m hm => (h m hm).wellFormed.bounded
      · exact Nat.le_of_lt_succ (h m hm).depth_lt

theorem readable_ofMembers (hlimit : limit ≠ 0) (h : ∀ m ∈ ms, m.2.Readable limit) :
    (Json.ofMembers ms).Readable (limit + 1) :=
  readable_object_iff.2
    ⟨hlimit, Members.increasing_sorted, fun m hm => h m (Members.mem_of_mem_sorted hm)⟩

end Readable

namespace Parser

/-! ## Numbers -/

theorem absorb_lt {significand : Nat} {cs : List Char} (h : significand < 2 ^ 64) :
    (absorb significand cs).1 < 2 ^ 64 := by
  induction cs generalizing significand with
  | nil => exact h
  | cons c cs ih =>
    rw [absorb, Nat.pow_eq]
    by_cases hnext : significand * 10 + digitValue c < 2 ^ 64
    · rw [if_pos hnext]
      exact ih hnext
    · rw [if_neg hnext]
      exact h

theorem bounded_integerOf {negative : Bool} {significand : Nat} (h : significand < 2 ^ 64) :
    (integerOf negative significand).Bounded := by
  unfold integerOf
  rw [Nat.pow_eq]
  cases negative with
  | false => exact ⟨by omega, by exact_mod_cast h⟩
  | true =>
    rw [if_pos rfl]
    split_ifs with hfar
    · exact trivial
    · rw [Bool.or_eq_true, decide_eq_true_iff, not_or, not_lt] at hfar
      exact ⟨by omega, by omega⟩

theorem finishExponent_eq_ok {negative : Bool} {significand : Nat} {e : Int} {cs rest : List Char}
    {k : Number} (h : finishExponent negative significand e cs = .ok (k, rest)) :
    ∃ x, k = .real x := by
  simp only [finishExponent] at h
  split at h
  · cases h
  · split at h
    · cases h
    · split at h
      · split at h
        · exact ⟨_, (Prod.mk.inj (Except.ok.inj h)).1.symm⟩
        · cases h
      · split_ifs at h
        exact ⟨_, (Prod.mk.inj (Except.ok.inj h)).1.symm⟩

theorem finishReal_eq_ok {negative : Bool} {significand : Nat} {e : Int} {cs rest : List Char}
    {k : Number} (h : finishReal negative significand e cs = .ok (k, rest)) :
    ∃ x, k = .real x := by
  unfold finishReal at h
  split at h
  · split at h
    · exact finishExponent_eq_ok h
    · split at h
      · exact ⟨_, (Prod.mk.inj (Except.ok.inj h)).1.symm⟩
      · cases h
  · split at h
    · exact ⟨_, (Prod.mk.inj (Except.ok.inj h)).1.symm⟩
    · cases h

theorem bounded_number {negative : Bool} {cs rest : List Char} {k : Number}
    (h : number negative cs = .ok (k, rest)) : k.Bounded := by
  have hreal : ∀ {k : Number}, (∃ x, k = .real x) → k.Bounded := by
    rintro _ ⟨x, rfl⟩
    exact trivial
  have hinteger : ∀ {whole : List Char},
      (integerOf negative (absorb 0 whole).1).Bounded := bounded_integerOf (absorb_lt (by decide))
  unfold number at h
  split at h
  · cases h
  · next c r =>
    by_cases hdigit : (!c.isDigit) = true
    · rw [if_pos hdigit] at h
      cases h
    · rw [if_neg hdigit] at h
      generalize (if c == '0' then [c] else (c :: r).takeWhile Char.isDigit) = whole at h
      generalize (if c == '0' then r else (c :: r).dropWhile Char.isDigit) = tail at h
      dsimp only at h
      cases tail with
      | nil =>
        dsimp only at h
        split_ifs at h
        · exact (Prod.mk.inj (Except.ok.inj h)).1 ▸ hinteger
        · exact hreal (finishReal_eq_ok h)
      | cons d after =>
        dsimp only at h
        split_ifs at h
        · exact hreal (finishReal_eq_ok h)
        · exact hreal (finishExponent_eq_ok h)
        · exact (Prod.mk.inj (Except.ok.inj h)).1 ▸ hinteger
        · exact hreal (finishReal_eq_ok h)

/-! ## Values -/

variable {limit : Nat}

/-- A reader of values that are readable below a limit. -/
def Sound (limit : Nat) (item : Reader Json) : Prop :=
  ∀ cs v rest, item cs = .ok (v, rest) → v.Readable limit

theorem readable_word {letters : List Char} {value v : Json} {cs rest : List Char}
    (hvalue : value.Readable limit) (h : word letters value cs = .ok (v, rest)) :
    v.Readable limit := by
  induction letters generalizing cs with
  | nil =>
    obtain ⟨rfl, -⟩ := Prod.mk.inj (Except.ok.inj h)
    exact hvalue
  | cons l ls ih =>
    cases cs with
    | nil => cases h
    | cons c cs =>
      rw [word] at h
      split at h
      · exact ih h
      · cases h

theorem readable_elements {item : Reader Json} (hitem : Sound limit item) {fuel : Nat}
    {first : Bool} {cs rest : List Char} {vs : List Json}
    (h : elements item fuel first cs = .ok (vs, rest)) : ∀ v ∈ vs, v.Readable limit := by
  induction fuel generalizing first cs vs rest with
  | zero => cases h
  | succ fuel ih =>
    rw [elements] at h
    obtain ⟨next, -, h⟩ := Success.bind_eq_ok.1 h
    cases next with
    | closed rest' =>
      obtain ⟨rfl, -⟩ := Prod.mk.inj (Except.ok.inj h)
      simp
    | item start =>
      obtain ⟨⟨v, rest'⟩, hv, h⟩ := Success.bind_eq_ok.1 h
      obtain ⟨⟨vs', rest''⟩, hvs, h⟩ := Success.bind_eq_ok.1 h
      obtain ⟨rfl, -⟩ := Prod.mk.inj (Except.ok.inj h)
      exact List.forall_mem_cons.2 ⟨hitem _ _ _ hv, ih hvs⟩

theorem readable_members {item : Reader Json} (hitem : Sound limit item) {fuel : Nat}
    {first : Bool} {cs rest : List Char} {ms : Members}
    (h : members item fuel first cs = .ok (ms, rest)) : ∀ m ∈ ms, m.2.Readable limit := by
  induction fuel generalizing first cs ms rest with
  | zero => cases h
  | succ fuel ih =>
    rw [members] at h
    obtain ⟨next, -, h⟩ := Success.bind_eq_ok.1 h
    cases next with
    | closed rest' =>
      obtain ⟨rfl, -⟩ := Prod.mk.inj (Except.ok.inj h)
      simp
    | item start =>
      obtain ⟨⟨k, rest₁⟩, -, h⟩ := Success.bind_eq_ok.1 h
      obtain ⟨rest₂, -, h⟩ := Success.bind_eq_ok.1 h
      obtain ⟨⟨v, rest₃⟩, hv, h⟩ := Success.bind_eq_ok.1 h
      obtain ⟨⟨ms', rest₄⟩, hms, h⟩ := Success.bind_eq_ok.1 h
      obtain ⟨rfl, -⟩ := Prod.mk.inj (Except.ok.inj h)
      exact List.forall_mem_cons.2 ⟨hitem _ _ _ hv, ih hms⟩

theorem readable_number {negative : Bool} {cs rest : List Char} {v : Json}
    (h : (do let (n, rest) ← number negative cs; return (Json.number n, rest)) = .ok (v, rest)) :
    v.Readable (limit + 1) := by
  obtain ⟨⟨k, rest'⟩, hk, h⟩ := Success.bind_eq_ok.1 h
  obtain ⟨rfl, -⟩ := Prod.mk.inj (Except.ok.inj h)
  exact readable_number_iff.2 (bounded_number hk)

theorem sound_value (limit : Nat) : Sound limit (value limit) := by
  induction limit with
  | zero => exact fun _ _ _ h => by cases h
  | succ limit ih =>
    intro cs v rest h
    rw [value] at h
    split at h
    case h_1 => cases h
    case h_2 c rest' _ =>
      split at h
      · exact readable_word readable_null h
      split at h
      · exact readable_word readable_bool h
      split at h
      · exact readable_word readable_bool h
      split at h
      · exact readable_number h
      split at h
      · exact readable_number h
      split at h
      · obtain ⟨⟨s, rest''⟩, -, h⟩ := Success.bind_eq_ok.1 h
        obtain ⟨rfl, -⟩ := Prod.mk.inj (Except.ok.inj h)
        exact readable_string
      split at h
      · split at h
        · cases h
        · next hlimit =>
          obtain ⟨⟨vs, rest''⟩, hvs, h⟩ := Success.bind_eq_ok.1 h
          obtain ⟨rfl, -⟩ := Prod.mk.inj (Except.ok.inj h)
          exact readable_array_iff.2 ⟨by simpa using hlimit, readable_elements ih hvs⟩
      split at h
      · split at h
        · cases h
        · next hlimit =>
          obtain ⟨⟨ms, rest''⟩, hms, h⟩ := Success.bind_eq_ok.1 h
          obtain ⟨rfl, -⟩ := Prod.mk.inj (Except.ok.inj h)
          exact readable_ofMembers (by simpa using hlimit) (readable_members ih hms)
      · cases h

end Parser

theorem parseChars_readable {cs : List Char} {v : Json} (h : parseChars cs = .ok v) :
    v.Readable Parser.depthLimit := by
  obtain ⟨⟨w, rest⟩, hw, h⟩ := Success.bind_eq_ok.1 h
  dsimp only at h
  split at h
  · obtain rfl := Except.ok.inj h
    exact Parser.sound_value _ _ _ _ hw
  · cases h

theorem parse_readable {s : String} {v : Json} (h : parse s = .ok v) :
    v.Readable Parser.depthLimit := by
  unfold parse at h
  split at h
  · next hparse =>
    obtain rfl := Except.ok.inj h
    exact parseChars_readable hparse
  · cases h

end ImagePrompt.Json
