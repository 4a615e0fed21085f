import ImagePrompt.Document.Codec
import ImagePrompt.Proofs.Document.Schema
import ImagePrompt.Proofs.Success
/-!
# Codecs and their schemas

A codec follows a schema when it reads what the schema accepts, writes it as the
schema rewrites it, and reads that back as the same value. What decoding leaves
to later checks is a condition on the values read.
-/

namespace ImagePrompt

variable {α : Type}

/-- A codec reads, with a condition on the values, what a schema accepts, and writes it as the
schema says. -/
structure Codec.Follows (c : Codec α) (valid : α → Prop) (schema : Schema) : Prop where
  accepts : ∀ {v : Json}, v.Bounded → ((∃ a, c.decode v = .ok a ∧ valid a) ↔ schema.Accepts v)
  writes : ∀ {v : Json} {a : α}, v.Sorted → c.decode v = .ok a → c.encode a = schema.rewrite v
  rereads : ∀ {v : Json} {a : α}, v.Sorted → c.decode v = .ok a → c.decode (c.encode a) = .ok a

namespace Codec

/-! ## Values of one kind -/

theorem value_follows : Codec.value.Follows (fun _ => True) .any where
  accepts _ := by simp [value, Schema.Accepts]
  writes _ h := by
    cases h
    simp [value, Schema.rewrite]
  rereads _ _ := rfl

/-- A codec that writes what it has read follows a schema that rewrites nothing. -/
theorem follows_of_encode_decode {c : Codec α} {schema : Schema}
    (haccepts : ∀ v, (∃ a, c.decode v = .ok a) ↔ schema.Accepts v)
    (hwrites : ∀ v a, c.decode v = .ok a → c.encode a = v)
    (hrewrite : ∀ v, schema.rewrite v = v) : c.Follows (fun _ => True) schema where
  accepts _ := by
    simp only [and_true]
    exact haccepts _
  writes _ h := by rw [hwrites _ _ h, hrewrite]
  rereads _ h := by rw [hwrites _ _ h, h]

theorem text_follows : Codec.text.Follows (fun _ => True) .text := by
  apply follows_of_encode_decode
  · intro v
    cases v <;> simp [text, Schema.Accepts]
  · intro v a h
    cases v <;> simp_all [text]
  · intro v
    simp [Schema.rewrite]

theorem filled_follows : Codec.text.Follows (fun s => Text.trim s ≠ "") .filled where
  accepts {v} _ := by cases v <;> simp [text, Schema.Accepts]
  writes {v _} _ h := by
    cases v <;> simp_all [text, Schema.rewrite]
  rereads _ _ := rfl

theorem flag_follows : Codec.flag.Follows (fun _ => True) .flag := by
  apply follows_of_encode_decode
  · intro v
    cases v <;> simp [flag, Schema.Accepts]
  · intro v a h
    cases v <;> simp_all [flag]
  · intro v
    simp [Schema.rewrite]

theorem natural_decode_eq_ok {limit : Nat} {wanted : Wanted} {v : Json} {n : Nat} :
    (Codec.natural limit wanted).decode v = .ok n ↔ v = .ofNat n ∧ n ≤ limit := by
  cases v with
  | number k =>
    cases k with
    | integer m =>
      simp only [natural, Bool.and_eq_true, decide_eq_true_eq, Json.ofNat, Json.number.injEq,
        Json.Number.integer.injEq]
      split
      · rw [Except.ok.injEq]
        omega
      · simp only [reduceCtorEq, false_iff]
        omega
    | real x => simp [natural, Json.ofNat]
  | _ => simp [natural, Json.ofNat]

theorem natural_follows {limit : Nat} {low high : Int} {wanted : Wanted} {valid : Nat → Prop}
    (hlow : 0 ≤ low) (hhigh : high ≤ limit)
    (hvalid : ∀ n ≤ limit, valid n ↔ low ≤ n ∧ n ≤ high) :
    (Codec.natural limit wanted).Follows valid (.integer low high) := by
  constructor
  case accepts =>
    intro v _
    simp only [natural_decode_eq_ok, Schema.Accepts]
    constructor
    · rintro ⟨n, ⟨rfl, hlimit⟩, hn⟩
      exact ⟨n, rfl, (hvalid n hlimit).1 hn⟩
    · rintro ⟨m, rfl, hm⟩
      obtain ⟨n, rfl⟩ := Int.eq_ofNat_of_zero_le (hlow.trans hm.1)
      have hlimit : n ≤ limit := by omega
      exact ⟨n, ⟨rfl, hlimit⟩, (hvalid n hlimit).2 hm⟩
  case writes =>
    intro v n _ h
    rw [(natural_decode_eq_ok.1 h).1]
    simp [natural, Json.ofNat, Schema.rewrite]
  case rereads =>
    intro v n _ h
    exact natural_decode_eq_ok.2 ⟨rfl, (natural_decode_eq_ok.1 h).2⟩

theorem real_follows {high : Nat} (hhigh : high < 2 ^ 52) :
    Codec.real.Follows (fun x => 0 ≤ x.toRat ∧ x.toRat ≤ high) (.upTo high) := by
  constructor
  case accepts =>
    intro v hv
    cases v with
    | number k =>
      cases k with
      | integer n =>
        simp only [real, Except.ok.injEq, exists_eq_left', Schema.Accepts, Json.number.injEq]
        exact Json.Number.toRat_ofInt_between hv hhigh
      | real x =>
        simp only [real, Except.ok.injEq, exists_eq_left', Schema.Accepts, Json.number.injEq]
        rfl
    | _ => simp [real, Schema.Accepts]
  case writes =>
    intro v a _ h
    cases v with
    | number k =>
      cases k <;> obtain rfl := Except.ok.inj h <;> simp [real, Schema.rewrite, Json.ofReal]
    | _ => cases h
  case rereads =>
    exact fun _ _ => rfl

theorem findNamed_eq_ok {setting wanted : String} {all : List α} {name : α → String} {a : α}
    (h : findNamed setting all name wanted = .ok a) : name a = wanted := by
  unfold findNamed at h
  split at h
  · next hfind =>
    obtain rfl := Except.ok.inj h
    simpa using List.find?_some hfind
  · cases h

theorem exists_findNamed_eq_ok_iff {setting wanted : String} {all : List α} {name : α → String} :
    (∃ a, findNamed setting all name wanted = .ok a) ↔ wanted ∈ all.map name := by
  unfold findNamed
  split
  · next a hfind =>
    have hname : name a = wanted := by simpa using List.find?_some hfind
    have hmem : wanted ∈ all.map name := List.mem_map.2 ⟨a, List.mem_of_find?_eq_some hfind, hname⟩
    simpa using hmem
  · next hfind =>
    have hnone : ∀ a ∈ all, name a ≠ wanted := by simpa using hfind
    simpa using hnone

theorem named_follows (setting : String) (all : List α) (name : α → String) :
    (Codec.named (findNamed setting all name) name).Follows (fun _ => True)
      (.oneOf (all.map name)) := by
  apply follows_of_encode_decode
  · intro v
    cases v with
    | string s =>
      simp only [named, Schema.Accepts, Json.string.injEq]
      rw [exists_findNamed_eq_ok_iff]
      simp
    | _ => simp [named, Schema.Accepts]
  · intro v a h
    cases v with
    | string s => exact congrArg Json.string (findNamed_eq_ok h)
    | _ => cases h
  · intro v
    simp [Schema.rewrite]

/-! ## Lists -/

theorem list_decode_eq_ok {c : Codec α} {v : Json} {as : List α} :
    c.list.decode v = .ok as ↔
      ∃ vs, v = .array vs ∧ List.Forall₂ (fun w a => c.decode w = .ok a) vs as := by
  cases v with
  | array vs =>
    simp only [list, Json.array.injEq, exists_eq_left']
    exact Success.mapM_eq_ok
  | _ => simp [list]

theorem list_follows {c : Codec α} {valid : α → Prop} {schema : Schema}
    (h : c.Follows valid schema) :
    c.list.Follows (fun as => ∀ a ∈ as, valid a) (.list schema) := by
  constructor
  case accepts =>
    intro v hv
    simp only [Schema.Accepts, list_decode_eq_ok]
    constructor
    · rintro ⟨as, ⟨vs, rfl, hreads⟩, hvalid⟩
      refine ⟨vs, rfl, fun w hw => ?_⟩
      have hbounded : w.Bounded := Json.boundedElements_iff.1 hv w hw
      exact (h.accepts hbounded).1 (Success.exists_forall₂_iff.1 ⟨as, hreads, hvalid⟩ w hw)
    · rintro ⟨vs, rfl, haccepts⟩
      have hreads : ∀ w ∈ vs, ∃ a, c.decode w = .ok a ∧ valid a := by
        intro w hw
        exact (h.accepts (Json.boundedElements_iff.1 hv w hw)).2 (haccepts w hw)
      obtain ⟨as, has, hvalid⟩ := Success.exists_forall₂_iff.2 hreads
      exact ⟨as, ⟨vs, rfl, has⟩, hvalid⟩
  case writes =>
    intro v as hv hread
    obtain ⟨vs, rfl, hreads⟩ := list_decode_eq_ok.1 hread
    rw [Schema.rewrite]
    refine congrArg Json.array ?_
    have hv' := Json.sortedElements_iff.1 hv
    clear hread hv
    induction hreads with
    | nil => rfl
    | cons hw _ ih =>
      rw [List.forall_mem_cons] at hv'
      rw [List.map_cons, List.map_cons, h.writes hv'.1 hw, ih hv'.2]
  case rereads =>
    intro v as hv hread
    obtain ⟨vs, rfl, hreads⟩ := list_decode_eq_ok.1 hread
    refine list_decode_eq_ok.2 ⟨_, rfl, ?_⟩
    have hv' := Json.sortedElements_iff.1 hv
    clear hread hv
    induction hreads with
    | nil => exact .nil
    | cons hw _ ih =>
      rw [List.forall_mem_cons] at hv'
      exact .cons (h.rereads hv'.1 hw) (ih hv'.2)

end Codec

end ImagePrompt
