import ImagePrompt.Document.ImageRef
import ImagePrompt.Proofs.Document.Record
/-!
# The schema of a reference to an image

A strength is a number from zero to one, a role any text, and a reference either
a record with a path or the path alone.
-/

namespace ImagePrompt

theorem Binary64.inUnit_iff {x : Binary64} : x.inUnit = true ↔ 0 ≤ x.toRat ∧ x.toRat ≤ (1 : Nat) :=
  Binary64.between_iff (by decide)

namespace Strength

theorem decode_eq_ok {v : Json} {s : Strength} :
    codec.decode v = .ok s ↔ Codec.real.decode v = .ok s.value := by
  change (Codec.real.decode v >>= ofReal) = _ ↔ _
  rw [Success.bind_eq_ok]
  unfold ofReal
  constructor
  · rintro ⟨x, hx, hs⟩
    split at hs
    · obtain rfl := Except.ok.inj hs
      exact hx
    · cases hs
  · intro h
    exact ⟨s.value, h, dif_pos s.within⟩

theorem follows : codec.Follows (fun _ => True) (.upTo 1) := by
  have hreal : Codec.real.Follows _ (.upTo 1) := Codec.real_follows (by decide)
  constructor
  case accepts =>
    intro v hv
    rw [← hreal.accepts hv]
    simp only [decode_eq_ok, and_true]
    constructor
    · rintro ⟨s, hs⟩
      exact ⟨s.value, hs, Binary64.inUnit_iff.1 s.within⟩
    · rintro ⟨x, hx, hwithin⟩
      exact ⟨⟨x, Binary64.inUnit_iff.2 hwithin⟩, hx⟩
  case writes =>
    intro v s hv h
    exact hreal.writes hv (decode_eq_ok.1 h)
  case rereads =>
    intro v s hv h
    exact decode_eq_ok.2 (hreal.rereads hv (decode_eq_ok.1 h))

end Strength

namespace Usage

theorem name_ofName (s : String) : (ofName s).name = s := by
  unfold ofName
  cases hfind : known.find? (fun u => u.name == s) with
  | none => rfl
  | some u => simpa using List.find?_some hfind

theorem follows : codec.Follows (fun _ => True) .text := by
  apply Codec.follows_of_encode_decode
  · intro v
    cases v <;> simp [codec, Codec.named, Schema.Accepts]
  · intro v u h
    cases v with
    | string s =>
      obtain rfl := Except.ok.inj h
      exact congrArg Json.string (name_ofName s)
    | _ => cases h
  · intro v
    simp [Schema.rewrite]

end Usage

namespace ImageRef

def fields : List Field :=
  [.mk "description" .optional .text, .mk "path" .required .filled,
    .mk "strength" .optional (.upTo 1), .mk "target" .optional .text,
    .mk "usage_type" .optional .text]

theorem recordFollows :
    RecordFollows read members (fun r => Text.trim r.path ≠ "") fields := by
  refine Fieldwise.recordFollows keys ?_ (by decide) (by decide)
  apply Fieldwise.step (Field.text_followed "description")
  intro description
  apply Fieldwise.step (Field.required_followed Codec.filled_follows "path")
  intro path
  apply Fieldwise.step (Field.optional_followed Strength.follows "strength")
  intro strength
  apply Fieldwise.step (Field.text_followed "target")
  intro target
  apply Fieldwise.step (Field.optional_followed Usage.follows "usage_type")
  intro usage
  cases path with
  | none => exact .refuse _ (by simp)
  | some path =>
    apply Fieldwise.done (fun extra => { path, usage, strength, description, target, extra })
    · exact fun _ => rfl
    · intro extra
      simp only [members, Members.ofValue, Members.ofOption, ← Multiset.coe_add]
      abel
    · intro extra
      simp

theorem follows : codec.Follows (fun r => Text.trim r.path ≠ "") (.imageReference fields) := by
  constructor
  case accepts =>
    intro v hv
    cases v with
    | string s => simp [codec, Schema.Accepts]
    | object ms =>
      simp only [codec, Schema.Accepts, Json.object.injEq, exists_eq_left', reduceCtorEq,
        false_and, exists_false, false_or]
      exact recordFollows.accepts hv
    | _ => simp [codec, Schema.Accepts]
  case writes =>
    intro v r hv hread
    cases v with
    | string s =>
      obtain rfl := Except.ok.inj hread
      rw [Schema.rewrite]
      rfl
    | object ms =>
      rw [Schema.rewrite]
      exact congrArg Json.object (recordFollows.writes hv.1 hv.2 hread)
    | _ => cases hread
  case rereads =>
    intro v r hv hread
    cases v with
    | string s =>
      obtain rfl := Except.ok.inj hread
      rfl
    | object ms => exact recordFollows.rereads hv.1 hv.2 hread
    | _ => cases hread

end ImageRef

end ImagePrompt
