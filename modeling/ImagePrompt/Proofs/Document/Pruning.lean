import ImagePrompt.Document.Codec
import ImagePrompt.Proofs.Document.Unknown
import ImagePrompt.Proofs.Success
/-!
# Reading pruned values

A record that is read from a value pruned is the record of the value itself
without the members that it does not know. Each field is read by itself and the
members under other keys are only kept, so this is a law on the fields.
-/

namespace ImagePrompt

variable {α ρ : Type}

/-- What a value pruned is read as, and why it cannot be read, is as for the value itself. -/
def Codec.Prunes (c : Codec α) (pruned : α → α) (schema : Schema) : Prop :=
  ∀ v, c.decode (schema.prune v) = (c.decode v).map pruned

namespace Schema

variable {schema : Schema} {v : Json}

@[simp] theorem prune_null : schema.prune .null = .null := by
  unfold prune
  split <;> simp_all

/-- Values of this kind hold no records. -/
def isPlain : Schema → Bool
  | .list _ => false
  | .record _ => false
  | .imageReference _ => false
  | _ => true

theorem prune_of_isPlain (h : schema.isPlain = true) : schema.prune v = v := by
  cases schema with
  | list | record | imageReference => cases h
  | _ => simp [prune]

theorem prune_ne_null (h : v ≠ .null) : schema.prune v ≠ .null := by
  intro hnull
  unfold prune at hnull
  split at hnull <;> simp_all

end Schema

namespace Codec

variable {c : Codec α} {pruned : α → α} {schema : Schema}

theorem prunes_of_isPlain (h : schema.isPlain = true) : c.Prunes id schema := by
  intro v
  rw [Schema.prune_of_isPlain h, Except.map_id]
  rfl

theorem list_prunes (h : c.Prunes pruned schema) :
    c.list.Prunes (List.map pruned) (.list schema) := by
  intro v
  cases v with
  | array vs =>
    rw [Schema.prune]
    change (vs.map schema.prune).mapM c.decode = (vs.mapM c.decode).map (List.map pruned)
    rw [← Success.mapM_map, List.mapM_map]
    exact congrArg vs.mapM (funext h)
  | _ => simp [Schema.prune, list, Except.map]

end Codec

/-! ## Members -/

namespace Members

variable {c : Codec α} {pruned : α → α} {schema : Schema} {ms again : Members} {key : String}
  {v : Json}

theorem optional_of_some (hget : ms.get? key = some v) (hnull : v ≠ .null) :
    ms.optional key c = (c.decode v).map some := by
  unfold optional
  rw [hget]
  cases v with
  | null => exact absurd rfl hnull
  | _ => rfl

theorem optional_pruned (h : c.Prunes pruned schema)
    (hagain : again.get? key = (ms.get? key).map schema.prune) :
    again.optional key c = (ms.optional key c).map (Option.map pruned) := by
  cases hget : ms.get? key with
  | none =>
    rw [hget] at hagain
    simp [optional, hget, hagain, Except.map]
  | some v =>
    rw [hget, Option.map_some] at hagain
    by_cases hnull : v = .null
    · rw [hnull, Schema.prune_null] at hagain
      simp [optional, hget, hagain, hnull, Except.map]
    · rw [optional_of_some hagain (Schema.prune_ne_null hnull), optional_of_some hget hnull, h]
      cases c.decode v <;> rfl

theorem present_pruned (h : c.Prunes pruned schema)
    (hagain : again.get? key = (ms.get? key).map schema.prune) :
    again.present key c = (ms.present key c).map (Option.map pruned) := by
  unfold present
  rw [hagain]
  cases ms.get? key with
  | none => rfl
  | some v =>
    change (do let a ← c.decode (schema.prune v); return some a) = _
    rw [h]
    cases hv : c.decode v <;> simp [hv, Except.map, bind, Except.bind, pure, Except.pure]

theorem defaulting_pruned {default : α} (h : c.Prunes pruned schema)
    (hdefault : pruned default = default)
    (hagain : again.get? key = (ms.get? key).map schema.prune) :
    again.defaulting key c default = (ms.defaulting key c default).map pruned := by
  unfold defaulting
  rw [hagain]
  cases ms.get? key with
  | none => exact congrArg Except.ok hdefault.symm
  | some v => exact h v

end Members

/-! ## Records -/

/-- Two readers go through fields one after another, the second with what the first has read
before, but pruned, and without the members under other keys than these. -/
inductive Pruning (keys : List String) (pruned : ρ → ρ) :
    List Field → (Members → Except DecodeError ρ) → (Members → Except DecodeError ρ) → Prop
  | done {read again : Members → Except DecodeError ρ} (make : Members → ρ)
      (hread : ∀ ms, (read ms).map pruned = .ok (make []))
      (hagain : ∀ ms, again ms = .ok (make (ms.without keys))) :
      Pruning keys pruned [] read again
  | refuse (e : DecodeError) : Pruning keys pruned [] (fun _ => .error e) (fun _ => .error e)
  | step {α : Type} {f : Field} {fields : List Field} {readField : Members → Except DecodeError α}
      {prunedField : α → α} {next again : α → Members → Except DecodeError ρ}
      (hfield : ∀ {ms ms' : Members}, ms'.get? f.key = f.pruned ms →
        readField ms' = (readField ms).map prunedField)
      (hnext : ∀ a, Pruning keys pruned fields (next a) (again (prunedField a))) :
      Pruning keys pruned (f :: fields) (fun ms => readField ms >>= fun a => next a ms)
        (fun ms => readField ms >>= fun a => again a ms)

namespace Pruning

variable {keys : List String} {pruned : ρ → ρ} {fields : List Field}
  {read again : Members → Except DecodeError ρ} {ms ms' : Members}

theorem again_eq (h : Pruning keys pruned fields read again)
    (hknown : ∀ f ∈ fields, ms'.get? f.key = f.pruned ms) (hunknown : ms'.without keys = []) :
    again ms' = (read ms).map pruned := by
  -- Both readers fail at the same field, or go on with the field read and its pruned form.
  induction h with
  | done make hread hagain => rw [hread, hagain, hunknown]
  | refuse e => rfl
  | @step _ _ _ readField _ next again hfield _ ih =>
    rw [List.forall_mem_cons] at hknown
    change readField ms' >>= (fun a => again a ms') =
      (readField ms >>= fun a => next a ms).map pruned
    rw [hfield hknown.1]
    cases hread : readField ms with
    | error e => rfl
    | ok a => exact ih a hknown.2

section Fields

variable {c : Codec α} {prunedField : α → α} {schema : Schema} {key : String}

theorem optional {next again : Option α → Members → Except DecodeError ρ}
    (h : c.Prunes prunedField schema)
    (hnext : ∀ o, Pruning keys pruned fields (next o) (again (o.map prunedField))) :
    Pruning keys pruned (.mk key .optional schema :: fields)
      (fun ms => ms.optional key c >>= fun o => next o ms)
      (fun ms => ms.optional key c >>= fun o => again o ms) :=
  step (fun hagain => Members.optional_pruned h (hagain.trans Field.pruned_eq)) hnext

/-- A field that holds no records. -/
theorem plain {next again : Option α → Members → Except DecodeError ρ}
    (h : schema.isPlain = true) (hnext : ∀ o, Pruning keys pruned fields (next o) (again o)) :
    Pruning keys pruned (.mk key .optional schema :: fields)
      (fun ms => ms.optional key c >>= fun o => next o ms)
      (fun ms => ms.optional key c >>= fun o => again o ms) :=
  optional (Codec.prunes_of_isPlain h) fun o => by simpa using hnext o

theorem required {next again : Option α → Members → Except DecodeError ρ}
    (h : schema.isPlain = true) (hnext : ∀ o, Pruning keys pruned fields (next o) (again o)) :
    Pruning keys pruned (.mk key .required schema :: fields)
      (fun ms => ms.present key c >>= fun o => next o ms)
      (fun ms => ms.present key c >>= fun o => again o ms) :=
  step
    (fun hagain => Members.present_pruned (Codec.prunes_of_isPlain h)
      (hagain.trans Field.pruned_eq))
    fun o => by simpa using hnext o

theorem defaulting {presence : Presence} {default : α}
    {next again : α → Members → Except DecodeError ρ} (h : c.Prunes prunedField schema)
    (hdefault : prunedField default = default)
    (hnext : ∀ a, Pruning keys pruned fields (next a) (again (prunedField a))) :
    Pruning keys pruned (.mk key presence schema :: fields)
      (fun ms => ms.defaulting key c default >>= fun a => next a ms)
      (fun ms => ms.defaulting key c default >>= fun a => again a ms) :=
  step (fun hagain => Members.defaulting_pruned h hdefault (hagain.trans Field.pruned_eq)) hnext

theorem list {presence : Presence} {next again : List α → Members → Except DecodeError ρ}
    (h : c.Prunes prunedField schema)
    (hnext : ∀ as, Pruning keys pruned fields (next as) (again (as.map prunedField))) :
    Pruning keys pruned (.mk key presence (.list schema) :: fields)
      (fun ms => ms.list key c >>= fun as => next as ms)
      (fun ms => ms.list key c >>= fun as => again as ms) :=
  defaulting (Codec.list_prunes h) rfl hnext

/-- A field that holds no records and has a value when absent. -/
theorem plainDefaulting {presence : Presence} {default : α}
    {next again : α → Members → Except DecodeError ρ} (h : schema.isPlain = true)
    (hnext : ∀ a, Pruning keys pruned fields (next a) (again a)) :
    Pruning keys pruned (.mk key presence schema :: fields)
      (fun ms => ms.defaulting key c default >>= fun a => next a ms)
      (fun ms => ms.defaulting key c default >>= fun a => again a ms) :=
  defaulting (Codec.prunes_of_isPlain h) rfl hnext

/-- A list of values that hold no records. -/
theorem plainList {presence : Presence} {next again : List α → Members → Except DecodeError ρ}
    (h : schema.isPlain = true) (hnext : ∀ as, Pruning keys pruned fields (next as) (again as)) :
    Pruning keys pruned (.mk key presence (.list schema) :: fields)
      (fun ms => ms.list key c >>= fun as => next as ms)
      (fun ms => ms.list key c >>= fun as => again as ms) :=
  list (Codec.prunes_of_isPlain h) fun as => by simpa using hnext as

end Fields

theorem read_pruneAll (h : Pruning keys pruned fields read again)
    (hkeys : keys.Perm (fields.map Field.key)) (hnodup : (fields.map Field.key).Nodup) :
    again (pruneAll fields ms) = (read ms).map pruned := by
  refine h.again_eq (fun f hf => get?_pruneAll_of_mem hnodup hf) ?_
  refine Members.eq_nil_of_get? fun key => ?_
  rw [Members.get?_without]
  split
  · rfl
  · next hkey => exact get?_pruneAll_of_notMem (mt hkeys.mem_iff.2 hkey)

theorem record (keys : List String) {name : String} {read : Members → Except DecodeError ρ}
    {write : ρ → Members} (h : Pruning keys pruned fields read read)
    (hkeys : keys.Perm (fields.map Field.key)) (hnodup : (fields.map Field.key).Nodup) :
    (Codec.record name read write).Prunes pruned (.record fields) := by
  intro v
  cases v with
  | object ms =>
    rw [Schema.prune]
    exact h.read_pruneAll hkeys hnodup
  | _ => simp [Schema.prune, Codec.record, Except.map]

end Pruning

end ImagePrompt
