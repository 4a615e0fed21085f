import ImagePrompt.Proofs.Document.Schema
import ImagePrompt.Proofs.Json.Path
/-!
# Members that a schema does not know

A record may hold members under other keys than those of its fields. Pruned to
what its schema knows, a value does not show them; written again, it has them
where they were.
-/

namespace ImagePrompt

namespace Schema

/-- The fields of a record, also of one that may be written as a text. -/
def fields? : Schema → Option (List Field)
  | .record fields => some fields
  | .imageReference fields => some fields
  | _ => none

/-- A path leads to a record, written as an object, that does not know a key. -/
inductive Open (key : String) : Schema → Json.Path → Json → Prop
  | here {schema : Schema} {fields : List Field} {ms : Members}
      (hfields : schema.fields? = some fields) (hkey : key ∉ fields.map Field.key) :
      Open key schema [] (.object ms)
  | field {schema : Schema} {fields : List Field} {ms : Members} {f : Field} {v : Json}
      {path : Json.Path} (hfields : schema.fields? = some fields) (hf : f ∈ fields)
      (hv : ms.get? f.key = some v) (hopen : Open key f.schema path v) :
      Open key schema (.member f.key :: path) (.object ms)
  | element {schema : Schema} {vs : List Json} {i : Nat} {v : Json} {path : Json.Path}
      (hv : vs[i]? = some v) (hopen : Open key schema path v) :
      Open key (.list schema) (.element i :: path) (.array vs)

end Schema

mutual

/-- No two fields of a record have one key, at any depth. -/
def Schema.distinct : Schema → Bool
  | .list element => element.distinct
  | .record fields => decide (fields.map Field.key).Nodup && allDistinct fields
  | .imageReference fields => decide (fields.map Field.key).Nodup && allDistinct fields
  | _ => true

def Field.distinct : Field → Bool
  | .mk _ _ schema => schema.distinct

def allDistinct : List Field → Bool
  | [] => true
  | f :: fields => f.distinct && allDistinct fields

end

mutual

/-- The value without the members that its records do not know. -/
def Schema.prune : Schema → Json → Json
  | .list element, .array vs => .array (vs.map element.prune)
  | .record fields, .object ms => .object (pruneAll fields ms)
  | .imageReference fields, .object ms => .object (pruneAll fields ms)
  | _, v => v

def Field.pruned : Field → Members → Option Json
  | .mk key _ schema, ms => (ms.get? key).map schema.prune

def pruneAll : List Field → Members → Members
  | [], _ => []
  | f :: fields, ms => (pruneAll fields ms).put f.key (f.pruned ms)

end

variable {schema : Schema} {fields : List Field} {ms other : Members} {f : Field} {key : String}
  {v member : Json} {path : Json.Path}

/-! ## Fields -/

namespace Field

theorem pruned_eq : f.pruned ms = (ms.get? f.key).map f.schema.prune := by
  cases f
  rw [pruned]
  rfl

theorem rewritten_eq :
    f.rewritten ms =
      match ms.get? f.key with
      | none => f.presence.filling
      | some v => if f.presence.drops v then none else some (f.schema.rewrite v) := by
  cases f
  rw [rewritten]
  rfl

theorem schema_distinct (h : f.distinct = true) : f.schema.distinct = true := by
  cases f
  rwa [distinct] at h

end Field

theorem allDistinct_iff : allDistinct fields = true ↔ ∀ f ∈ fields, f.distinct = true := by
  induction fields with
  | nil => simp [allDistinct]
  | cons f fields ih => simp [allDistinct, ih]

theorem pruneAll_congr (h : ∀ f ∈ fields, f.pruned ms = f.pruned other) :
    pruneAll fields ms = pruneAll fields other := by
  induction fields with
  | nil => rfl
  | cons f fields ih =>
    rw [List.forall_mem_cons] at h
    rw [pruneAll, pruneAll, h.1, ih h.2]

theorem pruneAll_eq : pruneAll fields ms = Members.putAll Field.key (·.pruned ms) fields [] := by
  induction fields with
  | nil => rfl
  | cons f fields ih =>
    rw [pruneAll, ih]
    rfl

theorem get?_pruneAll_of_notMem (h : key ∉ fields.map Field.key) :
    (pruneAll fields ms).get? key = none := by
  rw [pruneAll_eq, Members.get?_putAll_of_notMem h, Members.get?_nil]

theorem get?_pruneAll_of_mem (hnodup : (fields.map Field.key).Nodup) (h : f ∈ fields) :
    (pruneAll fields ms).get? f.key = f.pruned ms := by
  rw [pruneAll_eq, Members.get?_putAll_of_mem hnodup h]

namespace Schema

theorem distinct_of_fields? (hfields : schema.fields? = some fields)
    (h : schema.distinct = true) :
    (fields.map Field.key).Nodup ∧ ∀ f ∈ fields, f.schema.distinct = true := by
  have hboth : (fields.map Field.key).Nodup ∧ allDistinct fields = true := by
    cases schema with
    | record | imageReference =>
      obtain rfl := Option.some.inj hfields
      simpa [distinct] using h
    | _ => cases hfields
  exact ⟨hboth.1, fun f hf => Field.schema_distinct (allDistinct_iff.1 hboth.2 f hf)⟩

theorem prune_of_fields? (hfields : schema.fields? = some fields) :
    schema.prune (.object ms) = .object (pruneAll fields ms) := by
  cases schema with
  | record | imageReference =>
    obtain rfl := Option.some.inj hfields
    rw [prune]
  | _ => cases hfields

theorem rewrite_of_fields? (hfields : schema.fields? = some fields) :
    schema.rewrite (.object ms) = .object (rewriteAll fields ms) := by
  cases schema with
  | record | imageReference =>
    obtain rfl := Option.some.inj hfields
    rw [rewrite]
  | _ => cases hfields

/-! ## Where a record stands -/

namespace Open

theorem at? (h : schema.Open key path v) : ∃ ms, v.at? path = some (.object ms) := by
  induction h with
  | here => exact ⟨_, rfl⟩
  | field _ _ hv _ ih =>
    obtain ⟨ms, hms⟩ := ih
    refine ⟨ms, ?_⟩
    rw [Json.at?, hv]
    exact hms
  | element hv _ ih =>
    obtain ⟨ms, hms⟩ := ih
    refine ⟨ms, ?_⟩
    rw [Json.at?, hv]
    exact hms

theorem object (h : (record fields).Open key path v) : ∃ ms, v = .object ms := by
  cases h <;> exact ⟨_, rfl⟩

/-- A value with a record in it is never left out. -/
theorem drops (h : schema.Open key path v) (presence : Presence) : presence.drops v = false := by
  cases h with
  | here | field => cases presence <;> rfl
  | @element _ vs _ _ _ hv =>
    cases vs with
    | nil => simp at hv
    | cons => cases presence <;> rfl

theorem setMember (h : schema.Open key path v) :
    schema.Open key path (v.setMember path key member) := by
  induction h with
  | here hfields hkey =>
    rw [Json.setMember_here]
    exact .here hfields hkey
  | field hfields hf hv _ ih =>
    rw [Json.setMember_member hv]
    exact .field hfields hf (by rw [Members.get?_insert, if_pos rfl]) ih
  | element hv _ ih =>
    rw [Json.setMember_element]
    exact .element (by rw [List.getElem?_modify_eq, hv]; rfl) ih

theorem rewritten (h : f.schema.Open key path v) (hv : ms.get? f.key = some v) :
    f.rewritten ms = some (f.schema.rewrite v) := by
  rw [Field.rewritten_eq, hv]
  simp only [h.drops, Bool.false_eq_true, if_false]

theorem rewrite (h : schema.Open key path v) (hdistinct : schema.distinct = true) :
    schema.Open key path (schema.rewrite v) := by
  induction h with
  | here hfields hkey =>
    rw [rewrite_of_fields? hfields]
    exact .here hfields hkey
  | field hfields hf hv hopen ih =>
    obtain ⟨hnodup, hdeep⟩ := distinct_of_fields? hfields hdistinct
    rw [rewrite_of_fields? hfields]
    refine .field hfields hf ?_ (ih (hdeep _ hf))
    rw [get?_rewriteAll_of_mem hnodup hf, hopen.rewritten hv]
  | element hv _ ih =>
    rw [distinct] at hdistinct
    rw [Schema.rewrite]
    exact .element (by rw [List.getElem?_map, hv]; rfl) (ih hdistinct)

end Open

/-! ## Setting a member -/

/-- A member that a record does not know is not seen in the value pruned. -/
theorem prune_setMember (hdistinct : schema.distinct = true) (h : schema.Open key path v) :
    schema.prune (v.setMember path key member) = schema.prune v := by
  induction h with
  | here hfields hkey =>
    rw [Json.setMember_here, prune_of_fields? hfields, prune_of_fields? hfields]
    refine congrArg Json.object (pruneAll_congr fun f hf => ?_)
    have hne : f.key ≠ key := fun heq => hkey (heq ▸ List.mem_map_of_mem hf)
    rw [Field.pruned_eq, Field.pruned_eq, Members.get?_insert, if_neg hne]
  | @field _ _ _ f _ _ hfields hf hv _ ih =>
    obtain ⟨hnodup, hdeep⟩ := distinct_of_fields? hfields hdistinct
    rw [Json.setMember_member hv, prune_of_fields? hfields, prune_of_fields? hfields]
    refine congrArg Json.object (pruneAll_congr fun g hg => ?_)
    rw [Field.pruned_eq, Field.pruned_eq, Members.get?_insert]
    -- Keys are distinct, so the field on the path is the only one that can see the change.
    by_cases hkey : g.key = f.key
    · obtain rfl := List.inj_on_of_nodup_map hnodup hg hf hkey
      rw [if_pos rfl, hv, Option.map_some, Option.map_some, ih (hdeep g hf)]
    · rw [if_neg hkey]
  | @element schema vs i v path hv _ ih =>
    rw [distinct] at hdistinct
    rw [Json.setMember_element, prune, prune]
    refine congrArg Json.array (List.ext_getElem? fun j => ?_)
    rw [List.getElem?_map, List.getElem?_map, List.getElem?_modify]
    by_cases hj : i = j
    · subst hj
      simp [hv, ih hdistinct]
    · simp [hj]

/-- A member that a record does not know is written again where it was set. -/
theorem rewrite_setMember (hdistinct : schema.distinct = true) (hv : v.Sorted)
    (h : schema.Open key path v) :
    schema.rewrite (v.setMember path key member) =
      (schema.rewrite v).setMember path key member := by
  induction h with
  | @here schema fields ms hfields hkey =>
    rw [Json.setMember_here, rewrite_of_fields? hfields, rewrite_of_fields? hfields,
      Json.setMember_here]
    -- Both sides are in order, so it is enough to compare what stands under each key.
    refine congrArg Json.object (Members.Increasing.ext (increasing_rewriteAll hv.1.insert)
      (increasing_rewriteAll hv.1).insert fun k => ?_)
    rw [Members.get?_insert]
    by_cases hk : k ∈ fields.map Field.key
    · obtain ⟨f, hf, rfl⟩ := List.mem_map.1 hk
      have hne : f.key ≠ key := fun heq => hkey (heq ▸ hk)
      obtain ⟨hnodup, -⟩ := distinct_of_fields? hfields hdistinct
      rw [if_neg hne, get?_rewriteAll_of_mem hnodup hf, get?_rewriteAll_of_mem hnodup hf,
        Field.rewritten_eq, Field.rewritten_eq, Members.get?_insert, if_neg hne]
    · rw [get?_rewriteAll_of_notMem hk, get?_rewriteAll_of_notMem hk, Members.get?_insert]
  | @field schema fields ms f w path hfields hf hw hopen ih =>
    obtain ⟨hnodup, hdeep⟩ := distinct_of_fields? hfields hdistinct
    have hagain : (rewriteAll fields ms).get? f.key = some (f.schema.rewrite w) := by
      rw [get?_rewriteAll_of_mem hnodup hf, hopen.rewritten hw]
    rw [Json.setMember_member hw, rewrite_of_fields? hfields, rewrite_of_fields? hfields,
      Json.setMember_member hagain, ← ih (hdeep f hf) (hv.2.get? hw)]
    refine congrArg Json.object (Members.Increasing.ext (increasing_rewriteAll hv.1.insert)
      (increasing_rewriteAll hv.1).insert fun k => ?_)
    rw [Members.get?_insert]
    by_cases hk : k ∈ fields.map Field.key
    · obtain ⟨g, hg, rfl⟩ := List.mem_map.1 hk
      rw [get?_rewriteAll_of_mem hnodup hg, get?_rewriteAll_of_mem hnodup hg]
      by_cases hkey : g.key = f.key
      · obtain rfl := List.inj_on_of_nodup_map hnodup hg hf hkey
        rw [if_pos rfl]
        exact hopen.setMember.rewritten (by rw [Members.get?_insert, if_pos rfl])
      · rw [if_neg hkey, Field.rewritten_eq, Field.rewritten_eq, Members.get?_insert, if_neg hkey]
    · have hne : k ≠ f.key := fun heq => hk (heq ▸ List.mem_map_of_mem hf)
      rw [if_neg hne, get?_rewriteAll_of_notMem hk, get?_rewriteAll_of_notMem hk,
        Members.get?_insert, if_neg hne]
  | @element schema vs i w path hw _ ih =>
    rw [distinct] at hdistinct
    rw [Json.setMember_element, rewrite, rewrite, Json.setMember_element]
    refine congrArg Json.array (List.ext_getElem? fun j => ?_)
    rw [List.getElem?_map, List.getElem?_modify, List.getElem?_modify, List.getElem?_map]
    by_cases hj : i = j
    · subst hj
      simp [hw, ih hdistinct (Json.sortedElements_iff.1 hv w (List.mem_of_getElem? hw))]
    · simp [hj]

end Schema

end ImagePrompt
