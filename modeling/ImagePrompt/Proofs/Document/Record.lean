import ImagePrompt.Proofs.Document.Codec
import Mathlib.Algebra.Order.Group.Multiset
import Mathlib.Tactic.Abel
/-!
# Records and their schemas

A record is read field by field and written field by field, in whatever order.
The members that it does not know are kept in between, so that a record follows
its schema as soon as each of its fields does.
-/

namespace ImagePrompt

variable {α ρ : Type}

/-- The member that a field is written as again, if any. -/
def Field.written (f : Field) (ms : Members) : Members :=
  (f.rewritten ms).toList.map (f.key, ·)

/-- A field is read from the members of a record, and written as members again, as a schema
says. -/
structure Field.Followed (f : Field) (read : Members → Except DecodeError α) (write : α → Members)
    (valid : α → Prop) : Prop where
  accepts : ∀ {ms : Members}, Json.BoundedMembers ms →
    ((∃ a, read ms = .ok a ∧ valid a) ↔ f.Accepts ms)
  writes : ∀ {ms : Members} {a : α}, Json.SortedMembers ms → read ms = .ok a →
    write a = f.written ms
  rereads : ∀ {ms again : Members} {a : α}, Json.SortedMembers ms → read ms = .ok a →
    again.get? f.key = f.rewritten ms → read again = .ok a

namespace Members

/-! ## Reading one member -/

variable {ms : Members} {key : String} {c : Codec α}

theorem optional_eq_ok_iff {o : Option α} :
    ms.optional key c = .ok o ↔
      (o = none ∧ (ms.get? key = none ∨ ms.get? key = some .null)) ∨
        ∃ v a, ms.get? key = some v ∧ v ≠ .null ∧ c.decode v = .ok a ∧ o = some a := by
  unfold optional
  split
  · next hget => simp [hget, eq_comm]
  · next hget => simp [hget, eq_comm]
  · next v hnull hget =>
    have hne : v ≠ .null := hnull
    simp only [Success.bind_eq_ok, Success.pure_eq_ok]
    simp [hget, hne, eq_comm]

/-- A member is read as something exactly when it is there and not null. -/
theorem isSome_of_optional {o : Option α} (h : ms.optional key c = .ok o) :
    o.isSome ↔ ∃ v, ms.get? key = some v ∧ v ≠ .null := by
  obtain ⟨rfl, hget | hget⟩ | ⟨v, a, hget, hnull, -, rfl⟩ := optional_eq_ok_iff.1 h
  · simp [hget]
  · simp [hget]
  · simp [hget, hnull]

theorem present_eq_ok_iff {o : Option α} :
    ms.present key c = .ok o ↔
      (o = none ∧ ms.get? key = none) ∨
        ∃ v a, ms.get? key = some v ∧ c.decode v = .ok a ∧ o = some a := by
  unfold present
  split
  · next hget => simp [hget, eq_comm]
  · next v hget =>
    simp only [Success.bind_eq_ok, Success.pure_eq_ok]
    simp [hget, eq_comm]

theorem defaulting_eq_ok_iff {default a : α} :
    ms.defaulting key c default = .ok a ↔
      (a = default ∧ ms.get? key = none) ∨ ∃ v, ms.get? key = some v ∧ c.decode v = .ok a := by
  unfold defaulting
  split
  · next hget => simp [hget, eq_comm]
  · next v hget => simp [hget]

end Members

namespace Field

/-! ## Fields -/

variable {c : Codec α} {valid : α → Prop} {schema : Schema}

theorem accepts_iff_decode {presence : Presence} {key : String} {ms : Members} {v : Json}
    (h : c.Follows valid schema) (hms : Json.BoundedMembers ms) (hget : ms.get? key = some v)
    (hnull : ¬ (presence = .optional ∧ v = .null)) :
    (mk key presence schema).Accepts ms ↔ ∃ a, c.decode v = .ok a ∧ valid a := by
  rw [accepts_of_some hget, or_iff_right hnull, h.accepts (hms.get? hget)]

theorem rewritten_of_decode {presence : Presence} {key : String} {ms : Members} {v : Json} {a : α}
    (h : c.Follows valid schema) (hms : Json.SortedMembers ms) (hget : ms.get? key = some v)
    (hkept : presence.drops v ≠ true) (hdecode : c.decode v = .ok a) :
    (mk key presence schema).rewritten ms = some (c.encode a) := by
  rw [rewritten_of_some hget, if_neg hkept, h.writes (hms.get? hget) hdecode]

theorem optional_followed (h : c.Follows valid schema) (key : String) :
    (mk key .optional schema).Followed (fun ms => ms.optional key c) (Members.ofOption key c)
      (fun o => ∀ a, o = some a → valid a) := by
  constructor
  case accepts =>
    intro ms hms
    simp only [Members.optional_eq_ok_iff]
    constructor
    · rintro ⟨o, ⟨rfl, hget | hget⟩ | ⟨v, a, hget, hnull, hdecode, rfl⟩, hvalid⟩
      · exact (accepts_of_none hget).2 nofun
      · exact (accepts_of_some hget).2 (.inl ⟨rfl, rfl⟩)
      · exact (accepts_iff_decode h hms hget (hnull ·.2)).2 ⟨a, hdecode, hvalid a rfl⟩
    · intro haccepts
      rcases hget : ms.get? key with _ | v
      · exact ⟨none, .inl ⟨rfl, .inl rfl⟩, nofun⟩
      · by_cases hnull : v = .null
        · exact ⟨none, .inl ⟨rfl, .inr (congrArg some hnull)⟩, nofun⟩
        · obtain ⟨a, hdecode, hvalid⟩ := (accepts_iff_decode h hms hget (hnull ·.2)).1 haccepts
          exact ⟨some a, .inr ⟨v, a, rfl, hnull, hdecode, rfl⟩, by simpa using hvalid⟩
  case writes =>
    intro ms o hms hread
    rcases Members.optional_eq_ok_iff.1 hread with
      ⟨rfl, hget | hget⟩ | ⟨v, a, hget, hnull, hdecode, rfl⟩
    · rw [written, rewritten_of_none hget]
      rfl
    · rw [written, rewritten_of_some hget]
      rfl
    · rw [written, rewritten_of_decode h hms hget (mt Presence.drops_optional.1 hnull) hdecode]
      rfl
  case rereads =>
    intro ms again o hms hread hagain
    rcases Members.optional_eq_ok_iff.1 hread with
      ⟨rfl, hget | hget⟩ | ⟨v, a, hget, hnull, hdecode, rfl⟩
    · rw [rewritten_of_none hget] at hagain
      exact Members.optional_eq_ok_iff.2 (.inl ⟨rfl, .inl hagain⟩)
    · rw [rewritten_of_some hget] at hagain
      exact Members.optional_eq_ok_iff.2 (.inl ⟨rfl, .inl hagain⟩)
    · rw [rewritten_of_decode h hms hget (mt Presence.drops_optional.1 hnull) hdecode] at hagain
      have hnull' : c.encode a ≠ .null := by
        rw [h.writes (hms.get? hget) hdecode]
        exact Schema.rewrite_ne_null _ hnull
      exact Members.optional_eq_ok_iff.2
        (.inr ⟨_, a, hagain, hnull', h.rereads (hms.get? hget) hdecode, rfl⟩)

theorem text_followed (key : String) :
    (mk key .optional .text).Followed (fun ms => ms.optional key .text)
      (Members.ofOption key .text) (fun o => ∀ a, o = some a → True) :=
  optional_followed Codec.text_follows key

theorem required_followed (h : c.Follows valid schema) (key : String) :
    (mk key .required schema).Followed (fun ms => ms.present key c) (Members.ofOption key c)
      (fun o => ∃ a, o = some a ∧ valid a) := by
  constructor
  case accepts =>
    intro ms hms
    simp only [Members.present_eq_ok_iff]
    rcases hget : ms.get? key with _ | v
    · rw [accepts_of_none hget]
      simp
    · rw [accepts_iff_decode h hms hget (by simp)]
      simp
  case writes =>
    intro ms o hms hread
    rcases Members.present_eq_ok_iff.1 hread with ⟨rfl, hget⟩ | ⟨v, a, hget, hdecode, rfl⟩
    · rw [written, rewritten_of_none hget]
      rfl
    · rw [written, rewritten_of_decode h hms hget (by simp) hdecode]
      rfl
  case rereads =>
    intro ms again o hms hread hagain
    rcases Members.present_eq_ok_iff.1 hread with ⟨rfl, hget⟩ | ⟨v, a, hget, hdecode, rfl⟩
    · rw [rewritten_of_none hget] at hagain
      exact Members.present_eq_ok_iff.2 (.inl ⟨rfl, hagain⟩)
    · rw [rewritten_of_decode h hms hget (by simp) hdecode] at hagain
      exact Members.present_eq_ok_iff.2
        (.inr ⟨_, a, hagain, h.rereads (hms.get? hget) hdecode, rfl⟩)

/-- A field with a value of its own when absent, which may be left out again or filled in. -/
theorem defaulting_followed {presence : Presence} {default : α} {write : α → Members}
    (h : c.Follows valid schema) (key : String) (hvalid : valid default)
    (hrequired : presence ≠ .required) (hoptional : presence ≠ .optional)
    (habsent : write default = presence.filling.toList.map (key, ·))
    (hdropped : ∀ v a, c.decode v = .ok a → presence.drops v = true →
      a = default ∧ write a = [])
    (hwritten : ∀ v a, c.decode v = .ok a → presence.drops v ≠ true →
      write a = [(key, c.encode a)])
    (hfilling : ∀ v, presence.filling = some v → c.decode v = .ok default) :
    (mk key presence schema).Followed (fun ms => ms.defaulting key c default) write valid := by
  constructor
  case accepts =>
    intro ms hms
    simp only [Members.defaulting_eq_ok_iff]
    rcases hget : ms.get? key with _ | v
    · rw [accepts_of_none hget]
      simp [hvalid, hrequired]
    · rw [accepts_iff_decode h hms hget (hoptional ·.1)]
      simp
  case writes =>
    intro ms a hms hread
    rcases Members.defaulting_eq_ok_iff.1 hread with ⟨rfl, hget⟩ | ⟨v, hget, hdecode⟩
    · rw [written, rewritten_of_none hget]
      exact habsent
    · by_cases hdrops : presence.drops v = true
      · rw [written, rewritten_of_some hget, if_pos hdrops, (hdropped v a hdecode hdrops).2]
        rfl
      · rw [written, rewritten_of_decode h hms hget hdrops hdecode, hwritten v a hdecode hdrops]
        rfl
  case rereads =>
    intro ms again a hms hread hagain
    rcases Members.defaulting_eq_ok_iff.1 hread with ⟨rfl, hget⟩ | ⟨v, hget, hdecode⟩
    · rw [rewritten_of_none hget] at hagain
      rcases hfill : presence.filling with _ | v
      · exact Members.defaulting_eq_ok_iff.2 (.inl ⟨rfl, hagain.trans hfill⟩)
      · exact Members.defaulting_eq_ok_iff.2 (.inr ⟨v, hagain.trans hfill, hfilling v hfill⟩)
    · by_cases hdrops : presence.drops v = true
      · rw [rewritten_of_some hget, if_pos hdrops] at hagain
        exact Members.defaulting_eq_ok_iff.2 (.inl ⟨(hdropped v a hdecode hdrops).1, hagain⟩)
      · rw [rewritten_of_decode h hms hget hdrops hdecode] at hagain
        exact Members.defaulting_eq_ok_iff.2
          (.inr ⟨_, hagain, h.rereads (hms.get? hget) hdecode⟩)

theorem filled_followed {default : α} {filling : Json} (h : c.Follows valid schema) (key : String)
    (hvalid : valid default) (hencode : c.encode default = filling)
    (hdecode : c.decode filling = .ok default) :
    (mk key (.orElse filling) schema).Followed (fun ms => ms.defaulting key c default)
      (Members.ofValue key c) valid := by
  subst hencode
  refine defaulting_followed h key hvalid ?_ ?_ rfl ?_ (fun _ _ _ _ => rfl) ?_
  · nofun
  · nofun
  · intro v a _ hdrops
    simp [Presence.drops] at hdrops
  · intro v hfill
    obtain rfl := Option.some.inj hfill
    exact hdecode

theorem list_followed (h : c.Follows valid schema) (key : String) :
    (mk key .unlessEmpty (.list schema)).Followed (fun ms => ms.list key c)
      (Members.ofList key c) (fun as => ∀ a ∈ as, valid a) := by
  refine defaulting_followed (Codec.list_follows h) key (by simp) ?_ ?_ rfl ?_ ?_ ?_
  · nofun
  · nofun
  · intro v as hread hdrops
    rw [Presence.drops_unlessEmpty.1 hdrops] at hread
    obtain rfl := Except.ok.inj hread
    exact ⟨rfl, rfl⟩
  · intro v as hread hdrops
    cases as with
    | cons a as => rfl
    | nil =>
      obtain ⟨vs, rfl, hvs⟩ := Codec.list_decode_eq_ok.1 hread
      rw [List.forall₂_nil_right_iff.1 hvs] at hdrops
      exact absurd rfl hdrops
  · nofun

theorem flag_followed (key : String) :
    (mk key .unlessFalse .flag).Followed (fun ms => ms.defaulting key .flag false)
      (Members.ofFlag key) (fun _ => True) := by
  refine defaulting_followed Codec.flag_follows key trivial ?_ ?_ rfl ?_ ?_ ?_
  · nofun
  · nofun
  · intro v b hread hdrops
    rw [Presence.drops_unlessFalse.1 hdrops] at hread
    obtain rfl := Except.ok.inj hread
    exact ⟨rfl, rfl⟩
  · intro v b hread hdrops
    cases v with
    | bool flag =>
      obtain rfl := Except.ok.inj hread
      cases flag with
      | true => rfl
      | false => exact absurd rfl hdrops
    | _ => cases hread
  · nofun

end Field

/-! ## Records -/

/-- The members of a record are read, with a condition on what they hold, and written again, as
the places of its schema say. -/
structure RecordFollows (read : Members → Except DecodeError ρ) (write : ρ → Members)
    (valid : ρ → Prop) (fields : List Field) : Prop where
  accepts : ∀ {ms : Members}, Json.BoundedMembers ms →
    ((∃ r, read ms = .ok r ∧ valid r) ↔ AllAccept fields ms)
  writes : ∀ {ms : Members} {r : ρ}, ms.Increasing → Json.SortedMembers ms → read ms = .ok r →
    (write r).sorted = rewriteAll fields ms
  rereads : ∀ {ms : Members} {r : ρ}, ms.Increasing → Json.SortedMembers ms → read ms = .ok r →
    read (write r).sorted = .ok r

/-- A reader goes through fields one after another and keeps the members under other keys than
these. What it has read before is written as `written` and fit for a valid record if `ok`. -/
inductive Fieldwise (keys : List String) (write : ρ → Members) (valid : ρ → Prop) :
    Multiset (String × Json) → Prop → List Field → (Members → Except DecodeError ρ) → Prop
  | done {written : Multiset (String × Json)} {ok : Prop}
      {read : Members → Except DecodeError ρ} (make : Members → ρ)
      (hread : ∀ ms, read ms = .ok (make (ms.without keys)))
      (hwrite : ∀ extra : Members,
        (write (make extra) : Multiset (String × Json)) = written + (extra : Multiset _))
      (hvalid : ∀ extra, valid (make extra) ↔ ok) :
      Fieldwise keys write valid written ok [] read
  | refuse {written : Multiset (String × Json)} {ok : Prop} (e : DecodeError) (hvalid : ¬ ok) :
      Fieldwise keys write valid written ok [] (fun _ => .error e)
  | step {α : Type} {written : Multiset (String × Json)} {ok : Prop} {f : Field}
      {fields : List Field} {readField : Members → Except DecodeError α}
      {writeField : α → Members} {validField : α → Prop}
      {next : α → Members → Except DecodeError ρ}
      (hfield : f.Followed readField writeField validField)
      (hnext : ∀ a, Fieldwise keys write valid (written + (writeField a : Multiset _))
        (ok ∧ validField a) fields (next a)) :
      Fieldwise keys write valid written ok (f :: fields)
        (fun ms => readField ms >>= fun a => next a ms)

namespace Fieldwise

variable {keys : List String} {write : ρ → Members} {valid : ρ → Prop}
  {written : Multiset (String × Json)} {ok : Prop} {fields : List Field}
  {read : Members → Except DecodeError ρ} {ms again : Members} {r : ρ}

theorem accepts (h : Fieldwise keys write valid written ok fields read)
    (hms : Json.BoundedMembers ms) :
    (∃ r, read ms = .ok r ∧ valid r) ↔ ok ∧ AllAccept fields ms := by
  -- Each field is read on its own, so validity can be settled field by field.
  induction h with
  | done make hread _ hvalid => simp [hread, hvalid, AllAccept]
  | refuse e hvalid => simp [hvalid]
  | step hfield _ ih =>
    simp only [Success.bind_eq_ok]
    rw [AllAccept, ← hfield.accepts hms]
    constructor
    · rintro ⟨r, ⟨a, ha, hr⟩, hvalid⟩
      obtain ⟨⟨hok, hvalidField⟩, hrest⟩ := (ih a).1 ⟨r, hr, hvalid⟩
      exact ⟨hok, ⟨a, ha, hvalidField⟩, hrest⟩
    · rintro ⟨hok, ⟨a, ha, hvalidField⟩, hrest⟩
      obtain ⟨r, hr, hvalid⟩ := (ih a).2 ⟨⟨hok, hvalidField⟩, hrest⟩
      exact ⟨r, ⟨a, ha, hr⟩, hvalid⟩

theorem writes (h : Fieldwise keys write valid written ok fields read)
    (hms : Json.SortedMembers ms) (hread : read ms = .ok r) :
    (write r : Multiset (String × Json)) =
      written + ((fields.flatMap (·.written ms) ++ ms.without keys : Members) : Multiset _) := by
  induction h with
  | done make hmake hwrite _ =>
    obtain rfl := Except.ok.inj ((hmake ms).symm.trans hread)
    exact hwrite _
  | refuse e _ => cases hread
  | step hfield _ ih =>
    obtain ⟨a, ha, hr⟩ := Success.bind_eq_ok.1 hread
    rw [ih a hr, hfield.writes hms ha, List.flatMap_cons]
    simp only [← Multiset.coe_add, add_assoc]

theorem rereads (h : Fieldwise keys write valid written ok fields read)
    (hms : Json.SortedMembers ms) (hread : read ms = .ok r)
    (hknown : ∀ f ∈ fields, again.get? f.key = f.rewritten ms)
    (hunknown : again.without keys = ms.without keys) : read again = .ok r := by
  induction h with
  | done make hmake _ _ =>
    rw [hmake] at hread ⊢
    rwa [hunknown]
  | refuse e _ => cases hread
  | step hfield _ ih =>
    obtain ⟨a, ha, hr⟩ := Success.bind_eq_ok.1 hread
    rw [List.forall_mem_cons] at hknown
    exact Success.bind_eq_ok.2 ⟨a, hfield.rereads hms ha hknown.1, ih a hr hknown.2⟩

/-! ### The members written, in order -/

theorem map_fst_written_sublist (fields : List Field) (ms : Members) :
    ((fields.flatMap (·.written ms)).map Prod.fst).Sublist (fields.map Field.key) := by
  induction fields with
  | nil => exact List.Sublist.slnil
  | cons f fields ih =>
    rw [List.flatMap_cons, List.map_append, List.map_cons, Field.written]
    cases f.rewritten ms with
    | none => exact ih.cons _
    | some v => exact ih.cons_cons _

theorem get?_written_of_mem {f : Field} (hnodup : (fields.map Field.key).Nodup) (h : f ∈ fields) :
    Members.get? (fields.flatMap (·.written ms)) f.key = f.rewritten ms := by
  cases hf : f.rewritten ms with
  | some v =>
    refine Members.get?_of_mem ((map_fst_written_sublist fields ms).nodup hnodup) ?_
    refine List.mem_flatMap.2 ⟨f, h, ?_⟩
    simp [Field.written, hf]
  | none =>
    rw [Members.get?_eq_none_iff]
    intro hmem
    obtain ⟨⟨k, v⟩, hv, hk⟩ := List.mem_map.1 hmem
    obtain ⟨g, hg, hgv⟩ := List.mem_flatMap.1 hv
    obtain ⟨w, hw, hkey⟩ : ∃ w, g.rewritten ms = some w ∧ g.key = k := by
      cases hgr : g.rewritten ms <;> simp_all [Field.written]
    have hfg : g = f := List.inj_on_of_nodup_map hnodup hg h (hkey.trans hk)
    rw [hfg, hf] at hw
    cases hw

theorem get?_written_of_notMem {key : String} (h : key ∉ fields.map Field.key) :
    Members.get? (fields.flatMap (·.written ms)) key = none :=
  Members.get?_eq_none_iff.2 fun hmem => h ((map_fst_written_sublist fields ms).subset hmem)

theorem nodup_written_append_without (hkeys : keys.Perm (fields.map Field.key))
    (hnodup : (fields.map Field.key).Nodup) (hms : ms.Increasing) :
    ((fields.flatMap (·.written ms) ++ ms.without keys).map Prod.fst).Nodup := by
  rw [List.map_append]
  refine List.Nodup.append ((map_fst_written_sublist fields ms).nodup hnodup)
    hms.without.nodup ?_
  intro key hwritten hkept
  have hknown : key ∈ keys := hkeys.mem_iff.2 ((map_fst_written_sublist fields ms).subset hwritten)
  rw [← not_not (a := key ∈ _), ← Members.get?_eq_none_iff, Members.get?_without,
    if_pos hknown] at hkept
  exact hkept rfl

/-- Fields written in any order among the members kept are in order what the schema says. -/
theorem sorted_eq_rewriteAll {members : Members}
    (hkeys : keys.Perm (fields.map Field.key))
    (hnodup : (fields.map Field.key).Nodup) (hms : ms.Increasing)
    (hperm : members.Perm (fields.flatMap (·.written ms) ++ ms.without keys)) :
    members.sorted = rewriteAll fields ms := by
  -- Both sides are in order, so it is enough to compare what stands under each key.
  have hnodup' := nodup_written_append_without hkeys hnodup hms
  have hmembers : (members.map Prod.fst).Nodup := (hperm.map Prod.fst).nodup_iff.2 hnodup'
  refine Members.Increasing.ext Members.increasing_sorted (increasing_rewriteAll hms) ?_
  intro key
  rw [Members.get?_sorted hmembers, Members.get?_eq_of_perm hmembers hperm, Members.get?_append,
    Members.get?_without]
  by_cases hkey : key ∈ fields.map Field.key
  · obtain ⟨f, hf, rfl⟩ := List.mem_map.1 hkey
    rw [get?_written_of_mem hnodup hf, get?_rewriteAll_of_mem hnodup hf,
      if_pos (hkeys.mem_iff.2 hkey), Option.or_none]
  · rw [get?_written_of_notMem hkey, get?_rewriteAll_of_notMem hkey,
      if_neg (mt hkeys.mem_iff.1 hkey), Option.none_or]

theorem without_rewriteAll (hkeys : keys.Perm (fields.map Field.key))
    (hms : ms.Increasing) : (rewriteAll fields ms).without keys = ms.without keys := by
  refine Members.Increasing.ext (increasing_rewriteAll hms).without hms.without ?_
  intro key
  rw [Members.get?_without, Members.get?_without]
  by_cases hkey : key ∈ keys
  · rw [if_pos hkey, if_pos hkey]
  · rw [if_neg hkey, if_neg hkey, get?_rewriteAll_of_notMem (mt hkeys.mem_iff.2 hkey)]

variable (keys) in
theorem recordFollows (h : Fieldwise keys write valid 0 True fields read)
    (hkeys : keys.Perm (fields.map Field.key)) (hnodup : (fields.map Field.key).Nodup) :
    RecordFollows read write valid fields := by
  have hsorted : ∀ {ms : Members} {r : ρ}, ms.Increasing → Json.SortedMembers ms →
      read ms = .ok r → (write r).sorted = rewriteAll fields ms := by
    intro ms r hincreasing hms hread
    have hwritten := h.writes hms hread
    rw [zero_add, Multiset.coe_eq_coe] at hwritten
    exact sorted_eq_rewriteAll hkeys hnodup hincreasing hwritten
  constructor
  case accepts =>
    intro ms hms
    rw [h.accepts hms, true_and]
  case writes => exact hsorted
  case rereads =>
    intro ms r hincreasing hms hread
    rw [hsorted hincreasing hms hread]
    exact h.rereads hms hread (fun f hf => get?_rewriteAll_of_mem hnodup hf)
      (without_rewriteAll hkeys hincreasing)

end Fieldwise

theorem Codec.record_follows {name : String} {read : Members → Except DecodeError ρ}
    {write : ρ → Members} {valid : ρ → Prop} {fields : List Field}
    (h : RecordFollows read write valid fields) :
    (Codec.record name read write).Follows valid (.record fields) := by
  constructor
  case accepts =>
    intro v hv
    cases v with
    | object ms =>
      simp only [record, Schema.Accepts, Json.object.injEq, exists_eq_left']
      exact h.accepts hv
    | _ => simp [record, Schema.Accepts]
  case writes =>
    intro v r hv hread
    cases v with
    | object ms => exact congrArg Json.object (h.writes hv.1 hv.2 hread)
    | _ => cases hread
  case rereads =>
    intro v r hv hread
    cases v with
    | object ms => exact h.rereads hv.1 hv.2 hread
    | _ => cases hread

end ImagePrompt
