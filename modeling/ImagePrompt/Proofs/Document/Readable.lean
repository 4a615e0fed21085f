import ImagePrompt.Proofs.Document.Normalized
/-!
# Written again within the limit

To write a value again may spell a text out as a record, and fill in what is
absent. Where a schema does so no deeper than a limit, the values below the
limit stay below it, in order and without integers past 64 bits.
-/

namespace ImagePrompt

/-- What is filled in for an absent field can be read below a limit. -/
def Presence.fits (limit : Nat) : Presence → Bool
  | .orElse value => decide (value.Readable limit)
  | _ => true

mutual

def Schema.fits (limit : Nat) : Schema → Bool
  | .list element => element.fits (limit - 1)
  | .record fields => allFit (limit - 1) fields
  | .imageReference fields => decide (1 < limit) && allFit (limit - 1) fields
  | _ => true

def Field.fits (limit : Nat) : Field → Bool
  | .mk _ presence schema => presence.fits limit && schema.fits limit

def allFit (limit : Nat) : List Field → Bool
  | [] => true
  | f :: fields => f.fits limit && allFit limit fields

end

variable {limit : Nat} {fields : List Field} {ms : Members}

theorem allFit_iff : allFit limit fields = true ↔ ∀ f ∈ fields, f.fits limit = true := by
  induction fields with
  | nil => simp [allFit]
  | cons f fields ih => simp [allFit, ih]

theorem mem_rewriteAll {m : String × Json} (h : m ∈ rewriteAll fields ms) :
    m ∈ ms ∨ ∃ f ∈ fields, f.rewritten ms = some m.2 := by
  induction fields with
  | nil => exact .inl h
  | cons f fields ih =>
    rcases Members.mem_of_mem_put h with hf | h
    · exact .inr ⟨f, List.mem_cons_self, hf⟩
    · rcases ih h with h | ⟨g, hg, hrewritten⟩
      · exact .inl h
      · exact .inr ⟨g, List.mem_cons_of_mem _ hg, hrewritten⟩

/-- A schema keeps the values below a limit below it. -/
def Schema.Keeps (limit : Nat) (schema : Schema) : Prop :=
  ∀ v, v.Readable limit → (schema.rewrite v).Readable limit

theorem Field.readable_rewritten {f : Field} {w : Json} (hfits : f.fits limit = true)
    (hschema : f.schema.fits limit = true → f.schema.Keeps limit)
    (hms : ∀ m ∈ ms, m.2.Readable limit) (h : f.rewritten ms = some w) : w.Readable limit := by
  obtain ⟨key, presence, schema⟩ := f
  rw [fits, Bool.and_eq_true] at hfits
  cases hget : ms.get? key with
  | none =>
    rw [rewritten_of_none hget] at h
    cases presence with
    | orElse value =>
      obtain rfl := Option.some.inj h
      exact of_decide_eq_true hfits.1
    | _ => cases h
  | some v =>
    rw [rewritten_of_some hget] at h
    split at h
    · cases h
    · obtain rfl := Option.some.inj h
      exact hschema hfits.2 v (hms _ (Members.mem_of_get? hget))

theorem readable_rewriteAll (hlimit : limit ≠ 0) (hfits : allFit limit fields = true)
    (hschema : ∀ schema : Schema, schema.fits limit = true → schema.Keeps limit)
    (hkeys : ms.Increasing) (hms : ∀ m ∈ ms, m.2.Readable limit) :
    (Json.object (rewriteAll fields ms)).Readable (limit + 1) := by
  refine Json.readable_object_iff.2 ⟨hlimit, increasing_rewriteAll hkeys, fun m hm => ?_⟩
  rcases mem_rewriteAll hm with hm | ⟨f, hf, hrewritten⟩
  · exact hms m hm
  · exact f.readable_rewritten (allFit_iff.1 hfits f hf) (hschema _) hms hrewritten

theorem Schema.keeps_of_fits {schema : Schema} (hfits : schema.fits limit = true) :
    schema.Keeps limit := by
  intro v h
  -- Whatever is nested is written again below a limit that is smaller by one.
  induction limit generalizing schema v with
  | zero => exact absurd h.depth_lt (Nat.not_lt_zero _)
  | succ limit ih =>
    have hkeeps : ∀ schema : Schema, schema.fits limit = true → schema.Keeps limit :=
      fun _ hfits v h => ih hfits v h
    unfold rewrite
    split
    · exact Json.readable_number_iff.2 trivial
    · next element vs =>
      rw [fits, Nat.add_sub_cancel] at hfits
      obtain ⟨hlimit, hvs⟩ := Json.readable_array_iff.1 h
      refine Json.readable_array_iff.2 ⟨hlimit, List.forall_mem_map.2 fun v hv => ?_⟩
      exact hkeeps element hfits v (hvs v hv)
    · next fields ms =>
      rw [fits, Nat.add_sub_cancel] at hfits
      obtain ⟨hlimit, hkeys, hms⟩ := Json.readable_object_iff.1 h
      exact readable_rewriteAll hlimit hfits hkeeps hkeys hms
    · next fields s =>
      rw [fits, Nat.add_sub_cancel, Bool.and_eq_true, decide_eq_true_iff] at hfits
      obtain ⟨limit, rfl⟩ := Nat.exists_eq_add_of_lt (Nat.lt_of_succ_lt_succ hfits.1)
      refine Json.readable_object_iff.2 ⟨Nat.succ_ne_zero _, List.pairwise_singleton _ _, ?_⟩
      simp [Json.readable_string]
    · next fields ms _ =>
      rw [fits, Nat.add_sub_cancel, Bool.and_eq_true] at hfits
      obtain ⟨hlimit, hkeys, hms⟩ := Json.readable_object_iff.1 h
      exact readable_rewriteAll hlimit hfits.2 hkeeps hkeys hms
    · exact h

namespace PromptDocument

theorem fits_schema : schema.fits Json.Parser.depthLimit = true := by decide

end PromptDocument

/-- What an accepted text is written as again can be read by the reader of texts. -/
theorem readable_payload {text : String} {n : NormalizedPrompt} (h : normalizeText text = .ok n) :
    n.payload.Readable Json.Parser.depthLimit := by
  obtain ⟨raw, -, hraw, hn⟩ := exists_readable_of_normalizeText h
  obtain ⟨d, hread, -, rfl⟩ := normalize_eq_ok_iff_decode.1 hn
  have hpayload : d.payload = PromptDocument.schema.rewrite raw :=
    PromptDocument.follows.writes hraw.wellFormed.sorted hread
  change d.payload.Readable _
  rw [hpayload]
  exact Schema.keeps_of_fits PromptDocument.fits_schema raw hraw

end ImagePrompt
