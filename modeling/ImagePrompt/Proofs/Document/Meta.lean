import ImagePrompt.Document.Meta
import ImagePrompt.Proofs.Document.Record
/-!
# The schema of the settings

Four settings go by names. The number of steps and the guidance scale have
ranges that are checked after decoding; the schema says them at once.
-/

namespace ImagePrompt

theorem Domain.follows : codec.Follows (fun _ => True)
    (.oneOf ["photography", "graphic_design", "ui_design"]) :=
  Codec.named_follows "domain" all name

theorem AspectRatio.follows : codec.Follows (fun _ => True)
    (.oneOf ["1:1", "2:3", "3:2", "3:4", "4:3", "4:5", "5:4", "9:16", "16:9", "21:9"]) :=
  Codec.named_follows "aspect_ratio" all name

theorem ImageSize.follows : codec.Follows (fun _ => True) (.oneOf ["1K", "2K", "4K"]) :=
  Codec.named_follows "image_size" all name

theorem SafetyFilter.follows : codec.Follows (fun _ => True)
    (.oneOf ["block_none", "block_only_high", "block_medium_and_above", "block_low_and_above"]) :=
  Codec.named_follows "safety_filter" all name

namespace Meta

theorem stepsInRange_iff {n : Nat} : stepsInRange n = true ↔ 1 ≤ n ∧ n ≤ 150 := by
  unfold stepsInRange
  rw [Bool.and_eq_true, decide_eq_true_iff, decide_eq_true_iff]
  rfl

theorem scaleInRange_iff {x : Binary64} :
    scaleInRange x = true ↔ 0 ≤ x.toRat ∧ x.toRat ≤ (30 : Nat) :=
  Binary64.between_iff (by decide)

theorem rangeError?_eq_none_iff {m : Meta} :
    m.rangeError? = none ↔
      (∀ x, m.guidanceScale = some x → 0 ≤ x.toRat ∧ x.toRat ≤ (30 : Nat)) ∧
        ∀ n, m.steps = some n → 1 ≤ n ∧ n ≤ 150 := by
  unfold rangeError?
  simp only [← stepsInRange_iff, ← scaleInRange_iff]
  cases m.steps with
  | none => simp [Option.filter_eq_none_iff]
  | some n =>
    by_cases hn : stepsInRange n
    · simp [Option.filter_some, hn, Option.filter_eq_none_iff]
    · simp [Option.filter_some, hn]

def fields : List Field :=
  [.mk "aspect_ratio" .optional
      (.oneOf ["1:1", "2:3", "3:2", "3:4", "4:3", "4:5", "5:4", "9:16", "16:9", "21:9"]),
    .mk "domain" .optional (.oneOf ["photography", "graphic_design", "ui_design"]),
    .mk "guidance_scale" .optional (.upTo 30),
    .mk "image_size" .optional (.oneOf ["1K", "2K", "4K"]), .mk "quality" .optional .text,
    .mk "safety_filter" .optional
      (.oneOf ["block_none", "block_only_high", "block_medium_and_above", "block_low_and_above"]),
    .mk "seed" .optional (.integer 0 (2 ^ 64 - 1)), .mk "steps" .optional (.integer 1 150)]

theorem seed_follows :
    Codec.unsigned64.Follows (fun _ => True) (.integer 0 (2 ^ 64 - 1)) := by
  refine Codec.natural_follows (by decide) (by decide) fun n hn => ?_
  rw [Nat.pow_eq] at hn
  rw [true_iff]
  omega

theorem steps_follows :
    Codec.unsigned32.Follows (fun n => 1 ≤ n ∧ n ≤ 150) (.integer 1 150) := by
  refine Codec.natural_follows (by decide) (by decide) fun n hn => ?_
  omega

theorem follows : codec.Follows (fun m => m.rangeError? = none) (.record fields) := by
  apply Codec.record_follows
  refine Fieldwise.recordFollows keys ?_ (by decide) (by decide)
  apply Fieldwise.step (Field.optional_followed AspectRatio.follows "aspect_ratio")
  intro aspectRatio
  apply Fieldwise.step (Field.optional_followed Domain.follows "domain")
  intro domain
  apply Fieldwise.step (Field.optional_followed (Codec.real_follows (by decide)) "guidance_scale")
  intro guidanceScale
  apply Fieldwise.step (Field.optional_followed ImageSize.follows "image_size")
  intro imageSize
  apply Fieldwise.step (Field.text_followed "quality")
  intro quality
  apply Fieldwise.step (Field.optional_followed SafetyFilter.follows "safety_filter")
  intro safetyFilter
  apply Fieldwise.step (Field.optional_followed seed_follows "seed")
  intro seed
  apply Fieldwise.step (Field.optional_followed steps_follows "steps")
  intro steps
  apply Fieldwise.done
    (fun extra => { domain, aspectRatio, imageSize, quality, seed, steps, guidanceScale,
                    safetyFilter, extra })
  · exact fun _ => rfl
  · intro extra
    simp only [members, ← Multiset.coe_add]
    abel
  · intro extra
    simp [rangeError?_eq_none_iff]

end Meta

end ImagePrompt
