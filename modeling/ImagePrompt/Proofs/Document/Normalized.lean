import ImagePrompt.Proofs.Document.Basic
import ImagePrompt.Proofs.Json.Parser
import ImagePrompt.Rendering.Basic
/-!
# Normalized prompts

A prompt is accepted when its members make a document that passes every check,
and the document alone decides what the normalized prompt holds. So the schema
of the document says which prompts are accepted and how they are written again.
A prompt is a value as readers make them, in order and without integers past 64
bits.
-/

namespace ImagePrompt

/-- What later stages need of a document that passed every check. -/
def NormalizedPrompt.ofDocument (d : PromptDocument) : NormalizedPrompt where
  document := d
  payload := d.payload
  images := d.declaredImages
  resolution := d.settings.resolution
  warnings := PromptDocument.strengthWarnings d.declaredImages ++ d.domainWarnings

theorem normalize_eq_ok_iff {raw : Json} {n : NormalizedPrompt} :
    normalize raw = .ok n ↔
      ∃ ms d, raw = .object ms ∧ PromptDocument.read ms = .ok d ∧ d.check = .ok () ∧
        NormalizedPrompt.ofDocument d = n := by
  cases raw with
  | object ms =>
    simp only [normalize, Json.object.injEq]
    cases hread : PromptDocument.read ms with
    | error e => simp [hread]
    | ok d =>
      simp only [Success.bind_eq_ok, Success.pure_eq_ok]
      constructor
      · rintro ⟨_, hcheck, rfl⟩
        exact ⟨ms, d, rfl, hread, hcheck, rfl⟩
      · rintro ⟨_, _, rfl, hread', hcheck, rfl⟩
        obtain rfl := Except.ok.inj (hread.symm.trans hread')
        exact ⟨(), hcheck, rfl⟩
  | _ => simp [normalize]

theorem normalize_eq_ok_iff_decode {raw : Json} {n : NormalizedPrompt} :
    normalize raw = .ok n ↔
      ∃ d, PromptDocument.codec.decode raw = .ok d ∧ d.check = .ok () ∧
        NormalizedPrompt.ofDocument d = n := by
  rw [normalize_eq_ok_iff]
  constructor
  · rintro ⟨ms, d, rfl, hread, hcheck, hn⟩
    exact ⟨d, hread, hcheck, hn⟩
  · rintro ⟨d, hread, hcheck, hn⟩
    cases raw with
    | object ms => exact ⟨ms, d, rfl, hread, hcheck, hn⟩
    | _ => cases hread

/-- The prompts that come as texts are values as readers make them. -/
theorem exists_readable_of_normalizeText {text : String} {n : NormalizedPrompt}
    (h : normalizeText text = .ok n) :
    ∃ raw, Json.parse text = .ok raw ∧ raw.Readable Json.Parser.depthLimit ∧
      normalize raw = .ok n := by
  unfold normalizeText at h
  split at h
  · next raw hparse => exact ⟨raw, hparse, Json.parse_readable hparse, h⟩
  · cases h

/-- A number between the bounds is written again as the floating-point number of its value. -/
theorem rewrite_upTo {high : Nat} {k : Json.Number} (hhigh : high < 2 ^ 53)
    (h : (Schema.upTo high).Accepts (.number k)) :
    ∃ x, (Schema.upTo high).rewrite (.number k) = .ofReal x ∧ x.toRat = k.toRat := by
  obtain ⟨k', hk, hlow, hup⟩ := by simpa only [Schema.Accepts] using h
  obtain rfl := Json.number.inj hk
  cases k with
  | real x => exact ⟨x, by simp [Schema.rewrite, Json.ofReal], rfl⟩
  | integer n =>
    have hlow' : 0 ≤ n := Int.cast_nonneg_iff.1 hlow
    have hup' : n ≤ high := by
      rw [Json.Number.toRat] at hup
      exact_mod_cast hup
    exact ⟨Binary64.ofInt n, by simp [Schema.rewrite], Binary64.toRat_ofInt (by omega)⟩

/-- A prompt with each thing that is left out, filled in or spelled in another way. -/
def terse : Json := .object
  [("base_image", .object
      [("path", .string "b.png"), ("strength", .number (.integer 1)), ("x", .null)]),
    ("graphic_design", .object [("elements", .array [.object [("w", .bool false)]])]),
    ("input_image", .string "a.png"),
    ("subject", .array []),
    ("text_rendering", .object [("enabled", .bool false)]),
    ("user_intent", .null),
    ("z", .array [])]

/-! ## What is written again -/

/-- A prompt is written again with its known fields as their schema says and its other members as
they are. -/
theorem normalize_payload_eq_rewrite {raw : Json} {n : NormalizedPrompt} (hraw : raw.Sorted)
    (h : normalize raw = .ok n) :
    n.payload = PromptDocument.schema.rewrite raw ∧
      (∀ (fields : List Field) (ms : Members) (key : String), key ∉ fields.map Field.key →
        (rewriteAll fields ms).get? key = ms.get? key) ∧
      ∀ (high : Nat) (k : Json.Number), high ≤ 30 → (Schema.upTo high).Accepts (.number k) →
        ∃ x, (Schema.upTo high).rewrite (.number k) = .ofReal x ∧ x.toRat = k.toRat := by
  obtain ⟨d, hread, -, rfl⟩ := normalize_eq_ok_iff_decode.1 h
  refine ⟨PromptDocument.follows.writes hraw hread, ?_, ?_⟩
  · intro fields ms key hkey
    exact get?_rewriteAll_of_notMem hkey
  · intro high k hhigh hk
    exact rewrite_upTo (by omega) hk

theorem terse_payload_eq_rewrite :
    ∃ n, normalize terse = .ok n ∧ n.payload = PromptDocument.schema.rewrite terse := by
  have hsorted : terse.Sorted := by decide
  exact ⟨_, rfl, (normalize_payload_eq_rewrite hsorted rfl).1⟩

example : PromptDocument.schema.rewrite terse = .object
    [("base_image", .object
        [("path", .string "b.png"), ("strength", .ofReal (Binary64.ofInt 1)), ("x", .null)]),
      ("graphic_design", .object
        [("elements", .array [.object [("type", .string ""), ("w", .bool false)]])]),
      ("input_image", .object [("path", .string "a.png")]),
      ("meta", .object []),
      ("text_rendering", .object []),
      ("z", .array [])] := by
  rfl

/-! ## What is accepted -/

/-- The prompts accepted are those of the schema; any other is a schema failure. -/
theorem normalize_accepts_iff {raw : Json} (hraw : raw.Bounded) :
    ((∃ n, normalize raw = .ok n) ↔ PromptDocument.schema.Accepts raw) ∧
      ∀ e, normalize raw = .error e → e.failure.kind = .schema := by
  refine ⟨?_, fun _ _ => rfl⟩
  rw [← PromptDocument.follows.accepts hraw]
  simp only [normalize_eq_ok_iff_decode]
  constructor
  · rintro ⟨n, d, hread, hcheck, -⟩
    exact ⟨d, hread, hcheck⟩
  · rintro ⟨d, hread, hcheck⟩
    exact ⟨_, d, hread, hcheck, rfl⟩

theorem terse_accepted : PromptDocument.schema.Accepts terse :=
  (normalize_accepts_iff (by decide)).1.1 ⟨_, rfl⟩

/-! ## What is read back -/

theorem normalize_payload {raw : Json} {n : NormalizedPrompt} (hraw : raw.Sorted)
    (h : normalize raw = .ok n) : normalize n.payload = .ok n := by
  obtain ⟨d, hread, hcheck, rfl⟩ := normalize_eq_ok_iff_decode.1 h
  exact normalize_eq_ok_iff_decode.2 ⟨d, PromptDocument.follows.rereads hraw hread, hcheck, rfl⟩

/-- A prompt written again is accepted again, and says the same. -/
theorem normalize_payload_again {raw : Json} {n : NormalizedPrompt} (hraw : raw.Sorted)
    (h : normalize raw = .ok n) :
    normalize n.payload = .ok n ∧
      ∀ m, normalize n.payload = .ok m →
        m.document.promptText = n.document.promptText ∧
          m.document.renderWarnings = n.document.renderWarnings := by
  have hagain := normalize_payload hraw h
  refine ⟨hagain, ?_⟩
  intro m hm
  obtain rfl := Except.ok.inj (hagain.symm.trans hm)
  exact ⟨rfl, rfl⟩

theorem terse_payload_again :
    ∃ n, normalize terse = .ok n ∧ normalize n.payload = .ok n := by
  have hsorted : terse.Sorted := by decide
  exact ⟨_, rfl, (normalize_payload_again hsorted rfl).1⟩

end ImagePrompt
