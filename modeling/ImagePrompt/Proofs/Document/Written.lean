import ImagePrompt.Document.Normalized
import ImagePrompt.Proofs.Document.Record
/-!
# The settings in a payload

What a document written again says about its settings: each that is set under
its own key, and no other. The members that the settings do not know cannot get
in the way, since they stand under other keys.
-/

namespace ImagePrompt

namespace Members

variable {α : Type} {c : Codec α} {key k : String}

theorem last?_ofOption {o : Option α} :
    (ofOption k c o).last? key = if key = k then o.map c.encode else none := by
  cases o with
  | none => simp [ofOption]
  | some a => exact last?_singleton

theorem last?_ofValue {a : α} :
    (ofValue k c a).last? key = if key = k then some (c.encode a) else none := last?_singleton

theorem last?_ofList {as : List α} (h : key ≠ k) : (ofList k c as).last? key = none := by
  cases as with
  | nil => rfl
  | cons a as => exact last?_singleton.trans (if_neg h)

end Members

namespace Meta

variable {m : Meta} {ms : Members} {v : Json}

/-- Settings that were read: what they do not know stands under other keys, and the seed has 64
bits. -/
structure Genuine (m : Meta) : Prop where
  unknown : ∀ key ∈ keys, m.extra.last? key = none
  seed_le : ∀ seed, m.seed = some seed → seed ≤ 2 ^ 64 - 1

theorem genuine_empty : Genuine {} := by
  constructor <;> simp

theorem genuine_of_decode (h : codec.decode v = .ok m) : m.Genuine := by
  cases v with
  | object ms =>
    change read ms = .ok m at h
    simp only [read, Success.bind_eq_ok, Success.pure_eq_ok] at h
    obtain ⟨_, -, _, -, _, -, _, -, _, -, _, -, seed, hseed, _, -, rfl⟩ := h
    constructor
    case unknown =>
      intro key hkey
      rw [Members.last?_without, if_pos hkey]
    case seed_le =>
      intro n hn
      obtain ⟨rfl, -⟩ | ⟨w, k, -, -, hdecode, rfl⟩ := Members.optional_eq_ok_iff.1 hseed
      · cases hn
      · obtain rfl := Option.some.inj hn
        exact (Codec.natural_decode_eq_ok.1 hdecode).2
  | _ => cases h

/-- What stands under a key of settings that are written, if anything. -/
def written? (m : Meta) (key : String) : Option Json :=
  match key with
  | "domain" => m.domain.map (.string ·.name)
  | "aspect_ratio" => m.aspectRatio.map (.string ·.name)
  | "image_size" => m.imageSize.map (.string ·.name)
  | "quality" => m.quality.map .string
  | "seed" => m.seed.map .ofNat
  | "steps" => m.steps.map .ofNat
  | "guidance_scale" => m.guidanceScale.map .ofReal
  | "safety_filter" => m.safetyFilter.map (.string ·.name)
  | _ => none

theorem get?_encode {key : String} (h : m.Genuine) (hkey : key ∈ keys) :
    (codec.encode m).get? key = m.written? key := by
  have hextra := h.unknown key hkey
  change (Members.sorted m.members).get? key = _
  -- Members that the settings do not know are written last, but stand under other keys.
  rw [Members.get?_sorted_eq_last?]
  simp only [keys, List.mem_cons, List.not_mem_nil, or_false] at hkey
  rcases hkey with rfl | rfl | rfl | rfl | rfl | rfl | rfl | rfl <;>
    simp [members, Members.last?_append, Members.last?_ofOption, hextra, written?] <;> rfl

end Meta

namespace PromptDocument

variable {d : PromptDocument} {ms : Members}

/-- Where a document has its settings, its designs and what it does not know from. -/
structure ReadFrom (d : PromptDocument) (ms : Members) : Prop where
  settings : ms.defaulting "meta" Meta.codec {} = .ok d.settings
  graphicDesign : ms.optional "graphic_design" GraphicDesign.codec = .ok d.graphicDesign
  uiDesign : ms.optional "ui_design" UiDesign.codec = .ok d.uiDesign
  unknown : d.extra = ms.without keys

theorem readFrom_of_read (h : read ms = .ok d) : d.ReadFrom ms := by
  simp only [read, Success.bind_eq_ok, Success.pure_eq_ok] at h
  obtain ⟨_, -, _, -, _, -, _, -, _, hgraphic, _, -, _, -, _, hsettings, _, -, _, -, _, -, _, -,
    _, -, _, -, _, hui, _, -, rfl⟩ := h
  exact ⟨hsettings, hgraphic, hui, rfl⟩

theorem genuine_of_read (h : read ms = .ok d) : d.settings.Genuine := by
  obtain ⟨heq, -⟩ | ⟨v, -, hdecode⟩ := Members.defaulting_eq_ok_iff.1 (readFrom_of_read h).settings
  · rw [heq]
    exact Meta.genuine_empty
  · exact Meta.genuine_of_decode hdecode

/-- A document written again has its settings under their key. -/
theorem get?_payload_meta (h : read ms = .ok d) :
    d.payload.get? "meta" = some (Meta.codec.encode d.settings) := by
  have hextra : d.extra.last? "meta" = none := by
    rw [(readFrom_of_read h).unknown, Members.last?_without, if_pos (by decide)]
  change (Members.sorted d.members).get? "meta" = _
  rw [Members.get?_sorted_eq_last?]
  simp [members, Members.last?_append, Members.last?_ofOption, Members.last?_ofValue,
    Members.last?_ofList, hextra]

end PromptDocument

end ImagePrompt
