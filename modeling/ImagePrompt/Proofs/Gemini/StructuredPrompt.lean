import ImagePrompt.Proofs.Document.Readable
import ImagePrompt.Proofs.Json.Reread
import ImagePrompt.Proofs.Run.Verdict
/-!
# The structured prompt read back

The last text that goes to the service holds the prompt itself. Whoever reads it
as a prompt gets what the sender had, to the last character and digit, unless
there are floating-point numbers in it.
-/

namespace ImagePrompt

/-! ## The texts of a body -/

namespace Gemini

def sentTexts (body : Json) : List String :=
  (sentParts body).filterMap fun part => (part.get? "text").bind Json.string?

theorem sentTexts_body (request : PictureRequest) :
    sentTexts (body request) =
      [request.promptText, structuredHeading ++ request.document.indented] := by
  have hpictures :
      (request.images.map fun image => picturePart image.mediaType image.bytes).filterMap
        (fun part => (part.get? "text").bind Json.string?) = [] := by
    rw [List.filterMap_eq_nil_iff, List.forall_mem_map]
    exact fun _ _ => rfl
  rw [sentTexts, sentParts_body, parts, List.filterMap_append, hpictures]
  rfl

end Gemini

/-! ## Reading back -/

variable {text : String} {n : NormalizedPrompt}

theorem normalize_of_parse {raw : Json} (htext : normalizeText text = .ok n)
    (hparse : Json.parse text = .ok raw) : normalize raw = .ok n := by
  unfold normalizeText at htext
  rwa [hparse] at htext

/-- What a prompt is written as is a text of the same prompt. -/
theorem normalizeText_indented (htext : normalizeText text = .ok n)
    (hwhole : n.payload.isWhole = true) : normalizeText n.payload.indented = .ok n := by
  have hparse : Json.parse n.payload.indented = .ok n.payload :=
    Json.parse_indented (readable_payload htext) hwhole
  obtain ⟨raw, -, hraw, hn⟩ := exists_readable_of_normalizeText htext
  rw [normalizeText, hparse]
  exact normalize_payload hraw.wellFormed.sorted hn

/-- The structured prompt in a body is a text of the prompt that the body was made for, whatever
images and model it was made with. -/
theorem structuredPrompt_readsBack {r : GenerationRequest} {fs : FileSystem} {p : PreparedRun}
    (htext : normalizeText text = .ok n) (hwhole : n.payload.isWhole = true)
    (hprompt : Json.parse text = .ok r.prompt) (hprepare : (r.prepare fs).result = .ok p) :
    ∃ rest,
      (Gemini.sentTexts (Gemini.body p.request)).getLast? =
        some ("STRUCTURED_PROMPT_JSON:\n" ++ rest) ∧
      normalizeText rest = .ok n := by
  obtain ⟨m, images, hm, -, rfl⟩ := GenerationRequest.prepare_eq_ok_iff.1 hprepare
  have hn : normalize r.prompt = .ok n := normalize_of_parse htext hprompt
  obtain rfl : m = n := Except.ok.inj (hm.symm.trans hn)
  refine ⟨m.payload.indented, ?_, normalizeText_indented htext hwhole⟩
  rw [Gemini.sentTexts_body]
  rfl

/-! ## A text with everything that could get lost -/

/-- A text with an image for short, escapes, the integers farthest from zero, nested brackets and
blanks of all kinds. -/
def knottyText : String :=
  "\x7b\"user_intent\": \"\\u0007 \\\"\\u00e9\\\"\\n\", \"input_image\": \"b.gif\",\n\t" ++
  "\"meta\":\x7b\"seed\":18446744073709551615\x7d, \"z\" :[[-9223372036854775808],\x7b\x7d]\x7d"

/-- A request for it with the file that it declares. -/
def knottyRequest : GenerationRequest where
  prompt := .object
    [("input_image", .string "b.gif"), ("meta", .object [("seed", .ofNat 18446744073709551615)]),
      ("user_intent", .string "\x07 \"é\"\n"),
      ("z", .array [.array [.number (.integer (-9223372036854775808))], .object []])]
  inputImages := ["b.gif"]
  outputDirectory := "out"
  model := "model"

set_option maxRecDepth 2000 in
theorem parse_knottyText : Json.parse knottyText = .ok knottyRequest.prompt := by rfl

theorem knottyText_readsBack :
    ∃ n p rest, normalizeText knottyText = .ok n ∧
      (knottyRequest.prepare twoPictures).result = .ok p ∧
      (Gemini.sentTexts (Gemini.body p.request)).getLast? =
        some ("STRUCTURED_PROMPT_JSON:\n" ++ rest) ∧
      normalizeText rest = .ok n := by
  obtain ⟨n, hn⟩ : ∃ n, normalize knottyRequest.prompt = .ok n := ⟨_, rfl⟩
  have htext : normalizeText knottyText = .ok n := by
    rw [normalizeText, parse_knottyText]
    exact hn
  obtain ⟨p, hprepare⟩ : ∃ p, (knottyRequest.prepare twoPictures).result = .ok p := by
    refine GenerationRequest.exists_prepare_iff.2 ⟨_, rfl, le_rfl, ?_⟩
    intro file hfile
    obtain rfl : file = "b.gif" := List.mem_singleton.1 hfile
    exact ⟨_, load_pictureB⟩
  have hwhole : n.payload.isWhole = true := by
    obtain rfl := Except.ok.inj hn
    rfl
  obtain ⟨rest, hlast, hrest⟩ := structuredPrompt_readsBack htext hwhole parse_knottyText hprepare
  exact ⟨n, p, rest, htext, hprepare, hlast, hrest⟩

end ImagePrompt
