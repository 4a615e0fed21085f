import ImagePrompt.Proofs.Document.Written
import ImagePrompt.Proofs.Json.Path
import ImagePrompt.Proofs.Run.Preparation
/-!
# The settings sent twice

The settings of a picture go to the service in the members of a body and once
more in the structured prompt that the body holds. Both tell the same.
-/

namespace ImagePrompt

/-! ## Published sizes -/

def publishedTiers : List String := ["1K", "2K", "4K"]

/-- The sizes of pictures in pixels by the ratio, one for each tier. -/
def publishedSizes : List (String × List Resolution) :=
  [("1:1", [⟨1024, 1024⟩, ⟨2048, 2048⟩, ⟨4096, 4096⟩]),
    ("2:3", [⟨848, 1264⟩, ⟨1696, 2528⟩, ⟨3392, 5056⟩]),
    ("3:2", [⟨1264, 848⟩, ⟨2528, 1696⟩, ⟨5056, 3392⟩]),
    ("3:4", [⟨896, 1200⟩, ⟨1792, 2400⟩, ⟨3584, 4800⟩]),
    ("4:3", [⟨1200, 896⟩, ⟨2400, 1792⟩, ⟨4800, 3584⟩]),
    ("4:5", [⟨928, 1152⟩, ⟨1856, 2304⟩, ⟨3712, 4608⟩]),
    ("5:4", [⟨1152, 928⟩, ⟨2304, 1856⟩, ⟨4608, 3712⟩]),
    ("9:16", [⟨768, 1376⟩, ⟨1536, 2752⟩, ⟨3072, 5504⟩]),
    ("16:9", [⟨1376, 768⟩, ⟨2752, 1536⟩, ⟨5504, 3072⟩]),
    ("21:9", [⟨1584, 672⟩, ⟨3168, 1344⟩, ⟨6336, 2688⟩])]

def publishedSize? (ratio tier : String) : Option Resolution :=
  (publishedSizes.lookup ratio).bind fun sizes => (publishedTiers.zip sizes).lookup tier

theorem publishedSize?_name (ratio : AspectRatio) (size : ImageSize) :
    publishedSize? ratio.name size.name = some (.of ratio size) := by
  cases ratio <;> cases size <;> rfl

/-! ## Thresholds -/

def upperCase (s : String) : String := String.ofList (s.toList.map Char.toUpper)

theorem SafetyFilter.threshold_eq_upperCase (f : SafetyFilter) :
    f.threshold = upperCase f.name := by
  cases f <;> rfl

/-! ## Both routes -/

/-- What the structured prompt of a request says of a setting. -/
def PictureRequest.documented? (request : PictureRequest) (key : String) : Option Json :=
  request.document.at? [.member "meta", .member key]

/-- The members of a body and the structured prompt in it tell the same of the picture, and the
parts of the body are one for each supplied file, the instruction text and the structured prompt. -/
structure Gemini.Agrees (supplied : List String) (request : PictureRequest) : Prop where
  seed : (body request).at? [.member "generationConfig", .member "seed"] =
    request.documented? "seed"
  /-- A seed is an integer, as large as 64 bits allow. -/
  seed_exact : ∀ v, request.documented? "seed" = some v → ∃ n ≤ 2 ^ 64 - 1, v = .ofNat n
  aspectRatio :
    (body request).at? [.member "generationConfig", .member "imageConfig", .member "aspectRatio"] =
      request.documented? "aspect_ratio"
  imageSize :
    (body request).at? [.member "generationConfig", .member "imageConfig", .member "imageSize"] =
      some ((request.documented? "image_size").getD (.string "1K"))
  unfiltered : request.documented? "safety_filter" = none →
    (body request).at? [.member "safetySettings"] = none
  filtered : ∀ v, request.documented? "safety_filter" = some v →
    ∃ filter, v = .string filter ∧
      (body request).at? [.member "safetySettings"] =
        some (.array (harmCategories.map fun category => .object
          [("category", .string category), ("threshold", .string (upperCase filter))]))
  categories : harmCategories.Nodup
  unsized : request.documented? "aspect_ratio" = none → request.resolution = none
  sized : ∀ v, request.documented? "aspect_ratio" = some v →
    ∃ ratio tier resolution, v = .string ratio ∧
      (request.documented? "image_size").getD (.string "1K") = .string tier ∧
      publishedSize? ratio tier = some resolution ∧ request.resolution = some resolution
  parts : ∃ pictures, pictures.length = supplied.length ∧
    sentParts (body request) =
      pictures ++ [textPart request.promptText,
        textPart (structuredHeading ++ request.document.indented)]

namespace Gemini

variable {request : PictureRequest}

theorem at?_body_seed :
    (body request).at? [.member "generationConfig", .member "seed"] =
      request.seed.map .ofNat := by
  have hconfig : (generationConfig request).at? [.member "seed"] = request.seed.map .ofNat := by
    rw [generationConfig]
    cases request.seed <;> rfl
  exact hconfig

theorem at?_body_aspectRatio :
    (body request).at? [.member "generationConfig", .member "imageConfig", .member "aspectRatio"] =
      request.aspectRatio.map (.string ·.name) := by
  have hconfig : (imageConfig request).at? [.member "aspectRatio"] =
      request.aspectRatio.map (.string ·.name) := by
    rw [imageConfig]
    cases request.aspectRatio <;> rfl
  exact hconfig

theorem at?_body_imageSize :
    (body request).at? [.member "generationConfig", .member "imageConfig", .member "imageSize"] =
      some (.string request.size.name) := by
  have hconfig : (imageConfig request).at? [.member "imageSize"] =
      some (.string request.size.name) := by
    rw [imageConfig]
    cases request.aspectRatio <;> rfl
  exact hconfig

theorem at?_body_safetySettings :
    (body request).at? [.member "safetySettings"] = request.safetyFilter.map safetySettings := by
  rw [body]
  cases request.safetyFilter <;> rfl

theorem safetySettings_eq (filter : SafetyFilter) :
    safetySettings filter = .array (harmCategories.map fun category => .object
      [("category", .string category), ("threshold", .string (upperCase filter.name))]) := by
  rw [safetySettings, filter.threshold_eq_upperCase]

end Gemini

namespace GenerationRequest

variable {r : GenerationRequest} {n : NormalizedPrompt} {images : List LoadedImage}

theorem documented?_prepared {key : String} (hn : normalize r.prompt = .ok n)
    (hkey : key ∈ Meta.keys) :
    (r.prepared n images).request.documented? key = n.document.settings.written? key := by
  obtain ⟨ms, d, -, hread, -, rfl⟩ := normalize_eq_ok_iff.1 hn
  change d.payload.at? _ = d.settings.written? key
  rw [Json.at?_member, PromptDocument.get?_payload_meta hread, Option.bind_some, Json.at?_member,
    Meta.get?_encode (PromptDocument.genuine_of_read hread) hkey]
  cases d.settings.written? key <;> rfl

theorem seed_le (hn : normalize r.prompt = .ok n) {seed : Nat}
    (h : n.document.settings.seed = some seed) : seed ≤ 2 ^ 64 - 1 := by
  obtain ⟨ms, d, -, hread, -, rfl⟩ := normalize_eq_ok_iff.1 hn
  exact (PromptDocument.genuine_of_read hread).seed_le seed h

theorem resolution_prepared (hn : normalize r.prompt = .ok n) :
    (r.prepared n images).request.resolution = n.document.settings.resolution := by
  obtain ⟨ms, d, -, hread, -, rfl⟩ := normalize_eq_ok_iff.1 hn
  rfl

theorem agrees_prepared (hn : normalize r.prompt = .ok n)
    (hlength : images.length = r.inputImages.length) :
    Gemini.Agrees r.inputImages (r.prepared n images).request := by
  have hseed : (r.prepared n images).request.documented? "seed" =
      n.document.settings.seed.map .ofNat := documented?_prepared hn (by decide)
  have hratio : (r.prepared n images).request.documented? "aspect_ratio" =
      n.document.settings.aspectRatio.map (.string ·.name) := documented?_prepared hn (by decide)
  have hsize : (r.prepared n images).request.documented? "image_size" =
      n.document.settings.imageSize.map (.string ·.name) := documented?_prepared hn (by decide)
  have hfilter : (r.prepared n images).request.documented? "safety_filter" =
      n.document.settings.safetyFilter.map (.string ·.name) := documented?_prepared hn (by decide)
  have htier : ((r.prepared n images).request.documented? "image_size").getD (.string "1K") =
      .string n.document.settings.effectiveSize.name := by
    rw [hsize, Meta.effectiveSize]
    cases n.document.settings.imageSize <;> rfl
  constructor
  case seed => rw [hseed, Gemini.at?_body_seed]; rfl
  case seed_exact =>
    intro v hv
    rw [hseed] at hv
    obtain ⟨seed, hsome, rfl⟩ := Option.map_eq_some_iff.1 hv
    exact ⟨seed, seed_le hn hsome, rfl⟩
  case aspectRatio => rw [hratio, Gemini.at?_body_aspectRatio]; rfl
  case imageSize => rw [htier, Gemini.at?_body_imageSize]; rfl
  case unfiltered =>
    intro hnone
    rw [hfilter] at hnone
    rw [Gemini.at?_body_safetySettings]
    exact Option.map_eq_none_iff.2 (Option.map_eq_none_iff.1 hnone)
  case filtered =>
    intro v hv
    rw [hfilter] at hv
    obtain ⟨filter, hsome, rfl⟩ := Option.map_eq_some_iff.1 hv
    refine ⟨filter.name, rfl, ?_⟩
    rw [Gemini.at?_body_safetySettings, ← Gemini.safetySettings_eq]
    exact congrArg (Option.map Gemini.safetySettings) hsome
  case categories => decide
  case unsized =>
    intro hnone
    rw [hratio] at hnone
    rw [resolution_prepared hn]
    exact Option.map_eq_none_iff.2 (Option.map_eq_none_iff.1 hnone)
  case sized =>
    intro v hv
    rw [hratio] at hv
    obtain ⟨ratio, hsome, rfl⟩ := Option.map_eq_some_iff.1 hv
    refine ⟨ratio.name, _, _, rfl, htier, publishedSize?_name _ _, ?_⟩
    rw [resolution_prepared hn, Meta.resolution, hsome]
    rfl
  case parts =>
    refine ⟨images.map fun image => Gemini.picturePart image.mediaType image.bytes, ?_, rfl⟩
    rw [List.length_map, hlength]

end GenerationRequest

/-- Whatever is asked for, the body that is sent agrees with the structured prompt in it, which is
the normalized one. -/
theorem prepare_agrees {r : GenerationRequest} {fs : FileSystem} {p : PreparedRun}
    (h : (r.prepare fs).result = .ok p) :
    ∃ n, normalize r.prompt = .ok n ∧ p.request.document = n.payload ∧
      p.request.promptText = n.document.promptText ∧ Gemini.Agrees r.inputImages p.request := by
  obtain ⟨n, images, hn, hload, rfl⟩ := GenerationRequest.prepare_eq_ok_iff.1 h
  have hlength := LoadedImage.length_of_loadAll hload
  exact ⟨n, hn, rfl, rfl, GenerationRequest.agrees_prepared hn hlength⟩

/-- A request for a wide picture with the largest seed and no images. -/
def asksForWide : GenerationRequest where
  prompt := .object
    [("meta", .object
      [("aspect_ratio", .string "16:9"), ("safety_filter", .string "block_only_high"),
        ("seed", .ofNat 18446744073709551615)])]
  outputDirectory := "out"
  model := "model"

theorem prepare_asksForWide_agrees :
    ∃ p n, (asksForWide.prepare .empty).result = .ok p ∧ normalize asksForWide.prompt = .ok n ∧
      p.request.document = n.payload ∧ Gemini.Agrees [] p.request := by
  obtain ⟨p, hprepare⟩ : ∃ p, (asksForWide.prepare .empty).result = .ok p :=
    ⟨_, GenerationRequest.prepare_eq_ok_iff.2 ⟨_, [], rfl, rfl, rfl⟩⟩
  obtain ⟨n, hn, hdocument, -, hagrees⟩ := prepare_agrees hprepare
  exact ⟨p, n, hprepare, hn, hdocument, hagrees⟩

end ImagePrompt
