import ImagePrompt.Gemini.RequestBody
import ImagePrompt.Proofs.Document.Normalized
import ImagePrompt.Proofs.FileSystem.Basic
import ImagePrompt.Proofs.Picture.Binding
import ImagePrompt.Proofs.Rendering.Guidance
import ImagePrompt.Run.Preparation
/-!
# One order of images

Four lists go by the images of a prepared run: the declarations of its document,
the pictures of its request, the numbered lines of its text, and the parts of
the body that is sent. They have one order.
-/

namespace ImagePrompt

namespace GenerationRequest

variable {r : GenerationRequest} {fs : FileSystem} {n : NormalizedPrompt}

theorem loadAll_nil : LoadedImage.loadAll fs [] [] = .ok [] := rfl

theorem images_eq_nil (h : ¬ r.hasImages n) : n.images = [] ∧ r.inputImages = [] := by
  simpa [hasImages] using h

theorem loadImages_of_ok {images : List LoadedImage}
    (h : LoadedImage.loadAll fs n.images r.inputImages = .ok images) :
    r.loadImages fs n = .ok (if r.hasImages n then [.imagesLoaded] else []) images := by
  unfold loadImages
  by_cases himages : r.hasImages n
  · rw [if_pos himages, if_pos himages, h]
  · obtain ⟨hdeclared, hsupplied⟩ := images_eq_nil himages
    rw [hdeclared, hsupplied, loadAll_nil] at h
    obtain rfl := Except.ok.inj h
    rw [if_neg himages, if_neg himages]

theorem loadImages_of_error {f : Failure}
    (h : LoadedImage.loadAll fs n.images r.inputImages = .error f) :
    r.loadImages fs n = .fail [] f := by
  unfold loadImages
  by_cases himages : r.hasImages n
  · rw [if_pos himages, h]
  · obtain ⟨hdeclared, hsupplied⟩ := images_eq_nil himages
    rw [hdeclared, hsupplied, loadAll_nil] at h
    cases h

theorem loadImages_eq_ok_iff {images : List LoadedImage} :
    (r.loadImages fs n).result = .ok images ↔
      LoadedImage.loadAll fs n.images r.inputImages = .ok images := by
  cases h : LoadedImage.loadAll fs n.images r.inputImages with
  | ok loaded =>
    rw [loadImages_of_ok h]
    rfl
  | error f => simp [loadImages_of_error h, Passage.fail]

theorem prepare_eq_ok_iff {p : PreparedRun} :
    (r.prepare fs).result = .ok p ↔
      ∃ n images, normalize r.prompt = .ok n ∧
        LoadedImage.loadAll fs n.images r.inputImages = .ok images ∧ r.prepared n images = p := by
  unfold prepare
  cases hn : normalize r.prompt with
  | error e => simp [Passage.fail]
  | ok n =>
    simp only [← loadImages_eq_ok_iff, Passage.andThen, Passage.ok]
    cases hload : (r.loadImages fs n).result <;> simp [hload]

end GenerationRequest

/-! ## The four lists -/

/-- The parts of the first content of a body. -/
def Gemini.sentParts (body : Json) : List Json :=
  (((((body.get? "contents").bind Json.array?).bind (·[0]?)).bind (Json.get? "parts")).bind
    Json.array?).getD []

theorem Gemini.sentParts_body (request : PictureRequest) :
    sentParts (body request) = parts request := rfl

/-- The pictures of a request, the lines of a text and the parts of a body go by the declarations
of one document in one order, with the pictures that no declaration asks for at the end. -/
structure InDeclaredOrder (supplied : List String) (d : PromptDocument)
    (request : PictureRequest) : Prop where
  one_per_file : request.images.length = supplied.length
  labelled : ∀ (i : Nat) (declared : DeclaredImage), d.declaredImages[i]? = some declared →
    ∃ image, request.images[i]? = some image ∧ image.declaredAs = some declared.origin.label
  unlabelled : ∀ (i : Nat) (image : LoadedImage), d.declaredImages.length ≤ i →
    request.images[i]? = some image → image.declaredAs = none
  lines : ∃ before run behind, d.lines = before ++ run ++ behind ∧
    run.length = d.declaredImages.length ∧
    (∀ line ∈ run, line.isReference = true) ∧
    (∀ line ∈ before ++ behind, line.isReference = false) ∧
    (∀ (i : Nat) (declared : DeclaredImage), d.declaredImages[i]? = some declared →
      run[i]?.map PromptLine.text =
        some ("Image " ++ toString (i + 1) ++ ": " ++ PromptLine.describe declared)) ∧
    ∃ head tail, request.promptText =
      head ++ String.intercalate "\n" (run.map PromptLine.text) ++ tail
  sent : ∀ (i : Nat) (image : LoadedImage), request.images[i]? = some image →
    (Gemini.sentParts (Gemini.body request))[i]? =
      some (Gemini.picturePart image.mediaType image.bytes)

theorem sent_picture (request : PictureRequest) (i : Nat) (image : LoadedImage)
    (h : request.images[i]? = some image) :
    (Gemini.sentParts (Gemini.body request))[i]? =
      some (Gemini.picturePart image.mediaType image.bytes) := by
  have hlt := (List.getElem?_eq_some_iff.1 h).1
  rw [Gemini.sentParts_body, Gemini.parts, List.getElem?_append_left (by simpa using hlt)]
  simp [h]

theorem exists_label_of_map_declaredAs {images : List LoadedImage} {declared : List DeclaredImage}
    {others i : Nat} {d : DeclaredImage} (hi : declared[i]? = some d)
    (h : images.map LoadedImage.declaredAs =
      declared.map (fun d => some d.origin.label) ++ List.replicate others none) :
    ∃ image, images[i]? = some image ∧ image.declaredAs = some d.origin.label := by
  have hlt := (List.getElem?_eq_some_iff.1 hi).1
  have hlabel : (images.map LoadedImage.declaredAs)[i]? = some (some d.origin.label) := by
    rw [h, List.getElem?_append_left (by simpa using hlt)]
    simp [hi]
  simpa using hlabel

theorem declaredAs_eq_none_of_map_declaredAs {images : List LoadedImage}
    {declared : List DeclaredImage} {others i : Nat} {image : LoadedImage}
    (hi : declared.length ≤ i) (himage : images[i]? = some image)
    (h : images.map LoadedImage.declaredAs =
      declared.map (fun d => some d.origin.label) ++ List.replicate others none) :
    image.declaredAs = none := by
  have hlabel : (images.map LoadedImage.declaredAs)[i]? = some image.declaredAs := by
    simp [himage]
  rw [h, List.getElem?_append_right (by simpa using hi)] at hlabel
  exact (List.mem_replicate.1 (List.mem_of_getElem? hlabel)).2

/-- The image that the text calls the i-th is the i-th picture sent, whichever files were found by
name. -/
theorem prepare_in_declared_order {r : GenerationRequest} {fs : FileSystem} {p : PreparedRun}
    (h : (r.prepare fs).result = .ok p) :
    ∃ n, normalize r.prompt = .ok n ∧
      InDeclaredOrder r.inputImages n.document p.request := by
  obtain ⟨n, images, hn, hload, rfl⟩ := GenerationRequest.prepare_eq_ok_iff.1 h
  obtain ⟨_, d, -, -, -, rfl⟩ := normalize_eq_ok_iff.1 hn
  obtain ⟨others, hlabels⟩ := LoadedImage.map_declaredAs_of_loadAll hload
  refine ⟨_, hn, ?_⟩
  constructor
  case one_per_file => exact LoadedImage.length_of_loadAll hload
  case labelled => exact fun _ _ hi => exists_label_of_map_declaredAs hi hlabels
  case unlabelled =>
    exact fun _ _ hi himage => declaredAs_eq_none_of_map_declaredAs hi himage hlabels
  case lines =>
    refine ⟨d.linesBefore, PromptDocument.referenceLines 1 d.declaredImages, d.linesBehind,
      d.lines_eq, PromptDocument.length_referenceLines _ _,
      fun _ => isReference_of_mem_referenceLines, ?_, ?_, ?_⟩
    · intro line hline
      rcases List.mem_append.1 hline with hline | hline
      · simpa using List.filter_eq_nil_iff.1 d.filter_linesBefore line hline
      · simpa using List.filter_eq_nil_iff.1 d.filter_linesBehind line hline
    · intro i declared hi
      change d.declaredImages[i]? = some declared at hi
      rw [PromptDocument.getElem?_referenceLines, hi, Nat.add_comm]
      rfl
    · have htext := PromptDocument.intercalate_middle "\n" (d.linesBefore.map PromptLine.text)
        ((PromptDocument.referenceLines 1 d.declaredImages).map PromptLine.text)
        (d.linesBehind.map PromptLine.text)
      rw [← List.map_append, ← List.map_append, ← d.lines_eq] at htext
      exact htext
  case sent => exact sent_picture _

/-! ## Two files, the declared one last -/

/-- A picture of six pixels, as far as a request reads it. -/
def tinyGif : Bytes := Bytes.ascii "GIF89a" ++ [2, 0, 3, 0, 0, 0, 0, 0x2c, 0]

def tinyPicture (path : String) : LoadedImage where
  path := path
  mediaType := "image/gif"
  size := ⟨2, 3⟩
  bytes := tinyGif

def twoPictures : FileSystem :=
  (FileSystem.empty.put ["work", "a.gif"] (.file tinyGif)).put ["work", "b.gif"] (.file tinyGif)

def declaresLastFile : GenerationRequest where
  prompt := .object [("input_image", .string "b.gif")]
  inputImages := ["a.gif", "b.gif"]
  outputDirectory := "out"
  model := "model"

theorem find_pictureA : twoPictures.find "a.gif" = .ok (["work", "a.gif"], .file tinyGif) :=
  FileSystem.find_file (by constructor <;> decide)
    (by simp [twoPictures, FileSystem.node?_put, FileSystem.node?_empty])
    (by simp [twoPictures, FileSystem.node?_put])

theorem find_pictureB : twoPictures.find "b.gif" = .ok (["work", "b.gif"], .file tinyGif) :=
  FileSystem.find_file (by constructor <;> decide)
    (by simp [twoPictures, FileSystem.node?_put, FileSystem.node?_empty])
    (by simp [twoPictures, FileSystem.node?_put])

theorem load_pictureB : LoadedImage.load twoPictures "b.gif" = .ok (tinyPicture "b.gif") := by
  unfold LoadedImage.load LoadedImage.read
  rw [FileSystem.read_of_find find_pictureB]
  rfl

theorem prepare_declaresLastFile_in_declared_order :
    ∃ p n, (declaresLastFile.prepare twoPictures).result = .ok p ∧
      normalize declaresLastFile.prompt = .ok n ∧
      InDeclaredOrder ["a.gif", "b.gif"] n.document p.request := by
  have hload_a : LoadedImage.load twoPictures "a.gif" = .ok (tinyPicture "a.gif") := by
    unfold LoadedImage.load LoadedImage.read
    rw [FileSystem.read_of_find find_pictureA]
    rfl
  have hnames_a : Binding.names twoPictures ⟨.inputImage, { path := "b.gif" }⟩ "a.gif" = false := by
    unfold Binding.names FileSystem.sameFile
    rw [show Text.trim "b.gif" = "b.gif" by decide, FileSystem.canonical?_of_find find_pictureA,
      FileSystem.canonical?_of_find find_pictureB]
    rfl
  have hnames_b : Binding.names twoPictures ⟨.inputImage, { path := "b.gif" }⟩ "b.gif" = true := by
    unfold Binding.names FileSystem.sameFile
    rfl
  have hassign : Assignment.assign (Binding.names twoPictures) ["a.gif", "b.gif"]
      [⟨.inputImage, { path := "b.gif" }⟩] = .ok [(⟨.inputImage, { path := "b.gif" }⟩, 1)] := by
    simp [Assignment.assign, Assignment.byName, Assignment.firstFree?, hnames_a, hnames_b,
      Assignment.positions, Assignment.byPosition, Except.map]
  have hbind : Binding.bind twoPictures [⟨.inputImage, { path := "b.gif" }⟩] ["a.gif", "b.gif"] =
      .ok [⟨1, some "input_image"⟩, ⟨0, none⟩] :=
    Binding.bindBy_eq_ok_iff.2 ⟨_, hassign, rfl⟩
  have hload := LoadedImage.loadAll_eq_ok_iff.2
    ⟨_, hbind, .cons (congrArg _ load_pictureB) (.cons (congrArg _ hload_a) .nil)⟩
  have hprepare := (GenerationRequest.prepare_eq_ok_iff (r := declaresLastFile)).2
    ⟨.ofDocument { inputImage := some { path := "b.gif" } }, _, rfl, hload, rfl⟩
  obtain ⟨n, hn, horder⟩ := prepare_in_declared_order hprepare
  exact ⟨_, n, hprepare, hn, horder⟩

end ImagePrompt
