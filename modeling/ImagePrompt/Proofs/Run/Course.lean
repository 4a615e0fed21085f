import ImagePrompt.Proofs.Output.Alone
import ImagePrompt.Proofs.Run.Verdict
import ImagePrompt.Run.Basic
/-!
# Courses of a run

The five courses that a run can take, each with the stages that it enters, its
result, and what it does to the provider and to the files.
-/

namespace ImagePrompt

/-- The stages of a preparation that succeeds, with or without images. -/
def Stage.opening (loaded : Bool) : List Stage :=
  [.received, .normalized] ++ if loaded then [.imagesLoaded] else []

namespace GenerationRequest

variable {r : GenerationRequest} {fs : FileSystem} {n : NormalizedPrompt}

/-- The prompt declares an image, or a file is supplied. -/
def UsesImages (r : GenerationRequest) : Prop :=
  ∃ n, normalize r.prompt = .ok n ∧ (n.images ≠ [] ∨ r.inputImages ≠ [])

theorem hasImages_iff (h : normalize r.prompt = .ok n) : r.hasImages n = true ↔ r.UsesImages := by
  unfold hasImages UsesImages
  simp [h]

theorem kind_of_loadAll {declared : List DeclaredImage} {supplied : List String} {f : Failure}
    (h : LoadedImage.loadAll fs declared supplied = .error f) :
    f.kind = .missingFile ∨ f.kind = .unreadableImage := by
  by_cases hlt : supplied.length < declared.length
  · obtain ⟨d, -, hload⟩ := LoadedImage.loadAll_of_lt fs hlt
    rw [h] at hload
    obtain rfl := Except.error.inj hload
    exact .inl rfl
  · obtain ⟨_, b, _, e, -, -, -, rfl⟩ := LoadedImage.loadAll_of_unreadable (Nat.not_lt.1 hlt) h
    exact .inr rfl

theorem prepare_of_loaded {images : List LoadedImage} (hn : normalize r.prompt = .ok n)
    (hload : LoadedImage.loadAll fs n.images r.inputImages = .ok images) :
    r.prepare fs = .ok (Stage.opening (r.hasImages n)) (r.prepared n images) := by
  unfold prepare
  simp [hn, loadImages_of_ok hload, Passage.andThen, Passage.ok, Stage.opening]

theorem prepare_of_unloaded {f : Failure} (hn : normalize r.prompt = .ok n)
    (hload : LoadedImage.loadAll fs n.images r.inputImages = .error f) :
    r.prepare fs = .fail [.received, .normalized] f := by
  unfold prepare
  simp [hn, loadImages_of_error hload, Passage.andThen, Passage.ok, Passage.fail]

end GenerationRequest

/-- The world that a run leaves, its stages and its result, for each course that it can take. -/
inductive Course {σ : Type} (p : Provider σ) (r : GenerationRequest) (found : World σ) :
    World σ × Passage RunOutcome → Prop
  | refused {f : Failure} (hprepare : (r.prepare found.files).result = .error f)
      (hkind : f.kind = .schema) :
      Course p r found (found, ⟨[.received, .failed .schema], .error f⟩)
  | unloaded {f : Failure} (hprepare : (r.prepare found.files).result = .error f)
      (hkind : f.kind = .missingFile ∨ f.kind = .unreadableImage) :
      Course p r found (found, ⟨[.received, .normalized, .failed f.kind], .error f⟩)
  | unanswered {prepared : PreparedRun} {loaded : Bool} {f : Failure} {state : σ}
      (hprepare : (r.prepare found.files).result = .ok prepared)
      (hloaded : loaded = true ↔ r.UsesImages)
      (hanswer : p.generate prepared.request found.state = (.error f, state)) :
      Course p r found ({ found with state }, ⟨Stage.opening loaded ++ [.failed f.kind], .error f⟩)
  | unwritten {prepared : PreparedRun} {loaded : Bool} {picture : GeneratedPicture} {f : Failure}
      {state : σ} {files : FileSystem} (hprepare : (r.prepare found.files).result = .ok prepared)
      (hloaded : loaded = true ↔ r.UsesImages)
      (hanswer : p.generate prepared.request found.state = (.ok picture, state))
      (hfiles : found.files.GainsDirectories files) (hkind : f.kind = .write) :
      Course p r found
        (⟨state, files⟩, ⟨Stage.opening loaded ++ [.dispatched, .failed .write], .error f⟩)
  | written {prepared : PreparedRun} {loaded : Bool} {picture : GeneratedPicture} {path : String}
      {place : Location} {state : σ} {files : FileSystem}
      (hprepare : (r.prepare found.files).result = .ok prepared)
      (hloaded : loaded = true ↔ r.UsesImages)
      (hanswer : p.generate prepared.request found.state = (.ok picture, state))
      (hfiles : found.files.GainsFile files place picture.bytes)
      (hplace : files.place? path = some place) :
      Course p r found (⟨state, files⟩,
        ⟨Stage.opening loaded ++ [.dispatched, .writtenToDisk, .done],
          .ok (prepared.outcome picture path)⟩)

section Run

variable {σ : Type} {p : Provider σ} {r : GenerationRequest} {m : Moment} {found : World σ}

namespace PreparedRun

variable {r : PreparedRun} {picture : GeneratedPicture} {fs files : FileSystem}

theorem writePicture_of_ok {path : String}
    (h : OutputWriter.write (r.outputName m picture) picture.bytes m.fault fs =
      (files, .ok path)) :
    r.writePicture m picture fs =
      (files, .ok [.dispatched, .writtenToDisk, .done] (r.outcome picture path)) := by
  unfold writePicture
  rw [h]

theorem writePicture_of_error {f : Failure}
    (h : OutputWriter.write (r.outputName m picture) picture.bytes m.fault fs =
      (files, .error f)) :
    r.writePicture m picture fs = (files, .fail [.dispatched] f) := by
  unfold writePicture
  rw [h]

theorem execute_of_error {f : Failure} {state : σ}
    (h : p.generate r.request found.state = (.error f, state)) :
    r.execute p m found = ({ found with state }, .fail [] f) := by
  unfold execute
  rw [h]

theorem execute_of_ok {state : σ} (h : p.generate r.request found.state = (.ok picture, state)) :
    r.execute p m found =
      (⟨state, (r.writePicture m picture found.files).1⟩,
        (r.writePicture m picture found.files).2) := by
  unfold execute
  rw [h]

end PreparedRun

theorem GenerationRequest.run_of_error {stages : List Stage} {f : Failure}
    (h : r.prepare found.files = ⟨stages, .error f⟩) :
    r.run p m found = (found, ⟨stages, .error f⟩) := by
  unfold run
  rw [h]

theorem GenerationRequest.run_of_ok {stages : List Stage} {prepared : PreparedRun}
    (h : r.prepare found.files = ⟨stages, .ok prepared⟩) :
    r.run p m found =
      ((prepared.execute p m found).1,
        ⟨stages ++ (prepared.execute p m found).2.stages,
          (prepared.execute p m found).2.result⟩) := by
  unfold run
  rw [h]

/-- A run takes one of the courses. -/
theorem run_course (p : Provider σ) (r : GenerationRequest) (m : Moment) (found : World σ) :
    Course p r found (r.run p m found) := by
  cases hn : normalize r.prompt with
  | error e =>
    have hprepare : r.prepare found.files = _ := GenerationRequest.prepare_of_refused hn
    rw [GenerationRequest.run_of_error hprepare]
    exact .refused (congrArg Passage.result hprepare) rfl
  | ok n =>
    cases hload : LoadedImage.loadAll found.files n.images r.inputImages with
    | error f =>
      have hprepare := GenerationRequest.prepare_of_unloaded hn hload
      rw [GenerationRequest.run_of_error hprepare]
      exact .unloaded (congrArg Passage.result hprepare) (GenerationRequest.kind_of_loadAll hload)
    | ok images =>
      have hprepare := GenerationRequest.prepare_of_loaded hn hload
      have hsucceeded := congrArg Passage.result hprepare
      have hloaded := GenerationRequest.hasImages_iff hn
      rw [GenerationRequest.run_of_ok hprepare]
      match hanswer : p.generate (r.prepared n images).request found.state with
      | (.error f, state) =>
        rw [PreparedRun.execute_of_error hanswer]
        exact .unanswered hsucceeded hloaded hanswer
      | (.ok picture, state) =>
        rw [PreparedRun.execute_of_ok hanswer]
        match hwritten : OutputWriter.write ((r.prepared n images).outputName m picture)
            picture.bytes m.fault found.files with
        | (files, .error f) =>
          obtain ⟨hkind, hfiles⟩ := OutputWriter.write_of_error (congrArg Prod.snd hwritten)
          rw [hwritten] at hfiles
          rw [PreparedRun.writePicture_of_error hwritten]
          have hcourse := Course.unwritten hsucceeded hloaded hanswer hfiles hkind
          rwa [← hkind] at hcourse
        | (files, .ok path) =>
          obtain ⟨place, hfiles, hplace⟩ := OutputWriter.write_of_ok (congrArg Prod.snd hwritten)
          rw [hwritten] at hfiles hplace
          rw [PreparedRun.writePicture_of_ok hwritten]
          exact .written hsucceeded hloaded hanswer hfiles hplace

end Run

end ImagePrompt
