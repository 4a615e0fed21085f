import ImagePrompt.Proofs.Picture.Counting
import ImagePrompt.Proofs.Run.Preparation
/-!
# What decides a preparation

A preparation fails on its prompt, else on the number of its files, else on the
first attached file that is no picture. Which kind of failure it is can be said
without the bindings, so neither the order of the files nor the paths of the
declarations have a part in it.
-/

namespace ImagePrompt

/-- The kind of the failure that a passage ends in. -/
def Passage.failureKind? {α : Type} (p : Passage α) : Option FailureKind :=
  match p.result with
  | .ok _ => none
  | .error f => some f.kind

namespace LoadedImage

variable {fs : FileSystem} {declared : List DeclaredImage} {supplied : List String}

def Loads (fs : FileSystem) (file : String) : Prop := ∃ image, load fs file = .ok image

theorem load_eq_error_iff {file : String} {f : Failure} :
    load fs file = .error f ↔
      ∃ e, read fs file = .error e ∧ .unreadableImage file e.message = f := by
  unfold load
  cases read fs file <;> simp [Except.mapError]

theorem ofBinding_loads_iff {b : Binding} :
    (∃ image, ofBinding fs supplied b = .ok image) ↔
      Loads fs (supplied.getD b.position "") := Success.exists_map_eq_ok

theorem exists_loadAll_iff_of_bind {bindings : List Binding}
    (hbind : Binding.bind fs declared supplied = .ok bindings) :
    (∃ images, loadAll fs declared supplied = .ok images) ↔ ∀ file ∈ supplied, Loads fs file := by
  have hloadAll : loadAll fs declared supplied = bindings.mapM (ofBinding fs supplied) := by
    unfold loadAll
    rw [hbind]
    rfl
  rw [hloadAll, Success.exists_mapM_iff, ← Binding.forall_bound_iff hbind]
  exact forall₂_congr fun _ _ => ofBinding_loads_iff

/-- All images are loaded exactly when there is a file for each declaration and each file holds a
picture, those that no declaration asks for as well. -/
theorem exists_loadAll_iff :
    (∃ images, loadAll fs declared supplied = .ok images) ↔
      declared.length ≤ supplied.length ∧ ∀ file ∈ supplied, Loads fs file := by
  rw [← Binding.exists_bindBy_iff (Binding.names fs)]
  constructor
  · rintro ⟨images, himages⟩
    obtain ⟨bindings, hbind, -⟩ := loadAll_eq_ok_iff.1 himages
    exact ⟨⟨bindings, hbind⟩, (exists_loadAll_iff_of_bind hbind).1 ⟨images, himages⟩⟩
  · rintro ⟨⟨bindings, hbind⟩, hall⟩
    exact (exists_loadAll_iff_of_bind hbind).2 hall

theorem loadAll_of_lt (fs : FileSystem) (h : supplied.length < declared.length) :
    ∃ d ∈ declared, loadAll fs declared supplied =
      .error (.missingFile d.image.path d.origin.label supplied.length) := by
  obtain ⟨d, hd, hbind⟩ := Binding.bindBy_of_lt (Binding.names fs) h
  refine ⟨d, hd, ?_⟩
  unfold loadAll Binding.bind
  rw [hbind]
  rfl

/-- With enough files, the failure is that of the first bound file that is no picture. -/
theorem loadAll_of_unreadable {f : Failure} (hle : declared.length ≤ supplied.length)
    (h : loadAll fs declared supplied = .error f) :
    ∃ before b behind e,
      Binding.bind fs declared supplied = .ok (before ++ b :: behind) ∧
      (∀ c ∈ before, Loads fs (supplied.getD c.position "")) ∧
      read fs (supplied.getD b.position "") = .error e ∧
      f = .unreadableImage (supplied.getD b.position "") e.message := by
  obtain ⟨bindings, hbind⟩ := (Binding.exists_bindBy_iff (Binding.names fs)).2 hle
  have hload : bindings.mapM (ofBinding fs supplied) = .error f := by
    unfold loadAll Binding.bind at h
    rwa [hbind] at h
  obtain ⟨before, b, behind, rfl, hbefore, hb⟩ := Success.mapM_eq_error.1 hload
  obtain ⟨e, hread, rfl⟩ := load_eq_error_iff.1 (Success.map_eq_error.1 hb)
  exact ⟨before, b, behind, e, hbind, fun c hc => ofBinding_loads_iff.1 (hbefore c hc), hread, rfl⟩

end LoadedImage

namespace GenerationRequest

open LoadedImage

variable {r : GenerationRequest} {fs : FileSystem} {n : NormalizedPrompt}

theorem loadImages_eq_error_iff {f : Failure} :
    (r.loadImages fs n).result = .error f ↔ loadAll fs n.images r.inputImages = .error f := by
  cases h : loadAll fs n.images r.inputImages with
  | ok loaded => simp [loadImages_of_ok h, Passage.ok]
  | error other =>
    rw [loadImages_of_error h]
    rfl

theorem prepare_of_refused {e : SchemaError} (h : normalize r.prompt = .error e) :
    r.prepare fs = .fail [.received] e.failure := by
  unfold prepare
  rw [h]

theorem prepare_result_of_normalized (h : normalize r.prompt = .ok n) :
    (r.prepare fs).result = (r.loadImages fs n).result.map (r.prepared n) := by
  unfold prepare
  rw [h]
  cases hload : (r.loadImages fs n).result with
  | ok images => simp [Passage.andThen, Passage.ok, hload, Except.map]
  | error f => simp [Passage.andThen, Passage.ok, hload, Except.map]

theorem prepare_eq_error_iff (h : normalize r.prompt = .ok n) {f : Failure} :
    (r.prepare fs).result = .error f ↔ loadAll fs n.images r.inputImages = .error f := by
  rw [prepare_result_of_normalized h, Success.map_eq_error, loadImages_eq_error_iff]

theorem exists_prepare_iff :
    (∃ p, (r.prepare fs).result = .ok p) ↔
      ∃ n, normalize r.prompt = .ok n ∧ n.images.length ≤ r.inputImages.length ∧
        ∀ file ∈ r.inputImages, Loads fs file := by
  simp only [prepare_eq_ok_iff]
  constructor
  · rintro ⟨_, n, images, hn, hload, -⟩
    exact ⟨n, hn, exists_loadAll_iff.1 ⟨images, hload⟩⟩
  · rintro ⟨n, hn, henough⟩
    obtain ⟨images, hload⟩ := exists_loadAll_iff.2 henough
    exact ⟨_, n, images, hn, hload, rfl⟩

/-! ## The kind of the failure -/

/-- How many images the prompt declares, if it is accepted. -/
def declaredCount? (r : GenerationRequest) : Option Nat :=
  match normalize r.prompt with
  | .ok n => some n.images.length
  | .error _ => none

theorem failureKind?_of_refused {e : SchemaError} (h : normalize r.prompt = .error e) :
    (r.prepare fs).failureKind? = some .schema := by
  rw [prepare_of_refused h]
  rfl

theorem failureKind?_of_lt (h : normalize r.prompt = .ok n)
    (hlt : r.inputImages.length < n.images.length) :
    (r.prepare fs).failureKind? = some .missingFile := by
  obtain ⟨d, -, hload⟩ := loadAll_of_lt fs hlt
  unfold Passage.failureKind?
  rw [(prepare_eq_error_iff h).2 hload]
  rfl

theorem failureKind?_of_unreadable (h : normalize r.prompt = .ok n)
    (hle : n.images.length ≤ r.inputImages.length)
    (hbad : ∃ file ∈ r.inputImages, ¬ Loads fs file) :
    (r.prepare fs).failureKind? = some .unreadableImage := by
  obtain ⟨file, hfile, hnot⟩ := hbad
  cases hload : loadAll fs n.images r.inputImages with
  | ok images => exact absurd ((exists_loadAll_iff.1 ⟨images, hload⟩).2 file hfile) hnot
  | error f =>
    obtain ⟨_, b, _, e, -, -, -, rfl⟩ := loadAll_of_unreadable hle hload
    unfold Passage.failureKind?
    rw [(prepare_eq_error_iff h).2 hload]
    rfl

theorem failureKind?_of_loads (h : normalize r.prompt = .ok n)
    (hle : n.images.length ≤ r.inputImages.length) (hall : ∀ file ∈ r.inputImages, Loads fs file) :
    (r.prepare fs).failureKind? = none := by
  obtain ⟨p, hp⟩ := exists_prepare_iff.2 ⟨n, h, hle, hall⟩
  unfold Passage.failureKind?
  rw [hp]

/-- Requests that declare equally many images, over files that hold pictures alike, fail alike. -/
theorem failureKind?_congr {r' : GenerationRequest} {fs' : FileSystem}
    (hcount : r.declaredCount? = r'.declaredCount?)
    (hfiles : r.inputImages.Perm r'.inputImages)
    (hloads : ∀ file ∈ r.inputImages, Loads fs file ↔ Loads fs' file) :
    (r.prepare fs).failureKind? = (r'.prepare fs').failureKind? := by
  unfold declaredCount? at hcount
  cases hn : normalize r.prompt with
  | error e =>
    cases hn' : normalize r'.prompt with
    | ok n' => simp [hn, hn'] at hcount
    | error e' => rw [failureKind?_of_refused hn, failureKind?_of_refused hn']
  | ok n =>
    cases hn' : normalize r'.prompt with
    | error e' => simp [hn, hn'] at hcount
    | ok n' =>
      have hdeclared : n.images.length = n'.images.length := by simpa [hn, hn'] using hcount
      have hlength := hfiles.length_eq
      by_cases hlt : r.inputImages.length < n.images.length
      · rw [failureKind?_of_lt hn hlt, failureKind?_of_lt hn' (by omega)]
      have hle : n.images.length ≤ r.inputImages.length := Nat.not_lt.1 hlt
      by_cases hall : ∀ file ∈ r.inputImages, Loads fs file
      · have hall' : ∀ file ∈ r'.inputImages, Loads fs' file := fun file hfile =>
          have hmem := hfiles.mem_iff.2 hfile
          (hloads file hmem).1 (hall file hmem)
        rw [failureKind?_of_loads hn hle hall, failureKind?_of_loads hn' (by omega) hall']
      · push Not at hall
        obtain ⟨file, hfile, hnot⟩ := hall
        have hbad' : ∃ file ∈ r'.inputImages, ¬ Loads fs' file :=
          ⟨file, hfiles.mem_iff.1 hfile, fun h => hnot ((hloads file hfile).2 h)⟩
        rw [failureKind?_of_unreadable hn hle ⟨file, hfile, hnot⟩,
          failureKind?_of_unreadable hn' (by omega) hbad']

end GenerationRequest

/-- When a preparation succeeds, which failure it ends in otherwise, and what it does not depend
on. -/
structure PreparationDecided (r : GenerationRequest) (fs : FileSystem) : Prop where
  succeeds_iff : (∃ p, (r.prepare fs).result = .ok p) ↔
    ∃ n, normalize r.prompt = .ok n ∧ n.images.length ≤ r.inputImages.length ∧
      ∀ file ∈ r.inputImages, LoadedImage.Loads fs file
  refused : ∀ e, normalize r.prompt = .error e →
    (r.prepare fs).result = .error (.schema e.message)
  missing : ∀ n, normalize r.prompt = .ok n → r.inputImages.length < n.images.length →
    ∃ d ∈ n.images, (r.prepare fs).result =
      .error (.missingFile d.image.path d.origin.label r.inputImages.length)
  unreadable : ∀ n, normalize r.prompt = .ok n → n.images.length ≤ r.inputImages.length →
    (∃ file ∈ r.inputImages, ¬ LoadedImage.Loads fs file) →
    ∃ before b behind e,
      Binding.bind fs n.images r.inputImages = .ok (before ++ b :: behind) ∧
      (∀ c ∈ before, LoadedImage.Loads fs (r.inputImages.getD c.position "")) ∧
      LoadedImage.read fs (r.inputImages.getD b.position "") = .error e ∧
      (r.prepare fs).result =
        .error (.unreadableImage (r.inputImages.getD b.position "") e.message)
  /-- The kind of the failure, or that there is none, goes by the number of declarations and by
  which files hold pictures: not by the order of the files, nor by what the declarations name. -/
  alike : ∀ (r' : GenerationRequest) (fs' : FileSystem),
    r.declaredCount? = r'.declaredCount? → r.inputImages.Perm r'.inputImages →
    (∀ file ∈ r.inputImages, LoadedImage.Loads fs file ↔ LoadedImage.Loads fs' file) →
    (r.prepare fs).failureKind? = (r'.prepare fs').failureKind?

/-- The prompt decides first, then the number of the files, then the files as they are attached. -/
theorem prepare_decided (r : GenerationRequest) (fs : FileSystem) : PreparationDecided r fs := by
  constructor
  case succeeds_iff => exact GenerationRequest.exists_prepare_iff
  case refused =>
    intro e he
    rw [GenerationRequest.prepare_of_refused he]
    rfl
  case missing =>
    intro n hn hlt
    obtain ⟨d, hd, hload⟩ := LoadedImage.loadAll_of_lt fs hlt
    exact ⟨d, hd, (GenerationRequest.prepare_eq_error_iff hn).2 hload⟩
  case unreadable =>
    rintro n hn hle ⟨file, hfile, hnot⟩
    cases hload : LoadedImage.loadAll fs n.images r.inputImages with
    | ok images =>
      exact absurd ((LoadedImage.exists_loadAll_iff.1 ⟨images, hload⟩).2 file hfile) hnot
    | error f =>
      obtain ⟨before, b, behind, e, hbind, hbefore, hread, rfl⟩ :=
        LoadedImage.loadAll_of_unreadable hle hload
      exact ⟨before, b, behind, e, hbind, hbefore, hread,
        (GenerationRequest.prepare_eq_error_iff hn).2 hload⟩
  case alike => exact fun _ _ => GenerationRequest.failureKind?_congr

end ImagePrompt
