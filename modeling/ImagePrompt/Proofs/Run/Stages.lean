import ImagePrompt.Proofs.Run.Course
/-!
# Stages of the runs of a pipeline

The stages of a pipeline are words, one for each call, and a word says how its
call came out: whether it got past the preparation, whether the provider gave a
picture, and whether the picture is in a new file.
-/

namespace ImagePrompt

variable {σ : Type}

/-- A call of a pipeline, and what happens to the world before it. -/
structure Call (σ : Type) where
  request : GenerationRequest
  moment : Moment
  meanwhile : World σ → World σ

/-- A call that has been made: what it found, what it left, and its result. -/
structure Turn (σ : Type) where
  request : GenerationRequest
  moment : Moment
  found : World σ
  left : World σ
  result : Except Failure RunOutcome

namespace Pipeline

def call (p : Pipeline σ) (w : World σ) (c : Call σ) : Pipeline σ × Turn σ :=
  let found := c.meanwhile w
  let (p, left, result) := p.run c.request c.moment found
  (p, { request := c.request, moment := c.moment, found, left, result })

def calls (p : Pipeline σ) (w : World σ) : List (Call σ) → Pipeline σ × List (Turn σ)
  | [] => (p, [])
  | c :: rest =>
    let (p, turn) := p.call w c
    let (p, turns) := p.calls turn.left rest
    (p, turn :: turns)

end Pipeline

/-- A provider that keeps a list of what it is asked for. -/
def Provider.logged (p : Provider σ) : Provider (σ × List PictureRequest) where
  name := p.name
  generate request state :=
    ((p.generate request state.1).1, (p.generate request state.1).2, state.2 ++ [request])

namespace Turn

/-- What the provider says, if the preparation succeeds. -/
def answer? (t : Turn σ) (p : Provider σ) : Option (Except Failure GeneratedPicture) :=
  match (t.request.prepare t.found.files).result with
  | .ok prepared => some (p.generate prepared.request t.found.state).1
  | .error _ => none

/-- What the provider is asked for: one picture if the preparation succeeds, and none if not. -/
def asked (t : Turn σ) : List PictureRequest :=
  match (t.request.prepare t.found.files).result with
  | .ok prepared => [prepared.request]
  | .error _ => []

/-- The call has left a new file at a location. -/
def Leaves (t : Turn σ) (l : Location) : Prop := t.found.files.NewFile t.left.files l

end Turn

/-- The words that a call can enter, by what the provider answered if it was asked. -/
inductive Legal : Option (Except Failure GeneratedPicture) → List Stage → Prop
  | refused : Legal none [.received, .failed .schema]
  | unloaded {kind : FailureKind} (hkind : kind = .missingFile ∨ kind = .unreadableImage) :
      Legal none [.received, .normalized, .failed kind]
  | unanswered {f : Failure} (loaded : Bool) :
      Legal (some (.error f)) (Stage.opening loaded ++ [.failed f.kind])
  | unwritten {picture : GeneratedPicture} (loaded : Bool) :
      Legal (some (.ok picture)) (Stage.opening loaded ++ [.dispatched, .failed .write])
  | written {picture : GeneratedPicture} (loaded : Bool) :
      Legal (some (.ok picture)) (Stage.opening loaded ++ [.dispatched, .writtenToDisk, .done])

/-- A word accounts for a call. -/
structure Accounted (p : Provider σ) (t : Turn σ) (word : List Stage) : Prop where
  legal : Legal (t.answer? p) word
  loaded_iff : t.answer? p ≠ none → (.imagesLoaded ∈ word ↔ t.request.UsesImages)
  done_iff : word.getLast? = some .done ↔ ∃ outcome, t.result = .ok outcome
  failed_iff : ∀ kind, word.getLast? = some (.failed kind) ↔
    ∃ f, t.result = .error f ∧ f.kind = kind
  asked : ∀ log, t.request.run p.logged t.moment ⟨(t.found.state, log), t.found.files⟩ =
    (⟨(t.left.state, log ++ t.asked), t.left.files⟩, ⟨word, t.result⟩)
  leaves_iff : (∃ l, t.Leaves l) ↔ word.getLast? = some .done
  written : ∀ outcome, t.result = .ok outcome →
    ∃ picture place, t.answer? p = some (.ok picture) ∧ (∀ l, t.Leaves l ↔ l = place) ∧
      t.left.files.node? place = some (.file picture.bytes) ∧
      t.left.files.read outcome.imagePath = .ok picture.bytes

section Run

variable {p : Provider σ} {r : GenerationRequest} {m : Moment} {found : World σ}
  {out : World σ × Passage RunOutcome}

/-- A call, by what its run comes to. -/
def Turn.of (r : GenerationRequest) (m : Moment) (found : World σ)
    (out : World σ × Passage RunOutcome) : Turn σ where
  request := r
  moment := m
  found := found
  left := out.1
  result := out.2.result

theorem Turn.answer?_of_error {f : Failure} (h : (r.prepare found.files).result = .error f) :
    (Turn.of r m found out).answer? p = none := by
  simp [answer?, Turn.of, h]

theorem Turn.answer?_of_ok {prepared : PreparedRun} {answer : Except Failure GeneratedPicture}
    {state : σ} (h : (r.prepare found.files).result = .ok prepared)
    (hanswer : p.generate prepared.request found.state = (answer, state)) :
    (Turn.of r m found out).answer? p = some answer := by
  simp [answer?, Turn.of, h, hanswer]

theorem Course.legal (h : Course p r found out) :
    Legal ((Turn.of r m found out).answer? p) out.2.stages := by
  cases h with
  | refused hprepare _ =>
    rw [Turn.answer?_of_error hprepare]
    exact .refused
  | unloaded hprepare hkind =>
    rw [Turn.answer?_of_error hprepare]
    exact .unloaded hkind
  | unanswered hprepare _ hanswer =>
    rw [Turn.answer?_of_ok hprepare hanswer]
    exact .unanswered _
  | unwritten hprepare _ hanswer _ _ =>
    rw [Turn.answer?_of_ok hprepare hanswer]
    exact .unwritten _
  | written hprepare _ hanswer _ _ =>
    rw [Turn.answer?_of_ok hprepare hanswer]
    exact .written _

theorem imagesLoaded_mem_opening {loaded : Bool} {rest : List Stage} (h : .imagesLoaded ∉ rest) :
    Stage.imagesLoaded ∈ Stage.opening loaded ++ rest ↔ loaded = true := by
  cases loaded <;> simp [Stage.opening, h]

theorem Course.loaded_iff (h : Course p r found out)
    (hanswer : (Turn.of r m found out).answer? p ≠ none) :
    .imagesLoaded ∈ out.2.stages ↔ r.UsesImages := by
  cases h with
  | refused hprepare _ => exact absurd (Turn.answer?_of_error hprepare) hanswer
  | unloaded hprepare _ => exact absurd (Turn.answer?_of_error hprepare) hanswer
  | unanswered _ hloaded _ => exact (imagesLoaded_mem_opening (by simp)).trans hloaded
  | unwritten _ hloaded _ _ _ => exact (imagesLoaded_mem_opening (by simp)).trans hloaded
  | written _ hloaded _ _ _ => exact (imagesLoaded_mem_opening (by simp)).trans hloaded

theorem Course.done_iff (h : Course p r found out) :
    out.2.stages.getLast? = some .done ↔ ∃ outcome, out.2.result = .ok outcome := by
  cases h <;> simp

theorem Course.failed_iff (h : Course p r found out) (kind : FailureKind) :
    out.2.stages.getLast? = some (.failed kind) ↔
      ∃ f, out.2.result = .error f ∧ f.kind = kind := by
  cases h <;> simp_all

theorem Course.leaves_iff (h : Course p r found out) :
    (∃ l, (Turn.of r m found out).Leaves l) ↔ out.2.stages.getLast? = some .done := by
  unfold Turn.Leaves Turn.of
  cases h with
  | refused | unloaded | unanswered => simp [FileSystem.not_newFile_self]
  | unwritten _ _ _ hfiles _ => simp [hfiles.not_newFile]
  | written _ _ _ hfiles _ => simp [hfiles.newFile_iff]

theorem Course.written_file (h : Course p r found out) {outcome : RunOutcome}
    (hresult : out.2.result = .ok outcome) :
    ∃ picture place, (Turn.of r m found out).answer? p = some (.ok picture) ∧
      (∀ l, (Turn.of r m found out).Leaves l ↔ l = place) ∧
      out.1.files.node? place = some (.file picture.bytes) ∧
      out.1.files.read outcome.imagePath = .ok picture.bytes := by
  cases h with
  | refused | unloaded | unanswered | unwritten => cases hresult
  | written hprepare _ hanswer hfiles hplace =>
    obtain rfl := Except.ok.inj hresult
    exact ⟨_, _, Turn.answer?_of_ok hprepare hanswer, fun _ => hfiles.newFile_iff, hfiles.file,
      FileSystem.read_of_place? hplace hfiles.file⟩

theorem PreparedRun.execute_logged (prepared : PreparedRun) (p : Provider σ) (m : Moment)
    (found : World σ) (log : List PictureRequest) :
    prepared.execute p.logged m ⟨(found.state, log), found.files⟩ =
      (⟨((prepared.execute p m found).1.state, log ++ [prepared.request]),
        (prepared.execute p m found).1.files⟩, (prepared.execute p m found).2) := by
  match hanswer : p.generate prepared.request found.state with
  | (.error f, state) =>
    have hlogged : p.logged.generate prepared.request (found.state, log) =
        (.error f, state, log ++ [prepared.request]) := by simp [Provider.logged, hanswer]
    rw [PreparedRun.execute_of_error hanswer, PreparedRun.execute_of_error hlogged]
  | (.ok picture, state) =>
    have hlogged : p.logged.generate prepared.request (found.state, log) =
        (.ok picture, state, log ++ [prepared.request]) := by simp [Provider.logged, hanswer]
    rw [PreparedRun.execute_of_ok hanswer, PreparedRun.execute_of_ok hlogged]

/-- To keep a list of what a provider is asked for changes nothing else of a run. -/
theorem GenerationRequest.run_logged (p : Provider σ) (r : GenerationRequest) (m : Moment)
    (found : World σ) (log : List PictureRequest) :
    r.run p.logged m ⟨(found.state, log), found.files⟩ =
      (⟨((r.run p m found).1.state, log ++ (Turn.of r m found (r.run p m found)).asked),
        (r.run p m found).1.files⟩, (r.run p m found).2) := by
  unfold Turn.asked Turn.of
  match hprepare : r.prepare found.files with
  | ⟨stages, .error f⟩ =>
    have hlogged : r.run p.logged m ⟨(found.state, log), found.files⟩ = _ := run_of_error hprepare
    rw [hlogged, run_of_error hprepare]
    simp
  | ⟨stages, .ok prepared⟩ =>
    have hlogged : r.run p.logged m ⟨(found.state, log), found.files⟩ = _ := run_of_ok hprepare
    rw [hlogged, run_of_ok hprepare, PreparedRun.execute_logged]

/-- The stages of a run account for it. -/
theorem run_accounted (p : Provider σ) (r : GenerationRequest) (m : Moment) (found : World σ) :
    Accounted p (Turn.of r m found (r.run p m found)) (r.run p m found).2.stages := by
  have hcourse := run_course p r m found
  constructor
  case legal => exact hcourse.legal
  case loaded_iff => exact hcourse.loaded_iff
  case done_iff => exact hcourse.done_iff
  case failed_iff => exact hcourse.failed_iff
  case asked => exact r.run_logged p m found
  case leaves_iff => exact hcourse.leaves_iff
  case written => exact fun _ => hcourse.written_file

end Run

namespace Pipeline

variable {p : Pipeline σ} {w : World σ} {c : Call σ}

theorem call_accounted (p : Pipeline σ) (w : World σ) (c : Call σ) :
    ∃ word, Accounted p.provider (p.call w c).2 word ∧ (p.call w c).1.provider = p.provider ∧
      (p.call w c).1.stages = p.stages ++ word :=
  ⟨_, run_accounted p.provider c.request c.moment (c.meanwhile w), rfl, rfl⟩

/-- The stages of a pipeline are one word behind the other, each of which accounts for its call,
and no call changes the words before its own. -/
theorem calls_accounted (p : Pipeline σ) (w : World σ) (calls : List (Call σ)) :
    ∃ words, List.Forall₂ (Accounted p.provider) (p.calls w calls).2 words ∧
      ∀ k, (p.calls w (calls.take k)).1.stages = p.stages ++ (words.take k).flatten := by
  induction calls generalizing p w with
  | nil => exact ⟨[], .nil, by simp [Pipeline.calls]⟩
  | cons c rest ih =>
    obtain ⟨word, hword, hprovider, hstages⟩ := call_accounted p w c
    -- What follows are the calls of a pipeline that has the first word already.
    obtain ⟨words, hwords, hrest⟩ := ih (p.call w c).1 (p.call w c).2.left
    rw [hprovider] at hwords
    refine ⟨word :: words, .cons hword hwords, fun k => ?_⟩
    cases k with
    | zero => simp [Pipeline.calls]
    | succ k =>
      calc (p.calls w ((c :: rest).take (k + 1))).1.stages
        _ = ((p.call w c).1.calls (p.call w c).2.left (rest.take k)).1.stages := rfl
        _ = p.stages ++ word ++ (words.take k).flatten := by rw [hrest, hstages]
        _ = p.stages ++ ((word :: words).take (k + 1)).flatten := by simp

end Pipeline

end ImagePrompt
