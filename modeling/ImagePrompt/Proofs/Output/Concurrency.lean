import Mathlib.Logic.Function.Basic
import ImagePrompt.Proofs.Output.Step
/-!
# Writers among others

Writers that work on the same files, their moves in any order. Each file that a
writer has created is its own until the writer removes it: no other writer
fills it, removes it or takes its path.
-/

namespace ImagePrompt

/-- A move of a writer. Only to create a file is one move: directories may be made one by one, and
bytes may arrive in parts. Whatever does not fill a file may be refused by the system. -/
inductive WriterMove where
  | whole (fault : Option WriteFault)
  | directory (path : String)
  | part (length : Nat)
  | refusal (path reason : String)
  deriving DecidableEq, Repr

/-- What a move does to the files, and the phase that the writer comes to. A move that its phase has
no use for changes nothing. -/
def OutputWriter.move (w : OutputWriter) (fs : FileSystem) : WriterMove → FileSystem × WriterPhase
  | .whole fault => w.advance fault fs
  | .directory path =>
    match w.phase, fs.makeDirectory path with
    | .preparing, .ok fs' => (fs', .preparing)
    | phase, _ => (fs, phase)
  | .part length =>
    match w.phase with
    | .holding path place => (fs.put place (.file (w.bytes.take length)), .holding path place)
    | phase => (fs, phase)
  | .refusal path reason =>
    match w.phase with
    | .preparing | .probing _ | .discarding .. => (fs, .finished (.error (.write path reason)))
    | phase => (fs, phase)

/-- A move has the effect of a step, or it is refused: then its writer, if it holds nothing or
would remove what it holds, gives up and leaves the files alone. -/
theorem OutputWriter.move_effect (w : OutputWriter) (fs : FileSystem) (m : WriterMove) :
    w.Effect fs (w.move fs m).1 (w.move fs m).2 ∨
      ∃ path reason, m = .refusal path reason ∧
        w.move fs m = (fs, .finished (.error (.write path reason))) ∧
        (w.phase.path? = none ∨ ∃ held why, w.phase = .discarding held why) := by
  have hrests : w.Effect fs fs w.phase := .rests
  cases m with
  | whole fault => exact .inl (w.advance_effect fault fs)
  | directory path =>
    cases hphase : w.phase with
    | preparing =>
      have hbefore : w.phase.path? = none := by rw [hphase]; rfl
      cases hmade : fs.makeDirectory path with
      | error e =>
        simp only [move, hphase, hmade]
        exact .inl (hphase ▸ hrests)
      | ok fs' =>
        simp only [move, hphase, hmade]
        exact .inl (.searches hbefore (.of_makeDirectory hmade) rfl (by simp [WriterPhase.result?]))
    | _ =>
      simp only [move, hphase]
      exact .inl (hphase ▸ hrests)
  | part length =>
    cases hphase : w.phase with
    | holding path place =>
      simp only [move, hphase]
      refine .inl (.fills hphase rfl ?_ (by simp [WriterPhase.result?]))
      rintro _ _ ⟨⟩
      rfl
    | _ =>
      simp only [move, hphase]
      exact .inl (hphase ▸ hrests)
  | refusal path reason =>
    cases hphase : w.phase with
    | preparing | probing _ =>
      simp only [move, hphase]
      exact .inr ⟨path, reason, rfl, rfl, .inl rfl⟩
    | discarding held why =>
      simp only [move, hphase]
      exact .inr ⟨path, reason, rfl, rfl, .inr ⟨held, why, rfl⟩⟩
    | holding _ _ | finished _ =>
      simp only [move, hphase]
      exact .inl (hphase ▸ hrests)

/-- A move that has been made: whose it was, and the files before and after it. -/
structure Deed (ι : Type) where
  writer : ι
  before : FileSystem
  after : FileSystem

/-- A file stands where nothing stood before. -/
def Deed.creates {ι : Type} (d : Deed ι) (l : Location) : Bool :=
  match d.before.node? l, d.after.node? l with
  | none, some (.file _) => true
  | _, _ => false

/-- Whose the last file is that was created at a location, the latest deeds first. -/
def creator? {ι : Type} (deeds : List (Deed ι)) (l : Location) : Option ι :=
  (deeds.find? (·.creates l)).map Deed.writer

/-- Writers, the files that they work on, and what they have done so far, the latest first. -/
structure Workshop (ι : Type) where
  files : FileSystem
  writers : ι → OutputWriter
  deeds : List (Deed ι) := []

namespace Workshop

variable {ι : Type} [DecidableEq ι]

def opened (start : FileSystem) (names : ι → OutputName) (bytes : ι → Bytes) : Workshop ι where
  files := start
  writers i := { name := names i, bytes := bytes i }

def record (s : Workshop ι) (i : ι) (files : FileSystem) (phase : WriterPhase) : Workshop ι where
  files := files
  writers := Function.update s.writers i { s.writers i with phase }
  deeds := ⟨i, s.files, files⟩ :: s.deeds

def step (s : Workshop ι) (i : ι) (m : WriterMove) : Workshop ι :=
  s.record i ((s.writers i).move s.files m).1 ((s.writers i).move s.files m).2

def run (s : Workshop ι) : List (ι × WriterMove) → Workshop ι
  | [] => s
  | (i, m) :: rest => (s.step i m).run rest

end Workshop

/-! ## Whose a file is -/

section Creator

variable {ι : Type} {d : Deed ι} {deeds : List (Deed ι)} {l : Location} {node : Node}

theorem creator?_cons_of_some (h : d.before.node? l = some node) :
    creator? (d :: deeds) l = creator? deeds l := by
  have hnot : d.creates l = false := by simp [Deed.creates, h]
  simp [creator?, hnot]

theorem creator?_cons_of_creates {bytes : Bytes} (hbefore : d.before.node? l = none)
    (hafter : d.after.node? l = some (.file bytes)) :
    creator? (d :: deeds) l = some d.writer := by
  have hcreates : d.creates l = true := by simp [Deed.creates, hbefore, hafter]
  simp [creator?, hcreates]

end Creator

namespace Workshop

variable {ι : Type} {start : FileSystem} {s : Workshop ι} {i j : ι} {path : String}
  {l place : Location}

/-- A file that a writer has created where nothing stood at the start. -/
structure Own (start : FileSystem) (s : Workshop ι) (i : ι) (l : Location) : Prop where
  free : start.node? l = none
  file : ∃ bytes, s.files.node? l = some (.file bytes)
  creator : creator? s.deeds l = some i

/-- The path of a writer leads to a file of its own, and the file is filled once it is returned. -/
structure Holds (start : FileSystem) (s : Workshop ι) (i : ι) (path : String)
    (place : Location) : Prop where
  own : s.Own start i place
  leads : s.files.place? path = some place
  handle : ∀ p l, (s.writers i).phase = .holding p l → l = place
  returned : (s.writers i).phase.result? = some (.ok path) →
    s.files.node? place = some (.file (s.writers i).bytes)

/-- What writers can rely on while they work on the same files. -/
structure Custody (start : FileSystem) (bytes : ι → Bytes) (s : Workshop ι) : Prop where
  kept : ∀ l node, start.node? l = some node → s.files.node? l = some node
  bytes : ∀ i, (s.writers i).bytes = bytes i
  holds : ∀ i path, (s.writers i).phase.path? = some path → ∃ place, s.Holds start i path place
  own : ∀ d earlier, d :: earlier <:+ s.deeds → ∀ l node, d.before.node? l = some node →
    d.after.node? l ≠ some node →
    (∃ bytes, node = .file bytes) ∧ creator? earlier l = some d.writer

/-- A writer changes the files, but of what stands there only a file of its own. -/
structure Careful (start : FileSystem) (s : Workshop ι) (i : ι) (files : FileSystem) : Prop where
  keepsWays : s.files.KeepsWays files
  own : ∀ l node, s.files.node? l = some node → files.node? l ≠ some node → s.Own start i l

namespace Careful

theorem of_forall_some {files : FileSystem}
    (hdirectory : files.workingDirectory = s.files.workingDirectory)
    (h : ∀ l node, s.files.node? l = some node → files.node? l = some node) :
    s.Careful start i files :=
  ⟨.of_forall_some hdirectory h, fun l node hl hchanged => absurd (h l node hl) hchanged⟩

theorem of_own {files : FileSystem} (hown : s.Own start i place)
    (hdirectory : files.workingDirectory = s.files.workingDirectory)
    (hother : ∀ l, place ≠ l → files.node? l = s.files.node? l) : s.Careful start i files := by
  obtain ⟨bytes, hfile⟩ := hown.file
  refine ⟨.of_file hfile hdirectory hother, fun l node hl hchanged => ?_⟩
  by_cases hplace : place = l
  · exact hplace ▸ hown
  · rw [hother l hplace] at hchanged
    exact absurd hl hchanged

theorem refl (start : FileSystem) (s : Workshop ι) (i : ι) : s.Careful start i s.files :=
  of_forall_some rfl fun _ _ h => h

/-- A careful writer leaves the files of the others as they are. -/
theorem node_of_own {files : FileSystem} {node : Node} (h : s.Careful start i files)
    (hown : s.Own start j l) (hne : j ≠ i) (hl : s.files.node? l = some node) :
    files.node? l = some node := by
  by_contra hchanged
  have hcreator := (h.own l node hl hchanged).creator
  rw [hown.creator] at hcreator
  exact hne (Option.some.inj hcreator)

end Careful

namespace Custody

variable {bytes : ι → Bytes}

theorem opened (start : FileSystem) (names : ι → OutputName) (bytes : ι → Bytes) :
    (Workshop.opened start names bytes).Custody start bytes where
  kept _ _ h := h
  bytes _ := rfl
  holds _ _ hpath := by cases hpath
  own _ _ hsuffix := by simp [Workshop.opened] at hsuffix

theorem free_at_start (h : s.Custody start bytes) (hfree : s.files.node? l = none) :
    start.node? l = none := by
  cases hnode : start.node? l with
  | none => rfl
  | some node =>
    rw [h.kept l node hnode] at hfree
    cases hfree

/-- The clean-up of a writer removes the file of its own. -/
theorem cleared_eq {reason : String} (h : s.Custody start bytes)
    (hphase : (s.writers i).phase = .discarding path reason) :
    ∃ place, s.Own start i place ∧ s.files.cleared path = s.files.delete place := by
  obtain ⟨place, hholds⟩ := h.holds i path (by rw [hphase]; rfl)
  obtain ⟨content, hfile⟩ := hholds.own.file
  exact ⟨place, hholds.own, FileSystem.cleared_of_place? hholds.leads hfile⟩

end Custody

variable [DecidableEq ι]

@[simp] theorem record_files {files : FileSystem} {phase : WriterPhase} :
    (s.record i files phase).files = files := rfl

@[simp] theorem record_deeds {files : FileSystem} {phase : WriterPhase} :
    (s.record i files phase).deeds = ⟨i, s.files, files⟩ :: s.deeds := rfl

@[simp] theorem record_writer_self {files : FileSystem} {phase : WriterPhase} :
    (s.record i files phase).writers i = { s.writers i with phase } := by
  simp [record]

theorem record_writer_of_ne {files : FileSystem} {phase : WriterPhase} (h : j ≠ i) :
    (s.record i files phase).writers j = s.writers j := by
  simp [record, h]

/-- A file that is still there is still its creator's. -/
theorem Own.record {files : FileSystem} {phase : WriterPhase} {content : Bytes}
    (hown : s.Own start j l) (hfile : files.node? l = some (.file content)) :
    (s.record i files phase).Own start j l := by
  obtain ⟨_, hbefore⟩ := hown.file
  refine ⟨hown.free, ⟨content, hfile⟩, ?_⟩
  rw [record_deeds, creator?_cons_of_some hbefore, hown.creator]

theorem Holds.record {files : FileSystem} {phase : WriterPhase}
    (hholds : s.Holds start j path place) (hcareful : s.Careful start i files) (h : j ≠ i) :
    (s.record i files phase).Holds start j path place := by
  obtain ⟨content, hfile⟩ := hholds.own.file
  refine ⟨hholds.own.record (hcareful.node_of_own hholds.own h hfile),
    FileSystem.place?_of_keepsWays hcareful.keepsWays hholds.leads, ?_, ?_⟩
  · rw [record_writer_of_ne h]
    exact hholds.handle
  · rw [record_writer_of_ne h]
    intro hreturned
    exact hcareful.node_of_own hholds.own h (hholds.returned hreturned)

namespace Custody

variable {bytes : ι → Bytes}

/-- A careful step keeps what writers rely on, if the path that its writer comes to hold leads to a
file of its own. -/
theorem record {files : FileSystem} {phase : WriterPhase} (h : s.Custody start bytes)
    (hcareful : s.Careful start i files)
    (hholds : ∀ path, phase.path? = some path →
      ∃ place, (s.record i files phase).Holds start i path place) :
    (s.record i files phase).Custody start bytes where
  kept l node hl := by
    by_contra hchanged
    have hfree := (hcareful.own l node (h.kept l node hl) hchanged).free
    rw [hl] at hfree
    cases hfree
  bytes j := by
    by_cases hj : j = i
    · subst hj
      rw [record_writer_self]
      exact h.bytes j
    · rw [record_writer_of_ne hj]
      exact h.bytes j
  holds j path hpath := by
    by_cases hj : j = i
    · subst hj
      rw [record_writer_self] at hpath
      exact hholds path hpath
    · rw [record_writer_of_ne hj] at hpath
      obtain ⟨place, hplace⟩ := h.holds j path hpath
      exact ⟨place, hplace.record hcareful hj⟩
  own d earlier hsuffix l node hbefore hafter := by
    rw [record_deeds, List.suffix_cons_iff] at hsuffix
    rcases hsuffix with heq | hsuffix
    · obtain ⟨rfl, rfl⟩ := List.cons_eq_cons.1 heq
      have hown := hcareful.own l node hbefore hafter
      obtain ⟨content, hfile⟩ := hown.file
      exact ⟨⟨content, Option.some.inj (hbefore.symm.trans hfile)⟩, hown.creator⟩
    · exact h.own d earlier hsuffix l node hbefore hafter

theorem record_pathless {files : FileSystem} {phase : WriterPhase} (h : s.Custody start bytes)
    (hcareful : s.Careful start i files) (hphase : phase.path? = none) :
    (s.record i files phase).Custody start bytes := by
  refine h.record hcareful fun path hpath => ?_
  rw [hphase] at hpath
  cases hpath

theorem record_resting (h : s.Custody start bytes) :
    (s.record i s.files (s.writers i).phase).Custody start bytes := by
  refine h.record (.refl start s i) fun path hpath => ?_
  obtain ⟨place, hplace⟩ := h.holds i path hpath
  obtain ⟨content, hfile⟩ := hplace.own.file
  refine ⟨place, hplace.own.record hfile, hplace.leads, ?_, ?_⟩
  · rw [record_writer_self]
    exact hplace.handle
  · rw [record_writer_self]
    exact hplace.returned

theorem record_created (h : s.Custody start bytes) (hplace : s.files.place? path = some place)
    (hfree : s.files.node? place = none) :
    (s.record i (s.files.put place (.file [])) (.holding path place)).Custody start bytes := by
  have hnew : (s.files.put place (.file [])).node? place = some (.file []) := by
    simp [FileSystem.node?_put]
  have hcareful : s.Careful start i (s.files.put place (.file [])) :=
    .of_forall_some FileSystem.workingDirectory_put fun _ _ => FileSystem.node?_put_of_free hfree
  refine h.record hcareful fun path' hpath' => ?_
  obtain rfl : path = path' := Option.some.inj hpath'
  refine ⟨place, ⟨h.free_at_start hfree, ⟨[], hnew⟩, creator?_cons_of_creates hfree hnew⟩,
    FileSystem.place?_of_keepsWays hcareful.keepsWays hplace, ?_, ?_⟩
  · rw [record_writer_self]
    rintro _ _ ⟨⟩
    rfl
  · rw [record_writer_self]
    rintro ⟨⟩

theorem record_filled {content : Bytes} {phase : WriterPhase} (h : s.Custody start bytes)
    (hbefore : (s.writers i).phase = .holding path place) (hpath : phase.path? = some path)
    (hhandle : ∀ p l, phase = .holding p l → l = place)
    (hreturned : phase.result? = some (.ok path) → content = (s.writers i).bytes) :
    (s.record i (s.files.put place (.file content)) phase).Custody start bytes := by
  -- The handle is the place of the path, so what is filled is the writer's own file.
  obtain ⟨place', hholds⟩ := h.holds i path (by rw [hbefore]; rfl)
  obtain rfl : place = place' := hholds.handle path place hbefore
  have hnew : (s.files.put place (.file content)).node? place = some (.file content) := by
    simp [FileSystem.node?_put]
  have hcareful : s.Careful start i (s.files.put place (.file content)) :=
    .of_own hholds.own FileSystem.workingDirectory_put fun l hl => by
      rw [FileSystem.node?_put, if_neg hl]
  refine h.record hcareful fun path' hpath' => ?_
  obtain rfl : path = path' := Option.some.inj (hpath.symm.trans hpath')
  refine ⟨place, hholds.own.record hnew,
    FileSystem.place?_of_keepsWays hcareful.keepsWays hholds.leads, ?_, ?_⟩
  · rw [record_writer_self]
    exact hhandle
  · rw [record_writer_self]
    intro hresult
    rw [record_files, hnew, hreturned hresult]

theorem record_cleared {reason : String} {phase : WriterPhase} (h : s.Custody start bytes)
    (hbefore : (s.writers i).phase = .discarding path reason) (hafter : phase.path? = none) :
    (s.record i (s.files.cleared path) phase).Custody start bytes := by
  obtain ⟨place, hown, hcleared⟩ := h.cleared_eq hbefore
  have hcareful : s.Careful start i (s.files.delete place) :=
    .of_own hown FileSystem.workingDirectory_delete fun l hl => by
      rw [FileSystem.node?_delete, if_neg hl]
  rw [hcleared]
  exact h.record_pathless hcareful hafter

theorem record_effect {files : FileSystem} {phase : WriterPhase} (h : s.Custody start bytes)
    (heffect : (s.writers i).Effect s.files files phase) :
    (s.record i files phase).Custody start bytes := by
  cases heffect with
  | rests => exact h.record_resting
  | searches _ hfiles hafter _ =>
    have hcareful : s.Careful start i files :=
      .of_forall_some hfiles.workingDirectory fun _ _ => hfiles.node_of_some
    exact h.record_pathless hcareful hafter
  | creates _ hplace hfree => exact h.record_created hplace hfree
  | fills hbefore hpath hhandle hreturned => exact h.record_filled hbefore hpath hhandle hreturned
  | clears hbefore => exact h.record_cleared hbefore rfl

theorem step (h : s.Custody start bytes) (m : WriterMove) : (s.step i m).Custody start bytes := by
  rcases (s.writers i).move_effect s.files m with heffect | ⟨path, reason, -, hmove, -⟩
  · exact h.record_effect heffect
  · unfold Workshop.step
    rw [hmove]
    exact h.record_pathless (.refl start s i) rfl

theorem run (h : s.Custody start bytes) (schedule : List (ι × WriterMove)) :
    (s.run schedule).Custody start bytes := by
  induction schedule generalizing s with
  | nil => exact h
  | cons turn rest ih => exact ih (h.step turn.2)

end Custody

/-- Nothing of what stood at the start is overwritten, no two writers have the same path, what a
writer returned leads to its bytes, and a writer takes away or replaces no file but its own. -/
structure NeverOverwrites (start : FileSystem) (bytes : ι → Bytes) (s : Workshop ι) : Prop where
  kept : ∀ l node, start.node? l = some node → s.files.node? l = some node
  apart : ∀ i j path, (s.writers i).phase.path? = some path →
    (s.writers j).phase.path? = some path → i = j
  written : ∀ i path, (s.writers i).phase.result? = some (.ok path) →
    s.files.read path = .ok (bytes i)
  own : ∀ d earlier, d :: earlier <:+ s.deeds → ∀ l node, d.before.node? l = some node →
    d.after.node? l ≠ some node →
    (∃ content, node = .file content) ∧ creator? earlier l = some d.writer
  cleanup : ∀ i path reason, (s.writers i).phase = .discarding path reason →
    ∃ l content, creator? s.deeds l = some i ∧ s.files.node? l = some (.file content) ∧
      s.files.cleared path = s.files.delete l

/-- Whatever moves the writers make and in whichever order, they never overwrite. -/
theorem run_neverOverwrites (start : FileSystem) (names : ι → OutputName) (bytes : ι → Bytes)
    (schedule : List (ι × WriterMove)) :
    ((opened start names bytes).run schedule).NeverOverwrites start bytes := by
  have h := (Custody.opened start names bytes).run schedule
  constructor
  case kept => exact h.kept
  case own => exact h.own
  case apart =>
    intro i j path hi hj
    obtain ⟨place, hplace⟩ := h.holds i path hi
    obtain ⟨place', hplace'⟩ := h.holds j path hj
    -- One path leads to one place, and the file there has one creator.
    obtain rfl : place = place' := Option.some.inj (hplace.leads.symm.trans hplace'.leads)
    exact Option.some.inj (hplace.own.creator.symm.trans hplace'.own.creator)
  case written =>
    intro i path hresult
    obtain ⟨place, hplace⟩ := h.holds i path (WriterPhase.path?_of_returned hresult)
    have hfile := hplace.returned hresult
    rw [h.bytes] at hfile
    exact FileSystem.read_of_place? hplace.leads hfile
  case cleanup =>
    intro i path reason hphase
    obtain ⟨place, hown, hcleared⟩ := h.cleared_eq hphase
    obtain ⟨content, hfile⟩ := hown.file
    exact ⟨place, content, hown.creator, hfile, hcleared⟩

end Workshop

end ImagePrompt
