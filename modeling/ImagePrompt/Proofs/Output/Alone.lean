import ImagePrompt.Proofs.Output.Concurrency
/-!
# A writer alone

What a writer leaves behind when nobody else touches the files: the file whose
path it returns, or no file at all.
-/

namespace ImagePrompt.OutputWriter

/-- What a writer has done to the files since the start, by its phase. -/
inductive Alone (start fs : FileSystem) (bytes : Bytes) : WriterPhase → Prop
  | empty {phase : WriterPhase} (hfiles : start.GainsDirectories fs) (hpath : phase.path? = none)
      (hfailure : ∀ f, phase.result? = some (.error f) → f.kind = .write) :
      Alone start fs bytes phase
  | holds {phase : WriterPhase} {path : String} {place : Location} {content : Bytes}
      (hfiles : start.GainsFile fs place content) (hpath : phase.path? = some path)
      (hplace : fs.place? path = some place) (hhandle : ∀ p l, phase = .holding p l → l = place)
      (hreturned : phase.result? = some (.ok path) → content = bytes) :
      Alone start fs bytes phase

variable {start fs fs' : FileSystem} {w : OutputWriter} {phase : WriterPhase} {path : String}

theorem Alone.gainsDirectories {bytes : Bytes} (h : Alone start fs bytes phase)
    (hpath : phase.path? = none) : start.GainsDirectories fs := by
  cases h with
  | empty hfiles => exact hfiles
  | holds _ hpath' =>
    rw [hpath] at hpath'
    cases hpath'

theorem Alone.gainsFile {bytes : Bytes} (h : Alone start fs bytes phase)
    (hpath : phase.path? = some path) :
    ∃ place content, start.GainsFile fs place content ∧ fs.place? path = some place ∧
      (∀ p l, phase = .holding p l → l = place) ∧
      (phase.result? = some (.ok path) → content = bytes) := by
  cases h with
  | empty _ hpath' =>
    rw [hpath] at hpath'
    cases hpath'
  | holds hfiles hpath' hplace hhandle hreturned =>
    obtain rfl := Option.some.inj (hpath'.symm.trans hpath)
    exact ⟨_, _, hfiles, hplace, hhandle, hreturned⟩

theorem Alone.effect (h : Alone start fs w.bytes w.phase) (heffect : w.Effect fs fs' phase) :
    Alone start fs' w.bytes phase := by
  cases heffect with
  | rests => exact h
  | searches hbefore hfiles hafter hfailure =>
    exact .empty ((h.gainsDirectories hbefore).trans hfiles) hafter hfailure
  | @creates path place hbefore hplace hfree =>
    have hleads : (fs.put place (.file [])).place? path = some place :=
      FileSystem.place?_of_keepsWays (.put_free hfree) hplace
    refine .holds (.of_put (h.gainsDirectories hbefore) hfree) rfl hleads ?_ (by rintro ⟨⟩)
    rintro _ _ ⟨⟩
    rfl
  | @fills path place content phase hbefore hpath hhandle hreturned =>
    have hpath' : w.phase.path? = some path := by rw [hbefore]; rfl
    obtain ⟨place', _, hfiles, hplace, hheld, -⟩ := h.gainsFile hpath'
    obtain rfl : place = place' := hheld path place hbefore
    exact .holds hfiles.put hpath (FileSystem.place?_of_keepsWays hfiles.keepsWays_put hplace)
      hhandle hreturned
  | @clears path reason hbefore =>
    have hpath : w.phase.path? = some path := by rw [hbefore]; rfl
    obtain ⟨place, _, hfiles, hplace, -⟩ := h.gainsFile hpath
    rw [FileSystem.cleared_of_place? hplace hfiles.file]
    refine .empty hfiles.delete rfl fun f hf => ?_
    obtain rfl : Failure.write path reason = f := by simpa [WriterPhase.result?] using hf
    rfl

/-- What a writer alone can come to, move by move, if the removal of its file is never refused. -/
inductive Reaches (start : FileSystem) (name : OutputName) (bytes : Bytes) :
    FileSystem → WriterPhase → Prop
  | start : Reaches start name bytes start .preparing
  | move {fs : FileSystem} {phase : WriterPhase} (m : WriterMove)
      (hreached : Reaches start name bytes fs phase)
      (hremoval : ∀ held why path reason, phase = .discarding held why →
        m ≠ .refusal path reason) :
      Reaches start name bytes (OutputWriter.move { name, bytes, phase } fs m).1
        (OutputWriter.move { name, bytes, phase } fs m).2

theorem Reaches.alone {name : OutputName} {bytes : Bytes} (h : Reaches start name bytes fs phase) :
    Alone start fs bytes phase := by
  induction h with
  | start => exact .empty (.refl start) rfl (by simp [WriterPhase.result?])
  | @move fs phase m _ hremoval ih =>
    let w : OutputWriter := { name, bytes, phase }
    rcases w.move_effect fs m with heffect | ⟨path, reason, hrefusal, hmove, hbefore⟩
    · exact Alone.effect (w := w) ih heffect
    · have hpath : phase.path? = none := by
        rcases hbefore with hnone | ⟨held, why, hdiscarding⟩
        · exact hnone
        · exact absurd hrefusal (hremoval held why path reason hdiscarding)
      rw [hmove]
      refine .empty (ih.gainsDirectories hpath) rfl fun f hf => ?_
      obtain rfl : Failure.write path reason = f := by simpa [WriterPhase.result?] using hf
      rfl

theorem Reaches.finish {fault : Option WriteFault} (h : Reaches start w.name w.bytes fs w.phase) :
    Reaches start w.name w.bytes (w.finish fault fs).1 (.finished (w.finish fault fs).2) := by
  fun_induction OutputWriter.finish w fault fs with
  | case1 w fs result hresult => rwa [WriterPhase.eq_finished_of_result? hresult] at h
  | case2 w fs hresult next ih => exact ih (.move (.whole fault) h (by simp))

section Write

variable {name : OutputName} {bytes : Bytes} {fault : Option WriteFault}

theorem reaches_write :
    Reaches fs name bytes (write name bytes fault fs).1 (.finished (write name bytes fault fs).2) :=
  Reaches.finish (w := { name, bytes }) .start

theorem alone_write :
    Alone fs (write name bytes fault fs).1 bytes (.finished (write name bytes fault fs).2) :=
  reaches_write.alone

/-- The path that a writer returns leads to a new file with its bytes. -/
theorem write_of_ok (h : (write name bytes fault fs).2 = .ok path) :
    ∃ place, fs.GainsFile (write name bytes fault fs).1 place bytes ∧
      (write name bytes fault fs).1.place? path = some place := by
  have halone : Alone fs (write name bytes fault fs).1 bytes (.finished (.ok path)) :=
    h ▸ alone_write
  obtain ⟨place, content, hfiles, hplace, -, hreturned⟩ := halone.gainsFile rfl
  obtain rfl := hreturned rfl
  exact ⟨place, hfiles, hplace⟩

/-- A writer that fails leaves no file behind. -/
theorem Reaches.of_error {f : Failure} (h : Reaches start name bytes fs (.finished (.error f))) :
    f.kind = .write ∧ start.GainsDirectories fs := by
  cases h.alone with
  | empty hfiles _ hfailure => exact ⟨hfailure f rfl, hfiles⟩
  | holds _ hpath => cases hpath

theorem write_of_error {f : Failure} (h : (write name bytes fault fs).2 = .error f) :
    f.kind = .write ∧ fs.GainsDirectories (write name bytes fault fs).1 := by
  have hreached : Reaches fs name bytes (write name bytes fault fs).1 (.finished (.error f)) :=
    h ▸ reaches_write
  exact hreached.of_error

end Write

end ImagePrompt.OutputWriter
