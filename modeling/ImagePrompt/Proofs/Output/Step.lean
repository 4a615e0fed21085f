import ImagePrompt.Output.Writer
import ImagePrompt.Proofs.FileSystem.Growth
/-!
# Steps of a writer

All that one step of a writer can do to the files. Both a writer alone and
writers among others are followed by these effects, and not by what the steps
compute.
-/

namespace ImagePrompt

namespace WriterPhase

/-- The path that a writer holds or has returned. -/
def path? : WriterPhase → Option String
  | .holding path _ => some path
  | .discarding path _ => some path
  | .finished (.ok path) => some path
  | _ => none

theorem eq_finished_of_result? {phase : WriterPhase} {result : Except Failure String}
    (h : phase.result? = some result) : phase = .finished result := by
  cases phase with
  | finished other => rw [Option.some.inj h]
  | _ => cases h

theorem path?_of_returned {phase : WriterPhase} {path : String}
    (h : phase.result? = some (.ok path)) : phase.path? = some path := by
  rw [eq_finished_of_result? h]
  rfl

end WriterPhase

namespace OutputWriter

/-- What a step can do to the files, and the phase that the writer comes to. -/
inductive Effect (w : OutputWriter) (fs : FileSystem) : FileSystem → WriterPhase → Prop
  | rests : Effect w fs fs w.phase
  | searches {fs' : FileSystem} {phase : WriterPhase} (hbefore : w.phase.path? = none)
      (hfiles : fs.GainsDirectories fs') (hafter : phase.path? = none)
      (hfailure : ∀ f, phase.result? = some (.error f) → f.kind = .write) :
      Effect w fs fs' phase
  | creates {path : String} {place : Location} (hbefore : w.phase.path? = none)
      (hplace : fs.place? path = some place) (hfree : fs.node? place = none) :
      Effect w fs (fs.put place (.file [])) (.holding path place)
  | fills {path : String} {place : Location} {bytes : Bytes} {phase : WriterPhase}
      (hbefore : w.phase = .holding path place) (hpath : phase.path? = some path)
      (hhandle : ∀ p l, phase = .holding p l → l = place)
      (hreturned : phase.result? = some (.ok path) → bytes = w.bytes) :
      Effect w fs (fs.put place (.file bytes)) phase
  | clears {path reason : String} (hbefore : w.phase = .discarding path reason) :
      Effect w fs (fs.cleared path) (.finished (.error (.write path reason)))

variable {w : OutputWriter} {fs : FileSystem}

theorem failed_searches {fs' : FileSystem} {path : String} {e : FileError}
    (hbefore : w.phase.path? = none) (hfiles : fs.GainsDirectories fs') :
    w.Effect fs fs' (failed path e) := by
  refine .searches hbefore hfiles rfl fun f hf => ?_
  obtain rfl : Failure.write path e.message = f := by simpa [failed, WriterPhase.result?] using hf
  rfl

/-- Any other error than that of a taken name ends the search. -/
theorem probed_error {e : FileError} (attempt : Nat) (he : e ≠ .occupied) :
    w.probed attempt fs (.error e) = (fs, failed (w.name.path attempt) e) := by
  cases e with
  | occupied => exact absurd rfl he
  | _ => rfl

theorem probed_effect (hbefore : w.phase.path? = none) (attempt : Nat) :
    w.Effect fs (w.probed attempt fs (fs.createNew (w.name.path attempt))).1
      (w.probed attempt fs (fs.createNew (w.name.path attempt))).2 := by
  match hcreated : fs.createNew (w.name.path attempt) with
  | .ok (fs', place) =>
    obtain ⟨hplace, hfree, rfl⟩ := FileSystem.createNew_eq_ok_iff.1 hcreated
    exact .creates hbefore hplace hfree
  | .error e =>
    by_cases he : e = .occupied
    · subst he
      exact .searches hbefore (.refl fs) rfl (by simp [probed, WriterPhase.result?])
    · rw [probed_error attempt he]
      exact failed_searches hbefore (.refl fs)

theorem advance_effect (w : OutputWriter) (fault : Option WriteFault) (fs : FileSystem) :
    w.Effect fs (w.advance fault fs).1 (w.advance fault fs).2 := by
  cases hphase : w.phase with
  | preparing =>
    have hbefore : w.phase.path? = none := by rw [hphase]; rfl
    have hfiles := FileSystem.GainsDirectories.makeDirectories fs w.name.directory
    simp only [advance, hphase]
    generalize fs.makeDirectories w.name.directory = made at hfiles
    obtain ⟨fs', result⟩ := made
    cases result with
    | ok _ => exact .searches hbefore hfiles rfl (by simp [WriterPhase.result?])
    | error e => exact failed_searches hbefore hfiles
  | probing attempt =>
    have hbefore : w.phase.path? = none := by rw [hphase]; rfl
    simp only [advance, hphase]
    by_cases hattempt : attempt < OutputName.limit
    · rw [if_pos hattempt]
      exact probed_effect hbefore attempt
    · rw [if_neg hattempt]
      refine .searches hbefore (.refl fs) rfl fun f hf => ?_
      obtain rfl : w.exhausted = f := by simpa [WriterPhase.result?] using hf
      rfl
  | holding path place =>
    simp only [advance, hphase]
    cases fault with
    | none => exact .fills hphase rfl (by simp) fun _ => rfl
    | some fault => exact .fills hphase rfl (by simp) (by simp [WriterPhase.result?])
  | discarding path reason =>
    simp only [advance, hphase]
    exact .clears hphase
  | finished result =>
    simp only [advance, hphase]
    rw [← hphase]
    exact .rests

end OutputWriter

end ImagePrompt
