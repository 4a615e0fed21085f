import ImagePrompt.Proofs.Output.Alone
import Mathlib.Data.Nat.Find
/-!
# The first free name

The search of a writer through its names: it passes over those that something
stands under and stops at the first other one, or behind the last of them.
-/

namespace ImagePrompt

/-- The first name that nothing stands under. -/
structure OutputName.FirstFree (name : OutputName) (fs : FileSystem) (attempt : Nat) : Prop where
  tried : attempt < limit
  free : ¬ fs.Taken (name.path attempt)
  taken : ∀ earlier < attempt, fs.Taken (name.path earlier)

theorem OutputName.exists_firstFree_or (name : OutputName) (fs : FileSystem) :
    (∃ attempt, name.FirstFree fs attempt) ∨ ∀ attempt < limit, fs.Taken (name.path attempt) := by
  classical
  by_cases hfree : ∃ attempt, attempt < limit ∧ ¬ fs.Taken (name.path attempt)
  · obtain ⟨htried, hfound⟩ := Nat.find_spec hfree
    refine .inl ⟨Nat.find hfree, htried, hfound, fun earlier hearlier => ?_⟩
    by_contra hnot
    exact Nat.find_min hfree hearlier ⟨Nat.lt_trans hearlier htried, hnot⟩
  · push Not at hfree
    exact .inr hfree

theorem OutputName.FirstFree.node? {name : OutputName} {fs : FileSystem} {attempt : Nat}
    {place : Location} (h : name.FirstFree fs attempt)
    (hplace : fs.place? (name.path attempt) = some place) : fs.node? place = none := by
  cases hnode : fs.node? place with
  | none => rfl
  | some node => exact absurd ⟨place, node, hplace, hnode⟩ h.free

namespace OutputWriter

variable {fs made : FileSystem} {w : OutputWriter} {name : OutputName} {bytes : Bytes}
  {fault : Option WriteFault} {attempt : Nat} {place : Location}

/-- A writer that has not returned goes on after its next step. -/
theorem finish_step (h : w.phase.result? = none) :
    w.finish fault fs =
      finish { w with phase := (w.advance fault fs).2 } fault (w.advance fault fs).1 := by
  rw [finish]
  split
  next result hresult =>
    rw [h] at hresult
    cases hresult
  next => rfl

theorem finish_finished {result : Except Failure String} :
    finish { w with phase := .finished result } fault fs = (fs, result) := by
  rw [finish]
  rfl

/-- A writer that comes to the name of an attempt. -/
def searching (name : OutputName) (bytes : Bytes) (attempt : Nat) : OutputWriter where
  name := name
  bytes := bytes
  phase := .probing attempt

theorem advance_searching (h : attempt < OutputName.limit) :
    (searching name bytes attempt).advance fault fs =
      (searching name bytes attempt).probed attempt fs (fs.createNew (name.path attempt)) :=
  if_pos h

theorem finish_searching :
    finish (searching name bytes attempt) fault fs =
      finish { searching name bytes attempt with
        phase := ((searching name bytes attempt).advance fault fs).2 } fault
        ((searching name bytes attempt).advance fault fs).1 :=
  finish_step rfl

theorem finish_holding {path : String} :
    finish { w with phase := .holding path place } none fs =
      (fs.put place (.file w.bytes), .ok path) := by
  rw [finish_step rfl]
  exact finish_finished

theorem finish_holding_fault {path : String} {f : WriteFault} :
    finish { w with phase := .holding path place } (some f) fs =
      ((fs.put place (.file (w.bytes.take f.written))).cleared path,
        .error (.write path f.reason)) := by
  rw [finish_step rfl, finish_step rfl]
  exact finish_finished

theorem finish_taken (h : attempt < OutputName.limit) (htaken : fs.Taken (name.path attempt)) :
    finish (searching name bytes attempt) fault fs =
      finish (searching name bytes (attempt + 1)) fault fs := by
  rw [finish_searching, advance_searching h, FileSystem.createNew_eq_occupied_iff.2 htaken]
  rfl

/-- The search passes over the names that are taken. -/
theorem finish_passed (h : attempt ≤ OutputName.limit)
    (htaken : ∀ earlier < attempt, fs.Taken (name.path earlier)) :
    finish (searching name bytes 0) fault fs = finish (searching name bytes attempt) fault fs := by
  induction attempt with
  | zero => rfl
  | succ attempt ih =>
    have hpassed := ih (Nat.le_of_succ_le h) fun earlier hearlier =>
      htaken earlier (Nat.lt_succ_of_lt hearlier)
    rw [hpassed, finish_taken h (htaken attempt (Nat.lt_succ_self attempt))]

/-- What a writer comes to at the first free name, and the files that it leaves. -/
inductive Outcome (name : OutputName) (bytes : Bytes) (fault : Option WriteFault)
    (made : FileSystem) (attempt : Nat) : FileSystem × Except Failure String → Prop
  | refused (e : FileError) (hnone : made.place? (name.path attempt) = none) :
      Outcome name bytes fault made attempt (made, .error (.write (name.path attempt) e.message))
  | written {place : Location} (hplace : made.place? (name.path attempt) = some place)
      (hfault : fault = none) :
      Outcome name bytes fault made attempt
        ((made.put place (.file [])).put place (.file bytes), .ok (name.path attempt))
  | failed {place : Location} {f : WriteFault}
      (hplace : made.place? (name.path attempt) = some place) (hfault : fault = some f) :
      Outcome name bytes fault made attempt
        (((made.put place (.file [])).put place (.file (bytes.take f.written))).delete place,
          .error (.write (name.path attempt) f.reason))

theorem outcome_searching (hfirst : name.FirstFree fs attempt) :
    Outcome name bytes fault fs attempt (finish (searching name bytes attempt) fault fs) := by
  rw [finish_searching, advance_searching hfirst.tried]
  cases hcreated : fs.createNew (name.path attempt) with
  | error e =>
    have he : e ≠ .occupied := by
      rintro rfl
      exact hfirst.free (FileSystem.createNew_eq_occupied_iff.1 hcreated)
    rw [probed_error attempt he, failed, finish_finished]
    refine .refused e (Option.eq_none_iff_forall_ne_some.2 fun place hplace => ?_)
    have hok := FileSystem.createNew_eq_ok_iff.2 ⟨hplace, hfirst.node? hplace, rfl⟩
    rw [hcreated] at hok
    cases hok
  | ok created =>
    obtain ⟨created, place⟩ := created
    obtain ⟨hplace, hnode, rfl⟩ := FileSystem.createNew_eq_ok_iff.1 hcreated
    simp only [probed]
    cases fault with
    | none =>
      rw [finish_holding]
      exact .written hplace rfl
    | some f =>
      have hfilled : fs.GainsFile ((fs.put place (.file [])).put place
          (.file (bytes.take f.written))) place (bytes.take f.written) :=
        .put (.of_put (.refl fs) hnode)
      have hkept := FileSystem.place?_of_keepsWays hfilled.keepsWays hplace
      have hcleared := FileSystem.cleared_of_place? hkept hfilled.file
      rw [finish_holding_fault]
      simp only [searching, hcleared]
      exact .failed hplace rfl

/-! ## From the making of the directory on -/

theorem write_unmade {e : FileError}
    (h : fs.makeDirectories name.directory = (made, .error e)) :
    write name bytes fault fs = (made, .error (.write name.directory e.message)) := by
  have hadvance : advance { name, bytes } fault fs =
      (made, .finished (.error (.write name.directory e.message))) := by
    simp [advance, h, failed]
  unfold write
  rw [finish_step rfl, hadvance]
  exact finish_finished

theorem write_made (h : fs.makeDirectories name.directory = (made, .ok ())) :
    write name bytes fault fs = finish (searching name bytes 0) fault made := by
  have hadvance : advance { name, bytes } fault fs = (made, .probing 0) := by
    simp [advance, h]
  unfold write
  rw [finish_step rfl, hadvance]
  rfl

theorem write_exhausted (h : fs.makeDirectories name.directory = (made, .ok ()))
    (htaken : ∀ attempt < OutputName.limit, made.Taken (name.path attempt)) :
    write name bytes fault fs = (made, .error (exhausted { name, bytes })) := by
  have hadvance : (searching name bytes OutputName.limit).advance fault made =
      (made, .finished (.error (exhausted { name, bytes }))) := by
    simp [advance, searching, exhausted]
  rw [write_made h, finish_passed (Nat.le_refl _) htaken, finish_searching, hadvance]
  exact finish_finished

theorem outcome_write (bytes : Bytes) (fault : Option WriteFault)
    (h : fs.makeDirectories name.directory = (made, .ok ()))
    (hfirst : name.FirstFree made attempt) :
    Outcome name bytes fault made attempt (write name bytes fault fs) := by
  rw [write_made h, finish_passed (Nat.le_of_lt hfirst.tried) hfirst.taken]
  exact outcome_searching hfirst

section First

variable (h : fs.makeDirectories name.directory = (made, .ok ()))
  (hfirst : name.FirstFree made attempt)

include h hfirst

/-- Without a fault the first free name is taken, if a file can stand there. -/
theorem write_firstFree (hplace : made.place? (name.path attempt) = some place) :
    write name bytes none fs =
      ((made.put place (.file [])).put place (.file bytes), .ok (name.path attempt)) := by
  have houtcome := outcome_write bytes none h hfirst
  generalize write name bytes none fs = result at houtcome
  cases houtcome with
  | refused e hnone =>
    rw [hplace] at hnone
    cases hnone
  | written hplace' =>
    obtain rfl := Option.some.inj (hplace'.symm.trans hplace)
    rfl
  | failed _ hfault => cases hfault

theorem write_faulty {f : WriteFault} (hplace : made.place? (name.path attempt) = some place) :
    (write name bytes (some f) fs).2 = .error (.write (name.path attempt) f.reason) := by
  have houtcome := outcome_write bytes (some f) h hfirst
  generalize write name bytes (some f) fs = result at houtcome
  cases houtcome with
  | refused _ hnone =>
    rw [hplace] at hnone
    cases hnone
  | written _ hfault => cases hfault
  | failed _ hfault =>
    obtain rfl := Option.some.inj hfault
    rfl

theorem write_refused (hnone : made.place? (name.path attempt) = none) :
    ∃ e : FileError,
      write name bytes fault fs = (made, .error (.write (name.path attempt) e.message)) := by
  have houtcome := outcome_write bytes fault h hfirst
  generalize write name bytes fault fs = result at houtcome
  cases houtcome with
  | refused e => exact ⟨e, rfl⟩
  | written hplace | failed hplace =>
    rw [hnone] at hplace
    cases hplace

end First

/-- A path that is returned is that of the first free name. -/
theorem firstFree_of_write {after : FileSystem} {path : String}
    (h : write name bytes fault fs = (after, .ok path)) :
    ∃ made attempt, fs.makeDirectories name.directory = (made, .ok ()) ∧
      name.FirstFree made attempt ∧ path = name.path attempt := by
  rcases hmade : fs.makeDirectories name.directory with ⟨made, _ | _⟩
  case error e =>
    rw [write_unmade hmade] at h
    cases h
  rcases name.exists_firstFree_or made with ⟨attempt, hfirst⟩ | htaken
  · have houtcome := outcome_write bytes fault hmade hfirst
    generalize write name bytes fault fs = result at h houtcome
    cases houtcome with
    | refused | failed => cases (Prod.mk.inj h).2
    | written => exact ⟨made, attempt, rfl, hfirst, (Except.ok.inj (Prod.mk.inj h).2).symm⟩
  · rw [write_exhausted hmade htaken] at h
    cases h

/-- No error of the file system reads like that of a writer that gives up. -/
theorem exhausted_ne (name : OutputName) (bytes : Bytes) (path : String) (e : FileError) :
    exhausted { name, bytes } ≠ .write path e.message := by
  intro h
  have hmessage : toString OutputName.limit ++ " files named " ++ name.stem ++ " already exist" =
      e.message := (Failure.write.inj h).2
  have hdigits : (toString OutputName.limit).toList = '1' :: ['0', '0', '0', '0'] := by decide
  have hhead : e.message.toList.head? = some '1' := by
    rw [← hmessage]
    simp only [String.toList_append, hdigits, List.cons_append, List.head?_cons]
  cases e <;> revert hhead <;> decide

theorem taken_of_exhausted (h : fs.makeDirectories name.directory = (made, .ok ()))
    (hresult : (write name bytes none fs).2 = .error (exhausted { name, bytes })) :
    ∀ attempt < OutputName.limit, made.Taken (name.path attempt) := by
  rcases name.exists_firstFree_or made with ⟨attempt, hfirst⟩ | htaken
  · have houtcome := outcome_write bytes none h hfirst
    generalize write name bytes none fs = result at hresult houtcome
    cases houtcome with
    | refused e =>
      have hsame : Failure.write (name.path attempt) e.message = exhausted { name, bytes } :=
        Except.error.inj hresult
      exact absurd hsame.symm (exhausted_ne name bytes _ e)
    | written => cases hresult
    | failed _ hfault => cases hfault
  · exact htaken

end OutputWriter

end ImagePrompt
