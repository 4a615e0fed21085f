import ImagePrompt.Bytes.Words
import ImagePrompt.Failure
import ImagePrompt.FileSystem.Basic
import ImagePrompt.Output.Naming
/-!
# Writing pictures

A writer makes its directory, looks for a name that nothing stands under,
creates the file there, and fills it. When filling fails it removes the file
that it created. Each of these is one step, so the steps of several writers
can be put in any order; a writer alone takes its own one after another.
-/

namespace ImagePrompt

/-- What goes wrong in filling a file: how much is written before, and what the system says. -/
structure WriteFault where
  written : Nat
  reason : String
  deriving DecidableEq, Repr

inductive WriterPhase where
  | preparing
  | probing (attempt : Nat)
  /-- The writer has created a file, and nothing is written in it. -/
  | holding (path : String) (place : Location)
  /-- Filling the file failed, and it is still there. -/
  | discarding (path : String) (reason : String)
  | finished (result : Except Failure String)

structure OutputWriter where
  name : OutputName
  bytes : Bytes
  phase : WriterPhase := .preparing

namespace WriterPhase

/-- A bound on the steps that are left in a phase. -/
def remaining : WriterPhase → Nat
  | .preparing => OutputName.limit + 4
  | .probing attempt => OutputName.limit - attempt + 3
  | .holding .. => 2
  | .discarding .. => 1
  | .finished _ => 0

def result? : WriterPhase → Option (Except Failure String)
  | .finished result => some result
  | _ => none

end WriterPhase

namespace OutputWriter

def failed (path : String) (e : FileError) : WriterPhase :=
  .finished (.error (.write path e.message))

def exhausted (w : OutputWriter) : Failure :=
  .write (w.name.path 0)
    (toString OutputName.limit ++ " files named " ++ w.name.stem ++ " already exist")

def probed (w : OutputWriter) (attempt : Nat) (fs : FileSystem) :
    Except FileError (FileSystem × Location) → FileSystem × WriterPhase
  | .ok (fs', place) => (fs', .holding (w.name.path attempt) place)
  | .error .occupied => (fs, .probing (attempt + 1))
  | .error e => (fs, failed (w.name.path attempt) e)

def advance (w : OutputWriter) (fault : Option WriteFault) (fs : FileSystem) :
    FileSystem × WriterPhase :=
  match w.phase with
  | .preparing =>
    match fs.makeDirectories w.name.directory with
    | (fs', .ok ()) => (fs', .probing 0)
    | (fs', .error e) => (fs', failed w.name.directory e)
  | .probing attempt =>
    if attempt < OutputName.limit then w.probed attempt fs (fs.createNew (w.name.path attempt))
    else (fs, .finished (.error w.exhausted))
  | .holding path place =>
    match fault with
    | none => (fs.put place (.file w.bytes), .finished (.ok path))
    | some f => (fs.put place (.file (w.bytes.take f.written)), .discarding path f.reason)
  | .discarding path reason => (fs.cleared path, .finished (.error (.write path reason)))
  | .finished result => (fs, .finished result)

theorem remaining_probed_le (w : OutputWriter) (attempt : Nat) (fs : FileSystem)
    (created : Except FileError (FileSystem × Location)) :
    (w.probed attempt fs created).2.remaining ≤ OutputName.limit - (attempt + 1) + 3 := by
  unfold probed
  split <;> simp only [failed, WriterPhase.remaining] <;> omega

/-- A step brings a writer that has not returned closer to its return. -/
theorem remaining_advance_lt (w : OutputWriter) (fault : Option WriteFault) (fs : FileSystem)
    (h : w.phase.result? = none) : (w.advance fault fs).2.remaining < w.phase.remaining := by
  cases hw : w.phase with
  | preparing =>
    simp only [advance, hw]
    split <;> simp only [WriterPhase.remaining, failed] <;> omega
  | probing attempt =>
    simp only [advance, hw]
    by_cases ha : attempt < OutputName.limit
    · rw [if_pos ha]
      refine Nat.lt_of_le_of_lt (remaining_probed_le w attempt fs _) ?_
      simp only [WriterPhase.remaining]
      omega
    · rw [if_neg ha]
      simp only [WriterPhase.remaining]
      omega
  | holding path place =>
    cases fault <;> simp [advance, hw, WriterPhase.remaining]
  | discarding path reason => simp [advance, hw, WriterPhase.remaining]
  | finished result => simp [hw, WriterPhase.result?] at h

/-- Runs a writer alone up to its return. -/
def finish (w : OutputWriter) (fault : Option WriteFault) (fs : FileSystem) :
    FileSystem × Except Failure String :=
  match _h : w.phase.result? with
  | some result => (fs, result)
  | none =>
    let next := w.advance fault fs
    finish { w with phase := next.2 } fault next.1
termination_by w.phase.remaining
decreasing_by exact remaining_advance_lt w fault fs ‹_›

/-- Writes a picture under the first free name, and gives its path. -/
def write (name : OutputName) (bytes : Bytes) (fault : Option WriteFault) (fs : FileSystem) :
    FileSystem × Except Failure String :=
  finish { name, bytes } fault fs

end OutputWriter

end ImagePrompt
