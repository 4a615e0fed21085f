import ImagePrompt.Proofs.Success
import ImagePrompt.Settings.Dotenv
/-!
# Lines that cannot be read

Whether a line of a file of assignments can be read is a matter of the line
alone. What the names in it stand for shows in the values only, so one line
that cannot be read spoils the file wherever it stands.
-/

namespace ImagePrompt.Dotenv

/-! ## Values -/

namespace ValueState

/-- The state apart from the value read so far. -/
def shape (s : ValueState) : ValueState := { s with output := [] }

variable {s s' : ValueState} {c : Char}

theorem shape_eq_iff : s'.shape = s.shape ↔ ∃ output, s' = { s with output } := by
  constructor
  · intro h
    refine ⟨s'.output, ?_⟩
    cases s
    cases s'
    simpa [shape] using h
  · rintro ⟨output, rfl⟩
    rfl

theorem unescape?_shape (output : List Char) :
    ({ s with output }.unescape? c).map shape = (s.unescape? c).map shape := by
  simp only [unescape?, push, apply_ite (Option.map shape), Option.map_some, Option.map_none]
  rfl

theorem refer_shape (lookup lookup' : String → String) (output : List Char) :
    ({ s with output }.refer lookup' c).shape = (s.refer lookup c).shape := by
  simp only [refer, push, substitute, apply_ite shape]
  rfl

/-- A step takes states of one shape to states of one shape. -/
theorem next?_shape (lookup lookup' : String → String) (h : s'.shape = s.shape) :
    (s'.next? lookup' c).map shape = (s.next? lookup c).map shape := by
  obtain ⟨output, rfl⟩ := shape_eq_iff.1 h
  simp only [next?, push, apply_ite (Option.map shape), Option.map_some, Option.map_none,
    unescape?_shape, refer_shape lookup lookup', apply_ite shape]
  rfl

/-- Reading on ends at the same place, and in states of one shape. -/
theorem read_shape (lookup lookup' : String → String) (index : Nat) (cs : List Char)
    (h : s'.shape = s.shape) :
    (read lookup' index s' cs).map shape = (read lookup index s cs).map shape := by
  induction cs generalizing index s s' with
  | nil => simp only [read, Except.map, h]
  | cons c cs ih =>
    -- Where reading stops is part of the shape, and so are the states that follow.
    have hending : s'.ending = s.ending := by
      obtain ⟨output, rfl⟩ := shape_eq_iff.1 h
      rfl
    have hnext := next?_shape (c := c) lookup lookup' h
    unfold read
    rw [hending]
    split
    · simp only [Except.map, h]
    · cases hs : s.next? lookup c with
      | none =>
        have hnone : s'.next? lookup' c = none := by simpa [hs] using hnext
        rw [hnone]
      | some t =>
        rw [hs, Option.map_some, Option.map_eq_some_iff] at hnext
        obtain ⟨t', ht', hshape⟩ := hnext
        rw [ht']
        exact ih (index + 1) hshape

theorem isOpen_of_shape (h : s'.shape = s.shape) : s'.isOpen = s.isOpen := by
  obtain ⟨output, rfl⟩ := shape_eq_iff.1 h
  rfl

end ValueState

theorem readValue_error (lookup lookup' : String → String) {cs : List Char} {e : LineError} :
    readValue lookup' cs = .error e ↔ readValue lookup cs = .error e := by
  have hstart : ValueState.shape {} = ValueState.shape {} := rfl
  have hread := ValueState.read_shape lookup lookup' 0 cs hstart
  unfold readValue
  cases h : ValueState.read lookup 0 {} cs with
  | error index =>
    rw [h, Except.map, Success.map_eq_error] at hread
    rw [hread]
  | ok s =>
    rw [h, Except.map, Success.map_eq_ok] at hread
    obtain ⟨s', hs', hshape⟩ := hread
    rw [hs']
    simp only [ValueState.isOpen_of_shape hshape]
    split <;> simp

/-! ## Lines -/

/-- What is wrong with a line does not depend on what the names in it stand for. -/
theorem readLine_error (lookup lookup' : String → String) {line : String} {e : LineError} :
    readLine lookup' line = .error e ↔ readLine lookup line = .error e := by
  unfold readLine
  simp only
  split
  · simp
  · split
    · simp
    · split
      · simp
      · rw [Success.map_eq_error, Success.map_eq_error, readValue_error lookup lookup']

/-- A line of a file that is no text, or that cannot be read whatever the names in it stand
for. -/
def IsRejected (line : Bytes) : Prop :=
  ∀ text, Text.Utf8.decode? line = some text → ∀ lookup, ∃ e, readLine lookup text = .error e

variable {environment : Environment} {done : List (String × String)} {line : Bytes}
  {lines : List Bytes} {text : String}

theorem not_isRejected_iff (htext : Text.Utf8.decode? line = some text)
    (lookup : String → String) :
    ¬ IsRejected line ↔ ∃ assignment, readLine lookup text = .ok assignment := by
  constructor
  · intro hnot
    cases hline : readLine lookup text with
    | ok assignment => exact ⟨assignment, rfl⟩
    | error e =>
      refine (hnot fun text' htext' lookup' => ⟨e, ?_⟩).elim
      rw [htext, Option.some.injEq] at htext'
      rw [← htext']
      exact (readLine_error lookup lookup').2 hline
  · rintro ⟨assignment, hline⟩ hrejected
    obtain ⟨e, herror⟩ := hrejected text htext lookup
    cases herror.symm.trans hline

/-- The assignments of some lines can be had when no line is rejected. -/
theorem exists_readLines_iff :
    (∃ values, readLines environment done lines = .ok values) ↔
      ∀ line ∈ lines, ¬ IsRejected line := by
  induction lines generalizing done with
  | nil => simp [readLines]
  | cons line lines ih =>
    rw [List.forall_mem_cons]
    unfold readLines
    cases htext : Text.Utf8.decode? line with
    | none =>
      have hrejected : IsRejected line := fun text h => by
        rw [htext] at h
        cases h
      simp [hrejected]
    | some text =>
      rw [not_isRejected_iff htext (valueOf environment done)]
      cases hline : readLine (valueOf environment done) text with
      | error e => simp [hline]
      | ok assignment => cases assignment <;> simp [hline, ih]

theorem exists_parse_iff {bytes : Bytes} :
    (∃ values, parse environment bytes = .ok values) ↔
      ∀ line ∈ linesOf bytes, ¬ IsRejected line :=
  exists_readLines_iff

end ImagePrompt.Dotenv
