import ImagePrompt.Proofs.Rendering.Alike
/-!
# Blank fields

A field that is empty or holds white space only says the same as a field that is not there, wherever
in the document it stands.
-/

namespace ImagePrompt

open Text

/-- An optional text is kept or, if it is blank, taken away. -/
inductive Silenced : Option String → Option String → Prop
  | kept (s : Option String) : Silenced s s
  | taken {s : String} (h : isBlank s = true) : Silenced (some s) none

/-- A value that is free of form is kept or, if it is a blank text, taken away. -/
inductive SilencedValue : Option Json → Option Json → Prop
  | kept (v : Option Json) : SilencedValue v v
  | taken {s : String} (h : isBlank s = true) : SilencedValue (some (.string s)) none

/-- Documents that differ in blank fields, which the second one lacks. -/
def Likeness.silencing : Likeness where
  name := Silenced
  text := Silenced
  free := SilencedValue
  thins := False
  name_none := .kept none
  text_none := .kept none
  free_none := .kept none

theorem Silenced.filled_eq {a b : Option String} (h : Silenced a b) : filled b = filled a := by
  cases h with
  | kept => rfl
  | taken h => simp [filled, Option.filter_some, h]

theorem SilencedValue.freeText_eq {v w : Option Json} (h : SilencedValue v w) :
    w.bind freeText = v.bind freeText := by
  cases h with
  | kept => rfl
  | taken h => simp [freeText, h]

theorem Likeness.faithful_silencing : Likeness.silencing.Faithful where
  name h := congrArg (Option.map trim) h.filled_eq
  text h := h.filled_eq
  entry h := by
    cases h
    rfl
  free h := h.freeText_eq

/-- Taking away any blank fields changes neither the text of a document nor the remarks on it. -/
theorem PromptDocument.rendersAlike_of_silenced {d d' : PromptDocument}
    (h : d.Like .silencing d') : RendersAlike d d' where
  text := h.promptText Likeness.faithful_silencing (h.keepsEntries not_false)
    (h.readsAlike fun _ _ => Silenced.filled_eq)
  warnings := h.renderWarnings Likeness.faithful_silencing fun _ _ => Silenced.filled_eq

/-- A document with blank fields at every depth. -/
def hollow : PromptDocument where
  userIntent := some ""
  settings := { quality := some " " }
  subjects := [{
    name := some "Ada"
    kind := some "\t"
    age := some (.string " ")
    hair := some { color := some "dark_brown", style := some "" }
    clothing := [{ item := some "coat", color := some " " }]
    inputImage := some { path := "ada.png", description := some "", target := some " " } }]
  scene := some { time := some " ", lighting := some { kind := some "" } }
  technical := some { cameraModel := some " ", lens := some "35mm" }
  edits := [{ target := some " ", action := some "brighten" }]
  lock := some { elements := [" "] }

def hollowed : PromptDocument where
  subjects := [{
    name := some "Ada"
    hair := some { color := some "dark_brown" }
    clothing := [{ item := some "coat" }]
    inputImage := some { path := "ada.png" } }]
  scene := some { lighting := some {} }
  technical := some { lens := some "35mm" }
  edits := [{ action := some "brighten" }]
  lock := some { elements := [" "] }

theorem hollow_like : hollow.Like .silencing hollowed :=
  { PromptDocument.Like.empty .silencing with
    userIntent := .taken (by decide)
    quality := .taken (by decide)
    subjects := .cons
      { Subject.Like.empty .silencing with
        name := .kept _
        kind := .taken (by decide)
        age := .taken (by decide)
        hair := .some ⟨.kept _, .taken (by decide)⟩
        clothing := .keep ⟨.kept _, .taken (by decide), .kept _⟩ .nil
        inputImage := .some ⟨rfl, rfl, .taken (by decide), .taken (by decide)⟩ } .nil
    scene := .some ⟨.kept _, .taken (by decide), .kept _,
      .some ⟨.taken (by decide), .kept _⟩, .nil⟩
    technical := .some ⟨.taken (by decide), .kept _, .kept _, .kept _⟩
    edits := .cons ⟨.taken (by decide), .kept _, .kept _⟩ .nil
    lock := .some ⟨.keep (.kept _) .nil⟩ }

theorem hollow_rendersAlike :
    hollow.Like .silencing hollowed ∧ PromptDocument.RendersAlike hollow hollowed :=
  ⟨hollow_like, PromptDocument.rendersAlike_of_silenced hollow_like⟩

end ImagePrompt
