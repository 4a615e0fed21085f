import ImagePrompt.Rendering.Basic
/-!
# Where the lines of locks, images and edits stand

No section but the guidance has lines of locks, declared images or edits. The
lines of images stand in one run there, numbered from one on in the order in
which they are attached.
-/

namespace ImagePrompt

namespace PromptLine

/-- A line about locks, a declared image or an edit. -/
def isGuidance : PromptLine → Bool
  | .preserve _ | .reference .. | .edit .. => true
  | _ => false

def isReference : PromptLine → Bool
  | .reference .. => true
  | _ => false

def isEdit : PromptLine → Bool
  | .edit .. => true
  | _ => false

theorem isGuidance_of_isReference {line : PromptLine} (h : line.isReference = true) :
    line.isGuidance = true := by
  cases line with
  | reference _ _ => rfl
  | _ => cases h

theorem isGuidance_of_isEdit {line : PromptLine} (h : line.isEdit = true) :
    line.isGuidance = true := by
  cases line with
  | edit _ _ _ => rfl
  | _ => cases h

/-- Where there is no guidance, there is none of any kind. -/
theorem filter_eq_nil_of_isGuidance {p : PromptLine → Bool} {lines : List PromptLine}
    (hp : ∀ {line}, p line = true → line.isGuidance = true)
    (hlines : lines.filter isGuidance = []) : lines.filter p = [] := by
  rw [List.filter_eq_nil_iff] at hlines ⊢
  exact fun line hline hkind => hlines line hline (hp hkind)

end PromptLine

namespace PromptDocument

theorem getElem?_referenceLines (number i : Nat) (declared : List DeclaredImage) :
    (referenceLines number declared)[i]? = declared[i]?.map (.reference (number + i)) := by
  induction declared generalizing number i with
  | nil => simp [referenceLines]
  | cons d rest ih =>
    cases i with
    | zero => simp [referenceLines]
    | succ i =>
      simp only [referenceLines, List.getElem?_cons_succ, ih]
      rw [Nat.add_assoc, Nat.add_comm 1 i]

@[simp] theorem length_referenceLines (number : Nat) (declared : List DeclaredImage) :
    (referenceLines number declared).length = declared.length := by
  induction declared generalizing number with
  | nil => rfl
  | cons d rest ih => simp [referenceLines, ih]

/-! ## Sections without guidance -/

open PromptLine

@[simp] theorem filter_listed (label : String) (parts : List String) :
    (listed label parts).filter isGuidance = [] := by
  unfold listed
  split <;> simp [isGuidance]

@[simp] theorem filter_map_labelled (label : String) (bodies : List String) :
    (bodies.map (labelled label)).filter isGuidance = [] := by
  simp [List.filter_map, Function.comp_def, isGuidance]

theorem filter_section {α : Type} {f : α → List PromptLine}
    (h : ∀ a, (f a).filter isGuidance = []) (o : Option α) :
    ((o.map f).getD []).filter isGuidance = [] := by
  cases o with
  | none => rfl
  | some a => exact h a

@[simp] theorem filter_subjectLines (number : Nat) (subjects : List Subject) :
    (Subject.lines number subjects).filter isGuidance = [] := by
  induction subjects generalizing number with
  | nil => rfl
  | cons s rest ih =>
    rw [Subject.lines, List.filter_append, ih, List.append_nil]
    cases s.description? <;> simp [isGuidance]

theorem filter_sceneLines (s : Scene) : s.lines.filter isGuidance = [] := by
  unfold Scene.lines
  split <;> simp [isGuidance]

theorem filter_textRenderingLines (t : TextRendering) : t.lines.filter isGuidance = [] := by
  simp only [TextRendering.lines]
  split <;> simp [isGuidance]

theorem filter_photographLines (d : PromptDocument) :
    d.photographLines.filter isGuidance = [] := by
  simp [photographLines, filter_section, filter_sceneLines, filter_textRenderingLines,
    Technical.lines, Composition.lines]

theorem filter_graphicDesignLines (g : GraphicDesign) : g.lines.filter isGuidance = [] := by
  simp [GraphicDesign.lines, filter_section, DesignLayout.lines, Hierarchy.lines,
    ColorScheme.lines, Typography.lines, VisualStyle.lines]

theorem filter_uiDesignLines (u : UiDesign) : u.lines.filter isGuidance = [] := by
  simp [UiDesign.lines, filter_section, UiLayout.lines, ColorSystem.lines,
    TypographySystem.lines, InteractionStates.lines, Styling.lines, Iconography.lines]

theorem filter_domainLines (d : PromptDocument) : d.domainLines.filter isGuidance = [] := by
  unfold domainLines
  split
  · exact filter_photographLines d
  · exact filter_section filter_graphicDesignLines d.graphicDesign
  · exact filter_section filter_uiDesignLines d.uiDesign

theorem filter_styleLines (d : PromptDocument) :
    ((d.styleModifiers.map StyleModifiers.lines).getD []).filter isGuidance = [] :=
  filter_section (fun _ => filter_listed _ _) d.styleModifiers

theorem isEdit_of_editLine {d : PromptDocument} {e : Edit} {line : PromptLine}
    (h : d.editLine e = some line) : line.isEdit = true := by
  unfold editLine at h
  split at h
  · split at h <;> simp at h
    simp [← h, isEdit]
  · cases h

theorem filter_editLines (d : PromptDocument) :
    (d.edits.filterMap d.editLine).filter isReference = [] := by
  rw [List.filter_eq_nil_iff]
  intro line hline
  obtain ⟨e, -, he⟩ := List.mem_filterMap.1 hline
  have hedit := isEdit_of_editLine he
  cases line with
  | edit _ _ _ => simp [isReference]
  | _ => cases hedit

/-! ## What becomes of an edit -/

section Edits

variable {d d' : PromptDocument} {e e' : Edit}

theorem fate_congr (hlocks : d'.locks = d.locks) (hgoverns : d'.governs = d.governs)
    (htarget : e'.target = e.target) : d'.fate e' = d.fate e := by
  rw [fate, fate, hlocks, hgoverns, htarget]

theorem editWarning_congr (h : d'.fate e' = d.fate e) : d'.editWarning e' = d.editWarning e := by
  rw [editWarning, editWarning, h]

theorem editLine_congr (h : d'.fate e' = d.fate e) (haction : e'.action = e.action)
    (htarget : e'.target = e.target) (hdescription : e'.description = e.description) :
    d'.editLine e' = d.editLine e := by
  rw [editLine, editLine, h, haction, htarget, hdescription]

end Edits

/-! ## The run of lines of images -/

def linesBefore (d : PromptDocument) : List PromptLine :=
  (phrase d.userIntent id).map .intent ++
  (phrase d.settings.quality spaced).map (.labelled "Style") ++
  d.domainLines ++
  (if d.lockedElements.isEmpty then [] else [.preserve d.lockedElements])

def linesBehind (d : PromptDocument) : List PromptLine :=
  d.edits.filterMap d.editLine ++
  (d.styleModifiers.map StyleModifiers.lines).getD [] ++
  (if d.exclusions.isEmpty then [] else [.avoid d.exclusions])

theorem lines_eq (d : PromptDocument) :
    d.lines = d.linesBefore ++ referenceLines 1 d.declaredImages ++ d.linesBehind := by
  simp only [lines, linesBefore, linesBehind, guidanceLines, List.append_assoc]

theorem filter_linesBefore (d : PromptDocument) : d.linesBefore.filter isReference = [] := by
  have hdomain : d.domainLines.filter isReference = [] :=
    filter_eq_nil_of_isGuidance isGuidance_of_isReference (filter_domainLines d)
  simp only [linesBefore, List.filter_append, hdomain, List.filter_map]
  split <;> simp [isReference, Function.comp_def]

theorem filter_linesBehind (d : PromptDocument) : d.linesBehind.filter isReference = [] := by
  have hstyle : ((d.styleModifiers.map StyleModifiers.lines).getD []).filter isReference = [] :=
    filter_eq_nil_of_isGuidance isGuidance_of_isReference (filter_styleLines d)
  simp only [linesBehind, List.filter_append, filter_editLines, hstyle]
  split <;> simp [isReference]

/-- The text of a row of lines stands as a whole in the text of a longer row. -/
theorem intercalate_middle (separator : String) (before middle behind : List String) :
    ∃ head tail, separator.intercalate (before ++ middle ++ behind) =
      head ++ separator.intercalate middle ++ tail := by
  by_cases hmiddle : middle = []
  · subst hmiddle
    exact ⟨separator.intercalate (before ++ behind), "", by simp⟩
  have hfront : ∃ head, separator.intercalate (before ++ middle) =
      head ++ separator.intercalate middle := by
    by_cases hbefore : before = []
    · exact ⟨"", by simp [hbefore]⟩
    · exact ⟨separator.intercalate before ++ separator,
        by rw [String.intercalate_append_of_ne_nil hbefore hmiddle]⟩
  obtain ⟨head, hhead⟩ := hfront
  by_cases hbehind : behind = []
  · exact ⟨head, "", by simp [hbehind, hhead]⟩
  · have hne : before ++ middle ≠ [] := by simp [hmiddle]
    exact ⟨head, separator ++ separator.intercalate behind, by
      rw [String.intercalate_append_of_ne_nil hne hbehind, hhead]
      simp only [String.append_assoc]⟩

end PromptDocument

theorem isReference_of_mem_referenceLines {number : Nat} {declared : List DeclaredImage}
    {line : PromptLine} (h : line ∈ PromptDocument.referenceLines number declared) :
    line.isReference = true := by
  obtain ⟨i, hi⟩ := List.getElem?_of_mem h
  rw [PromptDocument.getElem?_referenceLines, Option.map_eq_some_iff] at hi
  obtain ⟨d, -, rfl⟩ := hi
  rfl

end ImagePrompt
