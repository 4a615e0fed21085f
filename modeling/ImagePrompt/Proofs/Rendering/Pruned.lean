import ImagePrompt.Proofs.Document.Pruned
import ImagePrompt.Proofs.Rendering.Guidance
/-!
# What is rendered of pruned documents

No section of the text shows a member that its record does not know, so a
pruned document is rendered to the same text, with the same remarks.
-/

namespace ImagePrompt

/-! ## Photographs -/

namespace Subject

@[simp] theorem hairPhrase_pruned {h : Hair} : hairPhrase h.pruned = hairPhrase h := rfl

@[simp] theorem description?_pruned {s : Subject} : s.pruned.description? = s.description? := by
  have htraits : s.pruned.traits = s.traits := by
    simp [traits, pruned, Option.map_map, Function.comp_def, Garment.pruned, Accessory.pruned]
  rw [description?, description?, htraits]
  rfl

@[simp] theorem lines_map_pruned {number : Nat} {subjects : List Subject} :
    lines number (subjects.map pruned) = lines number subjects := by
  induction subjects generalizing number with
  | nil => rfl
  | cons s subjects ih => rw [List.map_cons, lines, lines, ih, description?_pruned]

end Subject

@[simp] theorem Scene.lines_pruned {s : Scene} : s.pruned.lines = s.lines := by
  unfold Scene.lines
  cases h : s.lighting with
  | none => simp [Scene.pruned, h]
  | some l => simp [Scene.pruned, h, Lighting.pruned]

@[simp] theorem Technical.lines_pruned {t : Technical} : t.pruned.lines = t.lines := rfl

@[simp] theorem Composition.lines_pruned {c : Composition} : c.pruned.lines = c.lines := rfl

@[simp] theorem TextRendering.lines_pruned {t : TextRendering} : t.pruned.lines = t.lines := rfl

/-! ## Designs -/

@[simp] theorem DesignLayout.lines_pruned {l : DesignLayout} : l.pruned.lines = l.lines := rfl

@[simp] theorem Hierarchy.lines_pruned {h : Hierarchy} : h.pruned.lines = h.lines := rfl

@[simp] theorem ColorScheme.lines_pruned {c : ColorScheme} : c.pruned.lines = c.lines := rfl

@[simp] theorem Typography.lines_pruned {t : Typography} : t.pruned.lines = t.lines := rfl

@[simp] theorem DesignElement.words_pruned {e : DesignElement} : e.pruned.words = e.words := rfl

@[simp] theorem VisualStyle.lines_pruned {v : VisualStyle} : v.pruned.lines = v.lines := rfl

@[simp] theorem GraphicDesign.lines_pruned {g : GraphicDesign} : g.pruned.lines = g.lines := by
  simp [lines, pruned, Option.map_map, Function.comp_def, List.flatMap_map]

@[simp] theorem UiLayout.lines_pruned {l : UiLayout} : l.pruned.lines = l.lines := rfl

@[simp] theorem UiComponent.words_pruned {c : UiComponent} : c.pruned.words = c.words := rfl

@[simp] theorem ColorSystem.lines_pruned {c : ColorSystem} : c.pruned.lines = c.lines := rfl

@[simp] theorem TypographySystem.lines_pruned {t : TypographySystem} :
    t.pruned.lines = t.lines := rfl

@[simp] theorem InteractionStates.lines_pruned {i : InteractionStates} :
    i.pruned.lines = i.lines := rfl

@[simp] theorem Styling.lines_pruned {s : Styling} : s.pruned.lines = s.lines := rfl

@[simp] theorem Iconography.lines_pruned {i : Iconography} : i.pruned.lines = i.lines := rfl

@[simp] theorem UiDesign.lines_pruned {u : UiDesign} : u.pruned.lines = u.lines := by
  simp [lines, pruned, Option.map_map, Function.comp_def, List.flatMap_map]

@[simp] theorem StyleModifiers.lines_pruned {s : StyleModifiers} : s.pruned.lines = s.lines := rfl

/-! ## Images -/

@[simp] theorem ImageRef.advisory_pruned {r : ImageRef} : r.pruned.advisory = r.advisory := rfl

namespace DeclaredImage

def pruned (declared : DeclaredImage) : DeclaredImage :=
  { declared with image := declared.image.pruned }

@[simp] theorem describe_pruned {declared : DeclaredImage} :
    PromptLine.describe declared.pruned = PromptLine.describe declared := rfl

end DeclaredImage

namespace PromptDocument

theorem subjectImages_map_pruned {index : Nat} {subjects : List Subject} :
    subjectImages index (subjects.map Subject.pruned) =
      (subjectImages index subjects).map DeclaredImage.pruned := by
  induction subjects generalizing index with
  | nil => rfl
  | cons s subjects ih =>
    rw [List.map_cons, subjectImages, subjectImages, List.map_append, ih]
    congr 1
    cases h : s.inputImage <;> simp [Subject.pruned, h, DeclaredImage.pruned]

theorem numberedReferences_map_pruned {index : Nat} {references : List ImageRef} :
    numberedReferences index (references.map ImageRef.pruned) =
      (numberedReferences index references).map DeclaredImage.pruned := by
  induction references generalizing index with
  | nil => rfl
  | cons r references ih =>
    rw [List.map_cons, numberedReferences, numberedReferences, List.map_cons, ih]
    rfl

variable {d : PromptDocument}

theorem declaredImages_pruned : d.pruned.declaredImages = d.declaredImages.map .pruned := by
  simp only [declaredImages, List.map_append]
  congr 1
  · congr 1
    · congr 1
      · cases h : d.inputImage <;> simp [pruned, h, DeclaredImage.pruned]
      · exact subjectImages_map_pruned
    · cases h : d.baseImage <;> simp [pruned, h, DeclaredImage.pruned]
  · exact numberedReferences_map_pruned

theorem isHybrid_pruned : d.pruned.isHybrid = d.isHybrid := by
  simp [isHybrid, pruned, Function.comp_def, Subject.pruned]

theorem map_text_referenceLines_pruned {number : Nat} {declared : List DeclaredImage} :
    (referenceLines number (declared.map .pruned)).map PromptLine.text =
      (referenceLines number declared).map PromptLine.text := by
  induction declared generalizing number with
  | nil => rfl
  | cons image declared ih =>
    rw [List.map_cons, referenceLines, referenceLines, List.map_cons, List.map_cons, ih]
    rfl

/-! ## Edits -/

theorem fate_pruned {e : Edit} : d.pruned.fate e.pruned = d.fate e := by
  have hlocks : d.pruned.locks = d.locks := by
    funext target
    cases h : d.lock <;> simp [locks, pruned, h, Lock.pruned, Lock.covers]
  have hgoverns : d.pruned.governs = d.governs := by
    funext target
    rw [governs, governs, declaredImages_pruned, List.any_map]
    rfl
  exact fate_congr hlocks hgoverns rfl

theorem renderWarnings_pruned : d.pruned.renderWarnings = d.renderWarnings := by
  have hwarning : d.pruned.editWarning ∘ Edit.pruned = d.editWarning :=
    funext fun _ => editWarning_congr fate_pruned
  rw [renderWarnings, renderWarnings, ← hwarning, ← List.filterMap_map]
  rfl

theorem filterMap_editLine_pruned :
    d.pruned.edits.filterMap d.pruned.editLine = d.edits.filterMap d.editLine := by
  have hline : d.pruned.editLine ∘ Edit.pruned = d.editLine :=
    funext fun _ => editLine_congr fate_pruned rfl rfl rfl
  rw [← hline, ← List.filterMap_map]
  rfl

/-! ## The text -/

theorem map_text_guidanceLines_pruned :
    d.pruned.guidanceLines.map PromptLine.text = d.guidanceLines.map PromptLine.text := by
  have hlocked : d.pruned.lockedElements = d.lockedElements := by
    cases h : d.lock <;> simp [lockedElements, pruned, h, Lock.pruned]
  simp only [guidanceLines, List.map_append, hlocked, declaredImages_pruned,
    map_text_referenceLines_pruned, filterMap_editLine_pruned]

theorem domainLines_pruned : d.pruned.domainLines = d.domainLines := by
  have hdomain : d.pruned.settings.effectiveDomain = d.settings.effectiveDomain := rfl
  unfold domainLines
  rw [hdomain]
  cases d.settings.effectiveDomain with
  | photography =>
    simp [photographLines, pruned, Option.map_map, Function.comp_def]
  | graphicDesign | uiDesign => simp [pruned, Option.map_map, Function.comp_def]

theorem exclusions_pruned : d.pruned.exclusions = d.exclusions := by
  have hnegative : (d.pruned.advanced.map Advanced.negativePrompt).getD [] =
      (d.advanced.map Advanced.negativePrompt).getD [] := by
    cases h : d.advanced <;> simp [pruned, h, Advanced.pruned]
  rw [exclusions, exclusions, hnegative]
  rfl

theorem promptText_pruned : d.pruned.promptText = d.promptText := by
  have hstyle : (d.pruned.styleModifiers.map StyleModifiers.lines).getD [] =
      (d.styleModifiers.map StyleModifiers.lines).getD [] := by
    simp [pruned, Option.map_map, Function.comp_def]
  have hlines : d.pruned.lines.map PromptLine.text = d.lines.map PromptLine.text := by
    simp only [lines, List.map_append, map_text_guidanceLines_pruned, domainLines_pruned,
      exclusions_pruned, hstyle]
    rfl
  rw [promptText, promptText, hlines]

end PromptDocument

end ImagePrompt
