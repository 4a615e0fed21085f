import ImagePrompt.Proofs.Rendering.Domain
import ImagePrompt.Proofs.Rendering.Likeness
/-!
# Documents that are rendered alike

Documents that are alike in a faithful way drop the same edits, and they are rendered to one text as
long as no entry is left out of the lists that show blank ones, and as the names that are compared as
they are written read the same.
-/

namespace ImagePrompt

open PromptLine Text

/-! ## Edits -/

/-- Edits that come to the same, of targets that are equal up to white space around them. -/
inductive EditFate.Like : EditFate → EditFate → Prop
  | locked {target target' : String} (h : trim target' = trim target) :
      EditFate.Like (.locked target) (.locked target')
  | governed {target target' : String} (h : trim target' = trim target) :
      EditFate.Like (.governed target) (.governed target')
  | applied : EditFate.Like .applied .applied

theorem sameThing_congr {thing thing' target target' : String} (hthing : trim thing' = trim thing)
    (htarget : trim target' = trim target) :
    Lock.sameThing thing' target' = Lock.sameThing thing target := by
  unfold Lock.sameThing
  rw [hthing, htarget]

/-- A blank text names nothing. -/
theorem sameThing_of_isBlank {thing target : String} (hthing : isBlank thing = true)
    (htarget : trim target ≠ "") : Lock.sameThing thing target = false := by
  rw [← Bool.not_eq_true, sameThing_iff]
  exact fun hsame => hsame.trim_ne htarget (isBlank_iff.1 hthing)

theorem any_sameThing_filled (thing : Option String) {target : String} (h : trim target ≠ "") :
    (filled thing).any (Lock.sameThing · target) = thing.any (Lock.sameThing · target) := by
  cases thing with
  | none => rfl
  | some s =>
    by_cases hs : isBlank s = true
    · have hnone : filled (some s) = none := by simp [filled, hs]
      rw [hnone, Option.any_none, Option.any_some, sameThing_of_isBlank hs h]
    · have hsome : filled (some s) = some s := by simp [filled, hs]
      rw [hsome]

theorem Likeness.Faithful.any_sameThing {L : Likeness} (hL : L.Faithful) {a b : Option String}
    {target target' : String} (h : L.name a b) (htrim : trim target' = trim target)
    (hne : trim target ≠ "") :
    b.any (Lock.sameThing · target') = a.any (Lock.sameThing · target) := by
  have hne' : trim target' ≠ "" := htrim ▸ hne
  have ha := any_sameThing_filled a hne
  have hb := any_sameThing_filled b hne'
  rw [← ha, ← hb]
  obtain ⟨ha, hb⟩ | ⟨s, t, ha, hb, hsame⟩ := hL.name_cases h
  · rw [ha, hb, Option.any_none, Option.any_none]
  · rw [ha, hb, Option.any_some, Option.any_some, sameThing_congr hsame htrim]

namespace PromptDocument

variable {L : Likeness} (hL : L.Faithful) {d d' : PromptDocument} (h : d.Like L d')
  {target target' : String}

theorem lockedElements_eq (d : PromptDocument) :
    d.lockedElements = d.kept.elements.filter (!isBlank ·) :=
  congrArg (List.filter (!isBlank ·)) (section_getD rfl d.lock)

theorem locks_eq (d : PromptDocument) (target : String) :
    d.locks target = d.kept.covers target := by
  unfold PromptDocument.locks kept
  cases d.lock with
  | none => rfl
  | some _ => rfl

namespace Like

include h in
theorem declaredImages : List.Forall₂ (DeclaredImage.Like L) d.declaredImages d'.declaredImages :=
  List.rel_append (List.rel_append (List.rel_append (declared_like .inputImage h.inputImage)
    (subjectImages_like h.subjects)) (declared_like .baseImage h.baseImage))
    (numberedReferences_like h.referenceImages)

include hL h

theorem lockedElements : d'.lockedElements = d.lockedElements := by
  rw [lockedElements_eq, lockedElements_eq]
  exact h.kept.elements.filter_eq (fun _ _ => hL.entry) fun _ hspare => by simp [hspare.2]

theorem locks (htrim : trim target' = trim target) (hne : trim target ≠ "") :
    d'.locks target' = d.locks target := by
  rw [locks_eq, locks_eq, Lock.covers, Lock.covers]
  exact h.kept.elements.any_eq
    (fun _ _ hentry => sameThing_congr (congrArg trim (hL.entry hentry)) htrim)
    fun _ hspare => sameThing_of_isBlank hspare.2 hne

theorem governs (htrim : trim target' = trim target) (hne : trim target ≠ "") :
    d'.governs target' = d.governs target := by
  rw [PromptDocument.governs, PromptDocument.governs]
  exact any_eq_of_forall₂ h.declaredImages fun _ _ himage =>
    hL.any_sameThing himage.image.target htrim hne

variable {e e' : Edit} (he : e.Like L e')
include he

theorem fate : EditFate.Like (d.fate e) (d'.fate e') := by
  unfold PromptDocument.fate
  obtain ⟨ha, hb⟩ | ⟨s, t, ha, hb, htrim⟩ := hL.name_cases he.target
  · rw [ha, hb]
    exact .applied
  · have hne : trim s ≠ "" := (filled_eq_some_iff.1 ha).2
    rw [ha, hb]
    dsimp only
    rw [h.locks hL htrim hne, h.governs hL htrim hne]
    split
    · exact .locked htrim
    · split
      · exact .governed htrim
      · exact .applied

theorem editLine : (d'.editLine e').map PromptLine.text = (d.editLine e).map PromptLine.text := by
  have hfate := h.fate hL he
  unfold PromptDocument.editLine
  generalize d.fate e = fate at hfate ⊢
  generalize d'.fate e' = fate' at hfate ⊢
  cases hfate with
  | locked _ | governed _ => rfl
  | applied =>
    have hempty : (phrases [e'.action, e'.target, e'.description] id).isEmpty =
        (phrases [e.action, e.target, e.description] id).isEmpty := by
      rw [Bool.eq_iff_iff, isEmpty_phrases_iff, isEmpty_phrases_iff]
      simp [hL.silent_name he.action, hL.silent_name he.target, hL.text he.description]
    have hactions : phrases [e'.action, e'.target] (fun t => " " ++ spaced t) =
        phrases [e.action, e.target] (fun t => " " ++ spaced t) := by
      simp [phrases, hL.phrase_name he.action, hL.phrase_name he.target]
    have htext : (PromptLine.edit e'.action e'.target e'.description).text =
        (PromptLine.edit e.action e.target e.description).text := by
      rw [PromptLine.text_edit, PromptLine.text_edit, hactions, hL.phrase_text he.description]
    dsimp only
    rw [hempty]
    split
    · rfl
    · rw [Option.map_some, Option.map_some, htext]

omit he in
/-- Where targets are kept as they are written, the fate of an edit is the very same. -/
theorem editWarning (htarget : filled e'.target = filled e.target) :
    d'.editWarning e' = d.editWarning e := by
  have hfate : d'.fate e' = d.fate e := by
    unfold PromptDocument.fate
    rw [htarget]
    cases htarget : filled e.target with
    | none => rfl
    | some target =>
      have hne : trim target ≠ "" := (filled_eq_some_iff.1 htarget).2
      dsimp only
      rw [h.locks hL rfl hne, h.governs hL rfl hne]
  exact editWarning_congr hfate

end Like

/-! ## The text -/

theorem domainLines_eq (d : PromptDocument) :
    d.domainLines = match d.settings.effectiveDomain with
      | .photography => d.photographLines
      | .graphicDesign => d.design.lines
      | .uiDesign => d.screen.lines := by
  unfold domainLines
  cases d.settings.effectiveDomain with
  | photography => rfl
  | graphicDesign => exact section_getD rfl _
  | uiDesign => exact section_getD rfl _

/-- The line of what a document excludes. -/
def avoidLines (d : PromptDocument) : List PromptLine :=
  if d.exclusions.isEmpty then [] else [.avoid d.exclusions]

theorem lines_assembled (d : PromptDocument) :
    d.lines = (phrase d.userIntent id).map .intent ++
      (phrase d.settings.quality spaced).map (.labelled "Style") ++ d.domainLines ++
      d.guidanceLines ++ d.manner.lines ++ d.avoidLines := by
  have hmanner : (d.styleModifiers.map StyleModifiers.lines).getD [] = d.manner.lines :=
    section_getD rfl _
  rw [lines, hmanner, avoidLines]

theorem exclusions_eq (d : PromptDocument) : d.exclusions = d.negatives ++ d.domainExclusions :=
  congrArg (· ++ d.domainExclusions) (section_getD rfl _)

theorem domainExclusions_of_graphicDesign {d : PromptDocument}
    (h : d.settings.effectiveDomain = .graphicDesign) :
    d.domainExclusions = if d.AsksForIllustration then illustrationExclusions else [] := by
  unfold domainExclusions AsksForIllustration
  rw [h]
  exact if_congr (by simp only [Bool.or_eq_true, beq_iff_eq]) rfl rfl

namespace Like

include hL h

/-- Photographs that are alike differ in the line of their scene, if at all. -/
theorem photographLines_around :
    Around d.place.lines d'.place.lines d.photographLines d'.photographLines := by
  have hplace (d : PromptDocument) : (d.scene.map Scene.lines).getD [] = d.place.lines :=
    section_getD rfl _
  refine ⟨Subject.lines 1 d.subjects, (d.technical.map Technical.lines).getD [] ++
    (d.composition.map Composition.lines).getD [] ++
    (d.textRendering.map TextRendering.lines).getD [], ?_, ?_⟩
  · simp only [PromptDocument.photographLines, hplace, List.append_assoc]
  · simp only [PromptDocument.photographLines, hplace, List.append_assoc,
      Subject.lines_like hL h.subjects,
      section_eq h.technical fun _ _ => Technical.Like.lines hL,
      section_eq h.composition fun _ _ => Composition.Like.lines hL,
      section_eq h.textRendering fun _ _ => TextRendering.Like.lines hL]

theorem domainLines (hkept : d.KeepsEntries d') (hreads : d.ReadsAlike d') :
    d'.domainLines = d.domainLines := by
  rw [domainLines_eq, domainLines_eq, h.domain]
  cases hdomain : d.settings.effectiveDomain with
  | photography =>
    exact (h.photographLines_around hL).eq (h.place.lines hL (hkept.background hdomain))
  | graphicDesign => exact h.design.lines hL (hreads.effects hdomain)
  | uiDesign =>
    exact h.screen.lines hL (hreads.hoverEffect hdomain) (hreads.focusStyle hdomain)
      (hreads.shadow hdomain)

theorem exclusions (hnegatives : d'.negatives.length = d.negatives.length)
    (hquality : d.settings.effectiveDomain = .graphicDesign →
      (d'.AsksForIllustration ↔ d.AsksForIllustration)) : d'.exclusions = d.exclusions := by
  have hown : d'.negatives = d.negatives := hL.texts_eq h.negatives hnegatives
  have hdomain : d'.domainExclusions = d.domainExclusions := by
    cases hdomain : d.settings.effectiveDomain with
    | photography | uiDesign => rw [domainExclusions, domainExclusions, h.domain, hdomain]
    | graphicDesign =>
      rw [domainExclusions_of_graphicDesign hdomain,
        domainExclusions_of_graphicDesign (h.domain.trans hdomain)]
      exact if_congr (hquality hdomain) rfl rfl
  rw [exclusions_eq, exclusions_eq, hown, hdomain]

theorem map_text_guidanceLines :
    d'.guidanceLines.map PromptLine.text = d.guidanceLines.map PromptLine.text := by
  have hedits : (d'.edits.filterMap d'.editLine).map PromptLine.text =
      (d.edits.filterMap d.editLine).map PromptLine.text := by
    rw [List.map_filterMap, List.map_filterMap]
    exact filterMap_eq_of_forall₂ h.edits fun _ _ he => h.editLine hL he
  simp only [guidanceLines, List.map_append, h.lockedElements hL,
    map_text_referenceLines_like hL h.declaredImages, hedits]

/-- Documents that are alike in a faithful way are rendered to one text. -/
theorem promptText (hkept : d.KeepsEntries d') (hreads : d.ReadsAlike d') :
    d'.promptText = d.promptText := by
  have hlines : d'.lines.map PromptLine.text = d.lines.map PromptLine.text := by
    simp only [lines_assembled, avoidLines, List.map_append, hL.phrase_text h.userIntent,
      hL.phrase_name h.quality spelled_spaced, h.domainLines hL hkept hreads,
      h.map_text_guidanceLines hL, h.manner.lines hL hkept.aesthetics hkept.models,
      h.exclusions hL hkept.negatives hreads.quality]
  rw [PromptDocument.promptText, PromptDocument.promptText, hlines]

/-- They have the same remarks, too, where targets are kept as they are written. -/
theorem renderWarnings (hnames : ∀ a b, L.name a b → filled b = filled a) :
    d'.renderWarnings = d.renderWarnings :=
  filterMap_eq_of_forall₂ h.edits fun _ _ he => h.editWarning hL (hnames _ _ he.target)

end Like

end PromptDocument

end ImagePrompt
