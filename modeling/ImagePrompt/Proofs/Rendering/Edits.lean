import ImagePrompt.Proofs.Rendering.Guidance
import ImagePrompt.Proofs.Text.Blank
/-!
# Locks before images before edits

What becomes of every edit of a document. A lock on its target drops it, then
an image that applies to its target does, and else it stands. Whatever drops
an edit is itself in the text: the locked element is preserved, and the image
says what it applies to.
-/

namespace ImagePrompt

open PromptLine

/-- Two texts that name one thing: white space around them and the case of ASCII letters are of no
account. -/
def SameName (a b : String) : Prop :=
  Text.asciiLower (Text.trim a) = Text.asciiLower (Text.trim b)

/-- An optional text that is there and is not blank. -/
def Says (s : Option String) (text : String) : Prop := s = some text ∧ Text.trim text ≠ ""

theorem sameThing_iff {a b : String} : Lock.sameThing a b = true ↔ SameName a b := by
  unfold Lock.sameThing Text.sameLetters SameName
  rw [beq_iff_eq]

theorem asciiLower_eq_empty_iff {s : String} : Text.asciiLower s = "" ↔ s = "" := by
  unfold Text.asciiLower
  rw [← String.ofList_nil, String.ofList_inj, List.map_eq_nil_iff, String.toList_eq_nil_iff]

/-- What names the same thing as a text that is not blank is not blank. -/
theorem SameName.trim_ne {a b : String} (h : SameName a b) (hb : Text.trim b ≠ "") :
    Text.trim a ≠ "" := by
  intro ha
  unfold SameName at h
  rw [ha, asciiLower_eq_empty_iff.2 rfl] at h
  exact hb (asciiLower_eq_empty_iff.1 h.symm)

theorem isEmpty_phrases_iff {ss : List (Option String)} {f : String → String} :
    (phrases ss f).isEmpty = true ↔ ∀ s ∈ ss, Text.filled s = none := by
  unfold phrases phrase
  rw [List.isEmpty_iff, List.flatMap_eq_nil_iff]
  simp only [Option.toList_eq_nil_iff, Option.map_eq_none_iff]

/-- An edit says what to do, to what, or how. -/
def Edit.Speaks (e : Edit) : Prop :=
  ∃ s ∈ [e.action, e.target, e.description], ∃ text, Says s text

theorem Edit.speaks_iff {e : Edit} :
    e.Speaks ↔ (phrases [e.action, e.target, e.description] id).isEmpty = false := by
  unfold Speaks Says
  rw [← Bool.not_eq_true, isEmpty_phrases_iff]
  simp only [← Text.filled_eq_some_iff, not_forall, exists_prop, ← Option.ne_none_iff_exists']

namespace PromptDocument

variable {d : PromptDocument} {e : Edit} {element target : String} {i : Nat}
  {declared : DeclaredImage} {line : Option PromptLine} {warning : Option String}

/-- An element of the lock names the target. -/
def LocksAs (d : PromptDocument) (element target : String) : Prop :=
  (∃ l, d.lock = some l ∧ element ∈ l.elements) ∧ SameName element target

/-- The target of the `i`-th declared image names the target. -/
def GovernsAs (d : PromptDocument) (i : Nat) (declared : DeclaredImage) (target : String) : Prop :=
  d.declaredImages[i]? = some declared ∧ ∃ t, declared.image.target = some t ∧ SameName t target

/-- What stands in the way of an edit. -/
def Hindered (d : PromptDocument) (target : String) : Prop :=
  (∃ element, d.LocksAs element target) ∨ ∃ i declared, d.GovernsAs i declared target

theorem locks_iff : d.locks target = true ↔ ∃ element, d.LocksAs element target := by
  unfold locks Lock.covers LocksAs
  rw [Option.any_eq_true]
  simp only [List.any_eq_true, sameThing_iff]
  constructor
  · rintro ⟨l, hl, element, helement, hsame⟩
    exact ⟨element, ⟨l, hl, helement⟩, hsame⟩
  · rintro ⟨element, ⟨l, hl, helement⟩, hsame⟩
    exact ⟨l, hl, element, helement, hsame⟩

theorem governs_iff : d.governs target = true ↔ ∃ i declared, d.GovernsAs i declared target := by
  unfold governs GovernsAs
  rw [List.any_eq_true]
  simp only [Option.any_eq_true, sameThing_iff]
  constructor
  · rintro ⟨declared, hmem, t, ht, hsame⟩
    obtain ⟨i, hi⟩ := List.getElem?_of_mem hmem
    exact ⟨i, declared, hi, t, ht, hsame⟩
  · rintro ⟨i, declared, hi, t, ht, hsame⟩
    exact ⟨declared, List.mem_of_getElem? hi, t, ht, hsame⟩

/-! ## What becomes of one edit -/

theorem fate_of_locked (htarget : Says e.target target)
    (hlocked : ∃ element, d.LocksAs element target) : d.fate e = .locked target := by
  have hfilled : Text.filled e.target = some target := Text.filled_eq_some_iff.2 htarget
  unfold fate
  simp only [hfilled, if_pos (locks_iff.2 hlocked)]

theorem fate_of_governed (htarget : Says e.target target)
    (hfree : ¬ ∃ element, d.LocksAs element target)
    (hgoverned : ∃ i declared, d.GovernsAs i declared target) : d.fate e = .governed target := by
  have hfilled : Text.filled e.target = some target := Text.filled_eq_some_iff.2 htarget
  rw [← locks_iff] at hfree
  unfold fate
  simp only [hfilled, if_neg hfree, if_pos (governs_iff.2 hgoverned)]

theorem fate_of_free (hfree : ∀ target, Says e.target target → ¬ d.Hindered target) :
    d.fate e = .applied := by
  unfold fate
  cases hfilled : Text.filled e.target with
  | none => rfl
  | some target =>
    obtain ⟨hlocks, hgoverns⟩ := not_or.1 (hfree target (Text.filled_eq_some_iff.1 hfilled))
    rw [← locks_iff] at hlocks
    rw [← governs_iff] at hgoverns
    simp only [if_neg hlocks, if_neg hgoverns]

theorem editLine_of_applied (h : d.fate e = .applied) :
    d.editLine e =
      if (phrases [e.action, e.target, e.description] id).isEmpty then none
      else some (.edit e.action e.target e.description) := by
  unfold editLine
  rw [h]

theorem editWarning_of_applied (h : d.fate e = .applied) : d.editWarning e = none := by
  unfold editWarning
  rw [h]

/-- The line and the warning that an edit comes to. -/
inductive EditOutcome (d : PromptDocument) (e : Edit) : Option PromptLine → Option String → Prop
  | locked {target : String} (htarget : Says e.target target)
      (hlocked : ∃ element, d.LocksAs element target) :
      EditOutcome d e none (some ("edit on `" ++ target ++ "` dropped: target is locked"))
  | governed {target : String} (htarget : Says e.target target)
      (hfree : ¬ ∃ element, d.LocksAs element target)
      (hgoverned : ∃ i declared, d.GovernsAs i declared target) :
      EditOutcome d e none
        (some ("edit on `" ++ target ++ "` dropped: a reference image governs it"))
  | stands (hfree : ∀ target, Says e.target target → ¬ d.Hindered target) (hspeaks : e.Speaks) :
      EditOutcome d e (some (.edit e.action e.target e.description)) none
  | silent (hfree : ∀ target, Says e.target target → ¬ d.Hindered target) (hsilent : ¬ e.Speaks) :
      EditOutcome d e none none

theorem editOutcome_of_applied (h : d.fate e = .applied)
    (hfree : ∀ target, Says e.target target → ¬ d.Hindered target) :
    d.EditOutcome e (d.editLine e) (d.editWarning e) := by
  rw [editLine_of_applied h, editWarning_of_applied h]
  by_cases hspeaks : e.Speaks
  · have hsome := Edit.speaks_iff.1 hspeaks
    simp only [hsome, Bool.false_eq_true, if_false]
    exact .stands hfree hspeaks
  · have hnone : (phrases [e.action, e.target, e.description] id).isEmpty = true := by
      rwa [Edit.speaks_iff, Bool.not_eq_false] at hspeaks
    simp only [hnone, if_true]
    exact .silent hfree hspeaks

theorem editOutcome (d : PromptDocument) (e : Edit) :
    d.EditOutcome e (d.editLine e) (d.editWarning e) := by
  by_cases hhindered : ∃ target, Says e.target target ∧ d.Hindered target
  · obtain ⟨target, htarget, hhindered⟩ := hhindered
    by_cases hlocked : ∃ element, d.LocksAs element target
    · have hfate := fate_of_locked htarget hlocked
      unfold editLine editWarning
      rw [hfate]
      exact .locked htarget hlocked
    · have hgoverned := hhindered.resolve_left hlocked
      have hfate := fate_of_governed htarget hlocked hgoverned
      unfold editLine editWarning
      rw [hfate]
      exact .governed htarget hlocked hgoverned
  · have hfree : ∀ target, Says e.target target → ¬ d.Hindered target :=
      fun target htarget hin => hhindered ⟨target, htarget, hin⟩
    exact editOutcome_of_applied (fate_of_free hfree) hfree

/-- An edit comes to one line and one warning only. -/
theorem EditOutcome.eq (h : d.EditOutcome e line warning) :
    line = d.editLine e ∧ warning = d.editWarning e := by
  cases h with
  | locked htarget hlocked =>
    have hfate := fate_of_locked htarget hlocked
    unfold editLine editWarning
    rw [hfate]
    exact ⟨rfl, rfl⟩
  | governed htarget hfree hgoverned =>
    have hfate := fate_of_governed htarget hfree hgoverned
    unfold editLine editWarning
    rw [hfate]
    exact ⟨rfl, rfl⟩
  | stands hfree hspeaks =>
    have hfate := fate_of_free hfree
    rw [editLine_of_applied hfate, editWarning_of_applied hfate, Edit.speaks_iff.1 hspeaks]
    exact ⟨rfl, rfl⟩
  | silent hfree hsilent =>
    have hfate := fate_of_free hfree
    rw [Edit.speaks_iff, Bool.not_eq_false] at hsilent
    rw [editLine_of_applied hfate, editWarning_of_applied hfate, hsilent]
    exact ⟨rfl, rfl⟩

/-! ## What drops an edit is in the text -/

theorem mem_lockedElements (h : d.LocksAs element target) (htarget : Text.trim target ≠ "") :
    element ∈ d.lockedElements := by
  obtain ⟨⟨l, hl, helement⟩, hsame⟩ := h
  have hfilled : Text.isBlank element = false :=
    Text.isBlank_eq_false_iff.2 (hsame.trim_ne htarget)
  unfold lockedElements
  rw [hl]
  exact List.mem_filter.2 ⟨helement, by rw [hfilled]; rfl⟩

theorem guidance_mem_lines {line : PromptLine} (h : line ∈ d.guidanceLines) : line ∈ d.lines := by
  unfold lines
  simp only [List.mem_append]
  exact .inl (.inl (.inr h))

theorem preserve_mem_lines (h : element ∈ d.lockedElements) :
    PromptLine.preserve d.lockedElements ∈ d.lines := by
  have hsome : d.lockedElements.isEmpty = false :=
    List.isEmpty_eq_false_iff.2 (List.ne_nil_of_mem h)
  refine guidance_mem_lines ?_
  unfold guidanceLines
  simp [hsome]

theorem reference_mem_lines (h : d.declaredImages[i]? = some declared) :
    PromptLine.reference (i + 1) declared ∈ d.lines := by
  have hline : (referenceLines 1 d.declaredImages)[i]? = some (.reference (1 + i) declared) := by
    rw [getElem?_referenceLines, h]
    rfl
  refine guidance_mem_lines ?_
  unfold guidanceLines
  rw [Nat.add_comm] at hline
  simp [List.mem_of_getElem? hline]

/-- The description of an image says what it applies to. -/
theorem exists_describe_eq {t : String} (h : Says declared.image.target t) :
    ∃ head tail, describe declared = head ++ ", applies to " ++ spaced t ++ tail := by
  have hfilled : Text.filled declared.image.target = some t := Text.filled_eq_some_iff.2 h
  have htarget : phrase declared.image.target (fun t => ", applies to " ++ spaced t) =
      [", applies to " ++ spaced t] := by
    unfold phrase
    rw [hfilled]
    rfl
  unfold describe
  rw [htarget, String.join_append, String.join_append]
  refine ⟨role declared ++
      String.join (declared.image.strength.map fun s => ", strength " ++ s.text).toList,
    String.join (phrase declared.image.description fun t => " (" ++ t ++ ")"), ?_⟩
  rw [String.join_cons, String.join_nil, String.append_empty]
  simp only [String.append_assoc]

/-! ## All edits -/

theorem filter_isEdit_lines (d : PromptDocument) :
    d.lines.filter isEdit = d.edits.filterMap d.editLine := by
  have hintent : ((phrase d.userIntent id).map PromptLine.intent).filter isEdit = [] := by
    simp [isEdit]
  have hquality : ((phrase d.settings.quality spaced).map (labelled "Style")).filter isEdit = [] :=
    filter_eq_nil_of_isGuidance isGuidance_of_isEdit (filter_map_labelled _ _)
  have hdomain : d.domainLines.filter isEdit = [] :=
    filter_eq_nil_of_isGuidance isGuidance_of_isEdit (filter_domainLines d)
  have hstyle : ((d.styleModifiers.map StyleModifiers.lines).getD []).filter isEdit = [] :=
    filter_eq_nil_of_isGuidance isGuidance_of_isEdit (filter_styleLines d)
  have himages : (referenceLines 1 d.declaredImages).filter isEdit = [] := by
    refine List.filter_eq_nil_iff.2 fun line hline => ?_
    have hreference := isReference_of_mem_referenceLines hline
    cases line with
    | reference _ _ => simp [isEdit]
    | _ => cases hreference
  have hedits : (d.edits.filterMap d.editLine).filter isEdit = d.edits.filterMap d.editLine := by
    refine List.filter_eq_self.2 fun line hline => ?_
    obtain ⟨e, -, he⟩ := List.mem_filterMap.1 hline
    exact isEdit_of_editLine he
  have hlocks : (if d.lockedElements.isEmpty then []
      else [PromptLine.preserve d.lockedElements]).filter isEdit = [] := by
    split <;> simp [isEdit]
  have havoid : (if d.exclusions.isEmpty then []
      else [PromptLine.avoid d.exclusions]).filter isEdit = [] := by
    split <;> simp [isEdit]
  unfold lines guidanceLines
  simp only [List.filter_append, hintent, hquality, hdomain, hlocks, himages, hedits, hstyle,
    havoid, List.nil_append, List.append_nil]

/-- Every edit is accounted for: it comes to a line, to a warning or to nothing, in the order of
the edits, and what drops an edit is itself in the text. -/
structure EditsAccounted (d : PromptDocument) : Prop where
  outcome : ∀ e, d.EditOutcome e (d.editLine e) (d.editWarning e)
  only : ∀ e line warning, d.EditOutcome e line warning →
    line = d.editLine e ∧ warning = d.editWarning e
  lines : d.lines.filter isEdit = d.edits.filterMap d.editLine
  warnings : d.renderWarnings = d.edits.filterMap d.editWarning
  preserved : ∀ element target, d.LocksAs element target → Text.trim target ≠ "" →
    ∃ before behind, "Preserve exactly: " ++ commaList (before ++ element :: behind) ∈
      d.lines.map PromptLine.text
  applies : ∀ i declared target, d.GovernsAs i declared target → Text.trim target ≠ "" →
    ∃ t head tail, declared.image.target = some t ∧
      "Image " ++ toString (i + 1) ++ ": " ++ (head ++ ", applies to " ++ spaced t ++ tail) ∈
        d.lines.map PromptLine.text

/-- Locks come before images and images before edits. -/
theorem edits_accounted (d : PromptDocument) : d.EditsAccounted := by
  constructor
  case outcome => exact d.editOutcome
  case only => exact fun e line warning h => h.eq
  case lines => exact d.filter_isEdit_lines
  case warnings => rfl
  case preserved =>
    intro element target hlocks htarget
    have hmem := mem_lockedElements hlocks htarget
    obtain ⟨before, behind, heq⟩ := List.append_of_mem hmem
    refine ⟨before, behind, List.mem_map.2 ⟨_, preserve_mem_lines hmem, ?_⟩⟩
    rw [← heq]
    rfl
  case applies =>
    intro i declared target hgoverns htarget
    obtain ⟨hi, t, ht, hsame⟩ := hgoverns
    obtain ⟨head, tail, hdescribe⟩ := exists_describe_eq ⟨ht, hsame.trim_ne htarget⟩
    refine ⟨t, head, tail, ht, List.mem_map.2 ⟨_, reference_mem_lines hi, ?_⟩⟩
    rw [← hdescribe]
    rfl

/-- The spelling of a target is of no account, and what drops an edit is in the text. -/
example :
    let d : PromptDocument :=
      { lock := some { elements := [" ", "Window "] }
        baseImage := some { path := "room.png", target := some " SOFA" }
        edits := [{ target := some "window" }, { target := some "sofa", action := some "recolor" },
          { target := some "wall", action := some "paint" }] }
    d.promptText =
        "Preserve exactly: Window \nImage 1: base image to edit, applies to SOFA\nEdit: paint wall" ∧
      d.renderWarnings = ["edit on `window` dropped: target is locked",
        "edit on `sofa` dropped: a reference image governs it"] := by
  decide +kernel

end PromptDocument

end ImagePrompt
