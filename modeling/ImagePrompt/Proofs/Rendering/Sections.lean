import ImagePrompt.Proofs.Rendering.Design
import ImagePrompt.Proofs.Rendering.Domain
import ImagePrompt.Proofs.Rendering.Photograph
/-!
# One line for each section

The text of a document whose texts break no line, split at its line breaks,
has one line for each section that has anything to say, in a fixed order.
Subjects keep their numbers when others are passed over, and the line of the
image of a subject gives the number that the subject has.
-/

namespace ImagePrompt

open PromptLine Text

/-! ## Guidance -/

def ImageRef.said (r : ImageRef) : List (Option String) :=
  [r.usage.map Usage.name, r.target, r.description]

/-- The line of an image has the number of the image, and that of the subject if it is the image of
one. -/
structure ImageLine (number : Nat) (declared : DeclaredImage) (line : String) : Prop where
  numbered : ∃ words, line = "Image " ++ toString number ++ ": " ++ words
  ofSubject : ∀ i, declared.origin = .subject i → ∃ usage rest,
    line = "Image " ++ toString number ++ ": " ++
      (usage ++ " reference for subject " ++ toString (i + 1) ++ rest) ∧
    ∀ c ∈ rest.toList.head?, c.isDigit = false

/-- The place for the line of an image. -/
def Slot.image (number : Nat) (declared : DeclaredImage) : Slot where
  present := True
  reads := ImageLine number declared

theorem head?_join {p : Char → Prop} {parts : List String}
    (h : ∀ part ∈ parts, ∃ c rest, part.toList = c :: rest ∧ p c) :
    ∀ c ∈ (String.join parts).toList.head?, p c := by
  cases parts with
  | nil => simp
  | cons part parts =>
    obtain ⟨c, rest, hpart, hc⟩ := h part List.mem_cons_self
    rw [String.join_cons, String.toList_append, hpart]
    simpa using hc

/-- What a line says of an image besides its role. -/
def DeclaredImage.details (declared : DeclaredImage) : List String :=
  (declared.image.strength.map fun s => ", strength " ++ s.text).toList ++
    phrase declared.image.target (fun t => ", applies to " ++ spaced t) ++
    phrase declared.image.description (fun t => " (" ++ t ++ ")")

theorem toList_details {declared : DeclaredImage} :
    ∀ part ∈ declared.details, ∃ c rest, part.toList = c :: rest ∧ c.isDigit = false := by
  intro part hpart
  unfold DeclaredImage.details at hpart
  rw [List.mem_append, List.mem_append] at hpart
  rcases hpart with (hstrength | htarget) | hdescription
  · rw [Option.mem_toList, Option.map_eq_some_iff] at hstrength
    obtain ⟨s, -, rfl⟩ := hstrength
    exact ⟨',', (" strength " ++ s.text).toList, by simp, by decide⟩
  · obtain ⟨t, -, rfl⟩ := mem_phrase htarget
    exact ⟨',', (" applies to " ++ spaced t).toList, by simp, by decide⟩
  · obtain ⟨t, -, rfl⟩ := mem_phrase hdescription
    exact ⟨' ', ("(" ++ t ++ ")").toList, by simp, by decide⟩

theorem isLine_details {declared : DeclaredImage} (hsaid : Unbroken declared.image.said) :
    ∀ part ∈ declared.details, IsLine part := by
  have htarget : Unbroken [declared.image.target] := hsaid.mono (by simp [ImageRef.said])
  have hdescription : Unbroken [declared.image.description] :=
    hsaid.mono (by simp [ImageRef.said])
  refine List.forall_mem_append.2 ⟨List.forall_mem_append.2 ⟨fun part hpart => ?_, ?_⟩, ?_⟩
  · rw [Option.mem_toList, Option.map_eq_some_iff] at hpart
    obtain ⟨s, -, rfl⟩ := hpart
    exact IsLine.append (by decide) (isLine_of_inNumber fun _ => Binary64.inNumber_of_mem_display)
  · exact (MadeOf.phrase (keepsLine_spaced.before (by decide))).isLine htarget
  · exact (MadeOf.phrase (keepsLine_id.around (by decide) (by decide))).isLine hdescription

theorem isLine_usageLabel {r : ImageRef} (hsaid : Unbroken r.said) : IsLine r.usageLabel := by
  unfold ImageRef.usageLabel
  cases husage : r.usage with
  | none => decide
  | some u =>
    refine isLine_respelled (unbroken_iff.1 hsaid u.name ?_)
    simp [ImageRef.said, husage]

theorem isLine_role {declared : DeclaredImage} (hsaid : Unbroken declared.image.said) :
    IsLine (role declared) := by
  have husage := isLine_usageLabel hsaid
  unfold role
  split
  · decide
  · exact (husage.append (by decide)).append (isLine_toString _)
  · exact husage.append (by decide)
  · exact husage.append (by decide)

theorem imageLine_text (number : Nat) (declared : DeclaredImage) :
    ImageLine number declared (PromptLine.reference number declared).text := by
  refine ⟨⟨describe declared, rfl⟩, fun i horigin => ?_⟩
  refine ⟨declared.image.usageLabel, String.join declared.details, ?_,
    head?_join toList_details⟩
  have hrole : role declared =
      declared.image.usageLabel ++ " reference for subject " ++ toString (i + 1) := by
    unfold role
    rw [horigin]
  rw [← hrole]
  rfl

theorem Composed.reference (number : Nat) (declared : DeclaredImage) :
    Composed [.image number declared] declared.image.said
      [.reference number declared] := by
  refine .single trivial (imageLine_text number declared) ?_ fun hsaid => ?_
  · exact Composed.labelled_ne ("Image " ++ toString number) (describe declared)
  · exact isLine_labelled (IsLine.append (by decide) (isLine_toString number))
      ((isLine_role hsaid).append (.join (isLine_details hsaid)))

def Edit.said (e : Edit) : List (Option String) := [e.action, e.target, e.description]

/-- What the line of an edit says: what to do, to what, and how. -/
def Edit.instructions (e : Edit) : List String :=
  phrases [e.action, e.target] (fun t => " " ++ spaced t) ++
    phrase e.description (fun t => " (" ++ t ++ ")")

theorem Edit.madeOf_instructions (e : Edit) : MadeOf e.Speaks e.said e.instructions := by
  have hphrases : phrases [e.action, e.target] (fun t => " " ++ spaced t) =
      phrase e.action (fun t => " " ++ spaced t) ++
        phrase e.target (fun t => " " ++ spaced t) := by
    simp [phrases]
  unfold instructions
  rw [hphrases, List.append_assoc]
  exact .cons (keepsLine_spaced.before (by decide))
    (.cons (keepsLine_spaced.before (by decide))
      (.phrase (keepsLine_id.around (by decide) (by decide))))

theorem Edit.exists_instruction {e : Edit} {part : String} (h : part ∈ e.instructions) :
    ∃ t, part = " " ++ t := by
  rcases List.mem_append.1 h with h | h
  · obtain ⟨s, -, hpart⟩ := List.mem_flatMap.1 h
    obtain ⟨t, -, rfl⟩ := mem_phrase hpart
    exact ⟨spaced t, rfl⟩
  · obtain ⟨t, -, rfl⟩ := mem_phrase h
    exact ⟨"(" ++ t ++ ")", by simp [← String.toList_inj]⟩

theorem Edit.exists_text {e : Edit} (h : e.Speaks) :
    ∃ body, (PromptLine.edit e.action e.target e.description).text = "Edit" ++ ": " ++ body := by
  obtain ⟨part, rest, hparts⟩ :=
    List.exists_cons_of_ne_nil (e.madeOf_instructions.ne_nil_iff.2 h)
  obtain ⟨t, rfl⟩ := exists_instruction (hparts ▸ List.mem_cons_self)
  refine ⟨t ++ String.join rest, ?_⟩
  change "Edit:" ++ String.join e.instructions = _
  rw [hparts, String.join_cons]
  simp [← String.toList_inj]

namespace PromptDocument

theorem composed_referenceLines (number : Nat) (declared : List DeclaredImage) :
    Composed (Slot.numbered .image number declared) (declared.flatMap (·.image.said))
      (referenceLines number declared) := by
  induction declared generalizing number with
  | nil => exact .nil
  | cons image rest ih =>
    rw [Slot.numbered_cons]
    exact (Composed.reference number image).cons (ih (number + 1))

variable {d : PromptDocument} {e : Edit}

/-- Nothing stands in the way of an edit, and it says something. -/
def Stands (d : PromptDocument) (e : Edit) : Prop :=
  (∀ target, Says e.target target → ¬ d.Hindered target) ∧ e.Speaks

theorem composed_editLine (d : PromptDocument) (e : Edit) :
    Composed [.labelled "Edit" (d.Stands e)] e.said (d.editLine e).toList := by
  have houtcome := d.editOutcome e
  generalize d.editLine e = line at houtcome ⊢
  generalize d.editWarning e = warning at houtcome
  cases houtcome with
  | locked htarget hlocked => exact .absent fun h => h.1 _ htarget (.inl hlocked)
  | governed htarget _ hgoverned => exact .absent fun h => h.1 _ htarget (.inr hgoverned)
  | silent _ hsilent => exact .absent fun h => hsilent h.2
  | stands hfree hspeaks =>
    obtain ⟨body, hbody⟩ := Edit.exists_text hspeaks
    refine .single ⟨hfree, hspeaks⟩ ⟨body, hbody⟩ ?_ fun hsaid => ?_
    · rw [hbody]
      exact Composed.labelled_ne _ _
    · exact IsLine.append (by decide) (.join (e.madeOf_instructions.isLine hsaid))

/-! ## Locks, style and exclusions -/

theorem composed_preserve (d : PromptDocument) :
    Composed
      [.labelled "Preserve exactly"
        (∃ l, d.lock = some l ∧ ∃ element ∈ l.elements, Text.trim element ≠ "")]
      (((d.lock.map Lock.elements).getD []).map some)
      (if d.lockedElements.isEmpty then [] else [.preserve d.lockedElements]) := by
  have helements : MadeOf (∃ l, d.lock = some l ∧ ∃ element ∈ l.elements, Text.trim element ≠ "")
      (((d.lock.map Lock.elements).getD []).map some) d.lockedElements := by
    unfold lockedElements
    constructor
    · rw [Ne, List.filter_eq_nil_iff]
      cases d.lock <;> simp [isBlank_iff]
    · intro hsaid element helement
      exact (MadeOf.items _).isLine hsaid element (List.mem_of_mem_filter helement)
  have htext : (PromptLine.preserve d.lockedElements).text =
      "Preserve exactly" ++ ": " ++ commaList d.lockedElements := rfl
  exact .ofParts (by decide) helements htext isLine_commaList

/-- Something is excluded by the domain itself: by screens, and by illustrations among the graphic
designs. -/
def ExcludesByDomain (d : PromptDocument) : Prop :=
  d.settings.effectiveDomain = .uiDesign ∨
    d.settings.effectiveDomain = .graphicDesign ∧
      (d.settings.quality = some "vector_illustration" ∨
        d.settings.quality = some "flat_illustration")

theorem madeOf_domainExclusions (d : PromptDocument) :
    MadeOf d.ExcludesByDomain [] d.domainExclusions := by
  unfold ExcludesByDomain domainExclusions
  cases d.settings.effectiveDomain with
  | photography => exact .absent (by simp)
  | uiDesign =>
    have hlines : ∀ part ∈ screenExclusions, IsLine part := by decide
    exact ⟨by simp [screenExclusions], fun _ => hlines⟩
  | graphicDesign =>
    simp only [Bool.or_eq_true, beq_iff_eq]
    split
    · next h => exact ⟨by simp [illustrationExclusions, h], fun _ => by decide⟩
    · next h => exact .absent (by simp [h])

theorem composed_avoid (d : PromptDocument) :
    Composed
      [.labelled "Avoid"
        ((∃ a, d.advanced = some a ∧ a.negativePrompt ≠ []) ∨ d.ExcludesByDomain)]
      (((d.advanced.map Advanced.negativePrompt).getD []).map some)
      (if d.exclusions.isEmpty then [] else [.avoid d.exclusions]) := by
  have hitems := (MadeOf.items ((d.advanced.map Advanced.negativePrompt).getD [])).append
    d.madeOf_domainExclusions
  rw [List.append_nil] at hitems
  have hpresent : (d.advanced.map Advanced.negativePrompt).getD [] ≠ [] ↔
      ∃ a, d.advanced = some a ∧ a.negativePrompt ≠ [] := by
    cases d.advanced <;> simp
  have htext : (PromptLine.avoid d.exclusions).text =
      "Avoid" ++ ": " ++ commaList d.exclusions := rfl
  exact .ofParts (by decide) (hitems.congr (or_congr_left hpresent)) htext isLine_commaList

end PromptDocument

def StyleModifiers.said (s : StyleModifiers) : List (Option String) :=
  [s.medium] ++ s.aesthetic.map some ++ s.artistReference.map some

def StyleModifiers.Speaks (s : StyleModifiers) : Prop :=
  ImagePrompt.Speaks [s.medium] ∨ s.aesthetic ≠ [] ∨ s.artistReference ≠ []

theorem StyleModifiers.composed (s : StyleModifiers) :
    Composed [.labelled "Style" s.Speaks] s.said s.lines := by
  have haesthetic := (MadeOf.items s.aesthetic).gather
    (fun items => commaList (items.map spaced)) fun h => isLine_commaList
      (List.forall_mem_map.2 fun item hitem => keepsLine_spaced item (h item hitem))
  have hartists := (MadeOf.items s.artistReference).gather
    (fun items => "in the style of " ++ commaList items) fun h =>
      IsLine.append (by decide) (isLine_commaList h)
  exact .listed (by decide) ((((MadeOf.phrase keepsLine_spaced).append haesthetic).append
    hartists).congr or_assoc)

/-! ## The outline of a document -/

namespace PromptDocument

variable {d : PromptDocument}

def said (d : PromptDocument) : List (Option String) :=
  [d.userIntent, d.settings.quality] ++ d.photographSaid ++
    (d.graphicDesign.map GraphicDesign.said).getD [] ++ (d.uiDesign.map UiDesign.said).getD [] ++
    ((d.lock.map Lock.elements).getD []).map some ++ d.declaredImages.flatMap (·.image.said) ++
    d.edits.flatMap Edit.said ++ (d.styleModifiers.map StyleModifiers.said).getD [] ++
    ((d.advanced.map Advanced.negativePrompt).getD []).map some

def domainSlots (d : PromptDocument) : List Slot :=
  match d.settings.effectiveDomain with
  | .photography => d.photographSlots
  | .graphicDesign => (d.graphicDesign.map GraphicDesign.slots).getD []
  | .uiDesign => (d.uiDesign.map UiDesign.slots).getD []

def openingSlots (d : PromptDocument) : List Slot :=
  [.words d.userIntent id, .words d.settings.quality fun t => "Style: " ++ spaced t]

def closingSlots (d : PromptDocument) : List Slot :=
  .labelled "Preserve exactly"
    (∃ l, d.lock = some l ∧ ∃ element ∈ l.elements, Text.trim element ≠ "") ::
  (Slot.numbered .image 1 d.declaredImages ++
    (d.edits.map (fun e => .labelled "Edit" (d.Stands e)) ++
      [.labelled "Style" (∃ s, d.styleModifiers = some s ∧ s.Speaks),
       .labelled "Avoid"
        ((∃ a, d.advanced = some a ∧ a.negativePrompt ≠ []) ∨ d.ExcludesByDomain)]))

def outline (d : PromptDocument) : List Slot := d.openingSlots ++ (d.domainSlots ++ d.closingSlots)

theorem composed_linesAbove (d : PromptDocument) :
    Composed d.openingSlots [d.userIntent, d.settings.quality] d.linesAbove := by
  unfold linesAbove
  refine .cons (.ofPhrase keepsLine_id Iff.rfl ?_ ?_ ?_)
    (.ofPhrase keepsLine_spaced Iff.rfl ?_ ?_ ?_)
  · exact fun t ht => ⟨t, ht, rfl⟩
  · rintro _ ⟨-, htrim⟩ rfl
    exact htrim (by decide)
  · exact fun _ ht => ht
  · exact fun t ht => ⟨t, ht, rfl⟩
  · exact fun _ _ => Composed.labelled_ne _ _
  · exact fun _ ht => Composed.isLine_labelled (by decide) ht

theorem composed_domainLines (d : PromptDocument) :
    Composed d.domainSlots
      (d.photographSaid ++ (d.graphicDesign.map GraphicDesign.said).getD [] ++
        (d.uiDesign.map UiDesign.said).getD []) d.domainLines := by
  unfold domainSlots domainLines
  cases d.settings.effectiveDomain with
  | photography => exact d.composed_photographLines.mono (by simp)
  | graphicDesign =>
    exact (Composed.group GraphicDesign.composed d.graphicDesign).mono (by simp)
  | uiDesign => exact (Composed.group UiDesign.composed d.uiDesign).mono (by simp)

theorem composed_linesBelow (d : PromptDocument) :
    Composed d.closingSlots
      (((d.lock.map Lock.elements).getD []).map some ++
        (d.declaredImages.flatMap (·.image.said) ++ (d.edits.flatMap Edit.said ++
          ((d.styleModifiers.map StyleModifiers.said).getD [] ++
            ((d.advanced.map Advanced.negativePrompt).getD []).map some)))) d.linesBelow := by
  unfold closingSlots linesBelow guidanceLines
  simp only [List.append_assoc]
  exact .cons d.composed_preserve (.append (composed_referenceLines 1 d.declaredImages)
    (.append (.filterMap d.composed_editLine d.edits)
      (.cons (.option StyleModifiers.composed d.styleModifiers) d.composed_avoid)))

theorem composed_lines (d : PromptDocument) : Composed d.outline d.said d.lines := by
  have haround := d.composed_linesAbove.append
    (d.composed_domainLines.append d.composed_linesBelow)
  rw [lines_eq_around, List.append_assoc]
  exact haround.mono (by simp [said])

theorem split_promptText (hsaid : Unbroken d.said) (hne : d.promptText ≠ "") :
    Text.split '\n' d.promptText = d.lines.map PromptLine.text := by
  refine split_intercalate (fun hnil => hne ?_) ?_
  · rw [promptText, hnil, String.intercalate_nil]
  · exact List.forall_mem_map.2 (d.composed_lines.isLine hsaid)

theorem promptText_eq_empty_iff : d.promptText = "" ↔ d.lines = [] := by
  constructor
  · intro hempty
    cases hlines : d.lines with
    | nil => rfl
    | cons line rest =>
      have hline : line.text ≠ "" := d.composed_lines.text_ne line (hlines ▸ List.mem_cons_self)
      rw [promptText, hlines] at hempty
      exact absurd hempty (intercalate_ne_empty hline _)
  · intro hnil
    rw [promptText, hnil]
    rfl

/-- The image of a subject is declared under the index of the subject. -/
theorem mem_declaredImages_subject {i : Nat} {image : ImageRef} :
    ⟨.subject i, image⟩ ∈ d.declaredImages ↔
      ∃ s, d.subjects[i]? = some s ∧ s.inputImage = some image :=
  mem_declaredImages_iff.trans Option.bind_eq_some_iff

/-- The lines of a text by the sections of its document. -/
structure SectionLines (d : PromptDocument) (lines : List String) : Prop where
  fills : Fills d.outline lines
  nonempty : ∀ line ∈ lines, line ≠ ""
  subjects : d.settings.effectiveDomain = .photography → ∃ before own behind numbers,
    lines = before ++ (own ++ behind) ∧ Fills d.openingSlots before ∧
      Subject.Numbered 1 d.subjects numbers own
  images : ∀ i image, ⟨.subject i, image⟩ ∈ d.declaredImages ↔
    ∃ s, d.subjects[i]? = some s ∧ s.inputImage = some image

theorem sectionLines_of_fills {lines : List String} (h : Fills d.outline lines)
    (hne : ∀ line ∈ lines, line ≠ "") : d.SectionLines lines := by
  refine ⟨h, hne, fun hdomain => ?_, fun i image => mem_declaredImages_subject⟩
  -- The lines of the subjects are the first of the domain's, right behind the opening ones.
  obtain ⟨before, rest, rfl, hbefore, hrest⟩ := h.exists_append
  obtain ⟨domain, below, rfl, hslots, -⟩ := hrest.exists_append
  unfold domainSlots at hslots
  rw [hdomain] at hslots
  obtain ⟨own, others, rfl, hown, -⟩ := hslots.exists_append
  obtain ⟨numbers, hnumbers⟩ := Subject.exists_numbered hown
  exact ⟨before, own, others ++ below, numbers, by rw [List.append_assoc], hbefore, hnumbers⟩

/-- The text of a document whose texts break no line has one line for each section that says
something, and it is empty when there is none. -/
theorem promptText_sections (d : PromptDocument)
    (hsaid : ∀ text ∈ d.said.reduceOption, '\n' ∉ text.toList) :
    (d.promptText ≠ "" → d.SectionLines (Text.split '\n' d.promptText)) ∧
      (d.promptText = "" ↔ ∀ slot ∈ d.outline, ¬ slot.present) := by
  have hlines := d.composed_lines
  constructor
  · intro hne
    rw [split_promptText hsaid hne]
    exact sectionLines_of_fills hlines.fills (List.forall_mem_map.2 hlines.text_ne)
  · rw [promptText_eq_empty_iff, ← hlines.fills.eq_nil_iff, List.map_eq_nil_iff]

/-- A document with nothing to say about its first subject. -/
def stroll : PromptDocument where
  userIntent := some "a stroll"
  subjects := [{},
    { name := some "Ada"
      age := some (.number (.integer 36))
      inputImage := some { path := "ada.png", usage := some .identity } }]
  lock := some { elements := [" ", "hat"] }

/-- The second subject is second in its own line and in that of its image. -/
theorem stroll_sections :
    (∀ text ∈ stroll.said.reduceOption, '\n' ∉ text.toList) ∧
      stroll.SectionLines ["a stroll", "Subject 2: Ada, 36", "Preserve exactly: hat",
        "Image 1: identity reference for subject 2"] := by
  have hsaid : ∀ text ∈ stroll.said.reduceOption, '\n' ∉ text.toList := by decide
  have hsplit : Text.split '\n' stroll.promptText = ["a stroll", "Subject 2: Ada, 36",
      "Preserve exactly: hat", "Image 1: identity reference for subject 2"] := by
    decide +kernel
  refine ⟨hsaid, ?_⟩
  rw [← hsplit]
  exact (promptText_sections stroll hsaid).1 (by decide +kernel)

end PromptDocument

end ImagePrompt
