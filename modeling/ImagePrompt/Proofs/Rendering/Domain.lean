import ImagePrompt.Proofs.Document.Declared
import ImagePrompt.Proofs.Document.Normalized
import ImagePrompt.Proofs.Document.Written
import ImagePrompt.Proofs.Rendering.Guidance
/-!
# What the domain of a document leaves out

The sections that the domain does not show have no part in the text: it is the
same whatever they say. That a design is left out is reported once when the
prompt is normalized, and a design is reported exactly when it is not rendered.
-/

namespace ImagePrompt

namespace PromptDocument

variable {d d' : PromptDocument}

/-! ## Documents that show the same -/

/-- Two documents are of one domain, and agree on all that documents of this domain show. -/
structure ShowsAlike (d d' : PromptDocument) : Prop where
  domain : d'.settings.effectiveDomain = d.settings.effectiveDomain
  quality : d'.settings.quality = d.settings.quality
  userIntent : d'.userIntent = d.userIntent
  styleModifiers : d'.styleModifiers = d.styleModifiers
  advanced : d'.advanced = d.advanced
  inputImage : d'.inputImage = d.inputImage
  subjectImages : d'.subjects.map Subject.inputImage = d.subjects.map Subject.inputImage
  baseImage : d'.baseImage = d.baseImage
  referenceImages : d'.referenceImages = d.referenceImages
  edits : d'.edits = d.edits
  lock : d'.lock = d.lock
  photograph : d.settings.effectiveDomain = .photography → d'.photographLines = d.photographLines
  graphicDesign : d.settings.effectiveDomain = .graphicDesign → d'.graphicDesign = d.graphicDesign
  uiDesign : d.settings.effectiveDomain = .uiDesign → d'.uiDesign = d.uiDesign

theorem subjectImages_congr {index : Nat} {subjects subjects' : List Subject}
    (h : subjects'.map Subject.inputImage = subjects.map Subject.inputImage) :
    subjectImages index subjects' = subjectImages index subjects := by
  induction subjects generalizing index subjects' with
  | nil =>
    obtain rfl := List.map_eq_nil_iff.1 h
    rfl
  | cons s subjects ih =>
    obtain ⟨s', rest, rfl, hs, hrest⟩ := List.map_eq_cons_iff.1 h
    rw [subjectImages, subjectImages, hs, ih hrest]

namespace ShowsAlike

variable (h : ShowsAlike d d')
include h

theorem declaredImages : d'.declaredImages = d.declaredImages := by
  rw [PromptDocument.declaredImages, PromptDocument.declaredImages, h.inputImage, h.baseImage,
    h.referenceImages, subjectImages_congr h.subjectImages]

theorem fate (e : Edit) : d'.fate e = d.fate e := by
  have hlocks : d'.locks = d.locks := by
    funext target
    rw [locks, locks, h.lock]
  have hgoverns : d'.governs = d.governs := by
    funext target
    rw [governs, governs, h.declaredImages]
  exact fate_congr hlocks hgoverns rfl

theorem renderWarnings : d'.renderWarnings = d.renderWarnings := by
  have hwarning : d'.editWarning = d.editWarning := funext fun e => editWarning_congr (h.fate e)
  rw [PromptDocument.renderWarnings, PromptDocument.renderWarnings, h.edits, hwarning]

theorem guidanceLines : d'.guidanceLines = d.guidanceLines := by
  have hline : d'.editLine = d.editLine := funext fun e => editLine_congr (h.fate e) rfl rfl rfl
  have hlocked : d'.lockedElements = d.lockedElements := by
    rw [lockedElements, lockedElements, h.lock]
  rw [PromptDocument.guidanceLines, PromptDocument.guidanceLines, hlocked, h.declaredImages,
    h.edits, hline]

theorem domainLines : d'.domainLines = d.domainLines := by
  rw [PromptDocument.domainLines, PromptDocument.domainLines, h.domain]
  cases hdomain : d.settings.effectiveDomain with
  | photography => exact h.photograph hdomain
  | graphicDesign => rw [h.graphicDesign hdomain]
  | uiDesign => rw [h.uiDesign hdomain]

theorem exclusions : d'.exclusions = d.exclusions := by
  simp only [PromptDocument.exclusions, domainExclusions, h.advanced, h.domain, h.quality]

theorem lines : d'.lines = d.lines := by
  simp only [PromptDocument.lines, h.userIntent, h.quality, h.domainLines, h.guidanceLines,
    h.styleModifiers, h.exclusions]

end ShowsAlike

/-- Two documents are rendered to one text, with the same remarks. -/
structure RendersAlike (d d' : PromptDocument) : Prop where
  text : d'.promptText = d.promptText
  warnings : d'.renderWarnings = d.renderWarnings

theorem ShowsAlike.rendersAlike (h : ShowsAlike d d') : RendersAlike d d' where
  text := by rw [promptText, promptText, h.lines]
  warnings := h.renderWarnings

/-- What a document is rendered to does not depend on what its domain leaves out, nor on other
settings than the domain and the quality. -/
structure Gated (d : PromptDocument) : Prop where
  photograph : d.settings.effectiveDomain ≠ .photography →
    ∀ subjects scene technical composition textRendering,
      subjects.map Subject.inputImage = d.subjects.map Subject.inputImage →
      RendersAlike d { d with subjects, scene, technical, composition, textRendering }
  graphicDesign : d.settings.effectiveDomain ≠ .graphicDesign →
    ∀ graphicDesign, RendersAlike d { d with graphicDesign }
  uiDesign : d.settings.effectiveDomain ≠ .uiDesign → ∀ uiDesign, RendersAlike d { d with uiDesign }
  settings : ∀ settings : Meta, settings.effectiveDomain = d.settings.effectiveDomain →
    settings.quality = d.settings.quality → RendersAlike d { d with settings }

theorem gated (d : PromptDocument) : Gated d := by
  constructor
  case photograph =>
    intro hdomain subjects scene technical composition textRendering hsubjects
    refine ShowsAlike.rendersAlike ?_
    constructor
    case subjectImages => exact hsubjects
    case photograph => exact fun hphotograph => absurd hphotograph hdomain
    all_goals intros; rfl
  case graphicDesign =>
    intro hdomain graphicDesign
    refine ShowsAlike.rendersAlike ?_
    constructor
    case graphicDesign => exact fun hdesign => absurd hdesign hdomain
    all_goals intros; rfl
  case uiDesign =>
    intro hdomain uiDesign
    refine ShowsAlike.rendersAlike ?_
    constructor
    case uiDesign => exact fun hdesign => absurd hdesign hdomain
    all_goals intros; rfl
  case settings =>
    intro settings hdomain hquality
    refine ShowsAlike.rendersAlike ?_
    constructor
    case domain => exact hdomain
    case quality => exact hquality
    all_goals intros; rfl

/-! ## Reports on designs that are left out -/

/-- The remark that a section is ignored. -/
def ignoredRemark (title : String) (domain : Domain) : String :=
  title ++ " section ignored for domain " ++ domain.name

/-- A remark says that a section is ignored. -/
def saysIgnored (title remark : String) : Bool :=
  (title ++ " section ignored").toList.isPrefixOf remark.toList

theorem saysIgnored_of_head?_ne {title remark : String} {a b : Char}
    (htitle : title.toList.head? = some a) (hremark : remark.toList.head? = some b) (hne : a ≠ b) :
    saysIgnored title remark = false := by
  obtain ⟨as, has⟩ := List.head?_eq_some_iff.1 htitle
  obtain ⟨bs, hbs⟩ := List.head?_eq_some_iff.1 hremark
  rw [saysIgnored, String.toList_append, has, hbs]
  simp [List.isPrefixOf, hne]

/-- The label of an image begins in another way than the name of a design. -/
theorem saysIgnored_label (origin : ImageOrigin) (note : String) :
    saysIgnored "graphic_design" (origin.label ++ ": " ++ note) = false ∧
      saysIgnored "ui_design" (origin.label ++ ": " ++ note) = false := by
  have hhead : (origin.label ++ ": " ++ note).toList.head? = some origin.initial := by
    rw [String.toList_append, String.toList_append, List.append_assoc, List.head?_append,
      origin.head?_label]
    rfl
  have hgraphic : 'g' ≠ origin.initial := by cases origin <;> simp [ImageOrigin.initial]
  have hui : 'u' ≠ origin.initial := by cases origin <;> simp [ImageOrigin.initial]
  exact ⟨saysIgnored_of_head?_ne (by rfl) hhead hgraphic,
    saysIgnored_of_head?_ne (by rfl) hhead hui⟩

theorem filter_strengthWarnings {title : String} (declared : List DeclaredImage)
    (h : ∀ origin note, saysIgnored title (ImageOrigin.label origin ++ ": " ++ note) = false) :
    (strengthWarnings declared).filter (saysIgnored title) = [] := by
  rw [List.filter_eq_nil_iff]
  intro remark hremark
  obtain ⟨image, -, hnote⟩ := List.mem_filterMap.1 hremark
  obtain ⟨note, -, rfl⟩ := Option.map_eq_some_iff.1 hnote
  rw [h]
  exact Bool.false_ne_true

theorem saysIgnored_ignoredRemark (title : String) (domain : Domain) :
    saysIgnored title (ignoredRemark title domain) = true := by
  have htext : (ignoredRemark title domain).toList =
      (title ++ " section ignored").toList ++ (" for domain " ++ domain.name).toList := by
    simp [ignoredRemark, String.toList_append]
  rw [saysIgnored, htext, List.isPrefixOf_iff_prefix]
  exact List.prefix_append _ _

theorem saysIgnored_other (domain : Domain) :
    saysIgnored "graphic_design" (ignoredRemark "ui_design" domain) = false ∧
      saysIgnored "ui_design" (ignoredRemark "graphic_design" domain) = false := by
  have hhead {title : String} {c : Char} (htitle : title.toList.head? = some c) :
      (ignoredRemark title domain).toList.head? = some c := by
    rw [ignoredRemark, String.toList_append, String.toList_append, List.append_assoc,
      List.head?_append, htitle]
    rfl
  exact ⟨saysIgnored_of_head?_ne (a := 'g') (b := 'u') (by rfl) (hhead (by rfl)) (by decide),
    saysIgnored_of_head?_ne (a := 'u') (b := 'g') (by rfl) (hhead (by rfl)) (by decide)⟩

/-- The remark on a section of a domain, if it is there and the domain is another one. -/
def remarkIf (isThere : Bool) (title : String) (own domain : Domain) : List String :=
  if isThere = true ∧ domain ≠ own then [ignoredRemark title domain] else []

theorem domainWarnings_eq : d.domainWarnings =
    remarkIf d.graphicDesign.isSome "graphic_design" .graphicDesign d.settings.effectiveDomain ++
      remarkIf d.uiDesign.isSome "ui_design" .uiDesign d.settings.effectiveDomain := by
  simp only [domainWarnings, remarkIf, Bool.and_eq_true, bne_iff_ne]
  rfl

theorem filter_remarkIf {isThere : Bool} {title asked : String} {own domain : Domain} :
    (remarkIf isThere title own domain).filter (saysIgnored asked) =
      if saysIgnored asked (ignoredRemark title domain) then remarkIf isThere title own domain
      else [] := by
  unfold remarkIf
  by_cases h : isThere = true ∧ domain ≠ own
  · rw [if_pos h]
    split <;> simp_all
  · rw [if_neg h]
    simp

theorem filter_domainWarnings :
    d.domainWarnings.filter (saysIgnored "graphic_design") =
        remarkIf d.graphicDesign.isSome "graphic_design" .graphicDesign
          d.settings.effectiveDomain ∧
      d.domainWarnings.filter (saysIgnored "ui_design") =
        remarkIf d.uiDesign.isSome "ui_design" .uiDesign d.settings.effectiveDomain := by
  obtain ⟨hgraphic, hui⟩ := saysIgnored_other d.settings.effectiveDomain
  rw [domainWarnings_eq, List.filter_append, List.filter_append]
  simp only [filter_remarkIf, saysIgnored_ignoredRemark, hgraphic, hui, if_true,
    Bool.false_eq_true, if_false, List.append_nil, List.nil_append, and_self]

/-! ## Where the lines of the domain stand -/

def linesAbove (d : PromptDocument) : List PromptLine :=
  (phrase d.userIntent id).map .intent ++
  (phrase d.settings.quality spaced).map (.labelled "Style")

def linesBelow (d : PromptDocument) : List PromptLine :=
  d.guidanceLines ++
  (d.styleModifiers.map StyleModifiers.lines).getD [] ++
  (if d.exclusions.isEmpty then [] else [.avoid d.exclusions])

theorem lines_eq_around (d : PromptDocument) :
    d.lines = d.linesAbove ++ d.domainLines ++ d.linesBelow := by
  simp only [PromptDocument.lines, linesAbove, linesBelow, List.append_assoc]

/-- Two documents that differ in the lines of their domain only, of which one has none. -/
theorem exists_lines_around (habove : d'.linesAbove = d.linesAbove)
    (hbelow : d'.linesBelow = d.linesBelow) (hnone : d'.domainLines = []) :
    ∃ before behind, d.lines = before ++ d.domainLines ++ behind ∧ d'.lines = before ++ behind := by
  refine ⟨d.linesAbove, d.linesBelow, d.lines_eq_around, ?_⟩
  rw [lines_eq_around, habove, hbelow, hnone, List.append_nil]

end PromptDocument

open PromptDocument

/-- A design is reported as ignored once if it is there and the domain is another one, and then the
document is rendered as without it. If the domain is its own, it adds its lines to the text. -/
structure DesignAccounted (raw : Json) (n : NormalizedPrompt) (title : String) (own : Domain)
    (design : Option (List PromptLine)) (without : PromptDocument) : Prop where
  present_iff : design.isSome ↔ ∃ v, raw.get? title = some v ∧ v ≠ .null
  reported_iff : (∃ remark ∈ n.warnings, saysIgnored title remark = true) ↔
    design.isSome ∧ n.document.settings.effectiveDomain ≠ own
  reported_once : design.isSome → n.document.settings.effectiveDomain ≠ own →
    n.warnings.filter (saysIgnored title) =
      [title ++ " section ignored for domain " ++ n.document.settings.effectiveDomain.name]
  ignored : n.document.settings.effectiveDomain ≠ own → RendersAlike without n.document
  rendered : ∀ lines, design = some lines → n.document.settings.effectiveDomain = own →
    ∃ before behind, n.document.lines = before ++ lines ++ behind ∧
      without.lines = before ++ behind

section Designs

variable {raw : Json} {d : PromptDocument} {title : String} {own : Domain}
  {design : Option (List PromptLine)} {without : PromptDocument}

theorem designAccounted_of_filter
    (hpresent : design.isSome ↔ ∃ v, raw.get? title = some v ∧ v ≠ .null)
    (hfilter : (NormalizedPrompt.ofDocument d).warnings.filter (saysIgnored title) =
      remarkIf design.isSome title own d.settings.effectiveDomain)
    (hignored : d.settings.effectiveDomain ≠ own → RendersAlike without d)
    (hrendered : ∀ lines, design = some lines → d.settings.effectiveDomain = own →
      ∃ before behind, d.lines = before ++ lines ++ behind ∧ without.lines = before ++ behind) :
    DesignAccounted raw (.ofDocument d) title own design without := by
  constructor
  case present_iff => exact hpresent
  case reported_iff =>
    change _ ↔ design.isSome = true ∧ d.settings.effectiveDomain ≠ own
    constructor
    · rintro ⟨remark, hremark, hsays⟩
      have hmem := List.mem_filter.2 ⟨hremark, hsays⟩
      rw [hfilter, remarkIf] at hmem
      by_contra hnot
      rw [if_neg hnot] at hmem
      exact List.not_mem_nil hmem
    · intro h
      have hmem : ignoredRemark title d.settings.effectiveDomain ∈
          (NormalizedPrompt.ofDocument d).warnings.filter (saysIgnored title) := by
        rw [hfilter, remarkIf, if_pos h]
        exact List.mem_singleton_self _
      exact ⟨_, List.mem_filter.1 hmem⟩
  case reported_once =>
    intro hsome hdomain
    rw [hfilter, remarkIf, if_pos ⟨hsome, hdomain⟩]
    rfl
  case ignored => exact hignored
  case rendered => exact hrendered

theorem filter_warnings (h : ∀ origin note,
    saysIgnored title (ImageOrigin.label origin ++ ": " ++ note) = false) :
    (NormalizedPrompt.ofDocument d).warnings.filter (saysIgnored title) =
      d.domainWarnings.filter (saysIgnored title) := by
  change (strengthWarnings d.declaredImages ++ d.domainWarnings).filter _ = _
  rw [List.filter_append, filter_strengthWarnings _ h, List.nil_append]

theorem graphicDesign_accounted {ms : Members} (hread : d.ReadFrom ms) :
    DesignAccounted (.object ms) (.ofDocument d) "graphic_design" .graphicDesign
      (d.graphicDesign.map GraphicDesign.lines) { d with graphicDesign := none } := by
  apply designAccounted_of_filter
  · rw [Option.isSome_map]
    exact Members.isSome_of_optional hread.graphicDesign
  · rw [filter_warnings fun origin note => (saysIgnored_label origin note).1,
      filter_domainWarnings.1, Option.isSome_map]
  · intro hdomain
    exact (gated { d with graphicDesign := none }).graphicDesign hdomain d.graphicDesign
  · intro lines hlines hdomain
    have hshown : d.domainLines = lines := by
      rw [domainLines, hdomain]
      simp only [hlines, Option.getD_some]
    have hhidden : domainLines { d with graphicDesign := none } = [] := by
      rw [domainLines]
      simp only [hdomain]
      rfl
    rw [← hshown]
    exact exists_lines_around rfl rfl hhidden

theorem uiDesign_accounted {ms : Members} (hread : d.ReadFrom ms) :
    DesignAccounted (.object ms) (.ofDocument d) "ui_design" .uiDesign
      (d.uiDesign.map UiDesign.lines) { d with uiDesign := none } := by
  apply designAccounted_of_filter
  · rw [Option.isSome_map]
    exact Members.isSome_of_optional hread.uiDesign
  · rw [filter_warnings fun origin note => (saysIgnored_label origin note).2,
      filter_domainWarnings.2, Option.isSome_map]
  · intro hdomain
    exact (gated { d with uiDesign := none }).uiDesign hdomain d.uiDesign
  · intro lines hlines hdomain
    have hshown : d.domainLines = lines := by
      rw [domainLines, hdomain]
      simp only [hlines, Option.getD_some]
    have hhidden : domainLines { d with uiDesign := none } = [] := by
      rw [domainLines]
      simp only [hdomain]
      rfl
    rw [← hshown]
    exact exists_lines_around rfl rfl hhidden

end Designs

/-- What the domain leaves out has no part in what a document is rendered to, and an accepted
prompt reports exactly the designs that it does not render. -/
theorem domain_gates :
    (∀ d : PromptDocument, d.Gated) ∧
      ∀ (raw : Json) (n : NormalizedPrompt), normalize raw = .ok n →
        DesignAccounted raw n "graphic_design" .graphicDesign
            (n.document.graphicDesign.map GraphicDesign.lines)
            { n.document with graphicDesign := none } ∧
          DesignAccounted raw n "ui_design" .uiDesign (n.document.uiDesign.map UiDesign.lines)
            { n.document with uiDesign := none } := by
  refine ⟨gated, fun raw n hn => ?_⟩
  obtain ⟨ms, d, rfl, hread, -, rfl⟩ := normalize_eq_ok_iff.1 hn
  have hfrom := readFrom_of_read hread
  exact ⟨graphicDesign_accounted hfrom, uiDesign_accounted hfrom⟩

theorem terse_reports_design :
    ∃ n, normalize terse = .ok n ∧ n.warnings.filter (saysIgnored "graphic_design") =
      ["graphic_design section ignored for domain photography"] := by
  have hdesigns := domain_gates.2 terse _ rfl
  exact ⟨_, rfl, hdesigns.1.reported_once rfl (by decide)⟩

end ImagePrompt
