import ImagePrompt.Proofs.Rendering.Tally
/-!
# Blank entries of lists

A blank entry says nothing in the lists whose entries are looked at one by one: clothing,
accessories, the elements of a design, the components of a screen and the elements of a lock. The
background of a scene, the aesthetics and models of a style and what is to stay out of the picture
are shown as they are; there any entry that is left out is missed in the text, for it takes at least
one comma, semicolon or colon with it.
-/

namespace ImagePrompt

open PromptLine Text

/-- Documents that differ in blank entries of lists, which the second one lacks. -/
def Likeness.thinning : Likeness := { Likeness.exact with thins := True }

theorem Likeness.faithful_thinning : Likeness.thinning.Faithful where
  name h := by rw [h]
  text h := by rw [h]
  entry h := Option.some.inj h
  free h := by rw [h]

/-! ## Marks -/

/-- The characters that set the parts of a line off. -/
def isMark (c : Char) : Bool := c == ',' || c == ';' || c == ':'

/-- The marks in a row of parts, each with one of its own. -/
def weight (items : List String) : Nat := tallies isMark items + items.length

theorem weight_append (items items' : List String) :
    weight (items ++ items') = weight items + weight items' := by
  unfold weight
  rw [tallies_append, List.length_append]
  omega

theorem weight_commaList {items : List String} (h : items ≠ []) :
    weight [commaList items] = weight items := by
  have hlist := tally_intercalate (p := isMark) ", " h
  have hcomma : tally isMark ", " = 1 := rfl
  rw [hcomma, Nat.mul_one] at hlist
  exact hlist

/-- A list among the parts, with words in front of it. -/
theorem weight_gathered (front : String) (items : List String) :
    weight (if items.isEmpty then [] else [front ++ commaList items]) =
      weight items + if items.isEmpty then 0 else tally isMark front := by
  cases items with
  | nil => rfl
  | cons item rest =>
    have hlist := weight_commaList (List.cons_ne_nil item rest)
    unfold weight at hlist ⊢
    simp only [List.isEmpty_cons, Bool.false_eq_true, if_false, tallies_cons, tallies_nil,
      tally_append, List.length_singleton] at hlist ⊢
    omega

/-- Entries that are left out take their marks with them. -/
theorem Thinned.tallies_le {p : Char → Bool} {agree : String → String → Prop}
    {spare : String → Prop} {as bs : List String} (hagree : ∀ a b, agree a b → b = a)
    (h : Thinned agree spare as bs) : tallies p bs ≤ tallies p as := by
  induction h with
  | nil => exact Nat.le_refl _
  | keep h _ ih =>
    rw [hagree _ _ h, tallies_cons, tallies_cons]
    exact Nat.add_le_add_left ih _
  | drop _ _ ih =>
    rw [tallies_cons]
    exact Nat.le_add_left_of_le ih

/-- For each entry that is left out, a mark is lost. -/
theorem Thinned.weight_le {agree : String → String → Prop} {spare : String → Prop}
    {as bs : List String} (hagree : ∀ a b, agree a b → b = a) (h : Thinned agree spare as bs) :
    weight bs + as.length ≤ weight as + bs.length := by
  have htallies := h.tallies_le (p := isMark) hagree
  unfold weight
  omega

/-! ## Sections -/

theorem Scene.lineTally_lines (s : Scene) :
    lineTally isMark s.lines =
      weight s.foreground +
        (weight s.backgroundElements + if s.backgroundElements.isEmpty then 0 else 1) := by
  have hline := lineTally_labelled (p := isMark) "Scene" "; " (s.foreground ++
    if s.backgroundElements.isEmpty then []
    else ["Background: " ++ commaList s.backgroundElements]) rfl
  have hsep : tally isMark "; " = 1 := rfl
  have hfront : tally isMark "Background: " = 1 := rfl
  rw [hsep, Nat.mul_one] at hline
  rw [Scene.lines_eq, sceneLines, hline, ← weight, weight_append, weight_gathered, hfront]

theorem StyleModifiers.lineTally_lines (s : StyleModifiers) :
    lineTally isMark s.lines =
      weight (phrase s.medium spaced) + weight (s.aesthetic.map spaced) +
        weight s.artistReference := by
  have hsep : tally isMark ", " = 1 := rfl
  have hfront : tally isMark "in the style of " = 0 := rfl
  have haesthetic : weight (if s.aesthetic.isEmpty then [] else [commaList (s.aesthetic.map spaced)])
      = weight (s.aesthetic.map spaced) := by
    cases s.aesthetic with
    | nil => rfl
    | cons item rest => exact weight_commaList (List.cons_ne_nil _ _)
  rw [StyleModifiers.lines, lineTally_listed _ rfl, hsep, Nat.mul_one, ← weight, weight_append,
    weight_append, weight_gathered, haesthetic, hfront, ite_self, Nat.add_zero]

theorem PromptDocument.lineTally_avoidLines (d : PromptDocument) :
    lineTally isMark d.avoidLines = weight d.negatives + weight d.domainExclusions := by
  have hsep : tally isMark ", " = 1 := rfl
  rw [avoidLines, lineTally_avoid _ rfl, hsep, Nat.mul_one, ← weight, exclusions_eq, weight_append]

theorem Scene.Like.lineTally_le {s s' : Scene} (h : s.Like .thinning s') :
    lineTally isMark s'.lines + s.backgroundElements.length ≤
      lineTally isMark s.lines + s'.backgroundElements.length := by
  have hweight := h.backgroundElements.weight_le fun _ _ => Option.some.inj
  have hlength := h.backgroundElements.length_le
  have hempty : (if s'.backgroundElements.isEmpty then 0 else 1) ≤
      if s.backgroundElements.isEmpty then 0 else 1 := by
    cases hbackground : s.backgroundElements with
    | nil =>
      rw [hbackground, List.length_nil, Nat.le_zero, List.length_eq_zero_iff] at hlength
      rw [hlength]
    | cons thing rest => split <;> simp
  rw [Scene.lineTally_lines, Scene.lineTally_lines, h.foreground Likeness.faithful_thinning]
  omega

theorem StyleModifiers.Like.lineTally_le {s s' : StyleModifiers} (h : s.Like .thinning s') :
    lineTally isMark s'.lines + s.aesthetic.length + s.artistReference.length ≤
      lineTally isMark s.lines + s'.aesthetic.length + s'.artistReference.length := by
  have hmedium := Likeness.faithful_thinning.phrase_name h.medium spelled_spaced
  have haesthetic : Thinned (fun a b => b = a) (fun _ => True) (s.aesthetic.map spaced)
      (s'.aesthetic.map spaced) :=
    h.aesthetic.map (fun _ _ hname => congrArg spaced (Option.some.inj hname)) fun _ _ => trivial
  have hnames := haesthetic.weight_le fun _ _ => id
  have hmodels := h.artistReference.weight_le fun _ _ => Option.some.inj
  rw [List.length_map, List.length_map] at hnames
  rw [StyleModifiers.lineTally_lines, StyleModifiers.lineTally_lines, hmedium]
  omega

namespace PromptDocument

/-! ## Documents -/

section Documents

variable {d d' : PromptDocument} (h : d.Like .thinning d')
include h

theorem Like.lineTally_avoidLines_le :
    lineTally isMark d'.avoidLines + d.negatives.length ≤
      lineTally isMark d.avoidLines + d'.negatives.length := by
  have hnegatives := h.negatives.weight_le fun _ _ => Option.some.inj
  have hquality : d'.settings.quality = d.settings.quality := h.quality
  have hdomain : d'.domainExclusions = d.domainExclusions := by
    rw [domainExclusions, domainExclusions, h.domain, hquality]
  rw [lineTally_avoidLines, lineTally_avoidLines, hdomain]
  omega

theorem Like.lineTally_domainLines_le :
    lineTally isMark d'.domainLines ≤ lineTally isMark d.domainLines ∧
      (d.settings.effectiveDomain = .photography →
        lineTally isMark d'.domainLines + d.place.backgroundElements.length ≤
          lineTally isMark d.domainLines + d'.place.backgroundElements.length) := by
  have hreads := h.readsAlike fun _ _ hname => congrArg filled hname
  rw [domainLines_eq, domainLines_eq, h.domain]
  cases hdomain : d.settings.effectiveDomain with
  | photography =>
    have hscene := h.place.lineTally_le
    have hlength := h.place.backgroundElements.length_le
    have haround := (h.photographLines_around Likeness.faithful_thinning).lineTally (p := isMark)
    dsimp only
    exact ⟨by omega, fun _ => by omega⟩
  | graphicDesign =>
    have hsame := h.design.lines Likeness.faithful_thinning (hreads.effects hdomain)
    exact ⟨(congrArg (lineTally isMark) hsame).le, nofun⟩
  | uiDesign =>
    have hsame := h.screen.lines Likeness.faithful_thinning (hreads.hoverEffect hdomain)
      (hreads.focusStyle hdomain) (hreads.shadow hdomain)
    exact ⟨(congrArg (lineTally isMark) hsame).le, nofun⟩

end Documents

/-- Leaving out blank entries of lists changes the text of a document, or the remarks on it, just
when an entry is left out of a list that shows its blank entries. -/
theorem rendersAlike_iff_of_thinned {d d' : PromptDocument} (h : d.Like .thinning d') :
    RendersAlike d d' ↔ d.KeepsEntries d' := by
  have hreads : d.ReadsAlike d' := h.readsAlike fun _ _ hname => congrArg filled hname
  constructor
  · intro halike
    have hmarks := h.tally_promptText Likeness.faithful_thinning (p := isMark) rfl
    rw [halike.text] at hmarks
    obtain ⟨hdomain, hbackground⟩ := h.lineTally_domainLines_le
    have hmanner := h.manner.lineTally_le
    have havoid := h.lineTally_avoidLines_le
    have hless := h.place.backgroundElements.length_le
    have haesthetics := h.manner.aesthetic.length_le
    have hmodels := h.manner.artistReference.length_le
    have hnegatives := h.negatives.length_le
    constructor
    case background =>
      intro hphotography
      have hkept := hbackground hphotography
      omega
    all_goals omega
  · intro hkept
    exact ⟨h.promptText Likeness.faithful_thinning hkept hreads,
      h.renderWarnings Likeness.faithful_thinning fun _ _ hname => congrArg filled hname⟩

end PromptDocument

/-- A document with blank entries in lists of all sorts that do not show them. -/
def gappy : PromptDocument where
  subjects := [{
    name := some "Ada"
    clothing := [{ item := some " " }, { item := some "coat" }]
    accessories := [{ item := some "ring" }, {}] }]
  scene := some { location := some "a park", backgroundElements := ["trees"] }
  lock := some { elements := ["\t", "face"] }

def gapless : PromptDocument where
  subjects := [{
    name := some "Ada"
    clothing := [{ item := some "coat" }]
    accessories := [{ item := some "ring" }] }]
  scene := some { location := some "a park", backgroundElements := ["trees"] }
  lock := some { elements := ["face"] }

theorem gappy_like : gappy.Like .thinning gapless :=
  { PromptDocument.Like.empty .thinning with
    subjects := .cons
      { Subject.Like.empty .thinning with
        name := rfl
        clothing := .drop ⟨trivial, by decide⟩ (.keep ⟨rfl, rfl, rfl⟩ .nil)
        accessories := .keep ⟨rfl, rfl, rfl⟩ (.drop ⟨trivial, by decide⟩ .nil) } .nil
    scene := .some ⟨rfl, rfl, rfl, .none, .keep rfl .nil⟩
    lock := .some ⟨.drop ⟨trivial, by decide⟩ (.keep rfl .nil)⟩ }

theorem gappy_rendersAlike :
    gappy.Like .thinning gapless ∧ PromptDocument.RendersAlike gappy gapless := by
  have hkept : gappy.KeepsEntries gapless := ⟨fun _ => rfl, rfl, rfl, rfl⟩
  exact ⟨gappy_like, (PromptDocument.rendersAlike_iff_of_thinned gappy_like).2 hkept⟩

/-- A document with nothing but a blank thing in the background. -/
def haze : PromptDocument where
  scene := some { backgroundElements := [""] }

def clear : PromptDocument where
  scene := some {}

theorem haze_like : haze.Like .thinning clear :=
  { PromptDocument.Like.empty .thinning with
    scene := .some ⟨rfl, rfl, rfl, .none, .drop ⟨trivial, by decide⟩ .nil⟩ }

/-- The label of a background stands alone where all things in it are blank. -/
theorem haze_not_rendersAlike :
    haze.promptText = "Scene: Background: " ∧ clear.promptText = "" ∧
      ¬ ∀ d d' : PromptDocument, d.Like .thinning d' → PromptDocument.RendersAlike d d' := by
  have hhaze : haze.promptText = "Scene: Background: " := by decide
  have hclear : clear.promptText = "" := by decide
  refine ⟨hhaze, hclear, fun halike => ?_⟩
  have htext := (halike haze clear haze_like).text
  rw [hhaze, hclear] at htext
  exact absurd htext (by decide)

end ImagePrompt
