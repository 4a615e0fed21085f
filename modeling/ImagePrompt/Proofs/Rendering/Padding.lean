import ImagePrompt.Proofs.Rendering.Tally
/-!
# White space around names

Names are shown without the white space around them. A few of them are also compared with a word,
as they are written: `none` for the effects of a design and for the hover effect, the focus style
and the shadow of a screen, two kinds of illustration for the quality. White space around a name
changes the text of a document through these comparisons, and only through them.

That a comparison shows in the text is told by a letter: one that the words have which come or go
with it, and no other words that may come or go.
-/

namespace ImagePrompt

open PromptLine Text

/-- Two texts that differ in the white space around them. -/
def Repadded (s t : String) : Prop := ∃ core, Padded core s ∧ Padded core t

/-- Documents that differ in white space around names. -/
def Likeness.padding : Likeness :=
  { Likeness.exact with
    name := Option.Rel Repadded
    name_none := .none }

theorem Repadded.trim_eq {s t : String} (h : Repadded s t) : trim t = trim s := by
  obtain ⟨core, hs, ht⟩ := h
  rw [hs.trim_eq, ht.trim_eq]

theorem repadded_iff {s t : String} : Repadded s t ↔ trim t = trim s := by
  refine ⟨Repadded.trim_eq, fun h => ⟨trim s, ?_, ?_⟩⟩
  · exact Padded.of_trim s
  · exact h ▸ Padded.of_trim t

instance (s t : String) : Decidable (Repadded s t) := decidable_of_iff _ repadded_iff.symm

theorem Repadded.filled_eq {s t : String} (h : Repadded s t) :
    (filled (some t)).map trim = (filled (some s)).map trim := by
  have hblank : isBlank t = isBlank s := by
    rw [Bool.eq_iff_iff, isBlank_iff, isBlank_iff, h.trim_eq]
  unfold filled
  rw [Option.filter_some, Option.filter_some, hblank]
  split
  · rw [Option.map_some, Option.map_some, h.trim_eq]
  · rfl

theorem Likeness.faithful_padding : Likeness.padding.Faithful where
  name h := by
    cases h with
    | none => rfl
    | some h => exact h.filled_eq
  text h := by rw [h]
  entry h := Option.some.inj h
  free h := by rw [h]

/-! ## What is passed over -/

variable {p : Char → Bool} {f : String → String} {a b : Option String}

/-- The characters of a kind that are missing from the text because a name is the word `none`. -/
def unsaid (p : Char → Bool) (f : String → String) (a : Option String) : Nat :=
  if a = some "none" then tally p (f "none") else 0

/-- What is said and what is passed over are all that the name has to say. -/
theorem tallies_add_unsaid (a : Option String) :
    tallies p (phrase (filledUnless "none" a) f) + unsaid p f a = tallies p (phrase a f) := by
  unfold unsaid
  by_cases hnone : a = some "none"
  · have hword : phrase (some "none") f = [f "none"] := rfl
    rw [hnone, phrase_filledUnless_self, if_pos rfl, hword, tallies_nil, tallies_cons, tallies_nil,
      Nat.zero_add, Nat.add_zero]
  · rw [phrase_filledUnless_of_ne hnone, if_neg hnone, Nat.add_zero]

/-- White space around a name may move it from what is passed over to what is said. -/
theorem tallies_unless (h : Likeness.padding.name a b) (hf : Spelled f) :
    tallies p (phrase (filledUnless "none" b) f) + unsaid p f b =
      tallies p (phrase (filledUnless "none" a) f) + unsaid p f a := by
  rw [tallies_add_unsaid, tallies_add_unsaid, Likeness.faithful_padding.phrase_name h hf]

theorem unsaid_eq_zero (a : Option String) (h : tally p (f "none") = 0) : unsaid p f a = 0 := by
  unfold unsaid
  rw [h, ite_self]

/-- Characters of the word tell whether it is passed over. -/
theorem unsaid_inj (h : unsaid p f b = unsaid p f a) (hword : tally p (f "none") ≠ 0) :
    b = some "none" ↔ a = some "none" := by
  unfold unsaid at h
  split at h <;> split at h <;> simp_all

/-- A line in which only its parts have characters of the kind. -/
theorem lineTally_listed_eq {label : String} (parts : List String)
    (hlabel : tally p (label ++ ": ") = 0) (hcomma : tally p ", " = 0) :
    lineTally p (listed label parts) = tallies p parts := by
  rw [lineTally_listed parts (hlabel.trans hcomma.symm), hcomma, Nat.mul_zero, Nat.add_zero]

theorem VisualStyle.Like.lineTally_eq {v v' : VisualStyle} (h : v.Like .padding v')
    (hlabel : tally p ("Style" ++ ": ") = 0) (hcomma : tally p ", " = 0) :
    lineTally p v'.lines + unsaid p spaced v'.effects =
      lineTally p v.lines + unsaid p spaced v.effects := by
  have heffects := tallies_unless (p := p) h.effects spelled_spaced
  simp only [VisualStyle.lines, lineTally_listed_eq _ hlabel hcomma, tallies_append,
    Likeness.faithful_padding.phrase_text h.mood,
    Likeness.faithful_padding.phrase_name h.texture spelled_spaced]
  omega

def hovered (s : String) : String := "hover: " ++ spaced s

def focused (s : String) : String := "focus: " ++ spaced s

theorem InteractionStates.Like.lineTally_eq {i i' : InteractionStates} (h : i.Like .padding i')
    (hlabel : tally p ("Interactions" ++ ": ") = 0) (hcomma : tally p ", " = 0) :
    lineTally p i'.lines + unsaid p hovered i'.hoverEffect + unsaid p focused i'.focusStyle =
      lineTally p i.lines + unsaid p hovered i.hoverEffect + unsaid p focused i.focusStyle := by
  have hlines (i : InteractionStates) : i.lines = listed "Interactions"
      (phrase (filledUnless "none" i.hoverEffect) hovered ++
        phrase (filledUnless "none" i.focusStyle) focused) := rfl
  have hhover := tallies_unless (p := p) (f := hovered) h.hoverEffect spelled_spaced.before
  have hfocus := tallies_unless (p := p) (f := focused) h.focusStyle spelled_spaced.before
  simp only [hlines, lineTally_listed_eq _ hlabel hcomma, tallies_append]
  omega

theorem Styling.Like.lineTally_eq {s s' : Styling} (h : s.Like .padding s')
    (hlabel : tally p ("Styling" ++ ": ") = 0) (hcomma : tally p ", " = 0) :
    lineTally p s'.lines + unsaid p spaced s'.shadow =
      lineTally p s.lines + unsaid p spaced s.shadow := by
  have hshadow := tallies_unless (p := p) h.shadow spelled_spaced
  simp only [Styling.lines, lineTally_listed_eq _ hlabel hcomma, tallies_append,
    Likeness.faithful_padding.phrase_name h.borderRadius spelled_spaced.before]
  omega

/-! ## Documents -/

namespace PromptDocument

theorem lineTally_avoidLines_eq {d : PromptDocument} (hlabel : tally p "Avoid: " = 0)
    (hcomma : tally p ", " = 0) :
    lineTally p d.avoidLines = tallies p d.negatives + tallies p d.domainExclusions := by
  rw [avoidLines, lineTally_avoid _ (hlabel.trans hcomma.symm), hcomma, Nat.mul_zero, Nat.add_zero,
    exclusions_eq, tallies_append]

section Documents

variable {d d' : PromptDocument} (h : d.Like .padding d') (htext : d'.promptText = d.promptText)
include h

theorem Like.negatives_eq : d'.negatives = d.negatives :=
  Likeness.faithful_padding.texts_eq h.negatives (h.keepsEntries not_false).negatives

include htext

theorem Like.lineTally_domainLines_add (hbreak : tally p "\n" = 0) :
    lineTally p d'.domainLines + lineTally p d'.avoidLines =
      lineTally p d.domainLines + lineTally p d.avoidLines := by
  have hkept := h.keepsEntries not_false
  have hmanner := h.manner.lines Likeness.faithful_padding hkept.aesthetics hkept.models
  have hall := h.tally_promptText Likeness.faithful_padding hbreak
  rw [htext, hmanner] at hall
  omega

/-- One text tells that both ask for an illustration or neither does: only illustrations exclude a
bokeh. -/
theorem Like.asksForIllustration_iff (hdomain : d.settings.effectiveDomain = .graphicDesign) :
    d'.AsksForIllustration ↔ d.AsksForIllustration := by
  -- Of all words that white space may move, the letter is in this one only.
  let p : Char → Bool := (· == 'k')
  have hdomain' : d'.settings.effectiveDomain = .graphicDesign := h.domain.trans hdomain
  have hexcluded : tallies p d'.domainExclusions = tallies p d.domainExclusions := by
    have hsum := h.lineTally_domainLines_add htext (p := p) rfl
    have hlook := h.design.look.lineTally_eq (p := p) rfl rfl
    have haround := (h.design.lines_around Likeness.faithful_padding).lineTally (p := p)
    rw [unsaid_eq_zero _ rfl, unsaid_eq_zero _ rfl] at hlook
    rw [domainLines_eq, domainLines_eq, hdomain, hdomain', lineTally_avoidLines_eq rfl rfl,
      lineTally_avoidLines_eq rfl rfl, h.negatives_eq] at hsum
    dsimp only at hsum
    omega
  have hbokeh : tallies p illustrationExclusions = 1 := rfl
  rw [domainExclusions_of_graphicDesign hdomain, domainExclusions_of_graphicDesign hdomain']
    at hexcluded
  split at hexcluded <;> split at hexcluded <;> simp_all

/-- Once the exclusions are known to be the same, so are the numbers of characters in the lines of
the domain. -/
theorem Like.lineTally_domainLines_eq (hbreak : tally p "\n" = 0)
    (hquality : d.settings.effectiveDomain = .graphicDesign →
      (d'.AsksForIllustration ↔ d.AsksForIllustration)) :
    lineTally p d'.domainLines = lineTally p d.domainLines := by
  have hsum := h.lineTally_domainLines_add htext hbreak
  have hexclusions := h.exclusions Likeness.faithful_padding
    (h.keepsEntries not_false).negatives hquality
  rw [avoidLines, avoidLines, hexclusions] at hsum
  exact Nat.add_right_cancel hsum

theorem Like.effects_iff (hdomain : d.settings.effectiveDomain = .graphicDesign) :
    d'.design.look.effects = some "none" ↔ d.design.look.effects = some "none" := by
  -- The letter is in the word, not in the label of its line.
  let p : Char → Bool := (· == 'o')
  have hsum := h.lineTally_domainLines_eq htext (p := p) rfl fun _ =>
    h.asksForIllustration_iff htext hdomain
  have hlook := h.design.look.lineTally_eq (p := p) rfl rfl
  have haround := (h.design.lines_around Likeness.faithful_padding).lineTally (p := p)
  rw [domainLines_eq, domainLines_eq, h.domain, hdomain] at hsum
  dsimp only at hsum
  exact unsaid_inj (p := p) (f := spaced) (by omega) (by decide)

section Screens

variable (hdomain : d.settings.effectiveDomain = .uiDesign)
include hdomain

theorem Like.lineTally_screen_eq (hbreak : tally p "\n" = 0) :
    lineTally p (d'.screen.states.lines ++ d'.screen.surfaces.lines) =
      lineTally p (d.screen.states.lines ++ d.screen.surfaces.lines) := by
  have hdesign : d.settings.effectiveDomain ≠ .graphicDesign := by simp [hdomain]
  have hsum := h.lineTally_domainLines_eq htext hbreak fun hother => absurd hother hdesign
  have haround := (h.screen.lines_around Likeness.faithful_padding).lineTally (p := p)
  rw [domainLines_eq, domainLines_eq, h.domain, hdomain] at hsum
  dsimp only at hsum
  omega

/-- A letter that the word itself lacks is missing with the words around it, if at all; `hover` has
one such letter, and `focus` has another. -/
theorem Like.unsaid_states (hbreak : tally p "\n" = 0) (hcomma : tally p ", " = 0)
    (hstatesLabel : tally p ("Interactions" ++ ": ") = 0)
    (hsurfacesLabel : tally p ("Styling" ++ ": ") = 0) (hnone : tally p (spaced "none") = 0) :
    unsaid p hovered d'.screen.states.hoverEffect + unsaid p focused d'.screen.states.focusStyle =
      unsaid p hovered d.screen.states.hoverEffect +
        unsaid p focused d.screen.states.focusStyle := by
  have hsum := h.lineTally_screen_eq htext hdomain hbreak
  have hstates := h.screen.states.lineTally_eq hstatesLabel hcomma
  have hsurfaces := h.screen.surfaces.lineTally_eq hsurfacesLabel hcomma
  rw [unsaid_eq_zero _ hnone, unsaid_eq_zero _ hnone] at hsurfaces
  rw [lineTally_append, lineTally_append] at hsum
  omega

theorem Like.hoverEffect_iff :
    d'.screen.states.hoverEffect = some "none" ↔ d.screen.states.hoverEffect = some "none" := by
  have hstates := h.unsaid_states htext hdomain (p := (· == 'v')) rfl rfl rfl rfl rfl
  rw [unsaid_eq_zero (f := focused) _ rfl, unsaid_eq_zero (f := focused) _ rfl, Nat.add_zero,
    Nat.add_zero] at hstates
  exact unsaid_inj hstates (by decide)

theorem Like.focusStyle_iff :
    d'.screen.states.focusStyle = some "none" ↔ d.screen.states.focusStyle = some "none" := by
  have hstates := h.unsaid_states htext hdomain (p := (· == 'f')) rfl rfl rfl rfl rfl
  rw [unsaid_eq_zero (f := hovered) _ rfl, unsaid_eq_zero (f := hovered) _ rfl, Nat.zero_add,
    Nat.zero_add] at hstates
  exact unsaid_inj hstates (by decide)

theorem Like.shadow_iff :
    d'.screen.surfaces.shadow = some "none" ↔ d.screen.surfaces.shadow = some "none" := by
  -- The label of the states has the letter, too, so these come first.
  let p : Char → Bool := (· == 'o')
  have hsum := h.lineTally_screen_eq htext hdomain (p := p) rfl
  have hstates := h.screen.states.lines Likeness.faithful_padding
    (h.hoverEffect_iff htext hdomain) (h.focusStyle_iff htext hdomain)
  have hsurfaces := h.screen.surfaces.lineTally_eq (p := p) rfl rfl
  rw [lineTally_append, lineTally_append, hstates] at hsum
  exact unsaid_inj (p := p) (f := spaced) (by omega) (by decide)

end Screens

end Documents

/-- What white space around names does to a document. -/
structure PaddedAlike (d d' : PromptDocument) : Prop where
  /-- The text stays the same just when the names that are compared as they are written read the
  same. -/
  text : d'.promptText = d.promptText ↔ d.ReadsAlike d'
  /-- The same edits are dropped, for the same reasons. -/
  edits : List.Forall₂ (fun e e' => EditFate.Like (d.fate e) (d'.fate e')) d.edits d'.edits

theorem paddedAlike {d d' : PromptDocument} (h : d.Like .padding d') : PaddedAlike d d' where
  text := by
    refine ⟨fun htext => ⟨h.asksForIllustration_iff htext, h.effects_iff htext,
      h.hoverEffect_iff htext, h.focusStyle_iff htext, h.shadow_iff htext⟩, fun hreads => ?_⟩
    exact h.promptText Likeness.faithful_padding (h.keepsEntries not_false) hreads
  edits := h.edits.imp fun _ _ he => h.fate Likeness.faithful_padding he

end PromptDocument

/-- A document with white space around names of all sorts. -/
def loose : PromptDocument where
  settings := { quality := some " studio " }
  subjects := [{ name := some "Ada", position := some "far_left\t" }]
  scene := some { time := some " golden_hour" }
  lock := some { elements := ["Sky"] }
  edits := [
    { target := some " sky ", action := some "brighten" },
    { target := some "hat ", action := some " remove" }]

def tight : PromptDocument where
  settings := { quality := some "studio" }
  subjects := [{ name := some "Ada", position := some "far_left" }]
  scene := some { time := some "golden_hour" }
  lock := some { elements := ["Sky"] }
  edits := [
    { target := some "sky", action := some "brighten" },
    { target := some "hat", action := some "remove" }]

theorem loose_like : loose.Like .padding tight :=
  { PromptDocument.Like.empty .padding with
    quality := .some (by decide)
    subjects := .cons
      { Subject.Like.empty .padding with
        name := rfl
        position := .some (by decide) } .nil
    scene := .some ⟨rfl, .some (by decide), .none, .none, .nil⟩
    lock := .some ⟨.keep rfl .nil⟩
    edits := .cons ⟨.some (by decide), .some (by decide), rfl⟩
      (.cons ⟨.some (by decide), .some (by decide), rfl⟩ .nil) }

theorem loose_paddedAlike :
    loose.Like .padding tight ∧ PromptDocument.PaddedAlike loose tight :=
  ⟨loose_like, PromptDocument.paddedAlike loose_like⟩

def plain : PromptDocument where
  settings := { domain := some .graphicDesign }
  graphicDesign := some { visualStyle := some { effects := some "none" } }

/-- The same design, with white space around the word that says so. -/
def plainWide : PromptDocument where
  settings := { domain := some .graphicDesign }
  graphicDesign := some { visualStyle := some { effects := some " none " } }

theorem plain_like : plain.Like .padding plainWide :=
  { PromptDocument.Like.empty .padding with
    domain := rfl
    graphicDesign := .some
      { GraphicDesign.Like.empty .padding with
        visualStyle := .some ⟨rfl, .none, .some (by decide)⟩ } }

/-- With white space around it, the word that stands for no effects is shown as one. -/
theorem plain_not_promptText_eq :
    plain.promptText = "" ∧ plainWide.promptText = "Style: none" ∧
      ¬ ∀ d d' : PromptDocument, d.Like .padding d' → d'.promptText = d.promptText := by
  have hplain : plain.promptText = "" := by decide
  have hwide : plainWide.promptText = "Style: none" := by decide
  refine ⟨hplain, hwide, fun halike => ?_⟩
  have htext := halike plain plainWide plain_like
  rw [hplain, hwide] at htext
  exact absurd htext (by decide)

end ImagePrompt
