import ImagePrompt.Proofs.Rendering.Outline
/-!
# The outlines of designs

What the sections of a graphic design and of a design for a screen say, and the
lines that they have.
-/

namespace ImagePrompt

open Text

/-! ## Graphic designs -/

def DesignLayout.said (l : DesignLayout) : List (Option String) :=
  [l.gridSystem, l.alignment, l.spacing, l.balance]

theorem DesignLayout.composed (l : DesignLayout) :
    Composed [.labelled "Layout" (Speaks l.said)] l.said l.lines :=
  .listed (by decide) (.phrases keepsLine_spaced)

def Hierarchy.said (h : Hierarchy) : List (Option String) := [h.primaryFocus, h.visualFlow]

theorem Hierarchy.composed (h : Hierarchy) :
    Composed [.labelled "Hierarchy" (Speaks h.said)] h.said h.lines :=
  .listed (by decide) (.cons (keepsLine_spaced.before (by decide))
    (.phrase (keepsLine_spaced.behind (by decide))))

def ColorScheme.said (c : ColorScheme) : List (Option String) :=
  [c.paletteType, c.primaryColor, c.secondaryColor, c.accentColor]

theorem ColorScheme.composed (c : ColorScheme) :
    Composed [.labelled "Colors" (Speaks c.said)] c.said c.lines := by
  unfold lines
  simp only [List.append_assoc]
  exact .listed (by decide) (.cons keepsLine_spaced
    (.cons (keepsLine_spaced.before (by decide))
      (.cons (keepsLine_spaced.before (by decide))
        (.phrase (keepsLine_spaced.before (by decide))))))

def Typography.said (t : Typography) : List (Option String) := [t.headlineFont, t.bodyFont]

theorem Typography.composed (t : Typography) :
    Composed [.labelled "Typography" (Speaks t.said)] t.said t.lines :=
  .listed (by decide) (.cons (keepsLine_spaced.before (by decide))
    (.phrase (keepsLine_spaced.before (by decide))))

def DesignElement.said (e : DesignElement) : List (Option String) :=
  [some e.kind, e.content, e.style, e.placement]

/-- An item of some kind, in words, with its details behind. -/
theorem MadeOf.item {kind : String} {p : Prop} {said : List (Option String)} {details : List String}
    (h : MadeOf p said details) :
    MadeOf (Text.trim kind ≠ "") (some kind :: said)
      (if isBlank kind then [] else [spaced kind ++ String.join details]) := by
  split
  · next hblank => exact .absent (not_not.2 (isBlank_iff.1 hblank))
  · next hsome =>
    rw [Bool.not_eq_true, isBlank_eq_false_iff] at hsome
    refine .single hsome fun hsaid => ?_
    have hkind : IsLine kind := unbroken_iff.1 hsaid kind List.mem_cons_self
    have hdetails : Unbroken said := hsaid.mono (List.subset_cons_self _ _)
    exact (keepsLine_spaced kind hkind).append (.join (h.isLine hdetails))

theorem DesignElement.madeOf (e : DesignElement) :
    MadeOf (Text.trim e.kind ≠ "") e.said e.words := by
  unfold words
  simp only [List.append_assoc]
  exact .item (.cons (keepsLine_id.around (by decide) (by decide))
    (.cons (keepsLine_spaced.around (by decide) (by decide))
      (.phrase (keepsLine_spaced.around (by decide) (by decide)))))

def VisualStyle.said (v : VisualStyle) : List (Option String) := [v.mood, v.texture, v.effects]

/-- There is something to say about a look. The word `none` says nothing of effects. -/
def VisualStyle.Speaks (v : VisualStyle) : Prop :=
  ImagePrompt.Speaks [v.mood, v.texture, v.effects.filter (· != "none")]

theorem VisualStyle.composed (v : VisualStyle) :
    Composed [.labelled "Style" v.Speaks] v.said v.lines := by
  unfold lines
  rw [List.append_assoc]
  exact .listed (by decide) (.cons keepsLine_id (.cons keepsLine_spaced
    (.phraseUnless keepsLine_spaced)))

namespace GraphicDesign

def said (g : GraphicDesign) : List (Option String) :=
  [g.designType] ++ (g.layout.map DesignLayout.said).getD [] ++
    (g.hierarchy.map Hierarchy.said).getD [] ++ (g.colorScheme.map ColorScheme.said).getD [] ++
    (g.typography.map Typography.said).getD [] ++ g.elements.flatMap DesignElement.said ++
    (g.visualStyle.map VisualStyle.said).getD []

def slots (g : GraphicDesign) : List Slot :=
  [.labelled "Design" (Speaks [g.designType]),
   .labelled "Layout" (∃ l, g.layout = some l ∧ Speaks l.said),
   .labelled "Hierarchy" (∃ h, g.hierarchy = some h ∧ Speaks h.said),
   .labelled "Colors" (∃ c, g.colorScheme = some c ∧ Speaks c.said),
   .labelled "Typography" (∃ t, g.typography = some t ∧ Speaks t.said),
   .labelled "Elements" (∃ e ∈ g.elements, Text.trim e.kind ≠ ""),
   .labelled "Style" (∃ v, g.visualStyle = some v ∧ v.Speaks)]

theorem composed (g : GraphicDesign) : Composed g.slots g.said g.lines := by
  unfold said lines
  simp only [List.append_assoc]
  exact .cons (.phraseLabelled (by decide) keepsLine_spaced)
    (.cons (.option DesignLayout.composed g.layout)
    (.cons (.option Hierarchy.composed g.hierarchy)
    (.cons (.option ColorScheme.composed g.colorScheme)
    (.cons (.option Typography.composed g.typography)
    (.cons (.listed (by decide) (.flatMap DesignElement.madeOf g.elements))
    (.option VisualStyle.composed g.visualStyle))))))

end GraphicDesign

/-! ## Designs for a screen -/

def UiLayout.said (l : UiLayout) : List (Option String) :=
  [l.arrangement, l.columns.bind Json.string?, l.spacing]

def UiLayout.Speaks (l : UiLayout) : Prop :=
  ImagePrompt.Speaks [l.arrangement] ∨ FreeSpeaks l.columns ∨ ImagePrompt.Speaks [l.spacing]

theorem UiLayout.composed (l : UiLayout) :
    Composed [.labelled "Layout" l.Speaks] l.said l.lines := by
  unfold lines
  rw [List.append_assoc]
  exact .listed (by decide) (.append (.phrase keepsLine_spaced)
    (.append (.free (keepsLine_id.behind (by decide))) (.phrase keepsLine_spaced)))

def UiComponent.said (c : UiComponent) : List (Option String) :=
  [some c.kind, c.variant, c.state, c.size.bind Json.string?, c.style]

theorem UiComponent.madeOf (c : UiComponent) :
    MadeOf (Text.trim c.kind ≠ "") c.said c.words := by
  unfold words
  simp only [List.append_assoc]
  exact .item (.append (.phrase (keepsLine_id.around (by decide) (by decide)))
    (.append (.phraseUnless (keepsLine_id.around (by decide) (by decide)))
      (.append (.free (keepsLine_id.before (by decide)))
        (.phrase (keepsLine_spaced.before (by decide))))))

def ColorSystem.said (c : ColorSystem) : List (Option String) := [c.mode, c.primary]

theorem ColorSystem.composed (c : ColorSystem) :
    Composed [.labelled "Colors" (Speaks c.said)] c.said c.lines :=
  .listed (by decide) (.cons keepsLine_spaced (.phrase (keepsLine_id.before (by decide))))

def TypographySystem.said (t : TypographySystem) : List (Option String) := [t.scale, t.fontFamily]

theorem TypographySystem.composed (t : TypographySystem) :
    Composed [.labelled "Typography" (Speaks t.said)] t.said t.lines :=
  .listed (by decide) (.phrases keepsLine_spaced)

def InteractionStates.said (i : InteractionStates) : List (Option String) :=
  [i.hoverEffect, i.focusStyle]

/-- There is something to say about interaction states. The word `none` says nothing. -/
def InteractionStates.Speaks (i : InteractionStates) : Prop :=
  ImagePrompt.Speaks [i.hoverEffect.filter (· != "none")] ∨
    ImagePrompt.Speaks [i.focusStyle.filter (· != "none")]

theorem InteractionStates.composed (i : InteractionStates) :
    Composed [.labelled "Interactions" i.Speaks] i.said i.lines :=
  .listed (by decide) (.append (.phraseUnless (keepsLine_spaced.before (by decide)))
    (.phraseUnless (keepsLine_spaced.before (by decide))))

def Styling.said (s : Styling) : List (Option String) := [s.borderRadius, s.shadow]

/-- There is something to say about styling. The word `none` says nothing of a shadow. -/
def Styling.Speaks (s : Styling) : Prop :=
  ImagePrompt.Speaks [s.borderRadius, s.shadow.filter (· != "none")]

theorem Styling.composed (s : Styling) : Composed [.labelled "Styling" s.Speaks] s.said s.lines :=
  .listed (by decide) (.cons (keepsLine_spaced.before (by decide))
    (.phraseUnless keepsLine_spaced))

def Iconography.said (i : Iconography) : List (Option String) :=
  [i.style, i.size.bind Json.string?]

theorem Iconography.composed (i : Iconography) :
    Composed [.labelled "Icons" (Speaks [i.style] ∨ FreeSpeaks i.size)] i.said i.lines :=
  .listed (by decide) (.append (.phrase keepsLine_id) (.free (keepsLine_id.behind (by decide))))

namespace UiDesign

def said (u : UiDesign) : List (Option String) :=
  [u.componentType] ++ (u.layout.map UiLayout.said).getD [] ++
    u.components.flatMap UiComponent.said ++ (u.colorSystem.map ColorSystem.said).getD [] ++
    (u.typographySystem.map TypographySystem.said).getD [] ++
    (u.interactionStates.map InteractionStates.said).getD [] ++
    (u.styling.map Styling.said).getD [] ++ (u.iconography.map Iconography.said).getD [] ++
    [u.designSystem]

def slots (u : UiDesign) : List Slot :=
  [.labelled "UI Component" (Speaks [u.componentType]),
   .labelled "Layout" (∃ l, u.layout = some l ∧ l.Speaks),
   .labelled "Components" (∃ c ∈ u.components, Text.trim c.kind ≠ ""),
   .labelled "Colors" (∃ c, u.colorSystem = some c ∧ Speaks c.said),
   .labelled "Typography" (∃ t, u.typographySystem = some t ∧ Speaks t.said),
   .labelled "Interactions" (∃ i, u.interactionStates = some i ∧ i.Speaks),
   .labelled "Styling" (∃ s, u.styling = some s ∧ s.Speaks),
   .labelled "Icons" (∃ i, u.iconography = some i ∧ (Speaks [i.style] ∨ FreeSpeaks i.size)),
   .labelled "Design System" (Speaks [u.designSystem])]

theorem composed (u : UiDesign) : Composed u.slots u.said u.lines := by
  unfold said lines
  simp only [List.append_assoc]
  exact .cons (.phraseLabelled (by decide) keepsLine_spaced)
    (.cons (.option UiLayout.composed u.layout)
    (.cons (.listed (by decide) (.flatMap UiComponent.madeOf u.components))
    (.cons (.option ColorSystem.composed u.colorSystem)
    (.cons (.option TypographySystem.composed u.typographySystem)
    (.cons (.option InteractionStates.composed u.interactionStates)
    (.cons (.option Styling.composed u.styling)
    (.cons (.option Iconography.composed u.iconography)
    (.phraseLabelled (by decide) keepsLine_spaced))))))))

end UiDesign

end ImagePrompt
