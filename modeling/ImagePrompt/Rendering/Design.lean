import ImagePrompt.Rendering.Line
/-!
# Lines for designs

The sections of a graphic design and those of a design for a screen.
-/

namespace ImagePrompt

open PromptLine

/-! ## Graphic designs -/

def DesignLayout.lines (l : DesignLayout) : List PromptLine :=
  listed "Layout" (phrases [l.gridSystem, l.alignment, l.spacing, l.balance] spaced)

def Hierarchy.lines (h : Hierarchy) : List PromptLine :=
  listed "Hierarchy"
    (phrase h.primaryFocus (fun s => "focus on " ++ spaced s) ++
      phrase h.visualFlow (fun s => spaced s ++ " flow"))

def ColorScheme.lines (c : ColorScheme) : List PromptLine :=
  listed "Colors"
    (phrase c.paletteType spaced ++
      phrase c.primaryColor (fun s => "primary " ++ spaced s) ++
      phrase c.secondaryColor (fun s => "secondary " ++ spaced s) ++
      phrase c.accentColor (fun s => "accent " ++ spaced s))

def Typography.lines (t : Typography) : List PromptLine :=
  listed "Typography"
    (phrase t.headlineFont (fun s => "headline: " ++ spaced s) ++
      phrase t.bodyFont (fun s => "body: " ++ spaced s))

/-- An element in words, unless it has no type. -/
def DesignElement.words (e : DesignElement) : List String :=
  if Text.isBlank e.kind then []
  else
    [spaced e.kind ++
      String.join
        (phrase e.content (fun s => " '" ++ s ++ "'") ++
          phrase e.style (fun s => " (" ++ spaced s ++ ")") ++
          phrase e.placement (fun s => " [" ++ spaced s ++ "]"))]

def VisualStyle.lines (v : VisualStyle) : List PromptLine :=
  listed "Style"
    (phrase v.mood id ++ phrase v.texture spaced ++
      phrase (filledUnless "none" v.effects) spaced)

def GraphicDesign.lines (g : GraphicDesign) : List PromptLine :=
  (phrase g.designType spaced).map (labelled "Design") ++
  (g.layout.map DesignLayout.lines).getD [] ++
  (g.hierarchy.map Hierarchy.lines).getD [] ++
  (g.colorScheme.map ColorScheme.lines).getD [] ++
  (g.typography.map Typography.lines).getD [] ++
  listed "Elements" (g.elements.flatMap DesignElement.words) ++
  (g.visualStyle.map VisualStyle.lines).getD []

/-! ## Designs for a screen -/

def UiLayout.lines (l : UiLayout) : List PromptLine :=
  listed "Layout"
    (phrase l.arrangement spaced ++ freePhrase l.columns (· ++ " columns") ++
      phrase l.spacing spaced)

def UiComponent.words (c : UiComponent) : List String :=
  if Text.isBlank c.kind then []
  else
    [spaced c.kind ++
      String.join
        (phrase c.variant (fun s => " (" ++ s ++ ")") ++
          phrase (filledUnless "default" c.state) (fun s => " [" ++ s ++ "]") ++
          freePhrase c.size (fun s => " size: " ++ s) ++
          phrase c.style (fun s => " style: " ++ spaced s))]

def ColorSystem.lines (c : ColorSystem) : List PromptLine :=
  listed "Colors" (phrase c.mode spaced ++ phrase c.primary (fun s => "primary " ++ s))

def TypographySystem.lines (t : TypographySystem) : List PromptLine :=
  listed "Typography" (phrases [t.scale, t.fontFamily] spaced)

def InteractionStates.lines (i : InteractionStates) : List PromptLine :=
  listed "Interactions"
    (phrase (filledUnless "none" i.hoverEffect) (fun s => "hover: " ++ spaced s) ++
      phrase (filledUnless "none" i.focusStyle) (fun s => "focus: " ++ spaced s))

def Styling.lines (s : Styling) : List PromptLine :=
  listed "Styling"
    (phrase s.borderRadius (fun t => "radius: " ++ spaced t) ++
      phrase (filledUnless "none" s.shadow) spaced)

def Iconography.lines (i : Iconography) : List PromptLine :=
  listed "Icons" (phrase i.style id ++ freePhrase i.size (· ++ " size"))

def UiDesign.lines (u : UiDesign) : List PromptLine :=
  (phrase u.componentType spaced).map (labelled "UI Component") ++
  (u.layout.map UiLayout.lines).getD [] ++
  listed "Components" (u.components.flatMap UiComponent.words) ++
  (u.colorSystem.map ColorSystem.lines).getD [] ++
  (u.typographySystem.map TypographySystem.lines).getD [] ++
  (u.interactionStates.map InteractionStates.lines).getD [] ++
  (u.styling.map Styling.lines).getD [] ++
  (u.iconography.map Iconography.lines).getD [] ++
  (phrase u.designSystem spaced).map (labelled "Design System")

end ImagePrompt
