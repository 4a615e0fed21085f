import ImagePrompt.Proofs.Document.Basic
import ImagePrompt.Proofs.Document.Pruning
/-!
# Documents without the members that they do not know

Each record has its pruned form, in which the records in it are pruned too. A
value pruned is read as the pruned form of what the value is read as.
-/

namespace ImagePrompt

/-! ## What a photograph shows, and how it is edited -/

namespace ImageRef

def pruned (r : ImageRef) : ImageRef := { r with extra := [] }

theorem prunes : codec.Prunes pruned (.imageReference fields) := by
  have hread : Pruning keys pruned fields read read := by
    refine .plain rfl fun description => ?_
    refine .required rfl fun path => ?_
    refine .plain rfl fun strength => ?_
    refine .plain rfl fun target => ?_
    refine .plain rfl fun usage => ?_
    cases path with
    | none => exact .refuse _
    | some path =>
      exact .done
        (fun extra => { path, usage, strength, description, target, extra })
        (fun _ => rfl) (fun _ => rfl)
  intro v
  cases v with
  | object ms =>
    rw [Schema.prune]
    exact hread.read_pruneAll (by decide) (by decide)
  | _ => simp [Schema.prune, codec, pruned, Except.map]

end ImageRef

namespace Hair

def pruned (h : Hair) : Hair := { h with extra := [] }

theorem prunes : codec.Prunes pruned (.record fields) := by
  refine Pruning.record keys ?_ (by decide) (by decide)
  refine .plain rfl fun color => ?_
  refine .plain rfl fun style => ?_
  exact .done (fun extra => { color, style, extra }) (fun _ => rfl) (fun _ => rfl)

end Hair

namespace Garment

def pruned (g : Garment) : Garment := { g with extra := [] }

theorem prunes : codec.Prunes pruned (.record fields) := by
  refine Pruning.record keys ?_ (by decide) (by decide)
  refine .plain rfl fun color => ?_
  refine .plain rfl fun fabric => ?_
  refine .plain rfl fun item => ?_
  exact .done (fun extra => { item, color, fabric, extra }) (fun _ => rfl) (fun _ => rfl)

end Garment

namespace Accessory

def pruned (a : Accessory) : Accessory := { a with extra := [] }

theorem prunes : codec.Prunes pruned (.record fields) := by
  refine Pruning.record keys ?_ (by decide) (by decide)
  refine .plain rfl fun color => ?_
  refine .plain rfl fun item => ?_
  refine .plain rfl fun material => ?_
  exact .done (fun extra => { item, color, material, extra }) (fun _ => rfl) (fun _ => rfl)

end Accessory

namespace Subject

def pruned (s : Subject) : Subject :=
  { s with
    hair := s.hair.map Hair.pruned
    clothing := s.clothing.map Garment.pruned
    accessories := s.accessories.map Accessory.pruned
    inputImage := s.inputImage.map ImageRef.pruned
    extra := [] }

theorem prunes : codec.Prunes pruned (.record fields) := by
  refine Pruning.record keys ?_ (by decide) (by decide)
  refine .list Accessory.prunes fun accessories => ?_
  refine .plain rfl fun age => ?_
  refine .list Garment.prunes fun clothing => ?_
  refine .plain rfl fun description => ?_
  refine .plain rfl fun expression => ?_
  refine .plain rfl fun gender => ?_
  refine .optional Hair.prunes fun hair => ?_
  refine .optional ImageRef.prunes fun inputImage => ?_
  refine .plain rfl fun name => ?_
  refine .plain rfl fun pose => ?_
  refine .plain rfl fun position => ?_
  refine .plain rfl fun kind => ?_
  exact .done
    (fun extra => { name, kind, description, age, gender, hair := hair.map Hair.pruned, pose,
                    expression, position, clothing := clothing.map Garment.pruned,
                    accessories := accessories.map Accessory.pruned,
                    inputImage := inputImage.map ImageRef.pruned, extra })
    (fun _ => rfl) (fun _ => rfl)

end Subject

namespace Lighting

def pruned (l : Lighting) : Lighting := { l with extra := [] }

theorem prunes : codec.Prunes pruned (.record fields) := by
  refine Pruning.record keys ?_ (by decide) (by decide)
  refine .plain rfl fun direction => ?_
  refine .plain rfl fun kind => ?_
  exact .done (fun extra => { kind, direction, extra }) (fun _ => rfl) (fun _ => rfl)

end Lighting

namespace Scene

def pruned (s : Scene) : Scene :=
  { s with
    lighting := s.lighting.map Lighting.pruned
    extra := [] }

theorem prunes : codec.Prunes pruned (.record fields) := by
  refine Pruning.record keys ?_ (by decide) (by decide)
  refine .plainList rfl fun backgroundElements => ?_
  refine .optional Lighting.prunes fun lighting => ?_
  refine .plain rfl fun location => ?_
  refine .plain rfl fun time => ?_
  refine .plain rfl fun weather => ?_
  exact .done
    (fun extra => { location, time, weather, lighting := lighting.map Lighting.pruned,
                    backgroundElements, extra })
    (fun _ => rfl) (fun _ => rfl)

end Scene

namespace Composition

def pruned (c : Composition) : Composition := { c with extra := [] }

theorem prunes : codec.Prunes pruned (.record fields) := by
  refine Pruning.record keys ?_ (by decide) (by decide)
  refine .plain rfl fun angle => ?_
  refine .plain rfl fun focusPoint => ?_
  refine .plain rfl fun framing => ?_
  exact .done (fun extra => { framing, angle, focusPoint, extra }) (fun _ => rfl) (fun _ => rfl)

end Composition

namespace Technical

def pruned (t : Technical) : Technical := { t with extra := [] }

theorem prunes : codec.Prunes pruned (.record fields) := by
  refine Pruning.record keys ?_ (by decide) (by decide)
  refine .plain rfl fun aperture => ?_
  refine .plain rfl fun cameraModel => ?_
  refine .plain rfl fun filmStock => ?_
  refine .plain rfl fun lens => ?_
  exact .done
    (fun extra => { cameraModel, lens, aperture, filmStock, extra })
    (fun _ => rfl) (fun _ => rfl)

end Technical

namespace TextRendering

def pruned (t : TextRendering) : TextRendering := { t with extra := [] }

theorem prunes : codec.Prunes pruned (.record fields) := by
  refine Pruning.record keys ?_ (by decide) (by decide)
  refine .plain rfl fun color => ?_
  refine .plainDefaulting rfl fun enabled => ?_
  refine .plain rfl fun fontStyle => ?_
  refine .plain rfl fun placement => ?_
  refine .plain rfl fun textContent => ?_
  exact .done
    (fun extra => { enabled, textContent, placement, fontStyle, color, extra })
    (fun _ => rfl) (fun _ => rfl)

end TextRendering

namespace StyleModifiers

def pruned (s : StyleModifiers) : StyleModifiers := { s with extra := [] }

theorem prunes : codec.Prunes pruned (.record fields) := by
  refine Pruning.record keys ?_ (by decide) (by decide)
  refine .plainList rfl fun aesthetic => ?_
  refine .plainList rfl fun artistReference => ?_
  refine .plain rfl fun medium => ?_
  exact .done
    (fun extra => { medium, aesthetic, artistReference, extra })
    (fun _ => rfl) (fun _ => rfl)

end StyleModifiers

namespace Advanced

def pruned (a : Advanced) : Advanced := { a with extra := [] }

theorem prunes : codec.Prunes pruned (.record fields) := by
  refine Pruning.record keys ?_ (by decide) (by decide)
  refine .plainList rfl fun negativePrompt => ?_
  exact .done (fun extra => { negativePrompt, extra }) (fun _ => rfl) (fun _ => rfl)

end Advanced

namespace Edit

def pruned (e : Edit) : Edit := { e with extra := [] }

theorem prunes : codec.Prunes pruned (.record fields) := by
  refine Pruning.record keys ?_ (by decide) (by decide)
  refine .plain rfl fun action => ?_
  refine .plain rfl fun description => ?_
  refine .plain rfl fun target => ?_
  exact .done (fun extra => { target, action, description, extra }) (fun _ => rfl) (fun _ => rfl)

end Edit

namespace Lock

def pruned (l : Lock) : Lock := { l with extra := [] }

theorem prunes : codec.Prunes pruned (.record fields) := by
  refine Pruning.record keys ?_ (by decide) (by decide)
  refine .plainList rfl fun elements => ?_
  exact .done (fun extra => { elements, extra }) (fun _ => rfl) (fun _ => rfl)

end Lock

/-! ## Designs -/

namespace DesignLayout

def pruned (d : DesignLayout) : DesignLayout := { d with extra := [] }

theorem prunes : codec.Prunes pruned (.record fields) := by
  refine Pruning.record keys ?_ (by decide) (by decide)
  refine .plain rfl fun alignment => ?_
  refine .plain rfl fun balance => ?_
  refine .plain rfl fun gridSystem => ?_
  refine .plain rfl fun spacing => ?_
  exact .done
    (fun extra => { gridSystem, alignment, spacing, balance, extra })
    (fun _ => rfl) (fun _ => rfl)

end DesignLayout

namespace Hierarchy

def pruned (h : Hierarchy) : Hierarchy := { h with extra := [] }

theorem prunes : codec.Prunes pruned (.record fields) := by
  refine Pruning.record keys ?_ (by decide) (by decide)
  refine .plain rfl fun primaryFocus => ?_
  refine .plain rfl fun visualFlow => ?_
  exact .done (fun extra => { primaryFocus, visualFlow, extra }) (fun _ => rfl) (fun _ => rfl)

end Hierarchy

namespace ColorScheme

def pruned (c : ColorScheme) : ColorScheme := { c with extra := [] }

theorem prunes : codec.Prunes pruned (.record fields) := by
  refine Pruning.record keys ?_ (by decide) (by decide)
  refine .plain rfl fun accentColor => ?_
  refine .plain rfl fun paletteType => ?_
  refine .plain rfl fun primaryColor => ?_
  refine .plain rfl fun secondaryColor => ?_
  exact .done
    (fun extra => { paletteType, primaryColor, secondaryColor, accentColor, extra })
    (fun _ => rfl) (fun _ => rfl)

end ColorScheme

namespace Typography

def pruned (t : Typography) : Typography := { t with extra := [] }

theorem prunes : codec.Prunes pruned (.record fields) := by
  refine Pruning.record keys ?_ (by decide) (by decide)
  refine .plain rfl fun bodyFont => ?_
  refine .plain rfl fun headlineFont => ?_
  exact .done (fun extra => { headlineFont, bodyFont, extra }) (fun _ => rfl) (fun _ => rfl)

end Typography

namespace DesignElement

def pruned (d : DesignElement) : DesignElement := { d with extra := [] }

theorem prunes : codec.Prunes pruned (.record fields) := by
  refine Pruning.record keys ?_ (by decide) (by decide)
  refine .plain rfl fun content => ?_
  refine .plain rfl fun placement => ?_
  refine .plain rfl fun style => ?_
  refine .plainDefaulting rfl fun kind => ?_
  exact .done
    (fun extra => { kind, content, style, placement, extra })
    (fun _ => rfl) (fun _ => rfl)

end DesignElement

namespace VisualStyle

def pruned (v : VisualStyle) : VisualStyle := { v with extra := [] }

theorem prunes : codec.Prunes pruned (.record fields) := by
  refine Pruning.record keys ?_ (by decide) (by decide)
  refine .plain rfl fun effects => ?_
  refine .plain rfl fun mood => ?_
  refine .plain rfl fun texture => ?_
  exact .done (fun extra => { mood, texture, effects, extra }) (fun _ => rfl) (fun _ => rfl)

end VisualStyle

namespace GraphicDesign

def pruned (g : GraphicDesign) : GraphicDesign :=
  { g with
    layout := g.layout.map DesignLayout.pruned
    hierarchy := g.hierarchy.map Hierarchy.pruned
    colorScheme := g.colorScheme.map ColorScheme.pruned
    typography := g.typography.map Typography.pruned
    elements := g.elements.map DesignElement.pruned
    visualStyle := g.visualStyle.map VisualStyle.pruned
    extra := [] }

theorem prunes : codec.Prunes pruned (.record fields) := by
  refine Pruning.record keys ?_ (by decide) (by decide)
  refine .optional ColorScheme.prunes fun colorScheme => ?_
  refine .plain rfl fun designType => ?_
  refine .list DesignElement.prunes fun elements => ?_
  refine .optional Hierarchy.prunes fun hierarchy => ?_
  refine .optional DesignLayout.prunes fun layout => ?_
  refine .optional Typography.prunes fun typography => ?_
  refine .optional VisualStyle.prunes fun visualStyle => ?_
  exact .done
    (fun extra => { designType, layout := layout.map DesignLayout.pruned,
                    hierarchy := hierarchy.map Hierarchy.pruned,
                    colorScheme := colorScheme.map ColorScheme.pruned,
                    typography := typography.map Typography.pruned,
                    elements := elements.map DesignElement.pruned,
                    visualStyle := visualStyle.map VisualStyle.pruned, extra })
    (fun _ => rfl) (fun _ => rfl)

end GraphicDesign

namespace UiLayout

def pruned (u : UiLayout) : UiLayout := { u with extra := [] }

theorem prunes : codec.Prunes pruned (.record fields) := by
  refine Pruning.record keys ?_ (by decide) (by decide)
  refine .plain rfl fun columns => ?_
  refine .plain rfl fun spacing => ?_
  refine .plain rfl fun arrangement => ?_
  exact .done (fun extra => { arrangement, columns, spacing, extra }) (fun _ => rfl) (fun _ => rfl)

end UiLayout

namespace UiComponent

def pruned (u : UiComponent) : UiComponent := { u with extra := [] }

theorem prunes : codec.Prunes pruned (.record fields) := by
  refine Pruning.record keys ?_ (by decide) (by decide)
  refine .plain rfl fun size => ?_
  refine .plain rfl fun state => ?_
  refine .plain rfl fun style => ?_
  refine .plainDefaulting rfl fun kind => ?_
  refine .plain rfl fun variant => ?_
  exact .done
    (fun extra => { kind, variant, state, size, style, extra })
    (fun _ => rfl) (fun _ => rfl)

end UiComponent

namespace ColorSystem

def pruned (c : ColorSystem) : ColorSystem := { c with extra := [] }

theorem prunes : codec.Prunes pruned (.record fields) := by
  refine Pruning.record keys ?_ (by decide) (by decide)
  refine .plain rfl fun mode => ?_
  refine .plain rfl fun primary => ?_
  exact .done (fun extra => { mode, primary, extra }) (fun _ => rfl) (fun _ => rfl)

end ColorSystem

namespace TypographySystem

def pruned (t : TypographySystem) : TypographySystem := { t with extra := [] }

theorem prunes : codec.Prunes pruned (.record fields) := by
  refine Pruning.record keys ?_ (by decide) (by decide)
  refine .plain rfl fun fontFamily => ?_
  refine .plain rfl fun scale => ?_
  exact .done (fun extra => { scale, fontFamily, extra }) (fun _ => rfl) (fun _ => rfl)

end TypographySystem

namespace InteractionStates

def pruned (i : InteractionStates) : InteractionStates := { i with extra := [] }

theorem prunes : codec.Prunes pruned (.record fields) := by
  refine Pruning.record keys ?_ (by decide) (by decide)
  refine .plain rfl fun focusStyle => ?_
  refine .plain rfl fun hoverEffect => ?_
  exact .done (fun extra => { hoverEffect, focusStyle, extra }) (fun _ => rfl) (fun _ => rfl)

end InteractionStates

namespace Styling

def pruned (s : Styling) : Styling := { s with extra := [] }

theorem prunes : codec.Prunes pruned (.record fields) := by
  refine Pruning.record keys ?_ (by decide) (by decide)
  refine .plain rfl fun borderRadius => ?_
  refine .plain rfl fun shadow => ?_
  exact .done (fun extra => { borderRadius, shadow, extra }) (fun _ => rfl) (fun _ => rfl)

end Styling

namespace Iconography

def pruned (i : Iconography) : Iconography := { i with extra := [] }

theorem prunes : codec.Prunes pruned (.record fields) := by
  refine Pruning.record keys ?_ (by decide) (by decide)
  refine .plain rfl fun size => ?_
  refine .plain rfl fun style => ?_
  exact .done (fun extra => { style, size, extra }) (fun _ => rfl) (fun _ => rfl)

end Iconography

namespace UiDesign

def pruned (u : UiDesign) : UiDesign :=
  { u with
    layout := u.layout.map UiLayout.pruned
    components := u.components.map UiComponent.pruned
    colorSystem := u.colorSystem.map ColorSystem.pruned
    typographySystem := u.typographySystem.map TypographySystem.pruned
    interactionStates := u.interactionStates.map InteractionStates.pruned
    styling := u.styling.map Styling.pruned
    iconography := u.iconography.map Iconography.pruned
    extra := [] }

theorem prunes : codec.Prunes pruned (.record fields) := by
  refine Pruning.record keys ?_ (by decide) (by decide)
  refine .optional ColorSystem.prunes fun colorSystem => ?_
  refine .plain rfl fun componentType => ?_
  refine .list UiComponent.prunes fun components => ?_
  refine .plain rfl fun designSystem => ?_
  refine .optional Iconography.prunes fun iconography => ?_
  refine .optional InteractionStates.prunes fun interactionStates => ?_
  refine .optional UiLayout.prunes fun layout => ?_
  refine .optional Styling.prunes fun styling => ?_
  refine .optional TypographySystem.prunes fun typographySystem => ?_
  exact .done
    (fun extra => { componentType, layout := layout.map UiLayout.pruned,
                    components := components.map UiComponent.pruned,
                    colorSystem := colorSystem.map ColorSystem.pruned,
                    typographySystem := typographySystem.map TypographySystem.pruned,
                    interactionStates := interactionStates.map InteractionStates.pruned,
                    styling := styling.map Styling.pruned,
                    iconography := iconography.map Iconography.pruned, designSystem, extra })
    (fun _ => rfl) (fun _ => rfl)

end UiDesign

/-! ## The document -/

namespace Meta

def pruned (m : Meta) : Meta := { m with extra := [] }

theorem prunes : codec.Prunes pruned (.record fields) := by
  refine Pruning.record keys ?_ (by decide) (by decide)
  refine .plain rfl fun aspectRatio => ?_
  refine .plain rfl fun domain => ?_
  refine .plain rfl fun guidanceScale => ?_
  refine .plain rfl fun imageSize => ?_
  refine .plain rfl fun quality => ?_
  refine .plain rfl fun safetyFilter => ?_
  refine .plain rfl fun seed => ?_
  refine .plain rfl fun steps => ?_
  exact .done
    (fun extra => { domain, aspectRatio, imageSize, quality, seed, steps, guidanceScale,
                    safetyFilter, extra })
    (fun _ => rfl) (fun _ => rfl)

end Meta

namespace PromptDocument

def pruned (d : PromptDocument) : PromptDocument :=
  { d with
    settings := d.settings.pruned
    subjects := d.subjects.map Subject.pruned
    scene := d.scene.map Scene.pruned
    composition := d.composition.map Composition.pruned
    technical := d.technical.map Technical.pruned
    textRendering := d.textRendering.map TextRendering.pruned
    styleModifiers := d.styleModifiers.map StyleModifiers.pruned
    advanced := d.advanced.map Advanced.pruned
    graphicDesign := d.graphicDesign.map GraphicDesign.pruned
    uiDesign := d.uiDesign.map UiDesign.pruned
    inputImage := d.inputImage.map ImageRef.pruned
    baseImage := d.baseImage.map ImageRef.pruned
    referenceImages := d.referenceImages.map ImageRef.pruned
    edits := d.edits.map Edit.pruned
    lock := d.lock.map Lock.pruned
    extra := [] }

theorem prunes : codec.Prunes pruned (.record fields) := by
  refine Pruning.record keys ?_ (by decide) (by decide)
  refine .optional Advanced.prunes fun advanced => ?_
  refine .optional ImageRef.prunes fun baseImage => ?_
  refine .optional Composition.prunes fun composition => ?_
  refine .list Edit.prunes fun edits => ?_
  refine .optional GraphicDesign.prunes fun graphicDesign => ?_
  refine .optional ImageRef.prunes fun inputImage => ?_
  refine .optional Lock.prunes fun lock => ?_
  refine .defaulting Meta.prunes rfl fun settings => ?_
  refine .list ImageRef.prunes fun referenceImages => ?_
  refine .optional Scene.prunes fun scene => ?_
  refine .optional StyleModifiers.prunes fun styleModifiers => ?_
  refine .list Subject.prunes fun subjects => ?_
  refine .optional Technical.prunes fun technical => ?_
  refine .optional TextRendering.prunes fun textRendering => ?_
  refine .optional UiDesign.prunes fun uiDesign => ?_
  refine .plain rfl fun userIntent => ?_
  exact .done
    (fun extra => { userIntent, settings := settings.pruned,
                    subjects := subjects.map Subject.pruned, scene := scene.map Scene.pruned,
                    composition := composition.map Composition.pruned,
                    technical := technical.map Technical.pruned,
                    textRendering := textRendering.map TextRendering.pruned,
                    styleModifiers := styleModifiers.map StyleModifiers.pruned,
                    advanced := advanced.map Advanced.pruned,
                    graphicDesign := graphicDesign.map GraphicDesign.pruned,
                    uiDesign := uiDesign.map UiDesign.pruned,
                    inputImage := inputImage.map ImageRef.pruned,
                    baseImage := baseImage.map ImageRef.pruned,
                    referenceImages := referenceImages.map ImageRef.pruned,
                    edits := edits.map Edit.pruned, lock := lock.map Lock.pruned, extra })
    (fun _ => rfl) (fun _ => rfl)

end PromptDocument

end ImagePrompt
