import ImagePrompt.Document.Basic
import ImagePrompt.Proofs.Text.Blank
import Mathlib.Data.List.Forall2
import Mathlib.Data.Option.Basic
/-!
# Documents that are alike

Two documents compared place by place. How far they may differ is a likeness: a relation for each
sort of thing that a text of the document can be made of. All other things that the text shows are
the same in both documents; what it does not show may differ as it likes.
-/

namespace ImagePrompt

/-- How far two documents may differ. The first of two things is in the one document, the second
in the other. -/
structure Likeness where
  /-- Names, which are shown trimmed and with spaces for underscores. -/
  name : Option String → Option String → Prop
  /-- Texts that are shown as they are. -/
  text : Option String → Option String → Prop
  /-- Values that are free of form. -/
  free : Option Json → Option Json → Prop
  /-- Blank entries of lists may be left out. -/
  thins : Prop
  name_none : name none none
  text_none : text none none
  free_none : free none none

/-- Documents that differ in nothing that is shown. -/
def Likeness.exact : Likeness where
  name a b := b = a
  text a b := b = a
  free v w := w = v
  thins := False
  name_none := rfl
  text_none := rfl
  free_none := rfl

/-- Two lists agree entry by entry, once some entries of the first are left out. -/
inductive Thinned {α : Type} (agree : α → α → Prop) (spare : α → Prop) : List α → List α → Prop
  | nil : Thinned agree spare [] []
  | keep {a b : α} {as bs : List α} (h : agree a b) (hrest : Thinned agree spare as bs) :
      Thinned agree spare (a :: as) (b :: bs)
  | drop {a : α} {as bs : List α} (h : spare a) (hrest : Thinned agree spare as bs) :
      Thinned agree spare (a :: as) bs

namespace Thinned

variable {α β : Type} {agree : α → α → Prop} {spare : α → Prop} {as bs : List α}

theorem length_le (h : Thinned agree spare as bs) : bs.length ≤ as.length := by
  induction h with
  | nil => exact Nat.le_refl _
  | keep _ _ ih => exact Nat.succ_le_succ ih
  | drop _ _ ih => exact Nat.le_succ_of_le ih

theorem forall₂_of_length_eq (h : Thinned agree spare as bs) (hlength : bs.length = as.length) :
    List.Forall₂ agree as bs := by
  induction h with
  | nil => exact .nil
  | keep hagree _ ih => exact .cons hagree (ih (Nat.succ_inj.1 hlength))
  | drop _ hrest _ =>
    have hle := hrest.length_le
    simp only [List.length_cons] at hlength
    omega

theorem forall₂ (h : Thinned agree spare as bs) (hspare : ∀ a, ¬ spare a) :
    List.Forall₂ agree as bs := by
  induction h with
  | nil => exact .nil
  | keep hagree _ ih => exact .cons hagree ih
  | drop h _ _ => exact absurd h (hspare _)

theorem of_forall₂ (h : List.Forall₂ agree as bs) : Thinned agree spare as bs := by
  induction h with
  | nil => exact .nil
  | cons hagree _ ih => exact .keep hagree ih

theorem map {agree' : β → β → Prop} {spare' : β → Prop} {f : α → β}
    (hagree : ∀ a b, agree a b → agree' (f a) (f b)) (hspare : ∀ a, spare a → spare' (f a))
    (h : Thinned agree spare as bs) : Thinned agree' spare' (as.map f) (bs.map f) := by
  induction h with
  | nil => exact .nil
  | keep h _ ih => exact .keep (hagree _ _ h) ih
  | drop h _ ih => exact .drop (hspare _ h) ih

theorem flatMap_eq {f : α → List β} (hagree : ∀ a b, agree a b → f b = f a)
    (hspare : ∀ a, spare a → f a = []) (h : Thinned agree spare as bs) :
    bs.flatMap f = as.flatMap f := by
  induction h with
  | nil => rfl
  | keep h _ ih => rw [List.flatMap_cons, List.flatMap_cons, ih, hagree _ _ h]
  | drop h _ ih => rw [List.flatMap_cons, ih, hspare _ h, List.nil_append]

theorem filter_eq {q : α → Bool} (hagree : ∀ a b, agree a b → b = a)
    (hspare : ∀ a, spare a → q a = false) (h : Thinned agree spare as bs) :
    bs.filter q = as.filter q := by
  induction h with
  | nil => rfl
  | keep h _ ih => rw [hagree _ _ h, List.filter_cons, List.filter_cons, ih]
  | drop h _ ih => rw [List.filter_cons, hspare _ h, if_neg Bool.false_ne_true, ih]

theorem any_eq {q q' : α → Bool} (hagree : ∀ a b, agree a b → q' b = q a)
    (hspare : ∀ a, spare a → q a = false) (h : Thinned agree spare as bs) :
    bs.any q' = as.any q := by
  induction h with
  | nil => rfl
  | keep h _ ih => rw [List.any_cons, List.any_cons, ih, hagree _ _ h]
  | drop h _ ih => rw [List.any_cons, ih, hspare _ h, Bool.false_or]

end Thinned

theorem map_eq_of_forall₂ {α β : Type} {agree : α → α → Prop} {as bs : List α} {f f' : α → β}
    (h : List.Forall₂ agree as bs) (hagree : ∀ a b, agree a b → f' b = f a) :
    bs.map f' = as.map f := by
  induction h with
  | nil => rfl
  | cons h _ ih => rw [List.map_cons, List.map_cons, hagree _ _ h, ih]

theorem filterMap_eq_of_forall₂ {α β : Type} {agree : α → α → Prop} {as bs : List α}
    {f f' : α → Option β} (h : List.Forall₂ agree as bs) (hagree : ∀ a b, agree a b → f' b = f a) :
    bs.filterMap f' = as.filterMap f := by
  induction h with
  | nil => rfl
  | cons h _ ih => rw [List.filterMap_cons, List.filterMap_cons, hagree _ _ h, ih]

theorem any_eq_of_forall₂ {α : Type} {agree : α → α → Prop} {as bs : List α} {q q' : α → Bool}
    (h : List.Forall₂ agree as bs) (hagree : ∀ a b, agree a b → q' b = q a) :
    bs.any q' = as.any q := by
  have hthinned : Thinned agree (fun _ => False) as bs := .of_forall₂ h
  exact hthinned.any_eq hagree fun _ => False.elim

theorem rel_getD {α : Type} {agree : α → α → Prop} {o o' : Option α} {a : α}
    (h : Option.Rel agree o o') (ha : agree a a) : agree (o.getD a) (o'.getD a) := by
  cases h with
  | none => exact ha
  | some h => exact h

section Places

variable (L : Likeness)

namespace Likeness

def Texts (as bs : List String) : Prop :=
  Thinned (fun a b => L.text (some a) (some b)) (fun a => L.thins ∧ Text.isBlank a = true) as bs

def Names (as bs : List String) : Prop :=
  Thinned (fun a b => L.name (some a) (some b)) (fun a => L.thins ∧ Text.isBlank a = true) as bs

end Likeness

/-! ## Subjects -/

/-- Two records that are alike in all that is shown of them. -/
structure Hair.Like (h h' : Hair) : Prop where
  color : L.name h.color h'.color
  style : L.name h.style h'.style

structure Garment.Like (g g' : Garment) : Prop where
  item : L.text g.item g'.item
  color : L.text g.color g'.color
  fabric : L.text g.fabric g'.fabric

/-- A piece of clothing without a word. -/
def Garment.Silent (g : Garment) : Prop :=
  ∀ s ∈ [g.color, g.fabric, g.item], Text.filled s = none

instance (g : Garment) : Decidable g.Silent :=
  inferInstanceAs (Decidable (∀ s ∈ [g.color, g.fabric, g.item], Text.filled s = none))

structure Accessory.Like (a a' : Accessory) : Prop where
  item : L.text a.item a'.item
  color : L.text a.color a'.color
  material : L.text a.material a'.material

/-- A thing without a word. -/
def Accessory.Silent (a : Accessory) : Prop :=
  ∀ s ∈ [a.material, a.color, a.item], Text.filled s = none

instance (a : Accessory) : Decidable a.Silent :=
  inferInstanceAs (Decidable (∀ s ∈ [a.material, a.color, a.item], Text.filled s = none))

/-- References of one role and strength. -/
structure ImageRef.Like (r r' : ImageRef) : Prop where
  usage : r'.usage = r.usage
  strength : r'.strength = r.strength
  description : L.text r.description r'.description
  target : L.name r.target r'.target

structure Subject.Like (s s' : Subject) : Prop where
  name : L.text s.name s'.name
  kind : L.text s.kind s'.kind
  description : L.text s.description s'.description
  age : L.free s.age s'.age
  gender : L.text s.gender s'.gender
  hair : Option.Rel (Hair.Like L) s.hair s'.hair
  pose : L.text s.pose s'.pose
  expression : L.text s.expression s'.expression
  position : L.name s.position s'.position
  clothing : Thinned (Garment.Like L) (fun g => L.thins ∧ g.Silent) s.clothing s'.clothing
  accessories :
    Thinned (Accessory.Like L) (fun a => L.thins ∧ a.Silent) s.accessories s'.accessories
  inputImage : Option.Rel (ImageRef.Like L) s.inputImage s'.inputImage

/-! ## Photographs -/

structure Lighting.Like (l l' : Lighting) : Prop where
  kind : L.name l.kind l'.kind
  direction : L.name l.direction l'.direction

structure Scene.Like (s s' : Scene) : Prop where
  location : L.text s.location s'.location
  time : L.name s.time s'.time
  weather : L.name s.weather s'.weather
  lighting : Option.Rel (Lighting.Like L) s.lighting s'.lighting
  backgroundElements : L.Texts s.backgroundElements s'.backgroundElements

structure Technical.Like (t t' : Technical) : Prop where
  cameraModel : L.text t.cameraModel t'.cameraModel
  lens : L.text t.lens t'.lens
  aperture : L.text t.aperture t'.aperture
  filmStock : L.text t.filmStock t'.filmStock

structure Composition.Like (c c' : Composition) : Prop where
  framing : L.name c.framing c'.framing
  angle : L.name c.angle c'.angle
  focusPoint : L.name c.focusPoint c'.focusPoint

structure TextRendering.Like (t t' : TextRendering) : Prop where
  enabled : t'.enabled = t.enabled
  textContent : L.text t.textContent t'.textContent
  placement : L.name t.placement t'.placement
  fontStyle : L.name t.fontStyle t'.fontStyle
  color : L.text t.color t'.color

/-! ## Style, edits and locks -/

structure StyleModifiers.Like (s s' : StyleModifiers) : Prop where
  medium : L.name s.medium s'.medium
  aesthetic : L.Names s.aesthetic s'.aesthetic
  artistReference : L.Texts s.artistReference s'.artistReference

structure Advanced.Like (a a' : Advanced) : Prop where
  negativePrompt : L.Texts a.negativePrompt a'.negativePrompt

structure Edit.Like (e e' : Edit) : Prop where
  target : L.name e.target e'.target
  action : L.name e.action e'.action
  description : L.text e.description e'.description

structure Lock.Like (l l' : Lock) : Prop where
  elements : L.Texts l.elements l'.elements

/-! ## Graphic designs -/

structure DesignLayout.Like (l l' : DesignLayout) : Prop where
  gridSystem : L.name l.gridSystem l'.gridSystem
  alignment : L.name l.alignment l'.alignment
  spacing : L.name l.spacing l'.spacing
  balance : L.name l.balance l'.balance

structure Hierarchy.Like (h h' : Hierarchy) : Prop where
  primaryFocus : L.name h.primaryFocus h'.primaryFocus
  visualFlow : L.name h.visualFlow h'.visualFlow

structure ColorScheme.Like (c c' : ColorScheme) : Prop where
  paletteType : L.name c.paletteType c'.paletteType
  primaryColor : L.name c.primaryColor c'.primaryColor
  secondaryColor : L.name c.secondaryColor c'.secondaryColor
  accentColor : L.name c.accentColor c'.accentColor

structure Typography.Like (t t' : Typography) : Prop where
  headlineFont : L.name t.headlineFont t'.headlineFont
  bodyFont : L.name t.bodyFont t'.bodyFont

structure DesignElement.Like (e e' : DesignElement) : Prop where
  kind : L.name (some e.kind) (some e'.kind)
  content : L.text e.content e'.content
  style : L.name e.style e'.style
  placement : L.name e.placement e'.placement

structure VisualStyle.Like (v v' : VisualStyle) : Prop where
  mood : L.text v.mood v'.mood
  texture : L.name v.texture v'.texture
  effects : L.name v.effects v'.effects

structure GraphicDesign.Like (g g' : GraphicDesign) : Prop where
  designType : L.name g.designType g'.designType
  layout : Option.Rel (DesignLayout.Like L) g.layout g'.layout
  hierarchy : Option.Rel (Hierarchy.Like L) g.hierarchy g'.hierarchy
  colorScheme : Option.Rel (ColorScheme.Like L) g.colorScheme g'.colorScheme
  typography : Option.Rel (Typography.Like L) g.typography g'.typography
  elements : Thinned (DesignElement.Like L) (fun e => L.thins ∧ Text.isBlank e.kind = true)
    g.elements g'.elements
  visualStyle : Option.Rel (VisualStyle.Like L) g.visualStyle g'.visualStyle

/-! ## Designs for a screen -/

structure UiLayout.Like (l l' : UiLayout) : Prop where
  arrangement : L.name l.arrangement l'.arrangement
  columns : L.free l.columns l'.columns
  spacing : L.name l.spacing l'.spacing

structure UiComponent.Like (c c' : UiComponent) : Prop where
  kind : L.name (some c.kind) (some c'.kind)
  variant : L.text c.variant c'.variant
  state : L.text c.state c'.state
  size : L.free c.size c'.size
  style : L.name c.style c'.style

structure ColorSystem.Like (c c' : ColorSystem) : Prop where
  mode : L.name c.mode c'.mode
  primary : L.text c.primary c'.primary

structure TypographySystem.Like (t t' : TypographySystem) : Prop where
  scale : L.name t.scale t'.scale
  fontFamily : L.name t.fontFamily t'.fontFamily

structure InteractionStates.Like (i i' : InteractionStates) : Prop where
  hoverEffect : L.name i.hoverEffect i'.hoverEffect
  focusStyle : L.name i.focusStyle i'.focusStyle

structure Styling.Like (s s' : Styling) : Prop where
  borderRadius : L.name s.borderRadius s'.borderRadius
  shadow : L.name s.shadow s'.shadow

structure Iconography.Like (i i' : Iconography) : Prop where
  style : L.text i.style i'.style
  size : L.free i.size i'.size

structure UiDesign.Like (u u' : UiDesign) : Prop where
  componentType : L.name u.componentType u'.componentType
  layout : Option.Rel (UiLayout.Like L) u.layout u'.layout
  components : Thinned (UiComponent.Like L) (fun c => L.thins ∧ Text.isBlank c.kind = true)
    u.components u'.components
  colorSystem : Option.Rel (ColorSystem.Like L) u.colorSystem u'.colorSystem
  typographySystem : Option.Rel (TypographySystem.Like L) u.typographySystem u'.typographySystem
  interactionStates :
    Option.Rel (InteractionStates.Like L) u.interactionStates u'.interactionStates
  styling : Option.Rel (Styling.Like L) u.styling u'.styling
  iconography : Option.Rel (Iconography.Like L) u.iconography u'.iconography
  designSystem : L.name u.designSystem u'.designSystem

/-! ## Documents -/

/-- Two documents of one domain that are alike in all that is shown of them. -/
structure PromptDocument.Like (d d' : PromptDocument) : Prop where
  userIntent : L.text d.userIntent d'.userIntent
  domain : d'.settings.effectiveDomain = d.settings.effectiveDomain
  quality : L.name d.settings.quality d'.settings.quality
  subjects : List.Forall₂ (Subject.Like L) d.subjects d'.subjects
  scene : Option.Rel (Scene.Like L) d.scene d'.scene
  composition : Option.Rel (Composition.Like L) d.composition d'.composition
  technical : Option.Rel (Technical.Like L) d.technical d'.technical
  textRendering : Option.Rel (TextRendering.Like L) d.textRendering d'.textRendering
  styleModifiers : Option.Rel (StyleModifiers.Like L) d.styleModifiers d'.styleModifiers
  advanced : Option.Rel (Advanced.Like L) d.advanced d'.advanced
  graphicDesign : Option.Rel (GraphicDesign.Like L) d.graphicDesign d'.graphicDesign
  uiDesign : Option.Rel (UiDesign.Like L) d.uiDesign d'.uiDesign
  inputImage : Option.Rel (ImageRef.Like L) d.inputImage d'.inputImage
  baseImage : Option.Rel (ImageRef.Like L) d.baseImage d'.baseImage
  referenceImages : List.Forall₂ (ImageRef.Like L) d.referenceImages d'.referenceImages
  edits : List.Forall₂ (Edit.Like L) d.edits d'.edits
  lock : Option.Rel (Lock.Like L) d.lock d'.lock

/-! ### Empty records are like themselves -/

theorem Subject.Like.empty : Subject.Like L {} {} where
  name := L.text_none
  kind := L.text_none
  description := L.text_none
  age := L.free_none
  gender := L.text_none
  hair := .none
  pose := L.text_none
  expression := L.text_none
  position := L.name_none
  clothing := .nil
  accessories := .nil
  inputImage := .none

theorem Scene.Like.empty : Scene.Like L {} {} :=
  ⟨L.text_none, L.name_none, L.name_none, .none, .nil⟩

theorem StyleModifiers.Like.empty : StyleModifiers.Like L {} {} := ⟨L.name_none, .nil, .nil⟩

theorem Lighting.Like.empty : Lighting.Like L {} {} := ⟨L.name_none, L.name_none⟩

theorem Lock.Like.empty : Lock.Like L {} {} := ⟨.nil⟩

theorem Advanced.Like.empty : Advanced.Like L {} {} := ⟨.nil⟩

theorem VisualStyle.Like.empty : VisualStyle.Like L {} {} :=
  ⟨L.text_none, L.name_none, L.name_none⟩

theorem GraphicDesign.Like.empty : GraphicDesign.Like L {} {} :=
  ⟨L.name_none, .none, .none, .none, .none, .nil, .none⟩

theorem InteractionStates.Like.empty : InteractionStates.Like L {} {} :=
  ⟨L.name_none, L.name_none⟩

theorem Styling.Like.empty : Styling.Like L {} {} := ⟨L.name_none, L.name_none⟩

theorem UiDesign.Like.empty : UiDesign.Like L {} {} :=
  ⟨L.name_none, .none, .nil, .none, .none, .none, .none, .none, L.name_none⟩

theorem PromptDocument.Like.empty : PromptDocument.Like L {} {} where
  userIntent := L.text_none
  domain := rfl
  quality := L.name_none
  subjects := .nil
  scene := .none
  composition := .none
  technical := .none
  textRendering := .none
  styleModifiers := .none
  advanced := .none
  graphicDesign := .none
  uiDesign := .none
  inputImage := .none
  baseImage := .none
  referenceImages := .nil
  edits := .nil
  lock := .none

end Places

/-! ## Sections that are missing

A section that is not there counts as an empty one.
-/

def Scene.light (s : Scene) : Lighting := s.lighting.getD {}

def GraphicDesign.look (g : GraphicDesign) : VisualStyle := g.visualStyle.getD {}

def UiDesign.states (u : UiDesign) : InteractionStates := u.interactionStates.getD {}

def UiDesign.surfaces (u : UiDesign) : Styling := u.styling.getD {}

namespace PromptDocument

def place (d : PromptDocument) : Scene := d.scene.getD {}

def manner (d : PromptDocument) : StyleModifiers := d.styleModifiers.getD {}

def design (d : PromptDocument) : GraphicDesign := d.graphicDesign.getD {}

def screen (d : PromptDocument) : UiDesign := d.uiDesign.getD {}

def kept (d : PromptDocument) : Lock := d.lock.getD {}

def negatives (d : PromptDocument) : List String := (d.advanced.getD {}).negativePrompt

end PromptDocument

section Sections

variable {L : Likeness} {d d' : PromptDocument} {g g' : GraphicDesign} {u u' : UiDesign}

theorem Scene.Like.light {s s' : Scene} (h : s.Like L s') : s.light.Like L s'.light :=
  rel_getD h.lighting (.empty L)

theorem GraphicDesign.Like.look (h : g.Like L g') : g.look.Like L g'.look :=
  rel_getD h.visualStyle (.empty L)

theorem UiDesign.Like.states (h : u.Like L u') : u.states.Like L u'.states :=
  rel_getD h.interactionStates (.empty L)

theorem UiDesign.Like.surfaces (h : u.Like L u') : u.surfaces.Like L u'.surfaces :=
  rel_getD h.styling (.empty L)

namespace PromptDocument

theorem Like.place (h : d.Like L d') : d.place.Like L d'.place := rel_getD h.scene (.empty L)

theorem Like.manner (h : d.Like L d') : d.manner.Like L d'.manner :=
  rel_getD h.styleModifiers (.empty L)

theorem Like.design (h : d.Like L d') : d.design.Like L d'.design :=
  rel_getD h.graphicDesign (.empty L)

theorem Like.screen (h : d.Like L d') : d.screen.Like L d'.screen := rel_getD h.uiDesign (.empty L)

theorem Like.kept (h : d.Like L d') : d.kept.Like L d'.kept := rel_getD h.lock (.empty L)

theorem Like.negatives (h : d.Like L d') : L.Texts d.negatives d'.negatives :=
  (rel_getD h.advanced (.empty L)).negativePrompt

/-! ## What is read otherwise than it is shown -/

/-- No entry is left out of the lists that show their blank entries. -/
structure KeepsEntries (d d' : PromptDocument) : Prop where
  background : d.settings.effectiveDomain = .photography →
    d'.place.backgroundElements.length = d.place.backgroundElements.length
  aesthetics : d'.manner.aesthetic.length = d.manner.aesthetic.length
  models : d'.manner.artistReference.length = d.manner.artistReference.length
  negatives : d'.negatives.length = d.negatives.length

/-- The quality is that of an illustration, written without white space around it. -/
def AsksForIllustration (d : PromptDocument) : Prop :=
  d.settings.quality = some "vector_illustration" ∨ d.settings.quality = some "flat_illustration"

instance (d : PromptDocument) : Decidable d.AsksForIllustration :=
  inferInstanceAs (Decidable (_ ∨ _))

/-- The names that are compared as they are written read the same. -/
structure ReadsAlike (d d' : PromptDocument) : Prop where
  quality : d.settings.effectiveDomain = .graphicDesign →
    (d'.AsksForIllustration ↔ d.AsksForIllustration)
  effects : d.settings.effectiveDomain = .graphicDesign →
    (d'.design.look.effects = some "none" ↔ d.design.look.effects = some "none")
  hoverEffect : d.settings.effectiveDomain = .uiDesign →
    (d'.screen.states.hoverEffect = some "none" ↔ d.screen.states.hoverEffect = some "none")
  focusStyle : d.settings.effectiveDomain = .uiDesign →
    (d'.screen.states.focusStyle = some "none" ↔ d.screen.states.focusStyle = some "none")
  shadow : d.settings.effectiveDomain = .uiDesign →
    (d'.screen.surfaces.shadow = some "none" ↔ d.screen.surfaces.shadow = some "none")

/-- No entry is left out by a likeness that does not thin lists. -/
theorem Like.keepsEntries (h : d.Like L d') (hthins : ¬ L.thins) : d.KeepsEntries d' := by
  have hlength {agree : String → String → Prop} {as bs : List String}
      (h : Thinned agree (fun a => L.thins ∧ Text.isBlank a = true) as bs) :
      bs.length = as.length :=
    (h.forall₂ fun _ hspare => hthins hspare.1).length_eq.symm
  exact ⟨fun _ => hlength h.place.backgroundElements, hlength h.manner.aesthetic,
    hlength h.manner.artistReference, hlength h.negatives⟩

/-- What a name is compared with says something, so a name is that word when it is that word once
it is dropped if blank. -/
theorem eq_some_iff_of_filled {a b : Option String} {word : String}
    (h : Text.filled b = Text.filled a) (hword : Text.trim word ≠ "") :
    b = some word ↔ a = some word := by
  have hiff (c : Option String) : c = some word ↔ Text.filled c = some word := by
    rw [Text.filled_eq_some_iff, and_iff_left hword]
  rw [hiff a, hiff b, h]

/-- Names read the same under a likeness that keeps all names that say something. -/
theorem Like.readsAlike (h : d.Like L d')
    (hnames : ∀ a b, L.name a b → Text.filled b = Text.filled a) : d.ReadsAlike d' := by
  have hiff {a b : Option String} (hlike : L.name a b) (word : String)
      (hword : Text.trim word ≠ "") : b = some word ↔ a = some word :=
    eq_some_iff_of_filled (hnames a b hlike) hword
  constructor
  case quality =>
    exact fun _ => or_congr (hiff h.quality _ (by decide)) (hiff h.quality _ (by decide))
  case effects => exact fun _ => hiff h.design.look.effects _ (by decide)
  case hoverEffect => exact fun _ => hiff h.screen.states.hoverEffect _ (by decide)
  case focusStyle => exact fun _ => hiff h.screen.states.focusStyle _ (by decide)
  case shadow => exact fun _ => hiff h.screen.surfaces.shadow _ (by decide)

end PromptDocument

end Sections

end ImagePrompt
