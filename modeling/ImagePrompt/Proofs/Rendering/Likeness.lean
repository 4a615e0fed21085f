import ImagePrompt.Proofs.Document.Likeness
import ImagePrompt.Proofs.Rendering.Phrases
/-!
# What is rendered of documents that are alike

A likeness is faithful when it relates only what is shown in the same way. Documents that are alike
in a faithful way are rendered to one text, as long as as many entries are left in the lists that
show blank ones, and as the words that are compared as they are written read the same.
-/

namespace ImagePrompt

open PromptLine Text

/-! ## Names and the words around them -/

/-- Words around a name that do not depend on the white space around it. -/
def Spelled (f : String → String) : Prop := ∀ s t, trim s = trim t → f s = f t

@[simp] theorem spelled_spaced : Spelled spaced := by
  intro s t h
  unfold spaced
  rw [h]

@[simp] theorem Spelled.before {f : String → String} {front : String} (hf : Spelled f) :
    Spelled fun t => front ++ f t :=
  fun s t h => congrArg (front ++ ·) (hf s t h)

@[simp] theorem Spelled.behind {f : String → String} {back : String} (hf : Spelled f) :
    Spelled fun t => f t ++ back :=
  fun s t h => congrArg (· ++ back) (hf s t h)

@[simp] theorem Spelled.around {f : String → String} {front back : String} (hf : Spelled f) :
    Spelled fun t => front ++ f t ++ back :=
  hf.before.behind

/-- What is left of a text when it is dropped if blank and trimmed otherwise. -/
theorem getD_map_trim_filled (s : String) : ((filled (some s)).map trim).getD "" = trim s := by
  cases hs : filled (some s) with
  | some t =>
    obtain ⟨hst, -⟩ := filled_eq_some_iff.1 hs
    rw [Option.some.inj hst]
    rfl
  | none =>
    by_contra hne
    have hsome : filled (some s) = some s := filled_eq_some_iff.2 ⟨rfl, fun h => hne h.symm⟩
    rw [hs] at hsome
    cases hsome

theorem PromptLine.text_edit (action target description : Option String) :
    (PromptLine.edit action target description).text = "Edit:" ++ String.join
      (phrases [action, target] (fun t => " " ++ spaced t) ++
        phrase description fun t => " (" ++ t ++ ")") := rfl

namespace Likeness

/-- The same is shown of all that the likeness relates. -/
structure Faithful (L : Likeness) : Prop where
  name : ∀ {a b}, L.name a b → (filled b).map trim = (filled a).map trim
  text : ∀ {a b}, L.text a b → filled b = filled a
  entry : ∀ {s t}, L.text (some s) (some t) → t = s
  free : ∀ {a b}, L.free a b → b.bind freeText = a.bind freeText

namespace Faithful

variable {L : Likeness} (hL : L.Faithful) {a b : Option String} {s t word : String}
  {f : String → String} {as bs : List String}
include hL

theorem phrase_text (h : L.text a b) : phrase b f = phrase a f := by
  unfold phrase
  rw [hL.text h]

theorem filledUnless_text (h : L.text a b) : filledUnless word b = filledUnless word a := by
  unfold filledUnless
  rw [hL.text h]

theorem freePhrase_free {v w : Option Json} (h : L.free v w) : freePhrase w f = freePhrase v f := by
  unfold freePhrase
  rw [hL.free h]

/-- Either both names are silent, or both say the same up to white space around it. -/
theorem name_cases (h : L.name a b) :
    filled a = none ∧ filled b = none ∨
      ∃ s t, filled a = some s ∧ filled b = some t ∧ trim t = trim s := by
  have htrim := hL.name h
  cases ha : filled a with
  | none =>
    rw [ha, Option.map_none, Option.map_eq_none_iff] at htrim
    exact .inl ⟨rfl, htrim⟩
  | some s =>
    rw [ha, Option.map_some, Option.map_eq_some_iff] at htrim
    obtain ⟨t, ht, hst⟩ := htrim
    exact .inr ⟨s, t, rfl, ht, hst⟩

theorem silent_name (h : L.name a b) : filled b = none ↔ filled a = none := by
  obtain ⟨ha, hb⟩ | ⟨s, t, ha, hb, -⟩ := hL.name_cases h <;> simp [ha, hb]

theorem phrase_name (h : L.name a b) (hf : Spelled f) : phrase b f = phrase a f := by
  unfold phrase
  obtain ⟨ha, hb⟩ | ⟨s, t, ha, hb, htrim⟩ := hL.name_cases h
  · rw [ha, hb]
  · rw [ha, hb, Option.map_some, Option.map_some, hf t s htrim]

/-- A name that is passed over when it is one word is shown alike if both are that word or none
is. -/
theorem phrase_unless (h : L.name a b) (hword : b = some word ↔ a = some word) (hf : Spelled f) :
    phrase (filledUnless word b) f = phrase (filledUnless word a) f := by
  by_cases hsame : a = some word
  · rw [hsame, hword.2 hsame]
  · rw [phrase_filledUnless_of_ne hsame, phrase_filledUnless_of_ne (mt hword.1 hsame),
      hL.phrase_name h hf]

theorem trim_name (h : L.name (some s) (some t)) : trim t = trim s := by
  rw [← getD_map_trim_filled t, ← getD_map_trim_filled s, hL.name h]

theorem spaced_name (h : L.name (some s) (some t)) : spaced t = spaced s :=
  spelled_spaced t s (hL.trim_name h)

theorem isBlank_name (h : L.name (some s) (some t)) : isBlank t = isBlank s := by
  rw [Bool.eq_iff_iff, isBlank_iff, isBlank_iff, hL.trim_name h]

/-- A list of texts from which no entry is left out. -/
theorem texts_eq (h : L.Texts as bs) (hlength : bs.length = as.length) : bs = as := by
  have hentries := h.forall₂_of_length_eq hlength
  exact List.forall₂_eq_eq_eq ▸ (hentries.imp fun _ _ hentry => hL.entry hentry).flip

theorem names_eq (h : L.Names as bs) (hlength : bs.length = as.length) :
    bs.map spaced = as.map spaced :=
  map_eq_of_forall₂ (h.forall₂_of_length_eq hlength) fun _ _ => hL.spaced_name

end Faithful

end Likeness

/-! ## Sections -/

theorem section_eq {α β : Type} {agree : α → α → Prop} {o o' : Option α} {f f' : α → List β}
    (h : Option.Rel agree o o') (hagree : ∀ a b, agree a b → f' b = f a) :
    (o'.map f').getD [] = (o.map f).getD [] := by
  cases h with
  | none => rfl
  | some h => exact hagree _ _ h

/-- A section that is missing is shown like an empty one. -/
theorem section_getD {α β : Type} {f : α → List β} {a : α} (h : f a = []) (o : Option α) :
    (o.map f).getD [] = f (o.getD a) := by
  cases o with
  | none => exact h.symm
  | some _ => rfl

/-- Two lists that are the same around a part of each. -/
def Around {α : Type} (part part' whole whole' : List α) : Prop :=
  ∃ front back, whole = front ++ part ++ back ∧ whole' = front ++ part' ++ back

theorem Around.eq {α : Type} {part part' whole whole' : List α}
    (h : Around part part' whole whole') (hpart : part' = part) : whole' = whole := by
  obtain ⟨front, back, rfl, rfl⟩ := h
  rw [hpart]

theorem wornPhrase_eq {α : Type} {agree : α → α → Prop} {spare : α → Prop} {as bs : List α}
    (verb : String) {f : α → String} (h : Thinned agree spare as bs)
    (hagree : ∀ a b, agree a b → f b = f a) (hspare : ∀ a, spare a → f a = "") :
    wornPhrase verb (bs.map f) = wornPhrase verb (as.map f) := by
  have hitems : Thinned (fun s t => t = s) (· = "") (as.map f) (bs.map f) := h.map hagree hspare
  have hfilter : (bs.map f).filter (· != "") = (as.map f).filter (· != "") :=
    hitems.filter_eq (fun _ _ => id) (by rintro _ rfl; rfl)
  unfold wornPhrase
  rw [hfilter]

section Records

variable {L : Likeness} (hL : L.Faithful)
include hL

/-! ### Photographs -/

theorem Hair.Like.phrase {h h' : Hair} (hlike : h.Like L h') :
    Subject.hairPhrase h' = Subject.hairPhrase h := by
  simp [Subject.hairPhrase, phrases, hL.phrase_name hlike.color, hL.phrase_name hlike.style]

theorem Garment.Like.words {g g' : Garment} (h : g.Like L g') :
    wordsOf [g'.color, g'.fabric, g'.item] = wordsOf [g.color, g.fabric, g.item] := by
  simp [wordsOf, phrases, hL.phrase_text h.color, hL.phrase_text h.fabric, hL.phrase_text h.item]

theorem Accessory.Like.words {a a' : Accessory} (h : a.Like L a') :
    wordsOf [a'.material, a'.color, a'.item] = wordsOf [a.material, a.color, a.item] := by
  simp [wordsOf, phrases, hL.phrase_text h.material, hL.phrase_text h.color,
    hL.phrase_text h.item]

omit hL in
theorem wordsOf_eq_empty {ss : List (Option String)} (h : ∀ s ∈ ss, filled s = none) :
    wordsOf ss = "" := by
  have hnone : phrases ss id = [] := List.isEmpty_iff.1 (isEmpty_phrases_iff.2 h)
  rw [wordsOf, hnone]
  rfl

namespace Subject.Like

variable {s s' : Subject} (h : s.Like L s')
include h

theorem headWords : s'.headWords = s.headWords := by
  simp [Subject.headWords, hL.phrase_text h.name, hL.phrase_text h.kind,
    hL.phrase_text h.description]

theorem traits : s'.traits = s.traits := by
  have hhair := section_eq h.hair fun _ _ => Hair.Like.phrase hL
  have hclothing := wornPhrase_eq "wearing" h.clothing
    (fun _ _ => Garment.Like.words hL) fun _ hspare => wordsOf_eq_empty hspare.2
  have haccessories := wornPhrase_eq "with" h.accessories
    (fun _ _ => Accessory.Like.words hL) fun _ hspare => wordsOf_eq_empty hspare.2
  simp only [Subject.traits, hL.freePhrase_free h.age, hL.phrase_text h.gender, hhair,
    hL.phrase_text h.pose, hL.phrase_text h.expression,
    hL.phrase_name h.position spelled_spaced.before, hclothing, haccessories]

theorem description? : s'.description? = s.description? := by
  rw [Subject.description?, Subject.description?, h.headWords hL, h.traits hL]

end Subject.Like

theorem Subject.lines_like {number : Nat} {subjects subjects' : List Subject}
    (h : List.Forall₂ (Subject.Like L) subjects subjects') :
    Subject.lines number subjects' = Subject.lines number subjects := by
  induction h generalizing number with
  | nil => rfl
  | cons h _ ih => rw [Subject.lines, Subject.lines, h.description? hL, ih]

/-- What a scene shows in front of its background. -/
def Scene.foreground (s : Scene) : List String :=
  let light := phrases [s.light.kind, s.light.direction] spaced
  phrase s.location (fun t => "Location: " ++ t) ++
    phrase s.time (fun t => "Time: " ++ spaced t) ++
    phrase s.weather (fun t => "Weather: " ++ spaced t) ++
    (if light.isEmpty then [] else ["Lighting: " ++ commaList light])

/-- The line of a scene with things in its background. -/
def sceneLines (foreground background : List String) : List PromptLine :=
  let parts := foreground ++
    (if background.isEmpty then [] else ["Background: " ++ commaList background])
  if parts.isEmpty then [] else [.labelled "Scene" (String.intercalate "; " parts)]

omit hL in
theorem Scene.lines_eq (s : Scene) : s.lines = sceneLines s.foreground s.backgroundElements := by
  unfold Scene.lines Scene.foreground Scene.light
  cases s.lighting with
  | none => rfl
  | some _ => rfl

theorem Scene.Like.foreground {s s' : Scene} (h : s.Like L s') : s'.foreground = s.foreground := by
  simp only [Scene.foreground, phrases, List.flatMap_cons, List.flatMap_nil,
    hL.phrase_text h.location, hL.phrase_name h.time spelled_spaced.before,
    hL.phrase_name h.weather spelled_spaced.before, hL.phrase_name h.light.kind spelled_spaced,
    hL.phrase_name h.light.direction spelled_spaced]

theorem Scene.Like.lines {s s' : Scene} (h : s.Like L s')
    (hkept : s'.backgroundElements.length = s.backgroundElements.length) :
    s'.lines = s.lines := by
  rw [Scene.lines_eq, Scene.lines_eq, h.foreground hL, hL.texts_eq h.backgroundElements hkept]

theorem Technical.Like.lines {t t' : Technical} (h : t.Like L t') : t'.lines = t.lines := by
  simp [Technical.lines, hL.phrase_text h.cameraModel, hL.phrase_text h.lens,
    hL.phrase_text h.aperture, hL.phrase_text h.filmStock]

theorem Composition.Like.lines {c c' : Composition} (h : c.Like L c') : c'.lines = c.lines := by
  simp [Composition.lines, hL.phrase_name h.framing, hL.phrase_name h.angle,
    hL.phrase_name h.focusPoint]

theorem TextRendering.Like.lines {t t' : TextRendering} (h : t.Like L t') :
    t'.lines = t.lines := by
  simp [TextRendering.lines, h.enabled, hL.phrase_text h.textContent, hL.phrase_name h.placement,
    hL.phrase_name h.fontStyle, hL.phrase_text h.color]

/-! ### Graphic designs -/

theorem DesignLayout.Like.lines {l l' : DesignLayout} (h : l.Like L l') : l'.lines = l.lines := by
  simp [DesignLayout.lines, phrases, hL.phrase_name h.gridSystem, hL.phrase_name h.alignment,
    hL.phrase_name h.spacing, hL.phrase_name h.balance]

theorem Hierarchy.Like.lines {r r' : Hierarchy} (h : r.Like L r') : r'.lines = r.lines := by
  simp [Hierarchy.lines, hL.phrase_name h.primaryFocus, hL.phrase_name h.visualFlow]

theorem ColorScheme.Like.lines {c c' : ColorScheme} (h : c.Like L c') : c'.lines = c.lines := by
  simp [ColorScheme.lines, hL.phrase_name h.paletteType, hL.phrase_name h.primaryColor,
    hL.phrase_name h.secondaryColor, hL.phrase_name h.accentColor]

theorem Typography.Like.lines {t t' : Typography} (h : t.Like L t') : t'.lines = t.lines := by
  simp [Typography.lines, hL.phrase_name h.headlineFont, hL.phrase_name h.bodyFont]

theorem DesignElement.Like.words {e e' : DesignElement} (h : e.Like L e') :
    e'.words = e.words := by
  simp [DesignElement.words, hL.isBlank_name h.kind, hL.spaced_name h.kind,
    hL.phrase_text h.content, hL.phrase_name h.style, hL.phrase_name h.placement]

theorem VisualStyle.Like.lines {v v' : VisualStyle} (h : v.Like L v')
    (heffects : v'.effects = some "none" ↔ v.effects = some "none") : v'.lines = v.lines := by
  simp [VisualStyle.lines, hL.phrase_text h.mood, hL.phrase_name h.texture,
    hL.phrase_unless h.effects heffects]

omit hL in
theorem DesignElement.words_of_isBlank {e : DesignElement} (h : isBlank e.kind = true) :
    e.words = [] := if_pos h

/-- Designs that are alike differ in the line of their look, if at all. -/
theorem GraphicDesign.Like.lines_around {g g' : GraphicDesign} (h : g.Like L g') :
    Around g.look.lines g'.look.lines g.lines g'.lines := by
  have helements : g'.elements.flatMap DesignElement.words =
      g.elements.flatMap DesignElement.words :=
    h.elements.flatMap_eq (fun _ _ h => h.words hL) fun _ h => DesignElement.words_of_isBlank h.2
  have hlook (g : GraphicDesign) : (g.visualStyle.map VisualStyle.lines).getD [] = g.look.lines :=
    section_getD rfl _
  unfold GraphicDesign.lines
  rw [hlook g, hlook g']
  refine ⟨_, [], (List.append_nil _).symm, ?_⟩
  simp only [hL.phrase_name h.designType spelled_spaced,
    section_eq h.layout fun _ _ => DesignLayout.Like.lines hL,
    section_eq h.hierarchy fun _ _ => Hierarchy.Like.lines hL,
    section_eq h.colorScheme fun _ _ => ColorScheme.Like.lines hL,
    section_eq h.typography fun _ _ => Typography.Like.lines hL, helements, List.append_nil]

theorem GraphicDesign.Like.lines {g g' : GraphicDesign} (h : g.Like L g')
    (heffects : g'.look.effects = some "none" ↔ g.look.effects = some "none") :
    g'.lines = g.lines :=
  (h.lines_around hL).eq (h.look.lines hL heffects)

/-! ### Designs for a screen -/

theorem UiLayout.Like.lines {l l' : UiLayout} (h : l.Like L l') : l'.lines = l.lines := by
  simp [UiLayout.lines, hL.phrase_name h.arrangement, hL.freePhrase_free h.columns,
    hL.phrase_name h.spacing]

theorem UiComponent.Like.words {c c' : UiComponent} (h : c.Like L c') : c'.words = c.words := by
  simp [UiComponent.words, hL.isBlank_name h.kind, hL.spaced_name h.kind,
    hL.phrase_text h.variant, hL.filledUnless_text h.state, hL.freePhrase_free h.size,
    hL.phrase_name h.style]

omit hL in
theorem UiComponent.words_of_isBlank {c : UiComponent} (h : isBlank c.kind = true) :
    c.words = [] := if_pos h

theorem ColorSystem.Like.lines {c c' : ColorSystem} (h : c.Like L c') : c'.lines = c.lines := by
  simp [ColorSystem.lines, hL.phrase_name h.mode, hL.phrase_text h.primary]

theorem TypographySystem.Like.lines {t t' : TypographySystem} (h : t.Like L t') :
    t'.lines = t.lines := by
  simp [TypographySystem.lines, phrases, hL.phrase_name h.scale, hL.phrase_name h.fontFamily]

theorem InteractionStates.Like.lines {i i' : InteractionStates} (h : i.Like L i')
    (hhover : i'.hoverEffect = some "none" ↔ i.hoverEffect = some "none")
    (hfocus : i'.focusStyle = some "none" ↔ i.focusStyle = some "none") : i'.lines = i.lines := by
  simp [InteractionStates.lines, hL.phrase_unless h.hoverEffect hhover,
    hL.phrase_unless h.focusStyle hfocus]

theorem Styling.Like.lines {s s' : Styling} (h : s.Like L s')
    (hshadow : s'.shadow = some "none" ↔ s.shadow = some "none") : s'.lines = s.lines := by
  simp [Styling.lines, hL.phrase_name h.borderRadius, hL.phrase_unless h.shadow hshadow]

theorem Iconography.Like.lines {i i' : Iconography} (h : i.Like L i') : i'.lines = i.lines := by
  simp [Iconography.lines, hL.phrase_text h.style, hL.freePhrase_free h.size]

/-- Designs for a screen that are alike differ in the lines on how the screen answers and on its
surfaces, if at all. -/
theorem UiDesign.Like.lines_around {u u' : UiDesign} (h : u.Like L u') :
    Around (u.states.lines ++ u.surfaces.lines) (u'.states.lines ++ u'.surfaces.lines)
      u.lines u'.lines := by
  have hcomponents : u'.components.flatMap UiComponent.words =
      u.components.flatMap UiComponent.words :=
    h.components.flatMap_eq (fun _ _ h => h.words hL) fun _ h => UiComponent.words_of_isBlank h.2
  have hstates (u : UiDesign) :
      (u.interactionStates.map InteractionStates.lines).getD [] = u.states.lines :=
    section_getD rfl _
  have hsurfaces (u : UiDesign) : (u.styling.map Styling.lines).getD [] = u.surfaces.lines :=
    section_getD rfl _
  refine ⟨(phrase u.componentType spaced).map (labelled "UI Component") ++
      (u.layout.map UiLayout.lines).getD [] ++
      listed "Components" (u.components.flatMap UiComponent.words) ++
      (u.colorSystem.map ColorSystem.lines).getD [] ++
      (u.typographySystem.map TypographySystem.lines).getD [],
    (u.iconography.map Iconography.lines).getD [] ++
      (phrase u.designSystem spaced).map (labelled "Design System"), ?_, ?_⟩
  · simp only [UiDesign.lines, hstates, hsurfaces, List.append_assoc]
  · simp only [UiDesign.lines, hstates, hsurfaces, List.append_assoc,
      hL.phrase_name h.componentType spelled_spaced, hL.phrase_name h.designSystem spelled_spaced,
      section_eq h.layout fun _ _ => UiLayout.Like.lines hL,
      section_eq h.colorSystem fun _ _ => ColorSystem.Like.lines hL,
      section_eq h.typographySystem fun _ _ => TypographySystem.Like.lines hL,
      section_eq h.iconography fun _ _ => Iconography.Like.lines hL, hcomponents]

theorem UiDesign.Like.lines {u u' : UiDesign} (h : u.Like L u')
    (hhover : u'.states.hoverEffect = some "none" ↔ u.states.hoverEffect = some "none")
    (hfocus : u'.states.focusStyle = some "none" ↔ u.states.focusStyle = some "none")
    (hshadow : u'.surfaces.shadow = some "none" ↔ u.surfaces.shadow = some "none") :
    u'.lines = u.lines :=
  (h.lines_around hL).eq
    (congrArg₂ (· ++ ·) (h.states.lines hL hhover hfocus) (h.surfaces.lines hL hshadow))

/-! ### Style -/

theorem StyleModifiers.Like.lines {s s' : StyleModifiers} (h : s.Like L s')
    (haesthetic : s'.aesthetic.length = s.aesthetic.length)
    (hartist : s'.artistReference.length = s.artistReference.length) : s'.lines = s.lines := by
  have hnames := hL.names_eq h.aesthetic haesthetic
  have hempty : s'.aesthetic.isEmpty = s.aesthetic.isEmpty := by
    rw [← List.isEmpty_map (f := spaced), hnames, List.isEmpty_map]
  simp only [StyleModifiers.lines, hL.phrase_name h.medium spelled_spaced, hnames, hempty,
    hL.texts_eq h.artistReference hartist]

/-! ### Images -/

/-- Images that are declared in one place. -/
structure DeclaredImage.Like (L : Likeness) (a b : DeclaredImage) : Prop where
  origin : b.origin = a.origin
  image : a.image.Like L b.image

theorem DeclaredImage.Like.describe {a b : DeclaredImage} (h : a.Like L b) :
    PromptLine.describe b = PromptLine.describe a := by
  have hrole : role b = role a := by
    simp only [role, h.origin, ImageRef.usageLabel, h.image.usage]
  simp [PromptLine.describe, hrole, h.image.strength, hL.phrase_name h.image.target,
    hL.phrase_text h.image.description]

namespace PromptDocument

omit hL in
theorem declared_like (origin : ImageOrigin) {image image' : Option ImageRef}
    (h : Option.Rel (ImageRef.Like L) image image') :
    List.Forall₂ (DeclaredImage.Like L) (image.map (⟨origin, ·⟩)).toList
      (image'.map (⟨origin, ·⟩)).toList := by
  cases h with
  | none => exact .nil
  | some h => exact .cons ⟨rfl, h⟩ .nil

omit hL in
theorem subjectImages_like {index : Nat} {subjects subjects' : List Subject}
    (h : List.Forall₂ (Subject.Like L) subjects subjects') :
    List.Forall₂ (DeclaredImage.Like L) (subjectImages index subjects)
      (subjectImages index subjects') := by
  induction h generalizing index with
  | nil => exact .nil
  | cons h _ ih => exact List.rel_append (declared_like (.subject index) h.inputImage) ih

omit hL in
theorem numberedReferences_like {index : Nat} {references references' : List ImageRef}
    (h : List.Forall₂ (ImageRef.Like L) references references') :
    List.Forall₂ (DeclaredImage.Like L) (numberedReferences index references)
      (numberedReferences index references') := by
  induction h generalizing index with
  | nil => exact .nil
  | cons h _ ih => exact .cons ⟨rfl, h⟩ ih

theorem map_text_referenceLines_like {number : Nat} {images images' : List DeclaredImage}
    (h : List.Forall₂ (DeclaredImage.Like L) images images') :
    (referenceLines number images').map PromptLine.text =
      (referenceLines number images).map PromptLine.text := by
  induction h generalizing number with
  | nil => rfl
  | @cons a b _ _ h _ ih =>
    have htext : (PromptLine.reference number b).text = (PromptLine.reference number a).text :=
      congrArg (fun said => "Image " ++ toString number ++ ": " ++ said) (h.describe hL)
    rw [referenceLines, referenceLines, List.map_cons, List.map_cons, ih, htext]

end PromptDocument

end Records

end ImagePrompt
