import ImagePrompt.Rendering.Line
/-!
# Lines for photographs

Subjects, scene, technique, composition and text of a photograph.
-/

namespace ImagePrompt

def wordsOf (ss : List (Option String)) : String :=
  String.intercalate " " (phrases ss id)

/-- The items that are not empty, with commas between them and words in front. -/
def wornPhrase (verb : String) (items : List String) : List String :=
  let items := items.filter (· != "")
  if items.isEmpty then [] else [verb ++ " " ++ commaList items]

namespace Subject

def headWords (s : Subject) : List String :=
  phrase s.name id ++ phrase s.kind (fun t => "(" ++ t ++ ")") ++ phrase s.description id

def hairPhrase (h : Hair) : List String :=
  let words := phrases [h.color, h.style] spaced
  if words.isEmpty then [] else [String.intercalate " " words ++ " hair"]

def traits (s : Subject) : List String :=
  freePhrase s.age id ++
  phrase s.gender id ++
  (s.hair.map hairPhrase).getD [] ++
  phrase s.pose id ++
  phrase s.expression (· ++ " expression") ++
  phrase s.position (fun t => "positioned " ++ spaced t) ++
  wornPhrase "wearing" (s.clothing.map fun g => wordsOf [g.color, g.fabric, g.item]) ++
  wornPhrase "with" (s.accessories.map fun a => wordsOf [a.material, a.color, a.item])

/-- Items added to a text with a comma before each, except at its start. -/
def appendItems (text : String) : List String → String
  | [] => text
  | item :: rest => appendItems (if text == "" then item else text ++ ", " ++ item) rest

def description? (s : Subject) : Option String :=
  if s.headWords.isEmpty && s.traits.isEmpty then none
  else some (appendItems (String.intercalate " " s.headWords) s.traits)

def lines : Nat → List Subject → List PromptLine
  | _, [] => []
  | number, s :: rest =>
    (s.description?.map (PromptLine.subject number)).toList ++ lines (number + 1) rest

end Subject

def Scene.lines (s : Scene) : List PromptLine :=
  let light := match s.lighting with
    | some l => phrases [l.kind, l.direction] spaced
    | none => []
  let parts :=
    phrase s.location (fun t => "Location: " ++ t) ++
    phrase s.time (fun t => "Time: " ++ spaced t) ++
    phrase s.weather (fun t => "Weather: " ++ spaced t) ++
    (if light.isEmpty then [] else ["Lighting: " ++ commaList light]) ++
    (if s.backgroundElements.isEmpty then []
      else ["Background: " ++ commaList s.backgroundElements])
  if parts.isEmpty then [] else [.labelled "Scene" (String.intercalate "; " parts)]

def Technical.lines (t : Technical) : List PromptLine :=
  PromptLine.listed "Technical"
    (phrase t.cameraModel (fun s => "Shot on " ++ s) ++
      phrase t.lens (· ++ " lens") ++
      phrase t.aperture id ++
      phrase t.filmStock (· ++ " film look"))

def Composition.lines (c : Composition) : List PromptLine :=
  PromptLine.listed "Composition"
    (phrase c.framing spaced ++
      phrase c.angle (fun s => spaced s ++ " angle") ++
      phrase c.focusPoint (fun s => "focus on " ++ spaced s))

def TextRendering.lines (t : TextRendering) : List PromptLine :=
  let parts :=
    phrase t.textContent (fun s => "text \"" ++ s ++ "\"") ++
    phrase t.placement (fun s => "as " ++ spaced s) ++
    phrase t.fontStyle (fun s => "in " ++ spaced s ++ " style") ++
    phrase t.color (fun s => "colored " ++ s)
  if t.enabled && !parts.isEmpty then [.labelled "Text" (String.intercalate " " parts)] else []

def PromptDocument.photographLines (d : PromptDocument) : List PromptLine :=
  Subject.lines 1 d.subjects ++
  (d.scene.map Scene.lines).getD [] ++
  (d.technical.map Technical.lines).getD [] ++
  (d.composition.map Composition.lines).getD [] ++
  (d.textRendering.map TextRendering.lines).getD []

end ImagePrompt
