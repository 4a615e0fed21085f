import ImagePrompt.Rendering.Photograph
import ImagePrompt.Rendering.Design
import ImagePrompt.Rendering.Guidance
/-!
# The instruction text of a document

The lines of a document from the user's intent to the exclusions, and the text
that they make, one line for each section.
-/

namespace ImagePrompt

def screenExclusions : List String :=
  ["monitor", "computer screen", "device frame", "laptop", "phone frame", "tablet frame",
    "display bezel", "physical device", "realistic device rendering", "photograph of screen"]

def illustrationExclusions : List String :=
  ["photorealistic", "realistic lighting", "camera effects", "depth of field", "bokeh"]

def StyleModifiers.lines (s : StyleModifiers) : List PromptLine :=
  PromptLine.listed "Style"
    (phrase s.medium spaced ++
      (if s.aesthetic.isEmpty then [] else [commaList (s.aesthetic.map spaced)]) ++
      (if s.artistReference.isEmpty then []
        else ["in the style of " ++ commaList s.artistReference]))

namespace PromptDocument

def domainLines (d : PromptDocument) : List PromptLine :=
  match d.settings.effectiveDomain with
  | .photography => d.photographLines
  | .graphicDesign => (d.graphicDesign.map GraphicDesign.lines).getD []
  | .uiDesign => (d.uiDesign.map UiDesign.lines).getD []

def domainExclusions (d : PromptDocument) : List String :=
  match d.settings.effectiveDomain with
  | .photography => []
  | .graphicDesign =>
    if d.settings.quality == some "vector_illustration" ||
        d.settings.quality == some "flat_illustration" then illustrationExclusions
    else []
  | .uiDesign => screenExclusions

def exclusions (d : PromptDocument) : List String :=
  (d.advanced.map Advanced.negativePrompt).getD [] ++ d.domainExclusions

def lines (d : PromptDocument) : List PromptLine :=
  (phrase d.userIntent id).map .intent ++
  (phrase d.settings.quality spaced).map (.labelled "Style") ++
  d.domainLines ++
  d.guidanceLines ++
  (d.styleModifiers.map StyleModifiers.lines).getD [] ++
  (if d.exclusions.isEmpty then [] else [.avoid d.exclusions])

def promptText (d : PromptDocument) : String :=
  String.intercalate "\n" (d.lines.map PromptLine.text)

def renderWarnings (d : PromptDocument) : List String :=
  d.edits.filterMap d.editWarning

end PromptDocument

end ImagePrompt
