import ImagePrompt.Proofs.Rendering.Alike
import ImagePrompt.Proofs.Text.Tally
/-!
# Characters of the instruction text

Characters of a kind are counted line by line. Where two documents are alike, the counts of their
texts differ by those of the few lines in which they may differ.
-/

namespace ImagePrompt

open PromptLine Text

variable {p : Char → Bool}

def lineTally (p : Char → Bool) (lines : List PromptLine) : Nat :=
  tallies p (lines.map PromptLine.text)

@[simp] theorem lineTally_append (lines lines' : List PromptLine) :
    lineTally p (lines ++ lines') = lineTally p lines + lineTally p lines' := by
  unfold lineTally
  rw [List.map_append, tallies_append]

theorem Around.lineTally {part part' whole whole' : List PromptLine}
    (h : Around part part' whole whole') :
    lineTally p whole' + lineTally p part = lineTally p whole + lineTally p part' := by
  obtain ⟨front, back, rfl, rfl⟩ := h
  simp only [lineTally_append]
  omega

/-- The label of a line counts for a separator of its parts. -/
theorem lineTally_labelled (label sep : String) (parts : List String)
    (hlabel : tally p (label ++ ": ") = tally p sep) :
    lineTally p (if parts.isEmpty then [] else [.labelled label (String.intercalate sep parts)]) =
      tallies p parts + parts.length * tally p sep := by
  unfold lineTally
  rw [apply_ite (List.map PromptLine.text)]
  exact tallies_headed parts hlabel

theorem lineTally_listed {label : String} (parts : List String)
    (hlabel : tally p (label ++ ": ") = tally p ", ") :
    lineTally p (listed label parts) = tallies p parts + parts.length * tally p ", " :=
  lineTally_labelled label _ parts hlabel

theorem lineTally_avoid (items : List String) (hlabel : tally p "Avoid: " = tally p ", ") :
    lineTally p (if items.isEmpty then [] else [.avoid items]) =
      tallies p items + items.length * tally p ", " := by
  unfold lineTally
  rw [apply_ite (List.map PromptLine.text)]
  exact tallies_headed items hlabel

namespace PromptDocument

theorem tally_promptText (d : PromptDocument) (hbreak : tally p "\n" = 0) :
    tally p d.promptText = lineTally p d.lines :=
  tally_intercalate_of_eq_zero _ hbreak

/-- The texts of documents that are alike differ in the lines of the domain, of the manner and of
the exclusions, if at all. -/
theorem Like.tally_promptText {L : Likeness} (hL : L.Faithful) {d d' : PromptDocument}
    (h : d.Like L d') (hbreak : tally p "\n" = 0) :
    tally p d'.promptText + lineTally p d.domainLines + lineTally p d.manner.lines +
        lineTally p d.avoidLines =
      tally p d.promptText + lineTally p d'.domainLines + lineTally p d'.manner.lines +
        lineTally p d'.avoidLines := by
  have hguidance : lineTally p d'.guidanceLines = lineTally p d.guidanceLines :=
    congrArg (tallies p) (h.map_text_guidanceLines hL)
  rw [PromptDocument.tally_promptText _ hbreak, PromptDocument.tally_promptText _ hbreak,
    lines_assembled d, lines_assembled d', hL.phrase_text h.userIntent,
    hL.phrase_name h.quality spelled_spaced]
  simp only [lineTally_append, hguidance]
  omega

end PromptDocument

end ImagePrompt
