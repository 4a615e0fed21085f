import ImagePrompt.Proofs.Rendering.Phrases
/-!
# The outline of a text

The lines that a text may have, in their order, each with the case in which it
is there and with what it looks like. A section with parts has its one line
when any of its parts is there.
-/

namespace ImagePrompt

open PromptLine Text

/-! ## Slots -/

/-- A place for a line: when there is a line in it, and what that line looks like. -/
structure Slot where
  present : Prop
  reads : String → Prop

namespace Slot

/-- A line under a label. -/
def labelled (label : String) (present : Prop) : Slot where
  present
  reads line := ∃ body, line = label ++ ": " ++ body

/-- A line made of one text that says something. -/
def words (s : Option String) (f : String → String) : Slot where
  present := ∃ text, Says s text
  reads line := ∃ text, Says s text ∧ line = f text

variable {α : Type}

/-- Places for the things of a list, the first of which has this number. -/
def numbered (slot : Nat → α → Slot) (number : Nat) (as : List α) : List Slot :=
  as.mapIdx fun i a => slot (number + i) a

theorem numbered_cons (slot : Nat → α → Slot) (number : Nat) (a : α) (rest : List α) :
    numbered slot number (a :: rest) = slot number a :: numbered slot (number + 1) rest := by
  unfold numbered
  rw [List.mapIdx_cons]
  simp only [Nat.add_zero, Nat.add_assoc, Nat.add_comm 1]

end Slot

/-- Lines that stand in the slots in order, one in each slot that has a line and none besides. -/
inductive Fills : List Slot → List String → Prop
  | nil : Fills [] []
  | present {slot : Slot} {slots : List Slot} {line : String} {lines : List String}
      (h : slot.present) (hreads : slot.reads line) (hrest : Fills slots lines) :
      Fills (slot :: slots) (line :: lines)
  | absent {slot : Slot} {slots : List Slot} {lines : List String} (h : ¬ slot.present)
      (hrest : Fills slots lines) : Fills (slot :: slots) lines

namespace Fills

variable {slots slots' : List Slot} {lines lines' : List String}

theorem append (h : Fills slots lines) (h' : Fills slots' lines') :
    Fills (slots ++ slots') (lines ++ lines') := by
  induction h with
  | nil => exact h'
  | present hpresent hreads _ ih => exact .present hpresent hreads ih
  | absent habsent _ ih => exact .absent habsent ih

theorem exists_append (h : Fills (slots ++ slots') lines) :
    ∃ before behind, lines = before ++ behind ∧ Fills slots before ∧ Fills slots' behind := by
  induction slots generalizing lines with
  | nil => exact ⟨[], lines, rfl, .nil, h⟩
  | cons slot slots ih =>
    cases h with
    | present hpresent hreads hrest =>
      obtain ⟨before, behind, rfl, hbefore, hbehind⟩ := ih hrest
      exact ⟨_ :: before, behind, rfl, .present hpresent hreads hbefore, hbehind⟩
    | absent habsent hrest =>
      obtain ⟨before, behind, rfl, hbefore, hbehind⟩ := ih hrest
      exact ⟨before, behind, rfl, .absent habsent hbefore, hbehind⟩

theorem eq_nil_iff (h : Fills slots lines) : lines = [] ↔ ∀ slot ∈ slots, ¬ slot.present := by
  induction h with
  | nil => simp
  | present hpresent hreads _ ih => simp [hpresent]
  | absent habsent _ ih => simp [habsent, ih]

end Fills

/-- Lines by their slots. None is empty, and each is one line of the text if what is said breaks
none. -/
structure Composed (slots : List Slot) (said : List (Option String)) (lines : List PromptLine) :
    Prop where
  fills : Fills slots (lines.map PromptLine.text)
  text_ne : ∀ line ∈ lines, line.text ≠ ""
  isLine : Unbroken said → ∀ line ∈ lines, IsLine line.text

namespace Composed

variable {p : Prop} {s : Option String} {slot : Slot} {slots slots' : List Slot}
  {said said' : List (Option String)} {line : PromptLine} {lines lines' : List PromptLine}
  {label body : String} {parts : List String} {f : String → String}

theorem nil : Composed [] said [] := ⟨.nil, List.forall_mem_nil _, fun _ => List.forall_mem_nil _⟩

theorem absent (h : ¬ slot.present) : Composed [slot] said [] :=
  ⟨.absent h .nil, List.forall_mem_nil _, fun _ => List.forall_mem_nil _⟩

theorem single (h : slot.present) (hreads : slot.reads line.text) (hne : line.text ≠ "")
    (hline : Unbroken said → IsLine line.text) : Composed [slot] said [line] where
  fills := .present h hreads .nil
  text_ne := List.forall_mem_singleton.2 hne
  isLine hsaid := List.forall_mem_singleton.2 (hline hsaid)

theorem append (h : Composed slots said lines) (h' : Composed slots' said' lines') :
    Composed (slots ++ slots') (said ++ said') (lines ++ lines') where
  fills := by
    rw [List.map_append]
    exact h.fills.append h'.fills
  text_ne := List.forall_mem_append.2 ⟨h.text_ne, h'.text_ne⟩
  isLine hsaid := by
    obtain ⟨hs, hs'⟩ := unbroken_append.1 hsaid
    exact List.forall_mem_append.2 ⟨h.isLine hs, h'.isLine hs'⟩

theorem cons (h : Composed [slot] said lines) (h' : Composed slots said' lines') :
    Composed (slot :: slots) (said ++ said') (lines ++ lines') :=
  h.append h'

theorem mono (h : Composed slots said lines) (hsub : said ⊆ said') : Composed slots said' lines :=
  ⟨h.fills, h.text_ne, fun hsaid => h.isLine (hsaid.mono hsub)⟩

theorem labelled_ne (label body : String) : label ++ ": " ++ body ≠ "" := by
  rw [Ne, String.append_eq_empty_iff, String.append_eq_empty_iff, not_and_or, not_and_or]
  exact .inl (.inr (by decide))

theorem isLine_labelled (hlabel : IsLine label) (hbody : IsLine body) :
    IsLine (label ++ ": " ++ body) :=
  (hlabel.append (by decide)).append hbody

/-- A section has its line when it has parts. -/
theorem ofParts (hlabel : IsLine label) (h : MadeOf p said parts)
    (htext : line.text = label ++ ": " ++ body)
    (hbody : (∀ part ∈ parts, IsLine part) → IsLine body) :
    Composed [.labelled label p] said (if parts.isEmpty then [] else [line]) := by
  cases parts with
  | nil => exact absent fun hp => h.ne_nil_iff.2 hp rfl
  | cons part rest =>
    refine single (h.ne_nil_iff.1 (List.cons_ne_nil _ _)) ⟨body, htext⟩ ?_ fun hsaid => ?_
    · rw [htext]
      exact labelled_ne _ _
    · rw [htext]
      exact isLine_labelled hlabel (hbody (h.isLine hsaid))

theorem listed (hlabel : IsLine label) (h : MadeOf p said parts) :
    Composed [.labelled label p] said (listed label parts) :=
  ofParts hlabel h rfl isLine_commaList

/-- A line that is made of one text. -/
theorem ofPhrase {line : String → PromptLine} (hf : KeepsLine f)
    (hpresent : slot.present ↔ ∃ t, Says s t)
    (hreads : ∀ t, Says s t → slot.reads (line (f t)).text)
    (hne : ∀ t, Says s t → (line (f t)).text ≠ "")
    (hline : ∀ t, IsLine t → IsLine (line t).text) :
    Composed [slot] [s] ((phrase s f).map line) := by
  unfold phrase
  cases hs : filled s with
  | none =>
    refine absent ?_
    rw [hpresent]
    rintro ⟨t, ht⟩
    cases hs.symm.trans (filled_eq_some_iff.2 ht)
  | some t =>
    have hspoken : Says s t := filled_eq_some_iff.1 hs
    refine single (hpresent.2 ⟨t, hspoken⟩) (hreads t hspoken) (hne t hspoken) fun hsaid => ?_
    exact hline _ (hf t (unbroken_iff.1 hsaid t (hspoken.1 ▸ List.mem_cons_self)))

theorem phraseLabelled (hlabel : IsLine label) (hf : KeepsLine f) :
    Composed [.labelled label (Speaks [s])] [s]
      ((phrase s f).map (PromptLine.labelled label)) :=
  ofPhrase hf speaks_singleton (fun t _ => ⟨f t, rfl⟩) (fun _ _ => labelled_ne _ _)
    fun _ ht => isLine_labelled hlabel ht

variable {α : Type} {q : α → Prop} {of : α → List (Option String)} {made : α → List PromptLine}

/-- A section that may be left out of the document. -/
theorem option (h : ∀ a, Composed [.labelled label (q a)] (of a) (made a)) (o : Option α) :
    Composed [.labelled label (∃ a, o = some a ∧ q a)] ((o.map of).getD [])
      ((o.map made).getD []) := by
  cases o with
  | none => exact absent fun ⟨_, hnone, _⟩ => nomatch hnone
  | some a =>
    have hpresent : (∃ b, some a = some b ∧ q b) ↔ q a := by simp
    rw [hpresent]
    exact h a

/-- A group of sections that may be left out of the document. -/
theorem group {outline : α → List Slot} (h : ∀ a, Composed (outline a) (of a) (made a))
    (o : Option α) :
    Composed ((o.map outline).getD []) ((o.map of).getD []) ((o.map made).getD []) := by
  cases o with
  | none => exact nil
  | some a => exact h a

/-- A list of things with at most one line each. -/
theorem filterMap {slot : α → Slot} {line : α → Option PromptLine}
    (h : ∀ a, Composed [slot a] (of a) (line a).toList) (as : List α) :
    Composed (as.map slot) (as.flatMap of) (as.filterMap line) := by
  induction as with
  | nil => exact nil
  | cons a as ih =>
    have hlines : (a :: as).filterMap line = (line a).toList ++ as.filterMap line := by
      cases hline : line a <;> simp [hline]
    rw [hlines]
    exact (h a).append ih

end Composed

end ImagePrompt
