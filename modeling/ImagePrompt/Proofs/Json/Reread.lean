import ImagePrompt.Proofs.Json.Lexeme
import ImagePrompt.Proofs.Json.Parser
/-!
# Printed values read back

The reader undoes the indented form of a value without floating-point numbers,
however deep in other values it stands. A value is a reader's own if its members
are in order and its integers have 64 bits, and then nothing is lost.
-/

namespace ImagePrompt.Json

mutual

/-- No number in the value is a floating-point number. -/
def isWhole : Json → Bool
  | .number (.real _) => false
  | .array elements => isWholeElements elements
  | .object members => isWholeMembers members
  | _ => true

def isWholeElements : List Json → Bool
  | [] => true
  | v :: rest => v.isWhole && isWholeElements rest

def isWholeMembers : List (String × Json) → Bool
  | [] => true
  | (_, v) :: rest => v.isWhole && isWholeMembers rest

end

theorem isWholeElements_iff {vs : List Json} :
    isWholeElements vs = true ↔ ∀ v ∈ vs, v.isWhole = true := by
  induction vs with
  | nil => simp [isWholeElements]
  | cons v vs ih => simp [isWholeElements, ih]

theorem isWholeMembers_iff {ms : Members} :
    isWholeMembers ms = true ↔ ∀ m ∈ ms, m.2.isWhole = true := by
  induction ms with
  | nil => simp [isWholeMembers]
  | cons m ms ih => simp [isWholeMembers, ih]

/-! ## White space -/

theorem skipGap_blanks {blanks : List Char} (h : ∀ c ∈ blanks, isGap c = true) (cs : List Char) :
    skipGap (blanks ++ cs) = skipGap cs := List.dropWhile_append_of_pos h

theorem skipGap_cons {c : Char} (h : isGap c = false) (cs : List Char) :
    skipGap (c :: cs) = c :: cs := by
  rw [skipGap, List.dropWhile_cons_of_neg (by simp [h])]

theorem isGap_of_mem_lineBreak {level : Nat} : ∀ c ∈ lineBreak level, isGap c = true := by
  intro c hc
  rcases List.mem_cons.1 hc with rfl | hc
  · rfl
  · rw [List.eq_of_mem_replicate hc]
    rfl

theorem skipGap_lineBreak (level : Nat) (cs : List Char) :
    skipGap (lineBreak level ++ cs) = skipGap cs := skipGap_blanks isGap_of_mem_lineBreak cs

/-! ## Items -/

/-- What follows an item in the indented form: the items behind it, and the closing bracket. -/
def afterItem (level : Nat) (closing : Char) (rest : List Char) : List (List Char) → List Char
  | [] => lineBreak level ++ closing :: rest
  | item :: items =>
    ',' :: (lineBreak (level + 1) ++ (item ++ afterItem level closing rest items))

theorem joinChars_append {level : Nat} {closing : Char} {rest : List Char} (item : List Char)
    (items : List (List Char)) :
    joinChars (',' :: lineBreak (level + 1)) (item :: items) ++
        (lineBreak level ++ closing :: rest) =
      item ++ afterItem level closing rest items := by
  induction items generalizing item with
  | nil => rfl
  | cons next items ih =>
    rw [joinChars, List.append_assoc, List.append_assoc, ih next]
    · rfl
    · simp

theorem block_append {level : Nat} {opening closing : Char} {rest item : List Char}
    {items : List (List Char)} :
    block level opening closing (item :: items) ++ rest =
      opening :: (lineBreak (level + 1) ++ (item ++ afterItem level closing rest items)) := by
  rw [← joinChars_append, block]
  · simp
  · simp

theorem exists_block_eq_cons (level : Nat) (opening closing : Char) (items : List (List Char)) :
    ∃ cs, block level opening closing items = opening :: cs := by
  cases items <;> exact ⟨_, rfl⟩

theorem endsNumber_afterItem {level : Nat} {closing : Char} {rest : List Char}
    {items : List (List Char)} : Parser.EndsNumber (afterItem level closing rest items) := by
  cases items with
  | nil => exact Parser.endsNumber_cons (by decide)
  | cons item items => exact Parser.endsNumber_cons (by decide)

theorem one_le_length_closing {level : Nat} {closing : Char} {rest : List Char} :
    1 ≤ (lineBreak level ++ closing :: rest).length := by
  simp [lineBreak]

/-- The text gets shorter with each item. -/
theorem length_lt_item {level : Nat} {chars tail : List Char} :
    tail.length < (lineBreak level ++ (chars ++ tail)).length := by
  simp only [lineBreak, List.cons_append, List.length_cons, List.length_append]
  omega

namespace Parser

/-- An item is read back, whatever blanks are in front of it and whatever text is behind it. -/
structure Restores (item : Reader Json) (level : Nat) (v : Json) : Prop where
  starts : ∃ c cs, indentedChars level v = c :: cs ∧ isGap c = false ∧ c ≠ ']'
  reads : ∀ blanks rest, (∀ c ∈ blanks, isGap c = true) → EndsNumber rest →
    item (blanks ++ (indentedChars level v ++ rest)) = .ok (v, rest)

section Items

variable {item : Reader Json} {fuel level : Nat} {first : Bool} {cs rest tail : List Char}

/-! ### Elements -/

theorem arrayContinuation_closed :
    arrayContinuation first (lineBreak level ++ ']' :: rest) = .ok (.closed rest) := by
  rw [arrayContinuation, skipGap_lineBreak, skipGap_cons rfl]
  rfl

theorem arrayContinuation_first {c : Char} (hgap : isGap c = false) (hc : c ≠ ']') :
    arrayContinuation true (lineBreak level ++ c :: cs) = .ok (.item (c :: cs)) := by
  rw [arrayContinuation, skipGap_lineBreak, skipGap_cons hgap]
  simp [hc]

theorem arrayContinuation_next {c : Char} (hgap : isGap c = false) (hc : c ≠ ']') :
    arrayContinuation false (',' :: (lineBreak level ++ c :: cs)) = .ok (.item (c :: cs)) := by
  rw [arrayContinuation, skipGap_cons rfl]
  simp [skipGap_lineBreak, skipGap_cons hgap, hc]

theorem elements_step {v : Json} {vs : List Json} (hv : Restores item level v)
    (hnext : arrayContinuation first cs = .ok (.item (indentedChars level v ++ tail)))
    (htail : EndsNumber tail)
    (hrest : ∀ n, tail.length ≤ n → elements item n false tail = .ok (vs, rest))
    (hfuel : tail.length < fuel) : elements item fuel first cs = .ok (v :: vs, rest) := by
  obtain ⟨n, rfl⟩ := Nat.exists_eq_add_of_lt hfuel
  have hitem : item (indentedChars level v ++ tail) = .ok (v, tail) :=
    hv.reads [] tail (by simp) htail
  have helements := hrest (tail.length + n) (Nat.le_add_right _ _)
  rw [elements, hnext]
  simp [bind, Except.bind, hitem, helements, pure, Except.pure]

theorem elements_afterItem {vs : List Json} (hvs : ∀ v ∈ vs, Restores item (level + 1) v)
    (fuel : Nat)
    (hfuel : (afterItem level ']' rest (indentedElements (level + 1) vs)).length ≤ fuel) :
    elements item fuel false (afterItem level ']' rest (indentedElements (level + 1) vs)) =
      .ok (vs, rest) := by
  induction vs generalizing fuel with
  | nil =>
    rw [indentedElements, afterItem] at hfuel ⊢
    obtain ⟨n, rfl⟩ := Nat.exists_eq_add_of_le' (one_le_length_closing.trans hfuel)
    rw [elements, arrayContinuation_closed]
    rfl
  | cons v vs ih =>
    obtain ⟨hv, hvs⟩ := List.forall_mem_cons.1 hvs
    obtain ⟨c, cs, hchars, hgap, hc⟩ := hv.starts
    rw [indentedElements, afterItem] at hfuel ⊢
    refine elements_step hv ?_ endsNumber_afterItem (ih hvs) (length_lt_item.trans hfuel)
    rw [hchars]
    exact arrayContinuation_next hgap hc

/-- The elements of an array are read back from behind its opening bracket. -/
theorem elements_block {vs : List Json} (hvs : ∀ v ∈ vs, Restores item (level + 1) v)
    (rest : List Char) :
    ∃ inner, block level '[' ']' (indentedElements (level + 1) vs) ++ rest = '[' :: inner ∧
      elements item inner.length true inner = .ok (vs, rest) := by
  cases vs with
  | nil => exact ⟨']' :: rest, rfl, rfl⟩
  | cons v vs =>
    obtain ⟨hv, hvs⟩ := List.forall_mem_cons.1 hvs
    obtain ⟨c, cs, hchars, hgap, hc⟩ := hv.starts
    refine ⟨_, block_append, ?_⟩
    refine elements_step hv ?_ endsNumber_afterItem (elements_afterItem hvs) length_lt_item
    rw [hchars]
    exact arrayContinuation_first hgap hc

/-! ### Members -/

theorem objectContinuation_closed :
    objectContinuation first (lineBreak level ++ '}' :: rest) = .ok (.closed rest) := by
  rw [objectContinuation, skipGap_lineBreak, skipGap_cons rfl]
  rfl

theorem objectContinuation_first :
    objectContinuation true (lineBreak level ++ '"' :: cs) = .ok (.item cs) := by
  rw [objectContinuation, skipGap_lineBreak, skipGap_cons rfl]
  rfl

theorem objectContinuation_next :
    objectContinuation false (',' :: (lineBreak level ++ '"' :: cs)) = .ok (.item cs) := by
  have hnext : skipGap (lineBreak level ++ '"' :: cs) = '"' :: cs := by
    rw [skipGap_lineBreak, skipGap_cons rfl]
  rw [objectContinuation, skipGap_cons rfl]
  simp [hnext]

theorem member_append (k : String) (chars tail : List Char) :
    quote k ++ ':' :: ' ' :: chars ++ tail = '"' :: quoted k (':' :: ' ' :: (chars ++ tail)) := by
  rw [List.append_assoc, quote_append]
  rfl

theorem members_step {k : String} {v : Json} {ms : Members} (hv : Restores item level v)
    (hnext : objectContinuation first cs =
      .ok (.item (quoted k (':' :: ' ' :: (indentedChars level v ++ tail)))))
    (htail : EndsNumber tail)
    (hrest : ∀ n, tail.length ≤ n → members item n false tail = .ok (ms, rest))
    (hfuel : tail.length < fuel) : members item fuel first cs = .ok ((k, v) :: ms, rest) := by
  obtain ⟨n, rfl⟩ := Nat.exists_eq_add_of_lt hfuel
  have hitem : item (' ' :: (indentedChars level v ++ tail)) = .ok (v, tail) :=
    hv.reads [' '] tail (by simp [isGap]) htail
  have hcolon : ∀ cs, colon (':' :: cs) = .ok cs := fun _ => rfl
  have hmembers := hrest (tail.length + n) (Nat.le_add_right _ _)
  rw [members, hnext]
  simp [bind, Except.bind, stringText_quoted, hcolon, hitem, hmembers, pure, Except.pure]

theorem members_afterItem {ms : Members} (hms : ∀ m ∈ ms, Restores item (level + 1) m.2)
    (fuel : Nat)
    (hfuel : (afterItem level '}' rest (indentedMembers (level + 1) ms)).length ≤ fuel) :
    members item fuel false (afterItem level '}' rest (indentedMembers (level + 1) ms)) =
      .ok (ms, rest) := by
  induction ms generalizing fuel with
  | nil =>
    rw [indentedMembers, afterItem] at hfuel ⊢
    obtain ⟨n, rfl⟩ := Nat.exists_eq_add_of_le' (one_le_length_closing.trans hfuel)
    rw [members, objectContinuation_closed]
    rfl
  | cons m ms ih =>
    obtain ⟨k, v⟩ := m
    obtain ⟨hv, hms⟩ := List.forall_mem_cons.1 hms
    rw [indentedMembers, afterItem] at hfuel ⊢
    refine members_step hv ?_ endsNumber_afterItem (ih hms) (length_lt_item.trans hfuel)
    rw [member_append]
    exact objectContinuation_next

/-- The members of an object are read back from behind its opening brace. -/
theorem members_block {ms : Members} (hms : ∀ m ∈ ms, Restores item (level + 1) m.2)
    (rest : List Char) :
    ∃ inner, block level '{' '}' (indentedMembers (level + 1) ms) ++ rest = '{' :: inner ∧
      members item inner.length true inner = .ok (ms, rest) := by
  cases ms with
  | nil => exact ⟨'}' :: rest, rfl, rfl⟩
  | cons m ms =>
    obtain ⟨k, v⟩ := m
    obtain ⟨hv, hms⟩ := List.forall_mem_cons.1 hms
    refine ⟨_, block_append, ?_⟩
    refine members_step hv ?_ endsNumber_afterItem (members_afterItem hms) length_lt_item
    rw [member_append]
    exact objectContinuation_first

end Items

/-! ## Values -/

section Values

variable {limit level : Nat} {rest : List Char}

theorem value_blanks {blanks cs : List Char} (h : ∀ c ∈ blanks, isGap c = true) :
    value (limit + 1) (blanks ++ cs) = value (limit + 1) cs := by
  rw [value, value, skipGap_blanks h]

theorem beq_of_isDigit {c d : Char} (hc : c.isDigit = true) (hd : d.isDigit = false) :
    (c == d) = false := by
  rw [beq_eq_false_iff_ne]
  rintro rfl
  rw [hc] at hd
  cases hd

theorem isGap_of_isDigit {c : Char} (hc : c.isDigit = true) : isGap c = false := by
  simp [isGap, beq_of_isDigit hc]

theorem value_digits {n : Nat} (hn : n < 2 ^ 64) (hrest : EndsNumber rest) :
    value (limit + 1) (Nat.toDigits 10 n ++ rest) =
      .ok (.number (integerOf false n), rest) := by
  obtain ⟨c, cs, hdigits, hc, -⟩ := exists_toDigits_eq_cons n
  have hnumber : number false (Nat.toDigits 10 n ++ rest) = .ok (integerOf false n, rest) :=
    number_toDigits hn hrest
  have hother : ∀ d : Char, d.isDigit = false → (c == d) = false := fun _ => beq_of_isDigit hc
  rw [hdigits, List.cons_append] at hnumber ⊢
  rw [value, skipGap_cons (isGap_of_isDigit hc)]
  simp only [hother 'n' rfl, hother 't' rfl, hother 'f' rfl, hother '-' rfl, hc, hnumber]
  rfl

theorem value_minus {n : Nat} (hn : n < 2 ^ 64) (hrest : EndsNumber rest) :
    value (limit + 1) ('-' :: (Nat.toDigits 10 n ++ rest)) =
      .ok (.number (integerOf true n), rest) := by
  rw [value, skipGap_cons rfl]
  simp [bind, Except.bind, number_toDigits hn hrest, pure, Except.pure]

theorem value_integerText {n : Int} (hn : (Number.integer n).Bounded) (hrest : EndsNumber rest) :
    value (limit + 1) (integerText n ++ rest) = .ok (.number (.integer n), rest) := by
  have habs := natAbs_lt_of_bounded hn
  unfold integerText
  by_cases hneg : n < 0
  · rw [if_pos hneg, List.cons_append, value_minus habs hrest, integerOf_neg hn hneg]
  · rw [if_neg hneg, value_digits habs hrest, integerOf_nonneg (Int.not_lt.1 hneg)]

theorem value_quote {s : String} :
    value (limit + 1) (quote s ++ rest) = .ok (.string s, rest) := by
  rw [quote_append, value, skipGap_cons rfl]
  simp [bind, Except.bind, stringText_quoted, pure, Except.pure]

theorem value_bracket {vs : List Json} {cs : List Char} (hlimit : limit ≠ 0)
    (h : elements (value limit) cs.length true cs = .ok (vs, rest)) :
    value (limit + 1) ('[' :: cs) = .ok (.array vs, rest) := by
  rw [value, skipGap_cons rfl]
  simp [bind, Except.bind, hlimit, h, pure, Except.pure]

theorem value_brace {ms : Members} {cs : List Char} (hlimit : limit ≠ 0)
    (h : members (value limit) cs.length true cs = .ok (ms, rest)) :
    value (limit + 1) ('{' :: cs) = .ok (.ofMembers ms, rest) := by
  rw [value, skipGap_cons rfl]
  simp [bind, Except.bind, hlimit, h, pure, Except.pure]

/-- Every value starts with a character that is no blank and closes nothing. -/
theorem exists_start (level : Nat) {v : Json} (hwhole : v.isWhole = true) :
    ∃ c cs, indentedChars level v = c :: cs ∧ isGap c = false ∧ c ≠ ']' := by
  cases v with
  | null => exact ⟨'n', _, rfl, rfl, by decide⟩
  | bool b => cases b <;> exact ⟨_, _, rfl, rfl, by decide⟩
  | string s => exact ⟨'"', _, rfl, rfl, by decide⟩
  | number k =>
    cases k with
    | real x => cases hwhole
    | integer n =>
      rw [indentedChars, Number.chars, integerText]
      split
      · exact ⟨'-', _, rfl, rfl, by decide⟩
      · obtain ⟨c, cs, hdigits, hc, -⟩ := exists_toDigits_eq_cons n.natAbs
        exact ⟨c, cs, hdigits, isGap_of_isDigit hc, beq_eq_false_iff_ne.1 (beq_of_isDigit hc rfl)⟩
  | array vs =>
    obtain ⟨cs, hblock⟩ := exists_block_eq_cons level '[' ']' (indentedElements (level + 1) vs)
    exact ⟨'[', cs, hblock, rfl, by decide⟩
  | object ms =>
    obtain ⟨cs, hblock⟩ := exists_block_eq_cons level '{' '}' (indentedMembers (level + 1) ms)
    exact ⟨'{', cs, hblock, rfl, by decide⟩

theorem value_restores {v : Json} (h : v.Readable limit) (hwhole : v.isWhole = true) :
    Restores (value limit) level v := by
  induction limit generalizing v level with
  | zero => exact absurd h.depth_lt (Nat.not_lt_zero _)
  | succ limit ih =>
    refine ⟨exists_start level hwhole, fun blanks rest hblanks hrest => ?_⟩
    rw [value_blanks hblanks]
    cases v with
    | null => rfl
    | bool b => cases b <;> rfl
    | string s => exact value_quote
    | number k =>
      cases k with
      | real x => cases hwhole
      | integer n => exact value_integerText (readable_number_iff.1 h) hrest
    | array vs =>
      obtain ⟨hlimit, hvs⟩ := readable_array_iff.1 h
      have hitems : ∀ v ∈ vs, Restores (value limit) (level + 1) v := fun v hv =>
        ih (hvs v hv) (isWholeElements_iff.1 hwhole v hv)
      obtain ⟨inner, hinner, hread⟩ := elements_block hitems rest
      rw [indentedChars, hinner]
      exact value_bracket hlimit hread
    | object ms =>
      obtain ⟨hlimit, hkeys, hms⟩ := readable_object_iff.1 h
      have hitems : ∀ m ∈ ms, Restores (value limit) (level + 1) m.2 := fun m hm =>
        ih (hms m hm) (isWholeMembers_iff.1 hwhole m hm)
      obtain ⟨inner, hinner, hread⟩ := members_block hitems rest
      rw [indentedChars, hinner, value_brace hlimit hread, ofMembers, hkeys.sorted_eq]

end Values

end Parser

/-- A reader's own value without floating-point numbers is read back from its indented form. -/
theorem parse_indented {v : Json} (h : v.Readable Parser.depthLimit) (hwhole : v.isWhole = true) :
    parse v.indented = .ok v := by
  have hvalue : Parser.value Parser.depthLimit (indentedChars 0 v) = .ok (v, []) := by
    have hrestores : Parser.Restores (Parser.value Parser.depthLimit) 0 v :=
      Parser.value_restores h hwhole
    have hread := hrestores.reads [] [] (by simp) Parser.endsNumber_nil
    rwa [List.nil_append, List.append_nil] at hread
  have hchars : parseChars v.indented.toList = .ok v := by
    rw [indented, String.toList_ofList, parseChars, hvalue]
    rfl
  rw [parse, hchars]

end ImagePrompt.Json
