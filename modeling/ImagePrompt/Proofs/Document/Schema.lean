import ImagePrompt.Proofs.Json.Value
import ImagePrompt.Text.Blank
/-!
# Schemas

What a place of a document may hold and how it is written again. A record has
known fields, each at its key, and any other members besides; those stay as
they are.
-/

namespace ImagePrompt

/-- What a field may do without, and what is left out or filled in when it is written again. -/
inductive Presence where
  /-- Absent or null; null is left out. -/
  | optional
  /-- Absent; an empty list is left out. -/
  | unlessEmpty
  /-- Absent; false is left out. -/
  | unlessFalse
  /-- Absent, and then written as a value of its own. -/
  | orElse (value : Json)
  | required

mutual

/-- What a place may hold. -/
inductive Schema where
  | any
  | text
  /-- A text that is not blank. -/
  | filled
  | flag
  | oneOf (names : List String)
  | integer (low high : Int)
  /-- A number from zero to a bound, an integer or not. -/
  | upTo (high : Nat)
  | list (element : Schema)
  | record (fields : List Field)
  /-- A record, or the text of its path alone. -/
  | imageReference (fields : List Field)

/-- A place in a record. -/
inductive Field where
  | mk (key : String) (presence : Presence) (schema : Schema)

end

namespace Presence

/-- The value is left out when it is written again. -/
def drops : Presence → Json → Bool
  | .optional, .null => true
  | .unlessEmpty, .array [] => true
  | .unlessFalse, .bool false => true
  | _, _ => false

theorem drops_optional {v : Json} : drops .optional v = true ↔ v = .null := by
  cases v <;> simp [drops]

theorem drops_unlessEmpty {v : Json} : drops .unlessEmpty v = true ↔ v = .array [] := by
  cases v with
  | array vs => cases vs <;> simp [drops]
  | _ => simp [drops]

theorem drops_unlessFalse {v : Json} : drops .unlessFalse v = true ↔ v = .bool false := by
  cases v with
  | bool b => cases b <;> simp [drops]
  | _ => simp [drops]

@[simp] theorem drops_required {v : Json} : drops .required v = false := rfl

/-- What is written for an absent field. -/
def filling : Presence → Option Json
  | .orElse value => some value
  | _ => none

end Presence

namespace Field

def key : Field → String
  | mk key _ _ => key

def presence : Field → Presence
  | mk _ presence _ => presence

def schema : Field → Schema
  | mk _ _ schema => schema

end Field

/-! ## Acceptance -/

mutual

/-- The value is what the place may hold. -/
def Schema.Accepts : Schema → Json → Prop
  | .any, _ => True
  | .text, v => ∃ s, v = .string s
  | .filled, v => ∃ s, v = .string s ∧ Text.trim s ≠ ""
  | .flag, v => ∃ b, v = .bool b
  | .oneOf names, v => ∃ s ∈ names, v = .string s
  | .integer low high, v => ∃ n, v = .number (.integer n) ∧ low ≤ n ∧ n ≤ high
  | .upTo high, v => ∃ k : Json.Number, v = .number k ∧ 0 ≤ k.toRat ∧ k.toRat ≤ high
  | .list element, v => ∃ vs, v = .array vs ∧ ∀ w ∈ vs, element.Accepts w
  | .record fields, v => ∃ ms, v = .object ms ∧ AllAccept fields ms
  | .imageReference fields, v =>
    (∃ s, v = .string s ∧ Text.trim s ≠ "") ∨ ∃ ms, v = .object ms ∧ AllAccept fields ms

def Field.Accepts : Field → Members → Prop
  | .mk key presence schema, ms =>
    match ms.get? key with
    | none => presence ≠ .required
    | some v => presence = .optional ∧ v = .null ∨ schema.Accepts v

def AllAccept : List Field → Members → Prop
  | [], _ => True
  | f :: fields, ms => f.Accepts ms ∧ AllAccept fields ms

end

/-! ## Rewriting -/

mutual

/-- The value as it is written again. -/
def Schema.rewrite : Schema → Json → Json
  | .upTo _, .number (.integer n) => .ofReal (Binary64.ofInt n)
  | .list element, .array vs => .array (vs.map element.rewrite)
  | .record fields, .object ms => .object (rewriteAll fields ms)
  | .imageReference _, .string s => .object [("path", .string s)]
  | .imageReference fields, .object ms => .object (rewriteAll fields ms)
  | _, v => v

def Field.rewritten : Field → Members → Option Json
  | .mk key presence schema, ms =>
    match ms.get? key with
    | none => presence.filling
    | some v => if presence.drops v then none else some (schema.rewrite v)

/-- The members as they are, but for the places of a record. -/
def rewriteAll : List Field → Members → Members
  | [], ms => ms
  | f :: fields, ms => (rewriteAll fields ms).put f.key (f.rewritten ms)

end

variable {fields : List Field} {ms : Members} {f : Field} {key : String} {v : Json}

namespace Field

variable {presence : Presence} {schema : Schema}

theorem accepts_of_none (h : ms.get? key = none) :
    (mk key presence schema).Accepts ms ↔ presence ≠ .required := by
  rw [Field.Accepts, h]

theorem accepts_of_some (h : ms.get? key = some v) :
    (mk key presence schema).Accepts ms ↔
      presence = .optional ∧ v = .null ∨ schema.Accepts v := by
  rw [Field.Accepts, h]

theorem rewritten_of_none (h : ms.get? key = none) :
    (mk key presence schema).rewritten ms = presence.filling := by
  rw [Field.rewritten, h]

theorem rewritten_of_some (h : ms.get? key = some v) :
    (mk key presence schema).rewritten ms =
      if presence.drops v then none else some (schema.rewrite v) := by
  rw [Field.rewritten, h]

end Field

theorem rewriteAll_eq :
    rewriteAll fields ms = Members.putAll Field.key (·.rewritten ms) fields ms := by
  induction fields with
  | nil => rfl
  | cons f fields ih =>
    rw [rewriteAll, ih]
    rfl

theorem get?_rewriteAll_of_notMem (h : key ∉ fields.map Field.key) :
    (rewriteAll fields ms).get? key = ms.get? key := by
  rw [rewriteAll_eq, Members.get?_putAll_of_notMem h]

theorem get?_rewriteAll_of_mem (hnodup : (fields.map Field.key).Nodup) (h : f ∈ fields) :
    (rewriteAll fields ms).get? f.key = f.rewritten ms := by
  rw [rewriteAll_eq, Members.get?_putAll_of_mem hnodup h]

theorem increasing_rewriteAll (h : ms.Increasing) : (rewriteAll fields ms).Increasing := by
  rw [rewriteAll_eq]
  exact h.putAll

theorem Schema.rewrite_ne_null (schema : Schema) (h : v ≠ .null) : schema.rewrite v ≠ .null := by
  intro hnull
  unfold Schema.rewrite at hnull
  split at hnull <;> simp_all [Json.ofReal]

end ImagePrompt
