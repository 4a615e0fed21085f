import ImagePrompt.Proofs.Json.Value
/-!
# Paths into a value

A path leads into a value, through members of objects and elements of arrays.
What is set at its end is found there, and a value in order stays in order.
-/

namespace ImagePrompt.Json

/-- A step into a value. -/
inductive Step where
  | member (key : String)
  | element (index : Nat)
  deriving DecidableEq, Repr

/-- The steps into a value, the outermost first. -/
abbrev Path := List Step

def at? : Json → Path → Option Json
  | v, [] => some v
  | .object ms, .member key :: path => (Members.get? ms key).bind (at? · path)
  | .array vs, .element i :: path => vs[i]?.bind (at? · path)
  | _, _ :: _ => none

/-- Sets a member of the object that a path leads to. Without one, nothing changes. -/
def setMember : Json → Path → String → Json → Json
  | .object ms, [], key, member => .object (Members.insert key member ms)
  | .object ms, .member k :: path, key, member =>
    match Members.get? ms k with
    | some v => .object (Members.insert k (v.setMember path key member) ms)
    | none => .object ms
  | .array vs, .element i :: path, key, member =>
    .array (vs.modify i (setMember · path key member))
  | v, _, _, _ => v

variable {key k : String} {member v : Json} {path : Path} {ms : Members} {vs : List Json} {i : Nat}

theorem at?_member : v.at? (.member k :: path) = (v.get? k).bind (at? · path) := by
  cases v with
  | object ms =>
    rw [at?]
    rfl
  | _ => simp [at?, get?]

theorem setMember_here : (object ms).setMember [] key member = .object (ms.insert key member) := by
  rw [setMember]

theorem setMember_member (h : ms.get? k = some v) :
    (object ms).setMember (.member k :: path) key member =
      .object (ms.insert k (v.setMember path key member)) := by
  rw [setMember, h]

theorem setMember_element :
    (array vs).setMember (.element i :: path) key member =
      .array (vs.modify i (setMember · path key member)) := by
  rw [setMember]

/-- The member set at the end of a path is the one found there. -/
theorem at?_setMember (h : v.at? path = some (.object ms)) :
    (v.setMember path key member).at? (path ++ [.member key]) = some member := by
  induction path generalizing v with
  | nil =>
    rw [at?, Option.some.injEq] at h
    rw [h, setMember_here, List.nil_append, at?, Members.get?_insert, if_pos rfl]
    rfl
  | cons step path ih =>
    cases step with
    | member k =>
      cases v with
      | object others =>
        rw [at?] at h
        obtain ⟨w, hw, hpath⟩ := Option.bind_eq_some_iff.1 h
        rw [setMember_member hw, List.cons_append, at?, Members.get?_insert, if_pos rfl]
        exact ih hpath
      | _ => cases h
    | element i =>
      cases v with
      | array vs =>
        rw [at?] at h
        obtain ⟨w, hw, hpath⟩ := Option.bind_eq_some_iff.1 h
        rw [setMember_element, List.cons_append, at?, List.getElem?_modify_eq, hw]
        exact ih hpath
      | _ => cases h

theorem sortedMembers_insert (hms : SortedMembers ms) (hv : v.Sorted) :
    SortedMembers (ms.insert key v) := by
  rw [sortedMembers_iff] at hms ⊢
  intro m hm
  rcases Members.mem_of_mem_insert hm with rfl | hm
  · exact hv
  · exact hms m hm

theorem sorted_setMember (hv : v.Sorted) (hmember : member.Sorted) :
    (v.setMember path key member).Sorted := by
  induction path generalizing v with
  | nil =>
    cases v with
    | object ms =>
      rw [setMember_here]
      exact ⟨hv.1.insert, sortedMembers_insert hv.2 hmember⟩
    | _ => exact hv
  | cons step path ih =>
    cases step with
    | member k =>
      cases v with
      | object ms =>
        cases hget : Members.get? ms k with
        | none =>
          rw [setMember, hget]
          exact hv
        | some w =>
          rw [setMember_member hget]
          exact ⟨hv.1.insert, sortedMembers_insert hv.2 (ih (hv.2.get? hget))⟩
      | _ => exact hv
    | element i =>
      cases v with
      | array vs =>
        have hvs := sortedElements_iff.1 hv
        rw [setMember_element]
        refine sortedElements_iff.2 fun w hw => ?_
        obtain ⟨j, hj⟩ := List.getElem?_of_mem hw
        rw [List.getElem?_modify, Option.map_eq_map, Option.map_eq_some_iff] at hj
        obtain ⟨u, hu, rfl⟩ := hj
        have hsorted := hvs u (List.mem_of_getElem? hu)
        split
        · exact ih hsorted
        · exact hsorted
      | _ => exact hv

end ImagePrompt.Json
