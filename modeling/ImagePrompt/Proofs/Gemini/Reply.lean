import ImagePrompt.Gemini.Reply
import ImagePrompt.Proofs.Bytes.Base64
import ImagePrompt.Proofs.Text.Blank
import Mathlib.Data.Option.Basic
/-!
# Pictures of a reply

A part of a reply holds a picture or it does not, whatever stands around it.
The pictures of a reply are those of its picture parts, one for each; a single
part that cannot be decoded leaves the reply without any.
-/

namespace ImagePrompt.Gemini

/-- A part that is no thought and holds an encoded picture: its inline member is an object with a
text that is not empty. The second name of the inline member counts only where the first is
absent. -/
structure HoldsPicture (part : Json) (inline : Members) (data : String) : Prop where
  spoken : part.get? "thought" ≠ some (.bool true)
  inlined : (part.get? "inlineData").or (part.get? "inline_data") = some (.object inline)
  encoded : Members.get? inline "data" = some (.string data)
  nonempty : data ≠ ""

def IsPicturePart (part : Json) : Prop := ∃ inline data, HoldsPicture part inline data

def mediaTypeOf (inline : Members) : Option String :=
  ((Members.get? inline "mimeType").or (Members.get? inline "mime_type")).bind Json.string?

theorem string?_eq_some_iff {v : Json} {s : String} : v.string? = some s ↔ v = .string s := by
  cases v <;> simp [Json.string?]

theorem object?_eq_some_iff {v : Json} {ms : Members} : v.object? = some ms ↔ v = .object ms := by
  cases v <;> simp [Json.object?]

theorem isThought_iff {part : Json} :
    isThought part = true ↔ part.get? "thought" = some (.bool true) := by
  unfold isThought
  split
  · next b heq => simp [heq]
  · next hother =>
    constructor
    · exact fun h => Bool.noConfusion h
    · exact fun h => (hother true h).elim

theorem partPicture?_eq_some_iff {part : Json} {data : String} {mediaType : Option String} :
    partPicture? part = some (data, mediaType) ↔
      ∃ inline, (part.get? "inlineData").or (part.get? "inline_data") = some (.object inline) ∧
        Members.get? inline "data" = some (.string data) ∧ data ≠ "" ∧
        mediaTypeOf inline = mediaType := by
  simp only [partPicture?, Option.bind_eq_bind, Option.bind_eq_some_iff, object?_eq_some_iff,
    string?_eq_some_iff, Option.pure_def, Option.some.injEq, Prod.mk.injEq, Option.guard_eq_some',
    bne_iff_ne]
  constructor
  · rintro ⟨inline, ⟨_, hinline, rfl⟩, text, ⟨_, htext, rfl⟩, _, hne, rfl, rfl⟩
    exact ⟨inline, hinline, htext, hne, rfl⟩
  · rintro ⟨inline, hinline, htext, hne, rfl⟩
    exact ⟨inline, ⟨_, hinline, rfl⟩, data, ⟨_, htext, rfl⟩, (), hne, rfl, rfl⟩

theorem holdsPicture_iff {part : Json} (hspoken : isThought part = false) {data : String}
    {mediaType : Option String} :
    partPicture? part = some (data, mediaType) ↔
      ∃ inline, HoldsPicture part inline data ∧ mediaTypeOf inline = mediaType := by
  have hnot : part.get? "thought" ≠ some (.bool true) := fun h => by
    rw [isThought_iff.2 h] at hspoken
    exact Bool.noConfusion hspoken
  rw [partPicture?_eq_some_iff]
  constructor
  · rintro ⟨inline, hinline, hdata, hne, rfl⟩
    exact ⟨inline, ⟨hnot, hinline, hdata, hne⟩, rfl⟩
  · rintro ⟨inline, h, rfl⟩
    exact ⟨inline, h.inlined, h.encoded, h.nonempty, rfl⟩

theorem isPicturePart_iff {part : Json} :
    IsPicturePart part ↔ isThought part = false ∧ (partPicture? part).isSome = true := by
  constructor
  · rintro ⟨inline, data, h⟩
    have hspoken : isThought part = false := by
      rw [← Bool.not_eq_true, isThought_iff]
      exact h.spoken
    refine ⟨hspoken, ?_⟩
    rw [(holdsPicture_iff hspoken).2 ⟨inline, h, rfl⟩]
    rfl
  · rintro ⟨hspoken, hsome⟩
    obtain ⟨⟨data, mediaType⟩, hpart⟩ := Option.isSome_iff_exists.1 hsome
    obtain ⟨inline, h, -⟩ := (holdsPicture_iff hspoken).1 hpart
    exact ⟨inline, data, h⟩

instance : DecidablePred IsPicturePart := fun _ => decidable_of_iff _ isPicturePart_iff.symm

/-! ## The picture parts of a reply -/

variable {reply : Json}

def allParts (reply : Json) : List Json := (candidates reply).flatMap candidateParts

def pictureParts (reply : Json) : List Json := (allParts reply).filter (IsPicturePart ·)

def IsDecodable (part : Json) : Prop :=
  ∃ inline bytes, HoldsPicture part inline (Base64.encode bytes)

theorem mem_pictureParts {part : Json} (h : part ∈ pictureParts reply) :
    isThought part = false ∧ (partPicture? part).isSome = true := by
  have hpart : IsPicturePart part := of_decide_eq_true (List.mem_filter.1 h).2
  exact isPicturePart_iff.1 hpart

def decodePicture (encoded : String × Option String) : Except Base64.Error ReplyPicture :=
  (Base64.decode (Text.Utf8.encode encoded.1)).map (⟨·, encoded.2⟩)

theorem picturesOf_eq_mapM (parts : List Json) :
    picturesOf parts = (parts.filterMap partPicture?).mapM decodePicture := by
  induction parts with
  | nil => rfl
  | cons part rest ih =>
    rw [picturesOf, ih]
    cases hpart : partPicture? part with
    | none => rw [List.filterMap_cons_none hpart]
    | some encoded =>
      obtain ⟨data, mediaType⟩ := encoded
      have hfirst : decodePicture (data, mediaType) =
          (Base64.decode (Text.Utf8.encode data)).map (⟨·, mediaType⟩) := rfl
      rw [List.filterMap_cons_some hpart, List.mapM_cons, hfirst]
      cases hdecode : Base64.decode (Text.Utf8.encode data) with
      | error e =>
        simp only [hdecode]
        rfl
      | ok bytes =>
        simp only [hdecode]
        rfl

theorem filterMap_pictureParts (reply : Json) :
    (pictureParts reply).filterMap partPicture? = (spokenParts reply).filterMap partPicture? := by
  unfold pictureParts spokenParts allParts
  rw [List.filterMap_filter, List.filterMap_filter]
  refine List.filterMap_congr fun part _ => ?_
  by_cases hthought : isThought part = true
  · have hno : ¬ IsPicturePart part := fun h => by
      rw [(isPicturePart_iff.1 h).1] at hthought
      exact Bool.noConfusion hthought
    simp [hthought, hno]
  · have hspoken : isThought part = false := Bool.not_eq_true _ ▸ hthought
    cases hpart : partPicture? part with
    | none => simp
    | some encoded =>
      have hyes : IsPicturePart part := isPicturePart_iff.2 ⟨hspoken, by rw [hpart]; rfl⟩
      simp [hspoken, hyes]

theorem pictures_eq_mapM (reply : Json) :
    pictures reply = ((pictureParts reply).filterMap partPicture?).mapM decodePicture := by
  rw [filterMap_pictureParts]
  exact picturesOf_eq_mapM _

theorem exists_decodePicture_iff {part : Json} (hpart : part ∈ pictureParts reply)
    {encoded : String × Option String} (h : partPicture? part = some encoded) :
    (∃ picture, decodePicture encoded = .ok picture) ↔ IsDecodable part := by
  obtain ⟨data, mediaType⟩ := encoded
  have hspoken := (mem_pictureParts hpart).1
  unfold decodePicture IsDecodable
  rw [Success.exists_map_eq_ok]
  simp only [Base64.decode_text_eq_ok_iff]
  constructor
  · rintro ⟨bytes, rfl⟩
    obtain ⟨inline, hholds, -⟩ := (holdsPicture_iff hspoken).1 h
    exact ⟨inline, bytes, hholds⟩
  · rintro ⟨inline, bytes, hholds⟩
    have hsame := (holdsPicture_iff hspoken).2 ⟨inline, hholds, rfl⟩
    rw [h] at hsame
    exact ⟨bytes, (Prod.mk.inj (Option.some.inj hsame)).1⟩

/-- The reply has pictures at all exactly when each picture part can be decoded. -/
theorem exists_pictures_iff :
    (∃ ps, pictures reply = .ok ps) ↔ ∀ part ∈ pictureParts reply, IsDecodable part := by
  rw [pictures_eq_mapM, Success.exists_mapM_iff]
  constructor
  · intro hall part hpart
    obtain ⟨encoded, hencoded⟩ := Option.isSome_iff_exists.1 (mem_pictureParts hpart).2
    have hmem := List.mem_filterMap.2 ⟨part, hpart, hencoded⟩
    exact (exists_decodePicture_iff hpart hencoded).1 (hall encoded hmem)
  · intro hall encoded hmem
    obtain ⟨part, hpart, hencoded⟩ := List.mem_filterMap.1 hmem
    exact (exists_decodePicture_iff hpart hencoded).2 (hall part hpart)

theorem length_pictures {ps : List ReplyPicture} (h : pictures reply = .ok ps) :
    ps.length = (pictureParts reply).length := by
  rw [pictures_eq_mapM, Success.mapM_eq_ok] at h
  rw [← h.length_eq, List.length_filterMap_eq_countP, List.countP_eq_length]
  exact fun part hpart => (mem_pictureParts hpart).2

theorem pictures_of_single {part : Json} {inline : Members} {bytes : Bytes}
    (hsingle : pictureParts reply = [part]) (h : HoldsPicture part inline (Base64.encode bytes)) :
    pictures reply = .ok [⟨bytes, mediaTypeOf inline⟩] := by
  have hpart : part ∈ pictureParts reply := by
    rw [hsingle]
    exact List.mem_singleton_self part
  have hencoded := (holdsPicture_iff (mem_pictureParts hpart).1).2 ⟨inline, h, rfl⟩
  have hdecode : Base64.decode (Text.Utf8.encode (Base64.encode bytes)) = .ok bytes :=
    Base64.decode_text_eq_ok_iff.2 rfl
  rw [pictures_eq_mapM, hsingle, List.filterMap_cons_some hencoded, List.filterMap_nil,
    Success.mapM_eq_ok]
  refine .cons ?_ .nil
  unfold decodePicture
  rw [hdecode]
  rfl

/-! ## What is said beside the pictures -/

def saidText? (part : Json) : Option String :=
  match part.get? "text" with
  | some (.string text) => if Text.trim text = "" then none else some (Text.trim text)
  | _ => none

/-- What the parts say that are no thoughts, in order. -/
def saidTexts (reply : Json) : List String :=
  ((allParts reply).filter fun part => !isThought part).filterMap saidText?

theorem partText?_eq_saidText? (part : Json) : partText? part = saidText? part := by
  unfold partText? saidText?
  cases part.get? "text" with
  | none => rfl
  | some v =>
    cases v with
    | string text =>
      by_cases hblank : Text.isBlank text = true
      · simp [Text.filled, Json.string?, hblank, Text.isBlank_iff.1 hblank]
      · have htrim : Text.trim text ≠ "" := fun h => hblank (Text.isBlank_iff.2 h)
        simp [Text.filled, Json.string?, hblank, htrim]
    | _ => rfl

theorem texts_eq_saidTexts (reply : Json) : texts reply = saidTexts reply :=
  List.filterMap_congr fun part _ => partText?_eq_saidText? part

end ImagePrompt.Gemini
