import ImagePrompt.Proofs.Gemini.Outcome
import ImagePrompt.Proofs.Json.Path
import ImagePrompt.Proofs.Run.Preparation
/-!
# A picture sent back

A picture goes out in a part of a request in the very form in which pictures
come in. So an answer that sends the part back, among texts and thoughts, gives
the picture again, to the byte.
-/

namespace ImagePrompt.Gemini

/-- A part that stands beside a picture: a thought, whatever else it holds, or a part without an
inline member, such as a text. -/
def IsAside (part : Json) : Prop :=
  part.get? "thought" = some (.bool true) ∨
    part.get? "inlineData" = none ∧ part.get? "inline_data" = none

theorem isAside_textPart (text : String) : IsAside (textPart text) := .inr ⟨rfl, rfl⟩

theorem IsAside.not_isPicturePart {part : Json} (h : IsAside part) : ¬ IsPicturePart part := by
  rintro ⟨inline, data, hholds⟩
  rcases h with hthought | ⟨hfirst, hsecond⟩
  · exact hholds.spoken hthought
  · have hinlined := hholds.inlined
    rw [hfirst, hsecond] at hinlined
    cases hinlined

/-- The part of a picture holds the picture. -/
theorem holdsPicture_picturePart (mediaType : String) {bytes : Bytes} (h : bytes ≠ []) :
    HoldsPicture (picturePart mediaType bytes)
      [("data", .string (Base64.encode bytes)), ("mimeType", .string mediaType)]
      (Base64.encode bytes) where
  spoken := by
    have hnone : (picturePart mediaType bytes).get? "thought" = none := rfl
    simp [hnone]
  inlined := rfl
  encoded := rfl
  nonempty := fun hempty => h (Base64.encode_eq_empty_iff.1 hempty)

/-- The only candidate of a reply sends a part back, once, among parts that hold no picture. -/
def Echoes (reply part : Json) : Prop :=
  ∃ candidate before behind,
    reply.at? [.member "candidates"] = some (.array [candidate]) ∧
    candidate.at? [.member "content", .member "parts"] = some (.array (before ++ part :: behind)) ∧
    ∀ other ∈ before ++ behind, IsAside other

variable {reply part candidate : Json} {parts : List Json}

theorem candidates_of_at? (h : reply.at? [.member "candidates"] = some (.array parts)) :
    candidates reply = parts := by
  rw [Json.at?_member] at h
  obtain ⟨v, hv, hat⟩ := Option.bind_eq_some_iff.1 h
  rw [Json.at?, Option.some.injEq] at hat
  unfold candidates
  rw [hv, hat]
  rfl

theorem candidateParts_of_at?
    (h : candidate.at? [.member "content", .member "parts"] = some (.array parts)) :
    candidateParts candidate = parts := by
  rw [Json.at?_member] at h
  obtain ⟨content, hcontent, hat⟩ := Option.bind_eq_some_iff.1 h
  rw [Json.at?_member] at hat
  obtain ⟨v, hv, hparts⟩ := Option.bind_eq_some_iff.1 hat
  rw [Json.at?, Option.some.injEq] at hparts
  unfold candidateParts
  rw [hcontent, Option.bind_some, hv, hparts]
  rfl

theorem filter_isPicturePart_of_aside {parts : List Json} (h : ∀ other ∈ parts, IsAside other) :
    parts.filter (IsPicturePart ·) = [] := by
  refine List.filter_eq_nil_iff.2 fun other hother => ?_
  simpa using (h other hother).not_isPicturePart

/-- What is sent back is the only picture of the reply. -/
theorem Echoes.pictureParts_eq (h : Echoes reply part) (hpart : IsPicturePart part) :
    pictureParts reply = [part] := by
  obtain ⟨candidate, before, behind, hcandidates, hparts, hasides⟩ := h
  have hbefore := filter_isPicturePart_of_aside fun other hother =>
    hasides other (List.mem_append_left behind hother)
  have hbehind := filter_isPicturePart_of_aside fun other hother =>
    hasides other (List.mem_append_right before hother)
  have hall : allParts reply = before ++ part :: behind := by
    unfold allParts
    rw [candidates_of_at? hcandidates, List.flatMap_singleton, candidateParts_of_at? hparts]
  calc pictureParts reply
    _ = (before ++ part :: behind).filter (IsPicturePart ·) := by rw [pictureParts, hall]
    _ = before.filter (IsPicturePart ·) ++ part :: behind.filter (IsPicturePart ·) := by
      rw [List.filter_append, List.filter_cons_of_pos (by simpa using hpart)]
    _ = [part] := by rw [hbefore, hbehind, List.nil_append]

/-- A picture that was attached comes back from an answer that sends its part. -/
theorem generate_echoed {g : Gemini} {apiKey : String} {request : PictureRequest}
    {network : Network} {image : LoadedImage} {i : Nat} {answered : Bytes}
    (hkey : g.apiKey = some apiKey)
    (himage : request.images[i]? = some image) (hbytes : image.bytes ≠ [])
    (hpart : (sentParts (body request))[i]? = some part)
    (hread : g.answer apiKey request network = .read 200 answered)
    (hreply : bodyJson answered = .ok reply) (hechoes : Echoes reply part) :
    ∃ picture, (g.generate request network).1 = .ok picture ∧ picture.bytes = image.bytes ∧
      picture.mediaType = some image.mediaType := by
  obtain rfl : picturePart image.mediaType image.bytes = part := by
    rw [sent_picture request i image himage] at hpart
    exact Option.some.inj hpart
  have hholds := holdsPicture_picturePart image.mediaType hbytes
  have hsingle := hechoes.pictureParts_eq ⟨_, _, hholds⟩
  have hpicture := pictureOfReply_of_single hsingle hholds
  rw [generate_of_read hkey hread, pictureOfAnswer_of_reply (by decide) hreply, hpicture]
  exact ⟨_, rfl, rfl, rfl⟩

/-! ## The second of two pictures -/

/-- A request with pictures of one byte and of two. -/
def pictured : PictureRequest where
  model := "m"
  promptText := "two"
  document := .object []
  images := [
    { path := "a.png", mediaType := "image/png", size := ⟨1, 1⟩, bytes := [0] },
    { path := "b.gif", mediaType := "image/gif", size := ⟨1, 1⟩, bytes := [255, 0] }]

/-- An answer with a thought of another picture, the second picture and a text. -/
def echoing : String :=
  "\x7b\"candidates\":[\x7b\"content\":\x7b\"parts\":[" ++
  "\x7b\"thought\":true,\"inlineData\":\x7b\"data\":\"AAAA\"\x7d\x7d," ++
  "\x7b\"inlineData\":\x7b\"mimeType\":\"image/gif\",\"data\":\"/wA=\"\x7d\x7d," ++
  "\x7b\"text\":\"ok\"\x7d]\x7d\x7d]\x7d"

set_option maxRecDepth 4000 in
theorem parse_echoing : Json.parse echoing = .ok (.object [("candidates", .array [.object
    [("content", .object [("parts", .array [
      .object [("inlineData", .object [("data", .string "AAAA")]), ("thought", .bool true)],
      picturePart "image/gif" [255, 0], textPart "ok"])])]])]) := by rfl

theorem pictured_echoed :
    ∃ picture, (generate ⟨"http://[::1]", some "key"⟩ pictured
        { coming := [.answered 200 (Bytes.ascii echoing)] }).1 = .ok picture ∧
      picture.bytes = [255, 0] ∧ picture.mediaType = some "image/gif" := by
  have hread : answer ⟨"http://[::1]", some "key"⟩ "key" pictured
      { coming := [.answered 200 (Bytes.ascii echoing)] } =
        .read 200 (Bytes.ascii echoing) := by rfl
  have hascii : Text.Utf8.IsAscii echoing.toList := by
    have hall : echoing.toList.all (fun c => decide (c.toNat < 128)) = true := by decide +kernel
    simpa [Text.Utf8.IsAscii] using hall
  have hreply : bodyJson (Bytes.ascii echoing) = Json.parse echoing :=
    congrArg Json.parse (Text.Utf8.decodeLossy_ascii hascii)
  rw [parse_echoing] at hreply
  refine generate_echoed rfl rfl (List.cons_ne_nil _ _) (i := 1) rfl hread hreply ?_
  refine ⟨_, [_], [_], rfl, rfl, ?_⟩
  simp only [List.cons_append, List.nil_append, List.forall_mem_cons]
  exact ⟨.inl rfl, isAside_textPart _, by simp⟩

end ImagePrompt.Gemini
