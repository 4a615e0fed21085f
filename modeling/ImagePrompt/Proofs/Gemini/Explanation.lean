import ImagePrompt.Proofs.Gemini.Outcome
import ImagePrompt.Proofs.Json.Path
/-!
# What the service says about a failure

The service's own words reach whoever reads the failure. The message of an
answer that reports no success is passed on in full, another answer by its
beginning; a reply without a picture gives all of its reasons, each once and in
a fixed order.
-/

namespace ImagePrompt

namespace Text

/-- What is shown of a text: the whole of it, or its first characters and an ellipsis. -/
inductive Excerpt (limit : Nat) (text : String) : String → Prop
  | whole (hfits : text.length ≤ limit) : Excerpt limit text text
  | cut {shown rest : String} (hsplit : text = shown ++ rest) (hlimit : shown.length = limit)
      (hrest : rest ≠ "") : Excerpt limit text (shown ++ "…")

theorem excerpt_truncate (limit : Nat) (s : String) : Excerpt limit s (truncate limit s) := by
  unfold truncate
  by_cases hfits : s.toList.length ≤ limit
  · simp only [if_pos hfits]
    exact .whole (by rwa [String.length_toList] at hfits)
  · simp only [if_neg hfits]
    have hsplit :
        s = String.ofList (s.toList.take limit) ++ String.ofList (s.toList.drop limit) := by
      rw [← String.ofList_append, List.take_append_drop, String.ofList_toList]
    refine .cut hsplit ?_ fun hempty => ?_
    · rw [String.length_ofList, List.length_take]
      omega
    · have hdrop : s.toList.drop limit = [] := by
        rwa [← String.ofList_nil, String.ofList_inj] at hempty
      exact hfits (List.drop_eq_nil_iff.1 hdrop)

end Text

namespace Gemini

/-! ## Answers that report no success -/

/-- Where the answer to a failed request holds the service's message. -/
def messagePath : Json.Path := [.member "error", .member "message"]

theorem explanation_of_message {text said : String} {v : Json} (hparse : Json.parse text = .ok v)
    (hsaid : v.at? messagePath = some (.string said)) : explanation text = said := by
  rw [messagePath, Json.at?_member] at hsaid
  obtain ⟨error, herror, hmessage⟩ := Option.bind_eq_some_iff.1 hsaid
  rw [Json.at?_member] at hmessage
  obtain ⟨message, hget, hat⟩ := Option.bind_eq_some_iff.1 hmessage
  rw [Json.at?, Option.some.injEq] at hat
  unfold explanation
  simp only [hparse, herror, Option.bind_some, hget, hat, Json.string?, Option.getD_some]

theorem explanation_of_noMessage {text : String}
    (hnone : ∀ v said, Json.parse text = .ok v → v.at? messagePath ≠ some (.string said)) :
    explanation text = Text.truncate 512 (Text.trim text) := by
  unfold explanation
  generalize Json.parse text = parsed at hnone
  cases parsed with
  | error e => simp only [Option.getD_none, shownLength]
  | ok v =>
    have hsilent : ((v.get? "error").bind (Json.get? "message")).bind Json.string? = none := by
      by_contra hsome
      obtain ⟨said, hsaid⟩ := Option.ne_none_iff_exists'.1 hsome
      obtain ⟨message, hmessage, hstring⟩ := Option.bind_eq_some_iff.1 hsaid
      obtain ⟨error, herror, hget⟩ := Option.bind_eq_some_iff.1 hmessage
      refine hnone v said rfl ?_
      rw [messagePath, Json.at?_member, herror, Option.bind_some, Json.at?_member, hget,
        Option.bind_some, Json.at?, string?_eq_some_iff.1 hstring]
    simp only [hsilent, Option.getD_none, shownLength]

theorem authentication_message (front said : String) :
    (Failure.authentication (front ++ said)).message = "authentication error: " ++ front ++ said :=
  String.append_assoc.symm

theorem service_message (front said : String) :
    (Failure.service (front ++ said)).message = "upstream error: " ++ front ++ said :=
  String.append_assoc.symm

/-- The failure of an answer that reports no success ends with what the answer says. -/
theorem exists_message_of_failed {status : Nat} (hno : ¬ (200 ≤ status ∧ status < 300))
    (body : Bytes) :
    ∃ failure front, pictureOfAnswer status body = .error failure ∧
      failure.message = front ++ explanation (Text.Utf8.decodeLossy body) := by
  rw [← isSuccess_iff] at hno
  simp only [pictureOfAnswer, if_neg hno]
  split
  · exact ⟨_, _, rfl, authentication_message _ _⟩
  · exact ⟨_, _, rfl, service_message _ _⟩

/-! ## Replies without a picture -/

/-- What a place of a reply adds to the reasons: the text that stands there, behind a label, or
nothing where no text stands. -/
inductive Cites (label : String) : Option Json → List String → Prop
  | text (said : String) : Cites label (some (.string said)) [label ++ said]
  | silent {place : Option Json} (hnone : ∀ said, place ≠ some (.string said)) :
      Cites label place []

/-- The reasons that a reply gives, by where they stand. -/
structure Reasons (reply : Json) (blocked note finished said : List String) : Prop where
  blocked : Cites "prompt blocked: "
    (reply.at? [.member "promptFeedback", .member "blockReason"]) blocked
  note : Cites "" (reply.at? [.member "promptFeedback", .member "blockReasonMessage"]) note
  /-- One place for each candidate, in the order of the candidates. -/
  finished : ∃ each, finished = each.flatten ∧ List.Forall₂ (fun candidate words =>
    Cites "finish reason: " (candidate.get? "finishReason") words) (candidates reply) each
  unsaid : saidTexts reply = [] → said = []
  spoken : saidTexts reply ≠ [] → ∃ shown,
    Text.Excerpt 512 (String.intercalate " " (saidTexts reply)) shown ∧
      said = ["model said: " ++ shown]

/-- A reply that gives no reason at all. -/
structure Silent (reply : Json) : Prop where
  unblocked : ∀ reason,
    reply.at? [.member "promptFeedback", .member "blockReason"] ≠ some (.string reason)
  noNote : ∀ note,
    reply.at? [.member "promptFeedback", .member "blockReasonMessage"] ≠ some (.string note)
  unfinished : ∀ candidate ∈ candidates reply, ∀ reason,
    candidate.get? "finishReason" ≠ some (.string reason)
  unsaid : saidTexts reply = []

theorem cites_string? (label : String) (place : Option Json) :
    Cites label place ((place.bind Json.string?).toList.map (label ++ ·)) := by
  cases hplace : place.bind Json.string? with
  | none =>
    refine .silent fun said heq => ?_
    rw [heq] at hplace
    cases hplace
  | some said =>
    obtain ⟨v, rfl, hv⟩ := Option.bind_eq_some_iff.1 hplace
    rw [string?_eq_some_iff] at hv
    subst hv
    exact .text said

theorem Cites.eq_nil_iff {label : String} {place : Option Json} {words : List String}
    (h : Cites label place words) : words = [] ↔ ∀ said, place ≠ some (.string said) := by
  cases h with
  | text said => exact ⟨fun hnil => (List.cons_ne_nil _ _ hnil).elim, fun h => (h said rfl).elim⟩
  | silent hnone => exact ⟨fun _ => hnone, fun _ => rfl⟩

/-- Places that are cited one by one say nothing together when none of them says anything. -/
theorem flatten_eq_nil_iff_of_cites {α : Type} {label : String} {place : α → Option Json}
    {as : List α} {each : List (List String)}
    (h : List.Forall₂ (fun a words => Cites label (place a) words) as each) :
    each.flatten = [] ↔ ∀ a ∈ as, ∀ said, place a ≠ some (.string said) := by
  induction h with
  | nil => simp
  | cons hfirst _ ih =>
    rw [List.flatten_cons, List.append_eq_nil_iff, hfirst.eq_nil_iff, ih, List.forall_mem_cons]

variable {reply : Json}

theorem Reasons.eq_nil_iff {blocked note finished said : List String}
    (h : Reasons reply blocked note finished said) :
    blocked ++ note ++ finished ++ said = [] ↔ Silent reply := by
  obtain ⟨each, rfl, heach⟩ := h.finished
  have hfinished : each.flatten = [] ↔ ∀ candidate ∈ candidates reply, ∀ reason,
      candidate.get? "finishReason" ≠ some (.string reason) :=
    flatten_eq_nil_iff_of_cites heach
  have hsaid : said = [] ↔ saidTexts reply = [] := by
    constructor
    · intro hnil
      by_contra hsome
      obtain ⟨shown, -, rfl⟩ := h.spoken hsome
      cases hnil
    · exact h.unsaid
  simp only [List.append_eq_nil_iff, h.blocked.eq_nil_iff, h.note.eq_nil_iff, hfinished, hsaid]
  constructor
  · rintro ⟨⟨⟨hblocked, hnote⟩, hunfinished⟩, hunsaid⟩
    exact ⟨hblocked, hnote, hunfinished, hunsaid⟩
  · exact fun hsilent => ⟨⟨⟨hsilent.unblocked, hsilent.noNote⟩, hsilent.unfinished⟩, hsilent.unsaid⟩

theorem Cites.of_places (label : String) (place : Json → Option Json) (cs : List Json) :
    ∃ each : List (List String),
      (cs.filterMap fun c => (place c).bind Json.string?).map (label ++ ·) = each.flatten ∧
        List.Forall₂ (fun c words => Cites label (place c) words) cs each := by
  refine ⟨cs.map fun c => ((place c).bind Json.string?).toList.map (label ++ ·), ?_, ?_⟩
  · rw [List.map_filterMap, List.filterMap_eq_flatMap_toList, List.flatMap]
    simp only [Option.toList_map]
  · rw [List.forall₂_map_right_iff, List.forall₂_same]
    exact fun c _ => cites_string? label (place c)

theorem at?_feedback (reply : Json) (key : String) :
    reply.at? [.member "promptFeedback", .member key] =
      (reply.get? "promptFeedback").bind (Json.get? key) := by
  rw [Json.at?_member]
  refine congrArg _ (funext fun feedback => ?_)
  rw [Json.at?_member]
  cases feedback.get? key with
  | none => rfl
  | some v => rw [Option.bind_some, Json.at?]

/-- The reasons that are given are those of the reply's places, in their order. -/
theorem exists_reasons_eq (reply : Json) :
    ∃ blocked note finished said, Reasons reply blocked note finished said ∧
      reasons reply = blocked ++ note ++ finished ++ said := by
  obtain ⟨each, hflat, heach⟩ := Cites.of_places "finish reason: " (Json.get? "finishReason")
    (candidates reply)
  have hnote := cites_string? ""
    (reply.at? [.member "promptFeedback", .member "blockReasonMessage"])
  simp only [String.empty_append, List.map_id'] at hnote
  refine ⟨_, _, each.flatten, if saidTexts reply = [] then [] else
    ["model said: " ++ Text.truncate 512 (String.intercalate " " (saidTexts reply))],
    ⟨cites_string? _ _, hnote, ⟨each, rfl, heach⟩, ?_, ?_⟩, ?_⟩
  · exact fun hnil => if_pos hnil
  · exact fun hsome => ⟨_, Text.excerpt_truncate 512 _, if_neg hsome⟩
  · simp only [reasons, at?_feedback, ← hflat, texts_eq_saidTexts, List.isEmpty_iff, shownLength]

theorem noPictureReason_eq (reply : Json) :
    noPictureReason reply = "Gemini returned no image" ++
      if reasons reply = [] then ""
      else " (" ++ String.intercalate "; " (reasons reply) ++ ")" := by
  have hopen : "Gemini returned no image (" = "Gemini returned no image" ++ " (" := by decide
  unfold noPictureReason
  cases reasons reply with
  | nil => rfl
  | cons first rest => simp only [hopen, reduceCtorEq, if_false, String.append_assoc]

/-- The message of a reply without a picture, with the reasons for it. -/
def noPictureMessage (reasons : List String) : String :=
  "upstream error: Gemini returned no image" ++
    if reasons = [] then "" else " (" ++ String.intercalate "; " reasons ++ ")"

theorem pictureOfReply_of_pictureless (h : pictureParts reply = []) :
    ∃ reason, pictureOfReply reply = .error (.service reason) ∧
      (Failure.service reason).message = noPictureMessage (reasons reply) := by
  have hnone : pictures reply = .ok [] := by
    rw [pictures_eq_mapM, h]
    rfl
  refine ⟨noPictureReason reply, ?_, ?_⟩
  · unfold pictureOfReply
    rw [hnone]
  · rw [noPictureReason_eq, service_message]
    rfl

/-- A parenthesis opens where there is a reason, and nowhere else. -/
theorem parenthesis_mem_noPictureMessage_iff {reasons : List String} :
    '(' ∈ (noPictureMessage reasons).toList ↔ reasons ≠ [] := by
  unfold noPictureMessage
  by_cases hnil : reasons = []
  · simp [hnil]
  · simp [hnil]

/-! ## Every answer -/

/-- What an answer says about a failure stands in the message of the failure. -/
structure Explained (g : Gemini) (request : PictureRequest) (network : Network) : Prop where
  /-- The service's message ends the failure's, whatever its length. -/
  verbatim : ∀ apiKey status body v said, g.apiKey = some apiKey →
    g.answer apiKey request network = .read status body → ¬ (200 ≤ status ∧ status < 300) →
    bodyJson body = .ok v → v.at? messagePath = some (.string said) →
    ∃ failure front, (g.generate request network).1 = .error failure ∧
      failure.message = front ++ said
  excerpt : ∀ apiKey status body, g.apiKey = some apiKey →
    g.answer apiKey request network = .read status body → ¬ (200 ≤ status ∧ status < 300) →
    (∀ v said, bodyJson body = .ok v → v.at? messagePath ≠ some (.string said)) →
    ∃ failure front shown, (g.generate request network).1 = .error failure ∧
      Text.Excerpt 512 (Text.trim (Text.Utf8.decodeLossy body)) shown ∧
      failure.message = front ++ shown
  /-- All reasons of a reply without a picture part are given, in the order of their places. -/
  pictureless : ∀ apiKey status body reply, g.apiKey = some apiKey →
    g.answer apiKey request network = .read status body → 200 ≤ status ∧ status < 300 →
    bodyJson body = .ok reply → pictureParts reply = [] →
    ∃ reason blocked note finished said,
      (g.generate request network).1 = .error (.service reason) ∧
      Reasons reply blocked note finished said ∧
      (Failure.service reason).message = noPictureMessage (blocked ++ note ++ finished ++ said) ∧
      ('(' ∉ (Failure.service reason).message.toList ↔ Silent reply)

/-- No answer loses what the service says about a failure. -/
theorem generate_explained (g : Gemini) (request : PictureRequest) (network : Network) :
    Explained g request network := by
  constructor
  case verbatim =>
    intro apiKey status body v said hkey hread hno hparse hsaid
    rw [generate_of_read hkey hread, ← explanation_of_message hparse hsaid]
    exact exists_message_of_failed hno body
  case excerpt =>
    intro apiKey status body hkey hread hno hnone
    obtain ⟨failure, front, herror, hmessage⟩ := exists_message_of_failed hno body
    rw [explanation_of_noMessage hnone] at hmessage
    rw [generate_of_read hkey hread]
    exact ⟨failure, front, _, herror, Text.excerpt_truncate 512 _, hmessage⟩
  case pictureless =>
    intro apiKey status body reply hkey hread hok hparse hnone
    obtain ⟨reason, herror, hmessage⟩ := pictureOfReply_of_pictureless hnone
    obtain ⟨blocked, note, finished, said, hreasons, heq⟩ := exists_reasons_eq reply
    rw [heq] at hmessage
    rw [generate_of_read hkey hread, pictureOfAnswer_of_reply hok hparse]
    refine ⟨reason, blocked, note, finished, said, herror, hreasons, hmessage, ?_⟩
    rw [hmessage, parenthesis_mem_noPictureMessage_iff, not_ne_iff, hreasons.eq_nil_iff]

end Gemini

end ImagePrompt
