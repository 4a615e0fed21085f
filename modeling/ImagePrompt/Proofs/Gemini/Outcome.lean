import ImagePrompt.Gemini.Basic
import ImagePrompt.Proofs.Gemini.Reply
/-!
# What a request comes to

The outcome of a request goes by what can be read of the answer: nothing, or a
status and a text. A picture comes of a status for success and a reply with one
picture part that can be decoded, and of nothing else; every other answer has
its own kind of failure.
-/

namespace ImagePrompt.Gemini

/-- What can be read of an answer. -/
inductive Answer where
  | unread
  | read (status : Nat) (body : Bytes)

def bodyJson (body : Bytes) : Except Json.SyntaxError Json :=
  Json.parse (Text.Utf8.decodeLossy body)

def answerOf : Exchange → Answer
  | .answered status body => .read status body
  | _ => .unread

def answer (g : Gemini) (apiKey : String) (request : PictureRequest) (network : Network) : Answer :=
  match g.build apiKey request with
  | .error _ => .unread
  | .ok httpRequest => answerOf (network.send httpRequest).1

variable {g : Gemini} {apiKey : String} {request : PictureRequest} {network : Network}

theorem generate_of_unbuilt {e : SendError} (hkey : g.apiKey = some apiKey)
    (hbuild : g.build apiKey request = .error e) :
    (g.generate request network).1 = .error (e.failure (g.endpoint request.model)) := by
  unfold generate
  simp only [hkey, hbuild]

theorem generate_of_built {httpRequest : HttpRequest} (hkey : g.apiKey = some apiKey)
    (hbuild : g.build apiKey request = .ok httpRequest) :
    (g.generate request network).1 =
      receive (g.endpoint request.model) httpRequest.url (network.send httpRequest).1 := by
  unfold generate
  simp only [hkey, hbuild]

theorem generate_of_unread (hkey : g.apiKey = some apiKey)
    (h : g.answer apiKey request network = .unread) :
    ∃ reason, (g.generate request network).1 = .error (.transport reason) := by
  unfold answer at h
  cases hbuild : g.build apiKey request with
  | error e =>
    rw [generate_of_unbuilt hkey hbuild]
    exact ⟨_, rfl⟩
  | ok httpRequest =>
    rw [generate_of_built hkey hbuild]
    simp only [hbuild] at h
    cases hsend : (network.send httpRequest).1 with
    | answered status body => simp [hsend, answerOf] at h
    | _ => exact ⟨_, rfl⟩

theorem generate_of_read {status : Nat} {body : Bytes} (hkey : g.apiKey = some apiKey)
    (h : g.answer apiKey request network = .read status body) :
    (g.generate request network).1 = pictureOfAnswer status body := by
  unfold answer at h
  cases hbuild : g.build apiKey request with
  | error e => simp [hbuild] at h
  | ok httpRequest =>
    rw [generate_of_built hkey hbuild]
    simp only [hbuild] at h
    cases hsend : (network.send httpRequest).1 with
    | answered status' body' =>
      simp only [hsend, answerOf, Answer.read.injEq] at h
      obtain ⟨rfl, rfl⟩ := h
      rfl
    | _ => simp [hsend, answerOf] at h

theorem isSuccess_iff {status : Nat} : isSuccess status = true ↔ 200 ≤ status ∧ status < 300 := by
  simp [isSuccess]

theorem isRefusal_iff {status : Nat} : isRefusal status = true ↔ status = 401 ∨ status = 403 := by
  simp [isRefusal]

theorem pictureOfAnswer_of_refusal {status : Nat} (h : status = 401 ∨ status = 403) (body : Bytes) :
    ∃ reason, pictureOfAnswer status body = .error (.authentication reason) := by
  have hno : ¬ isSuccess status = true := by
    rw [isSuccess_iff]
    omega
  unfold pictureOfAnswer
  simp only [if_neg hno, if_pos (isRefusal_iff.2 h)]
  exact ⟨_, rfl⟩

theorem pictureOfAnswer_of_failed {status : Nat} (hno : ¬ (200 ≤ status ∧ status < 300))
    (hrefusal : ¬ (status = 401 ∨ status = 403)) (body : Bytes) :
    ∃ reason, pictureOfAnswer status body = .error (.service reason) := by
  rw [← isSuccess_iff] at hno
  rw [← isRefusal_iff] at hrefusal
  unfold pictureOfAnswer
  simp only [if_neg hno, if_neg hrefusal]
  exact ⟨_, rfl⟩

theorem pictureOfAnswer_of_success {status : Nat} (hok : 200 ≤ status ∧ status < 300)
    (body : Bytes) :
    pictureOfAnswer status body =
      match bodyJson body with
      | .ok reply => pictureOfReply reply
      | .error e =>
        .error (.service ("Gemini returned invalid JSON payload (" ++ e.message ++ "): " ++
          Text.truncate 256 (Text.Utf8.decodeLossy body))) := by
  unfold pictureOfAnswer
  simp only [if_pos (isSuccess_iff.2 hok)]
  rfl

theorem pictureOfAnswer_of_notJson {status : Nat} {body : Bytes}
    (hok : 200 ≤ status ∧ status < 300) (h : ∀ reply, bodyJson body ≠ .ok reply) :
    ∃ reason, pictureOfAnswer status body = .error (.service reason) := by
  rw [pictureOfAnswer_of_success hok]
  cases hparse : bodyJson body with
  | error e => exact ⟨_, rfl⟩
  | ok reply => exact absurd hparse (h reply)

theorem pictureOfAnswer_of_reply {status : Nat} {body : Bytes} {reply : Json}
    (hok : 200 ≤ status ∧ status < 300) (h : bodyJson body = .ok reply) :
    pictureOfAnswer status body = pictureOfReply reply := by
  rw [pictureOfAnswer_of_success hok, h]

/-- A picture comes of a reply that reports success. -/
theorem exists_reply_of_pictureOfAnswer {status : Nat} {body : Bytes} {picture : GeneratedPicture}
    (h : pictureOfAnswer status body = .ok picture) :
    ∃ reply, (200 ≤ status ∧ status < 300) ∧ bodyJson body = .ok reply ∧
      pictureOfReply reply = .ok picture := by
  by_cases hok : 200 ≤ status ∧ status < 300
  · cases hparse : bodyJson body with
    | ok reply => exact ⟨reply, hok, rfl, pictureOfAnswer_of_reply hok hparse ▸ h⟩
    | error e =>
      have hnone : ∀ reply, bodyJson body ≠ .ok reply := by simp [hparse]
      obtain ⟨_, herror⟩ := pictureOfAnswer_of_notJson hok hnone
      cases herror.symm.trans h
  · by_cases hrefusal : status = 401 ∨ status = 403
    · obtain ⟨_, herror⟩ := pictureOfAnswer_of_refusal hrefusal body
      cases herror.symm.trans h
    · obtain ⟨_, herror⟩ := pictureOfAnswer_of_failed hok hrefusal body
      cases herror.symm.trans h

/-! ## Replies -/

variable {reply : Json}

theorem pictureOfReply_of_undecodable (h : ∃ part ∈ pictureParts reply, ¬ IsDecodable part) :
    ∃ reason, pictureOfReply reply = .error (.service reason) := by
  obtain ⟨part, hpart, hnot⟩ := h
  unfold pictureOfReply
  cases hps : pictures reply with
  | error e => exact ⟨_, rfl⟩
  | ok ps => exact absurd (exists_pictures_iff.1 ⟨ps, hps⟩ part hpart) hnot

theorem pictureOfReply_of_miscounted (h : (pictureParts reply).length ≠ 1) :
    ∃ reason, pictureOfReply reply = .error (.service reason) := by
  unfold pictureOfReply
  cases hps : pictures reply with
  | error e => exact ⟨_, rfl⟩
  | ok ps =>
    have hlength := length_pictures hps
    match ps with
    | [] => exact ⟨_, rfl⟩
    | [_] => exact absurd hlength.symm h
    | _ :: _ :: _ => exact ⟨_, rfl⟩

/-- What the texts beside a picture make, if there are any. -/
def remarkOf (reply : Json) : Option String :=
  if saidTexts reply = [] then none else some (String.intercalate "\n" (saidTexts reply))

theorem pictureOfReply_of_single {part : Json} {inline : Members} {bytes : Bytes}
    (hsingle : pictureParts reply = [part]) (h : HoldsPicture part inline (Base64.encode bytes)) :
    pictureOfReply reply =
      .ok { bytes, mediaType := mediaTypeOf inline, remark := remarkOf reply } := by
  unfold pictureOfReply remarkOf
  rw [pictures_of_single hsingle h, texts_eq_saidTexts]
  simp only [List.isEmpty_iff]

theorem pictureOfReply_eq_ok_iff {picture : GeneratedPicture} :
    pictureOfReply reply = .ok picture ↔
      ∃ part inline, pictureParts reply = [part] ∧
        HoldsPicture part inline (Base64.encode picture.bytes) ∧
        picture.mediaType = mediaTypeOf inline ∧ picture.remark = remarkOf reply := by
  constructor
  · intro hok
    have hone : (pictureParts reply).length = 1 := by
      by_contra hne
      obtain ⟨reason, herror⟩ := pictureOfReply_of_miscounted hne
      rw [herror] at hok
      cases hok
    obtain ⟨part, hsingle⟩ := List.length_eq_one_iff.1 hone
    have hdecodable : IsDecodable part := by
      by_contra hnot
      have hmem : part ∈ pictureParts reply := hsingle ▸ List.mem_singleton_self part
      obtain ⟨reason, herror⟩ := pictureOfReply_of_undecodable ⟨part, hmem, hnot⟩
      rw [herror] at hok
      cases hok
    obtain ⟨inline, bytes, hholds⟩ := hdecodable
    rw [pictureOfReply_of_single hsingle hholds] at hok
    obtain rfl := Except.ok.inj hok
    exact ⟨part, inline, hsingle, hholds, rfl, rfl⟩
  · rintro ⟨part, inline, hsingle, hholds, hmedia, hremark⟩
    rw [pictureOfReply_of_single hsingle hholds, ← hmedia, ← hremark]

/-! ## Requests -/

/-- The outcome of a request by its credential and the answer to it. -/
structure OutcomeDecided (g : Gemini) (request : PictureRequest) (network : Network) : Prop where
  /-- Nothing goes out without a credential. -/
  keyless : g.apiKey = none → ∃ reason,
    g.generate request network = (.error (.authentication reason), network)
  unread : ∀ apiKey, g.apiKey = some apiKey → g.answer apiKey request network = .unread →
    ∃ reason, (g.generate request network).1 = .error (.transport reason)
  refused : ∀ apiKey status body, g.apiKey = some apiKey →
    g.answer apiKey request network = .read status body → status = 401 ∨ status = 403 →
    ∃ reason, (g.generate request network).1 = .error (.authentication reason)
  failed : ∀ apiKey status body, g.apiKey = some apiKey →
    g.answer apiKey request network = .read status body → ¬ (200 ≤ status ∧ status < 300) →
    ¬ (status = 401 ∨ status = 403) →
    ∃ reason, (g.generate request network).1 = .error (.service reason)
  notJson : ∀ apiKey status body, g.apiKey = some apiKey →
    g.answer apiKey request network = .read status body → 200 ≤ status ∧ status < 300 →
    (∀ reply, bodyJson body ≠ .ok reply) →
    ∃ reason, (g.generate request network).1 = .error (.service reason)
  unusable : ∀ apiKey status body reply, g.apiKey = some apiKey →
    g.answer apiKey request network = .read status body → 200 ≤ status ∧ status < 300 →
    bodyJson body = .ok reply →
    (∃ part ∈ pictureParts reply, ¬ IsDecodable part) ∨ (pictureParts reply).length ≠ 1 →
    ∃ reason, (g.generate request network).1 = .error (.service reason)
  answered : ∀ apiKey status body reply, g.apiKey = some apiKey →
    g.answer apiKey request network = .read status body → 200 ≤ status ∧ status < 300 →
    bodyJson body = .ok reply → (∀ part ∈ pictureParts reply, IsDecodable part) →
    (pictureParts reply).length = 1 →
    ∃ picture, (g.generate request network).1 = .ok picture
  /-- The bytes, the media type and the remark of a picture are those of the one picture part and
  of the texts beside it. -/
  pictured : ∀ picture, (g.generate request network).1 = .ok picture →
    ∃ apiKey status body reply part inline, g.apiKey = some apiKey ∧
      g.answer apiKey request network = .read status body ∧ (200 ≤ status ∧ status < 300) ∧
      bodyJson body = .ok reply ∧ pictureParts reply = [part] ∧
      HoldsPicture part inline (Base64.encode picture.bytes) ∧ picture.bytes ≠ [] ∧
      picture.mediaType = mediaTypeOf inline ∧ picture.remark = remarkOf reply

theorem HoldsPicture.bytes_ne_nil {part : Json} {inline : Members} {bytes : Bytes}
    (h : HoldsPicture part inline (Base64.encode bytes)) : bytes ≠ [] :=
  fun hnil => h.nonempty (Base64.encode_eq_empty_iff.2 hnil)

theorem generate_of_keyless (hnone : g.apiKey = none) (request : PictureRequest)
    (network : Network) :
    ∃ reason, g.generate request network = (.error (.authentication reason), network) := by
  unfold generate
  rw [hnone]
  exact ⟨_, rfl⟩

/-- The credential, the answer's status and the picture parts of its reply decide the outcome. -/
theorem generate_decided (g : Gemini) (request : PictureRequest) (network : Network) :
    OutcomeDecided g request network := by
  constructor
  case keyless => exact fun hnone => generate_of_keyless hnone request network
  case unread => exact fun _ => generate_of_unread
  case refused =>
    intro apiKey status body hkey hread hrefusal
    rw [generate_of_read hkey hread]
    exact pictureOfAnswer_of_refusal hrefusal body
  case failed =>
    intro apiKey status body hkey hread hno hrefusal
    rw [generate_of_read hkey hread]
    exact pictureOfAnswer_of_failed hno hrefusal body
  case notJson =>
    intro apiKey status body hkey hread hok hparse
    rw [generate_of_read hkey hread]
    exact pictureOfAnswer_of_notJson hok hparse
  case unusable =>
    intro apiKey status body reply hkey hread hok hparse hunusable
    rw [generate_of_read hkey hread, pictureOfAnswer_of_reply hok hparse]
    rcases hunusable with hundecodable | hmiscounted
    · exact pictureOfReply_of_undecodable hundecodable
    · exact pictureOfReply_of_miscounted hmiscounted
  case answered =>
    intro apiKey status body reply hkey hread hok hparse hdecodable hone
    rw [generate_of_read hkey hread, pictureOfAnswer_of_reply hok hparse]
    obtain ⟨part, hsingle⟩ := List.length_eq_one_iff.1 hone
    have hmem : part ∈ pictureParts reply := hsingle ▸ List.mem_singleton_self part
    obtain ⟨inline, bytes, hholds⟩ := hdecodable part hmem
    exact ⟨_, pictureOfReply_of_single hsingle hholds⟩
  case pictured =>
    intro picture hpicture
    cases hkey : g.apiKey with
    | none =>
      obtain ⟨_, herror⟩ := generate_of_keyless hkey request network
      rw [herror] at hpicture
      cases hpicture
    | some apiKey =>
      cases hanswer : g.answer apiKey request network with
      | unread =>
        obtain ⟨_, herror⟩ := generate_of_unread hkey hanswer
        cases herror.symm.trans hpicture
      | read status body =>
        rw [generate_of_read hkey hanswer] at hpicture
        obtain ⟨reply, hok, hparse, hreply⟩ := exists_reply_of_pictureOfAnswer hpicture
        obtain ⟨part, inline, hsingle, hholds, hmedia, hremark⟩ :=
          pictureOfReply_eq_ok_iff.1 hreply
        exact ⟨apiKey, status, body, reply, part, inline, rfl, hanswer, hok, hparse, hsingle,
          hholds, hholds.bytes_ne_nil, hmedia, hremark⟩

end ImagePrompt.Gemini
