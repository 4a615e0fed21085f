import ImagePrompt.Command.Basic
import ImagePrompt.Proofs.Gemini.Outcome
import ImagePrompt.Proofs.Run.Course
/-!
# What a command ends with

The stages of a command are to read the prompt, to parse it, to load the
settings, to prepare the run, to ask the provider and to write the picture. The
first of them that fails decides the exit code, and a command that fails prints
nothing and leaves no file behind. To look the provider up is no stage that can
fail: both names that a command has for one are registered.
-/

namespace ImagePrompt

/-! ## Kinds of failures -/

theorem Failure.exitCode_of_kind {f : Failure} {kind : FailureKind} (hkind : f.kind = kind) :
    f.remedy.exitCode = kind.remedy.exitCode := by
  subst hkind
  rfl

theorem GenerationRequest.exitCode_of_prepare {r : GenerationRequest} {fs : FileSystem}
    {f : Failure} (h : (r.prepare fs).result = .error f) : f.remedy.exitCode = 2 := by
  cases hn : normalize r.prompt with
  | error e =>
    rw [prepare_of_refused hn] at h
    obtain rfl := Except.error.inj h
    rfl
  | ok n =>
    have hload := (prepare_eq_error_iff hn).1 h
    rcases kind_of_loadAll hload with hmissing | hunreadable
    · exact Failure.exitCode_of_kind hmissing
    · exact Failure.exitCode_of_kind hunreadable

namespace Gemini

theorem kind_of_pictureOfReply {reply : Json} {f : Failure} (h : pictureOfReply reply = .error f) :
    f.kind = .service := by
  unfold pictureOfReply at h
  cases hps : pictures reply with
  | error e =>
    rw [hps] at h
    obtain rfl := Except.error.inj h
    rfl
  | ok ps =>
    rw [hps] at h
    match ps with
    | [] | _ :: _ :: _ =>
      obtain rfl := Except.error.inj h
      rfl
    | [_] => cases h

theorem kind_of_pictureOfAnswer {status : Nat} {body : Bytes} {f : Failure}
    (h : pictureOfAnswer status body = .error f) :
    f.kind = .authentication ∨ f.kind = .service := by
  by_cases hrefusal : status = 401 ∨ status = 403
  · obtain ⟨_, herror⟩ := pictureOfAnswer_of_refusal hrefusal body
    obtain rfl := Except.error.inj (herror.symm.trans h)
    exact .inl rfl
  by_cases hok : 200 ≤ status ∧ status < 300
  · cases hparse : bodyJson body with
    | ok reply =>
      rw [pictureOfAnswer_of_reply hok hparse] at h
      exact .inr (kind_of_pictureOfReply h)
    | error e =>
      have hnone : ∀ reply, bodyJson body ≠ .ok reply := by simp [hparse]
      obtain ⟨_, herror⟩ := pictureOfAnswer_of_notJson hok hnone
      obtain rfl := Except.error.inj (herror.symm.trans h)
      exact .inr rfl
  · obtain ⟨_, herror⟩ := pictureOfAnswer_of_failed hok hrefusal body
    obtain rfl := Except.error.inj (herror.symm.trans h)
    exact .inr rfl

theorem kind_of_generate {g : Gemini} {request : PictureRequest} {network : Network} {f : Failure}
    (h : (g.generate request network).1 = .error f) :
    f.kind = .authentication ∨ f.kind = .service ∨ f.kind = .transport := by
  cases hkey : g.apiKey with
  | none =>
    obtain ⟨_, herror⟩ := generate_of_keyless hkey request network
    rw [herror] at h
    obtain rfl := Except.error.inj h
    exact .inl rfl
  | some apiKey =>
    cases hanswer : g.answer apiKey request network with
    | unread =>
      obtain ⟨_, herror⟩ := generate_of_unread hkey hanswer
      obtain rfl := Except.error.inj (herror.symm.trans h)
      exact .inr (.inr rfl)
    | read status body =>
      rw [generate_of_read hkey hanswer] at h
      exact (kind_of_pictureOfAnswer h).imp_right .inl

end Gemini

/-! ## The stages of a command -/

def CommandReport.printed (r : CommandReport) : String := String.join (r.output.map (· ++ "\n"))

namespace Command

section Stages

variable (c : Command) (environment : Environment) (m : Moment) (w : World Network)

/-- What the stages of a command come to before its provider is asked, if none of them fails. -/
structure Ready where
  text : String
  prompt : Json
  settings : Settings
  provider : Provider Network
  prepared : PreparedRun
  read : c.promptText w.files = .ok text
  parsed : Json.parse text = .ok prompt
  loaded : Settings.load w.files environment c.envFile = .ok settings
  known : c.provider settings = .ok provider
  accepted : ((c.request prompt settings).prepare w.files).result = .ok prepared

def Ready.answer {c : Command} {environment : Environment} {w : World Network}
    (r : c.Ready environment w) : Except Failure GeneratedPicture :=
  (r.provider.generate r.prepared.request w.state).1

def Ready.write {c : Command} {environment : Environment} {w : World Network}
    (r : c.Ready environment w) (m : Moment) (picture : GeneratedPicture) :
    FileSystem × Except Failure String :=
  OutputWriter.write (r.prepared.outputName m picture) picture.bytes m.fault w.files

/-- What all stages of a command come to, if none of them fails. -/
structure Delivery extends c.Ready environment w where
  picture : GeneratedPicture
  path : String
  answered : toReady.answer = .ok picture
  written : (toReady.write m picture).2 = .ok path

/-- The first stage of a command that fails, and the exit code for it. -/
inductive Setback : Nat → Prop
  | unreadable {e : CommandError} (hread : c.promptText w.files = .error e) : Setback 1
  | notJson {text : String} {e : Json.SyntaxError} (hread : c.promptText w.files = .ok text)
      (hparse : Json.parse text = .error e) : Setback 2
  | unconfigured {text : String} {prompt : Json} {e : ConfigError}
      (hread : c.promptText w.files = .ok text) (hparse : Json.parse text = .ok prompt)
      (hload : Settings.load w.files environment c.envFile = .error e) : Setback 1
  | unprepared {text : String} {prompt : Json} {settings : Settings} {f : Failure}
      (hread : c.promptText w.files = .ok text) (hparse : Json.parse text = .ok prompt)
      (hload : Settings.load w.files environment c.envFile = .ok settings)
      (hprepare : ((c.request prompt settings).prepare w.files).result = .error f) : Setback 2
  | unauthorized (r : c.Ready environment w) {f : Failure} (hanswer : r.answer = .error f)
      (hkind : f.kind = .authentication) : Setback 3
  | unanswered (r : c.Ready environment w) {f : Failure} (hanswer : r.answer = .error f)
      (hkind : f.kind = .service ∨ f.kind = .transport) : Setback 4
  | unwritten (r : c.Ready environment w) {picture : GeneratedPicture} {f : Failure}
      (hanswer : r.answer = .ok picture) (hwrite : (r.write m picture).2 = .error f) : Setback 5

end Stages

variable {c : Command} {environment : Environment} {m : Moment} {w : World Network}

/-! ## The provider of a command -/

theorem provider_of_get? {name : String} {settings : Settings} {provider : Provider Network}
    (hname : c.providerName = name) (hget : (providers settings).get? name = some provider) :
    c.provider settings = .ok provider := by
  unfold Command.provider
  rw [hname, hget]

theorem provider_of_dryRun (hdry : c.dryRun = true) (settings : Settings) :
    c.provider settings = .ok Placeholder.provider := by
  refine provider_of_get? (if_pos hdry) ?_
  have hother : (Gemini.ofBase settings.baseUrl settings.apiKey).provider.name ≠ "dryrun" := by
    change "gemini" ≠ "dryrun"
    decide
  unfold providers
  rw [Registry.get?_register, if_neg hother, Registry.get?_register]
  exact if_pos rfl

theorem provider_of_real (hreal : ¬ c.dryRun = true) (settings : Settings) :
    c.provider settings = .ok (Gemini.ofBase settings.baseUrl settings.apiKey).provider := by
  refine provider_of_get? (if_neg hreal) ?_
  unfold providers
  rw [Registry.get?_register]
  exact if_pos rfl

theorem exists_provider (c : Command) (settings : Settings) :
    ∃ provider, c.provider settings = .ok provider := by
  by_cases hdry : c.dryRun = true
  · exact ⟨_, provider_of_dryRun hdry settings⟩
  · exact ⟨_, provider_of_real hdry settings⟩

/-! ## The course of a command -/

theorem prompt_of_read {text : String} (hread : c.promptText w.files = .ok text) :
    c.prompt w.files =
      (Json.parse text).mapError fun e => .run (SchemaError.notJson e).failure := by
  unfold prompt
  rw [hread]
  rfl

theorem prompt_of_parse {text : String} {prompt : Json} (hread : c.promptText w.files = .ok text)
    (hparse : Json.parse text = .ok prompt) : c.prompt w.files = .ok prompt := by
  rw [prompt_of_read hread, hparse]
  rfl

theorem prepare_of_unread {e : CommandError} (h : c.prompt w.files = .error e) :
    c.prepare environment w.files = .error e := by
  unfold prepare
  rw [h]
  rfl

theorem prepare_of_load {prompt : Json} {settings : Settings} {provider : Provider Network}
    (hprompt : c.prompt w.files = .ok prompt)
    (hload : Settings.load w.files environment c.envFile = .ok settings)
    (hprovider : c.provider settings = .ok provider) :
    c.prepare environment w.files =
      (((c.request prompt settings).prepare w.files).result.mapError .run).map
        fun prepared => (provider, prepared) := by
  have hrest : c.prepare environment w.files =
      (((c.request prompt settings).prepare w.files).result.mapError .run >>= fun prepared =>
        pure (provider, prepared)) := by
    unfold prepare
    rw [hprompt, hload]
    change (c.provider settings >>= _) = _
    rw [hprovider]
    rfl
  rw [hrest]
  cases ((c.request prompt settings).prepare w.files).result <;> rfl

theorem Ready.prepare_eq (r : c.Ready environment w) :
    c.prepare environment w.files = .ok (r.provider, r.prepared) := by
  rw [prepare_of_load (prompt_of_parse r.read r.parsed) r.loaded r.known, r.accepted]
  rfl

theorem run_of_error {e : CommandError} (h : c.prepare environment w.files = .error e) :
    c.run environment m w = (w, e.report []) := by
  unfold run
  rw [h]

theorem run_of_ok {provider : Provider Network} {prepared : PreparedRun}
    (h : c.prepare environment w.files = .ok (provider, prepared)) :
    c.run environment m w =
      ((prepared.execute provider m w).1,
        reportOf (c.shownPrompt prepared) (prepared.execute provider m w).2.result) := by
  unfold run
  rw [h]

/-- A command ends with a code, and neither prints anything nor leaves a file. -/
structure Stops (c : Command) (environment : Environment) (m : Moment) (w : World Network)
    (code : Nat) : Prop where
  exitCode : (c.run environment m w).2.exitCode = code
  printed : (c.run environment m w).2.printed = ""
  files : w.files.GainsDirectories (c.run environment m w).1.files

theorem Stops.of_error {e : CommandError} (h : c.prepare environment w.files = .error e) :
    c.Stops environment m w e.exitCode := by
  have hrun : c.run environment m w = (w, e.report []) := run_of_error h
  constructor
  case exitCode => rw [hrun]; rfl
  case printed => rw [hrun]; rfl
  case files => rw [hrun]; exact .refl _

theorem Stops.of_failure {provider : Provider Network} {prepared : PreparedRun} {f : Failure}
    (h : c.prepare environment w.files = .ok (provider, prepared))
    (hfailure : (prepared.execute provider m w).2.result = .error f)
    (hfiles : w.files.GainsDirectories (prepared.execute provider m w).1.files) :
    c.Stops environment m w f.remedy.exitCode := by
  have hrun := run_of_ok (m := m) h
  rw [hfailure] at hrun
  constructor
  case exitCode => rw [hrun]; rfl
  case printed => rw [hrun]; rfl
  case files => rw [hrun]; exact hfiles

namespace Ready

variable (r : c.Ready environment w)

theorem stops_of_answer {f : Failure} (hanswer : r.answer = .error f) :
    c.Stops environment m w f.remedy.exitCode := by
  have hexecute := PreparedRun.execute_of_error (m := m) (Prod.ext hanswer rfl)
  refine .of_failure r.prepare_eq ?_ ?_
  · rw [hexecute]
    rfl
  · rw [hexecute]
    exact .refl _

theorem execute_eq {picture : GeneratedPicture} (hanswer : r.answer = .ok picture) :
    (r.prepared.execute r.provider m w).1.files = (r.write m picture).1 ∧
      (r.prepared.execute r.provider m w).2.result =
        (r.write m picture).2.map (r.prepared.outcome picture) := by
  rw [PreparedRun.execute_of_ok (m := m) (Prod.ext hanswer rfl)]
  match hwrite : r.write m picture with
  | (files, .error f) =>
    rw [PreparedRun.writePicture_of_error hwrite]
    exact ⟨rfl, rfl⟩
  | (files, .ok path) =>
    rw [PreparedRun.writePicture_of_ok hwrite]
    exact ⟨rfl, rfl⟩

theorem stops_of_write {picture : GeneratedPicture} {f : Failure}
    (hanswer : r.answer = .ok picture) (hwrite : (r.write m picture).2 = .error f) :
    c.Stops environment m w 5 := by
  obtain ⟨hkind, hgains⟩ := OutputWriter.write_of_error hwrite
  obtain ⟨hfiles, hresult⟩ := r.execute_eq (m := m) hanswer
  have hcode : f.remedy.exitCode = 5 := Failure.exitCode_of_kind hkind
  rw [← hcode]
  refine .of_failure r.prepare_eq ?_ ?_
  · rw [hresult, hwrite]
    rfl
  · rw [hfiles]
    exact hgains

end Ready

/-- The stage that fails first decides the code. -/
theorem Setback.stops {code : Nat} (h : c.Setback environment m w code) :
    c.Stops environment m w code := by
  cases h with
  | @unreadable e hread =>
    have hprompt : c.prompt w.files = .error e := by
      unfold prompt
      rw [hread]
      rfl
    have hcode : e.exitCode = 1 := by
      unfold promptText at hread
      cases htext : c.promptJson with
      | some text => simp [htext] at hread
      | none =>
        simp only [htext, Except.mapError] at hread
        split at hread
        · obtain rfl := Except.error.inj hread
          rfl
        · cases hread
    exact hcode ▸ .of_error (prepare_of_unread hprompt)
  | @notJson text e hread hparse =>
    have hprompt : c.prompt w.files = .error (.run (SchemaError.notJson e).failure) := by
      rw [prompt_of_read hread, hparse]
      rfl
    exact .of_error (prepare_of_unread hprompt)
  | @unconfigured text prompt e hread hparse hload =>
    have hprepare : c.prepare environment w.files = .error (.settings e) := by
      unfold prepare
      rw [prompt_of_parse hread hparse, hload]
      rfl
    exact .of_error hprepare
  | @unprepared text prompt settings f hread hparse hload hfailed =>
    obtain ⟨provider, hprovider⟩ := c.exists_provider settings
    have hprepare : c.prepare environment w.files = .error (.run f) := by
      rw [prepare_of_load (prompt_of_parse hread hparse) hload hprovider, hfailed]
      rfl
    have hcode : (CommandError.run f).exitCode = 2 :=
      GenerationRequest.exitCode_of_prepare hfailed
    exact hcode ▸ .of_error hprepare
  | @unauthorized r f hanswer hkind =>
    have hcode : f.remedy.exitCode = 3 := Failure.exitCode_of_kind hkind
    exact hcode ▸ r.stops_of_answer hanswer
  | @unanswered r f hanswer hkind =>
    have hcode : f.remedy.exitCode = 4 := by
      rcases hkind with hservice | htransport
      · exact Failure.exitCode_of_kind hservice
      · exact Failure.exitCode_of_kind htransport
    exact hcode ▸ r.stops_of_answer hanswer
  | unwritten r hanswer hwrite => exact r.stops_of_write hanswer hwrite

theorem Setback.code_ne_zero {code : Nat} (h : c.Setback environment m w code) : code ≠ 0 := by
  cases h <;> decide

/-- What a command prints and leaves behind when no stage fails. -/
structure Delivered (c : Command) (environment : Environment) (m : Moment) (w : World Network)
    (path : String) (bytes : Bytes) : Prop where
  exitCode : (c.run environment m w).2.exitCode = 0
  printed : (c.run environment m w).2.printed = path ++ "\n"
  read : (c.run environment m w).1.files.read path = .ok bytes
  /-- The file at the path is new, and it is the only new one. -/
  file : ∃ place, (c.run environment m w).1.files.place? path = some place ∧
    w.files.GainsFile (c.run environment m w).1.files place bytes ∧
    ∀ l, w.files.NewFile (c.run environment m w).1.files l ↔ l = place

theorem Delivery.delivered (d : c.Delivery environment m w) :
    c.Delivered environment m w d.path d.picture.bytes := by
  obtain ⟨place, hgains, hplace⟩ := OutputWriter.write_of_ok d.written
  obtain ⟨hfiles, hresult⟩ := d.execute_eq (m := m) d.answered
  have hwritten : (d.write m d.picture).2 = .ok d.path := d.written
  rw [hwritten] at hresult
  have hrun := run_of_ok (m := m) d.prepare_eq
  rw [hresult] at hrun
  have hleft : (c.run environment m w).1.files = (d.write m d.picture).1 := by rw [hrun, hfiles]
  constructor
  case exitCode => rw [hrun]; rfl
  case printed => rw [hrun]; rfl
  case read =>
    rw [hleft]
    exact FileSystem.read_of_place? hplace hgains.file
  case file =>
    rw [hleft]
    exact ⟨place, hplace, hgains, fun _ => hgains.newFile_iff⟩

namespace Ready

theorem provider_of_dryRun (hdry : c.dryRun = true) (r : c.Ready environment w) :
    r.provider = Placeholder.provider :=
  Except.ok.inj (r.known.symm.trans (Command.provider_of_dryRun hdry r.settings))

theorem provider_of_real (hreal : ¬ c.dryRun = true) (r : c.Ready environment w) :
    r.provider = (Gemini.ofBase r.settings.baseUrl r.settings.apiKey).provider :=
  Except.ok.inj (r.known.symm.trans (Command.provider_of_real hreal r.settings))

theorem answer_of_dryRun (hdry : c.dryRun = true) (r : c.Ready environment w) :
    r.answer = .ok (Placeholder.generate r.prepared.request) := by
  unfold answer
  rw [r.provider_of_dryRun hdry]
  rfl

theorem kind_of_answer (r : c.Ready environment w) {f : Failure} (h : r.answer = .error f) :
    f.kind = .authentication ∨ f.kind = .service ∨ f.kind = .transport := by
  by_cases hdry : c.dryRun = true
  · rw [r.answer_of_dryRun hdry] at h
    cases h
  · unfold answer at h
    rw [r.provider_of_real hdry] at h
    have hgemini : ((Gemini.ofBase r.settings.baseUrl r.settings.apiKey).generate
        r.prepared.request w.state).1 = .error f := h
    exact Gemini.kind_of_generate hgemini

end Ready

/-- Either no stage fails, or one is the first that does. -/
theorem delivery_or_setback (c : Command) (environment : Environment) (m : Moment)
    (w : World Network) :
    Nonempty (c.Delivery environment m w) ∨ ∃ code, c.Setback environment m w code := by
  cases hread : c.promptText w.files with
  | error e => exact .inr ⟨1, .unreadable hread⟩
  | ok text =>
  cases hparse : Json.parse text with
  | error e => exact .inr ⟨2, .notJson hread hparse⟩
  | ok prompt =>
  cases hload : Settings.load w.files environment c.envFile with
  | error e => exact .inr ⟨1, .unconfigured hread hparse hload⟩
  | ok settings =>
  cases hprepare : ((c.request prompt settings).prepare w.files).result with
  | error f => exact .inr ⟨2, .unprepared hread hparse hload hprepare⟩
  | ok prepared =>
  obtain ⟨provider, hprovider⟩ := c.exists_provider settings
  let ready : c.Ready environment w :=
    ⟨text, prompt, settings, provider, prepared, hread, hparse, hload, hprovider, hprepare⟩
  cases hanswer : ready.answer with
  | error f =>
    rcases ready.kind_of_answer hanswer with hkind | hkind
    · exact .inr ⟨3, .unauthorized ready hanswer hkind⟩
    · exact .inr ⟨4, .unanswered ready hanswer hkind⟩
  | ok picture =>
  cases hwrite : (ready.write m picture).2 with
  | error f => exact .inr ⟨5, .unwritten ready hanswer hwrite⟩
  | ok path => exact .inl ⟨⟨ready, picture, path, hanswer, hwrite⟩⟩

/-! ## Dry runs -/

theorem provider_of_prepare {provider : Provider Network} {prepared : PreparedRun}
    (h : c.prepare environment w.files = .ok (provider, prepared)) :
    ∃ settings, c.provider settings = .ok provider := by
  unfold prepare at h
  obtain ⟨_, -, h⟩ := Success.bind_eq_ok.1 h
  obtain ⟨settings, -, h⟩ := Success.bind_eq_ok.1 h
  obtain ⟨_, hprovider, h⟩ := Success.bind_eq_ok.1 h
  obtain ⟨_, -, h⟩ := Success.bind_eq_ok.1 h
  obtain ⟨rfl, -⟩ := Prod.mk.inj (Success.pure_eq_ok.1 h)
  exact ⟨settings, hprovider⟩

/-- A dry run sends nothing. -/
theorem state_of_dryRun (hdry : c.dryRun = true) :
    (c.run environment m w).1.state = w.state := by
  match hprepare : c.prepare environment w.files with
  | .error e => rw [run_of_error hprepare]
  | .ok (provider, prepared) =>
    obtain ⟨settings, hprovider⟩ := provider_of_prepare hprepare
    obtain rfl := Except.ok.inj ((provider_of_dryRun hdry settings).symm.trans hprovider)
    rw [run_of_ok hprepare]
    rfl

theorem Setback.code_of_dryRun (hdry : c.dryRun = true) {code : Nat}
    (h : c.Setback environment m w code) : code ≠ 3 ∧ code ≠ 4 := by
  cases h with
  | unauthorized r hanswer | unanswered r hanswer =>
    rw [r.answer_of_dryRun hdry] at hanswer
    cases hanswer
  | _ => decide

theorem prepare_withModel (r : GenerationRequest) (model : String) (fs : FileSystem) :
    ({ r with model }.prepare fs).result =
      (r.prepare fs).result.map fun p => { p with request := { p.request with model } } := by
  cases hn : normalize r.prompt with
  | error e =>
    have hn' : normalize { r with model }.prompt = .error e := hn
    rw [GenerationRequest.prepare_of_refused hn, GenerationRequest.prepare_of_refused hn']
    rfl
  | ok n =>
    have hn' : normalize { r with model }.prompt = .ok n := hn
    have hload : { r with model }.loadImages fs n = r.loadImages fs n := rfl
    rw [GenerationRequest.prepare_result_of_normalized hn,
      GenerationRequest.prepare_result_of_normalized hn', hload]
    cases (r.loadImages fs n).result <;> rfl

/-- The settings have no part in a dry run, once they can be loaded. -/
theorem run_of_dryRun (hdry : c.dryRun = true) {environment' : Environment}
    {settings settings' : Settings}
    (hload : Settings.load w.files environment c.envFile = .ok settings)
    (hload' : Settings.load w.files environment' c.envFile = .ok settings') :
    c.run environment m w = c.run environment' m w := by
  cases hprompt : c.prompt w.files with
  | error e =>
    have hfails : ∀ environment, c.prepare environment w.files = .error e :=
      fun _ => prepare_of_unread hprompt
    rw [run_of_error (hfails environment), run_of_error (hfails environment')]
  | ok prompt =>
    have hprepare := prepare_of_load hprompt hload (provider_of_dryRun hdry settings)
    have hprepare' := prepare_of_load hprompt hload' (provider_of_dryRun hdry settings')
    -- The model is all that a request has from the settings, and a placeholder does not show it.
    have hmodel := prepare_withModel (c.request prompt settings) (c.model.getD settings'.model)
      w.files
    change ((c.request prompt settings').prepare w.files).result = _ at hmodel
    rw [hmodel] at hprepare'
    cases hresult : ((c.request prompt settings).prepare w.files).result with
    | error f =>
      rw [hresult] at hprepare hprepare'
      rw [run_of_error hprepare, run_of_error hprepare']
    | ok prepared =>
      rw [hresult] at hprepare hprepare'
      rw [run_of_ok hprepare, run_of_ok hprepare']
      rfl

/-! ## The verdict -/

/-- What a command ends with. -/
structure Decided (c : Command) (environment : Environment) (m : Moment) (w : World Network) :
    Prop where
  carried : ∀ arguments, ofArguments arguments = .ok c →
    carryOut arguments environment m w = c.run environment m w
  zero_iff : (c.run environment m w).2.exitCode = 0 ↔ Nonempty (c.Delivery environment m w)
  delivered : ∀ d : c.Delivery environment m w,
    c.Delivered environment m w d.path d.picture.bytes
  code_iff : ∀ code, code ≠ 0 →
    ((c.run environment m w).2.exitCode = code ↔ c.Setback environment m w code)
  /-- A command that fails prints nothing and leaves no file. -/
  silent : (c.run environment m w).2.exitCode ≠ 0 →
    (c.run environment m w).2.printed = "" ∧
      w.files.GainsDirectories (c.run environment m w).1.files ∧
      ∀ l, ¬ w.files.NewFile (c.run environment m w).1.files l
  /-- A dry run sends nothing, needs neither a credential nor any other setting, and is never
  turned away by the service. -/
  dry : c.dryRun = true →
    (c.run environment m w).1.state = w.state ∧
      (∀ environment' settings settings',
        Settings.load w.files environment c.envFile = .ok settings →
        Settings.load w.files environment' c.envFile = .ok settings' →
        c.run environment m w = c.run environment' m w) ∧
      (c.run environment m w).2.exitCode ≠ 3 ∧ (c.run environment m w).2.exitCode ≠ 4

theorem exists_setback (h : (c.run environment m w).2.exitCode ≠ 0) :
    ∃ code, c.Setback environment m w code := by
  rcases delivery_or_setback c environment m w with ⟨⟨d⟩⟩ | hsetback
  · exact absurd d.delivered.exitCode h
  · exact hsetback

theorem code_iff {code : Nat} (hcode : code ≠ 0) :
    (c.run environment m w).2.exitCode = code ↔ c.Setback environment m w code := by
  constructor
  · rintro rfl
    obtain ⟨code, hsetback⟩ := exists_setback hcode
    exact hsetback.stops.exitCode ▸ hsetback
  · exact fun h => h.stops.exitCode

/-- The stages decide what a command ends with. -/
theorem run_decided (c : Command) (environment : Environment) (m : Moment) (w : World Network) :
    c.Decided environment m w := by
  constructor
  case carried =>
    intro arguments harguments
    unfold carryOut
    rw [harguments]
  case zero_iff =>
    constructor
    · intro hzero
      rcases delivery_or_setback c environment m w with hdelivery | ⟨code, hsetback⟩
      · exact hdelivery
      · exact absurd (hsetback.stops.exitCode.symm.trans hzero) hsetback.code_ne_zero
    · rintro ⟨d⟩
      exact d.delivered.exitCode
  case delivered => exact fun d => d.delivered
  case code_iff => exact fun _ => code_iff
  case silent =>
    intro hcode
    obtain ⟨_, hsetback⟩ := exists_setback hcode
    have hfiles := hsetback.stops.files
    exact ⟨hsetback.stops.printed, hfiles, fun _ => hfiles.not_newFile⟩
  case dry =>
    intro hdry
    refine ⟨state_of_dryRun hdry, fun _ _ _ => run_of_dryRun hdry, ?_, ?_⟩
    · intro hcode
      exact (((code_iff (by decide)).1 hcode).code_of_dryRun hdry).1 rfl
    · intro hcode
      exact (((code_iff (by decide)).1 hcode).code_of_dryRun hdry).2 rfl

end Command

end ImagePrompt
