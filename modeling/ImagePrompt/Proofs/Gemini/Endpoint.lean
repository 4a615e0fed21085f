import ImagePrompt.Gemini.Basic
import ImagePrompt.Proofs.Settings.Priority
import ImagePrompt.Proofs.Success
import ImagePrompt.Settings.Basic
/-!
# One endpoint for many spellings

An address may be configured with slashes behind it and white space around it, and a model named
with `models/` before it and white space around it. White space and slashes are taken off an
address twice, when the settings are had and when the service is set up, so that its spellings
have one base. Requests then go to one endpoint, and the same comes of them.
-/

namespace ImagePrompt

open Text

/-! ## The address of some settings -/

/-- Of some sources, the first that says anything under a key has a text for it. -/
def Configured (sources : List Source) (key text : String) : Prop :=
  ∃ before s behind, sources = before ++ s :: behind ∧
    (∀ earlier ∈ before, ∀ other, ¬ earlier.Yields key other) ∧ s.Yields key text

variable {sources : List Source} {key text : String}

theorem Configured.resolve_value (h : Configured sources key text) :
    (resolve sources key).map (·.value) = some (trim text) := by
  obtain ⟨before, s, behind, rfl, hbefore, hyields⟩ := h
  have hsilent : before.findSome? (·.resolve? [key]) = none := by
    rw [List.findSome?_eq_none_iff]
    intro earlier hearlier
    rw [Source.resolve?_eq_none_iff, List.forall_mem_singleton]
    exact hbefore earlier hearlier
  have hsaid : s.said? key = some (trim text) :=
    Source.said?_eq_some_iff.2 ⟨text, hyields, rfl⟩
  have hfound : s.resolve? [key] = some ⟨key, trim text, s.name⟩ := by
    rw [Source.resolve?, List.findSome?_cons, hsaid, Option.map_some]
  rw [resolve, resolveAny, List.findSome?_append, hsilent, Option.none_or, List.findSome?_cons,
    hfound, Option.map_some]

namespace Settings

variable {settings : Settings}

/-- Settings fail to be had for the time to wait only. -/
theorem resolve_eq_error_iff {e : ConfigError} :
    resolve sources = .error e ↔ resolveTimeout sources = .error e := by
  unfold resolve
  rw [Success.bind_eq_error]
  simp [pure, Except.pure]

theorem baseUrl_of_configured (hconfigured : Configured sources baseUrlKey text)
    (h : resolve sources = .ok settings) : settings.baseUrl = dropEnd '/' (trim text) := by
  obtain ⟨n, -, hsettings⟩ := Success.bind_eq_ok.1 h
  rw [← Success.pure_eq_ok.1 hsettings]
  dsimp only
  rw [hconfigured.resolve_value, Option.getD_some]

end Settings

namespace Gemini

/-! ## Spellings of an address -/

/-- A text with white space before it, and white space and slashes behind it. -/
inductive Framed (core : String) : String → Prop
  | mk {front behind : String} (hfront : isBlank front = true)
      (hbehind : ∀ c ∈ behind.toList, c = '/' ∨ isSpace c = true) :
      Framed core (front ++ core ++ behind)

theorem Framed.trans {s t u : String} (hst : Framed s t) (htu : Framed t u) : Framed s u := by
  obtain @⟨front, behind, hfront, hbehind⟩ := hst
  obtain @⟨front', behind', hfront', hbehind'⟩ := htu
  have hfronts : isBlank (front' ++ front) = true := by
    rw [isBlank, String.toList_append, List.all_append, Bool.and_eq_true]
    exact ⟨hfront', hfront⟩
  have hbehinds : ∀ c ∈ (behind ++ behind').toList, c = '/' ∨ isSpace c = true := by
    rw [String.toList_append, List.forall_mem_append]
    exact ⟨hbehind, hbehind'⟩
  have hframed : Framed s (front' ++ front ++ s ++ (behind ++ behind')) := .mk hfronts hbehinds
  simpa only [String.append_assoc] using hframed

theorem framed_trim (s : String) : Framed (trim s) s := by
  obtain ⟨front, back, hfront, hback, hs⟩ := exists_eq_trim s
  have hframed : Framed (trim s) (front ++ trim s ++ back) :=
    .mk hfront fun c hc => .inr (List.all_eq_true.1 hback c hc)
  rwa [← hs] at hframed

theorem framed_dropEnd (s : String) : Framed (dropEnd '/' s) s := by
  obtain ⟨k, hs⟩ := exists_eq_dropEnd_append '/' s
  have hslashes : ∀ c ∈ (String.ofList (List.replicate k '/')).toList,
      c = '/' ∨ isSpace c = true := by
    rw [String.toList_ofList]
    exact fun c hc => .inl (List.eq_of_mem_replicate hc)
  have hframed : Framed (dropEnd '/' s)
      ("" ++ dropEnd '/' s ++ String.ofList (List.replicate k '/')) := .mk rfl hslashes
  rwa [String.empty_append, ← hs] at hframed

/-- Another spelling of an address: slashes may stand behind it, and white space around it all. -/
def SpellsAddress (address spelling : String) : Prop :=
  ∃ k, Padded (address ++ String.ofList (List.replicate k '/')) spelling

/-- The base that a service has for an address: the settings take white space and slashes off it,
and so does the service. -/
def baseOf (address : String) : String :=
  dropEnd '/' (trim (dropEnd '/' (trim address)))

theorem framed_baseOf (address : String) : Framed (baseOf address) address :=
  ((framed_dropEnd _).trans (framed_trim _)).trans ((framed_dropEnd _).trans (framed_trim _))

theorem getLast?_baseOf_ne (address : String) : (baseOf address).toList.getLast? ≠ some '/' :=
  getLast?_dropEnd_ne '/' _

variable {address spelling : String}

theorem SpellsAddress.refl (address : String) : SpellsAddress address address := by
  refine ⟨0, ?_⟩
  rw [List.replicate_zero, String.ofList_nil, String.append_empty]
  exact Padded.refl address

/-- The settings drop slashes behind an address, as no white space stands between. -/
theorem SpellsAddress.dropEnd_trim (hfilled : isBlank address = false)
    (hend : trimEnd address = address) (h : SpellsAddress address spelling) :
    dropEnd '/' (trim spelling) = dropEnd '/' (trim address) := by
  obtain ⟨k, hpadded⟩ := h
  calc dropEnd '/' (trim spelling)
    _ = dropEnd '/' (trim (address ++ String.ofList (List.replicate k '/'))) := by
      rw [hpadded.trim_eq]
    _ = dropEnd '/' (trim address ++ String.ofList (List.replicate k '/')) := by
      rw [trim_append hfilled hend (trimEnd_replicate (by decide) k)]
    _ = dropEnd '/' (trim address) := dropEnd_append_replicate '/' _ k

theorem SpellsAddress.baseOf_eq (hfilled : isBlank address = false)
    (hend : trimEnd address = address) (h : SpellsAddress address spelling) :
    baseOf spelling = baseOf address := by
  unfold baseOf
  rw [h.dropEnd_trim hfilled hend]

/-! ## Spellings of a model -/

/-- Another spelling of a model: `models/` may stand before its name, and white space around it
all. -/
inductive SpellsModel (model : String) : String → Prop
  | plain {spelling : String} (h : Padded model spelling) : SpellsModel model spelling
  | prefixed {spelling : String} (h : Padded ("models/" ++ trim model) spelling) :
      SpellsModel model spelling

variable {model : String}

theorem SpellsModel.refl (model : String) : SpellsModel model model := .plain (.refl model)

theorem modelPath_of_prefixed (h : "models/".toList <+: (trim model).toList) :
    modelPath model = trim model := by
  unfold modelPath
  exact if_pos (List.isPrefixOf_iff_prefix.2 h)

theorem modelPath_of_unprefixed (h : ¬ "models/".toList <+: (trim model).toList) :
    modelPath model = "models/" ++ trim model := by
  unfold modelPath
  exact if_neg (mt List.isPrefixOf_iff_prefix.1 h)

theorem SpellsModel.modelPath_eq (hmodel : ¬ "models/".toList <+: (trim model).toList)
    (h : SpellsModel model spelling) : modelPath spelling = "models/" ++ trim model := by
  cases h with
  | plain h =>
    rw [modelPath_of_unprefixed (by rwa [h.trim_eq]), h.trim_eq]
  | prefixed h =>
    have htrim : trim spelling = "models/" ++ trim model := by
      have hkept : trim "models/" = "models/" := by decide
      rw [h.trim_eq, trim_append (by decide) (by decide) (trimEnd_trim model), hkept]
    have hprefix : "models/".toList <+: (trim spelling).toList := by
      rw [htrim, String.toList_append]
      exact List.prefix_append _ _
    rw [modelPath_of_prefixed hprefix, htrim]

theorem endpoint_of_modelPath {g : Gemini} {name : String}
    (h : modelPath model = "models/" ++ name) :
    g.endpoint model = g.base ++ "/models/" ++ name ++ ":generateContent" := by
  have hslash : "/models/" = "/" ++ "models/" := by decide
  rw [endpoint, h, hslash]
  simp only [String.append_assoc]

/-! ## Requests -/

/-- The model shows in a request through the endpoint only. -/
theorem generate_withModel {g : Gemini} {name : String} (h : g.endpoint model = g.endpoint name)
    (request : PictureRequest) (network : Network) :
    g.generate { request with model } network =
      g.generate { request with model := name } network := by
  have hbody : body { request with model } = body { request with model := name } := rfl
  unfold generate build
  rw [hbody]
  dsimp only
  rw [h]

/-- By the settings that some sources give, requests for a model go to the endpoint of a base and
a name. -/
structure GoesTo (sources : List Source) (model base name : String) : Prop where
  /-- The address is never in the way of the settings. -/
  fails_iff : ∀ e, Settings.resolve sources = .error e ↔ Settings.resolveTimeout sources = .error e
  endpoint : ∀ settings, Settings.resolve sources = .ok settings →
    (ofBase settings.baseUrl settings.apiKey).endpoint model =
      base ++ "/models/" ++ name ++ ":generateContent"
  /-- What is sent and what comes of it are the same, too. -/
  outcome : ∀ settings, Settings.resolve sources = .ok settings →
    ∀ (request : PictureRequest) (network : Network),
      (ofBase settings.baseUrl settings.apiKey).generate { request with model } network =
        generate ⟨base, settings.apiKey⟩ { request with model := name } network

variable {settings : Settings}

theorem ofBase_of_configured (hconfigured : Configured sources Settings.baseUrlKey address)
    (hsettings : Settings.resolve sources = .ok settings) :
    ofBase settings.baseUrl settings.apiKey = ⟨baseOf address, settings.apiKey⟩ := by
  rw [Settings.baseUrl_of_configured hconfigured hsettings]
  rfl

theorem goesTo_of_configured {name : String}
    (hconfigured : Configured sources Settings.baseUrlKey address)
    (hpath : modelPath model = "models/" ++ name) (hname : modelPath name = "models/" ++ name) :
    GoesTo sources model (baseOf address) name where
  fails_iff _ := Settings.resolve_eq_error_iff
  endpoint settings hsettings := by
    rw [ofBase_of_configured hconfigured hsettings, endpoint_of_modelPath hpath]
  outcome settings hsettings request network := by
    rw [ofBase_of_configured hconfigured hsettings]
    have hendpoint : endpoint ⟨baseOf address, settings.apiKey⟩ model =
        endpoint ⟨baseOf address, settings.apiKey⟩ name := by
      rw [endpoint_of_modelPath hpath, endpoint_of_modelPath hname]
    exact generate_withModel hendpoint request network

/-- All spellings of an address and a model lead to one endpoint. -/
theorem spellings_goTo (address model : String) (hfilled : isBlank address = false)
    (hend : trimEnd address = address) (hmodel : ¬ "models/".toList <+: (trim model).toList) :
    ∃ base, Framed base address ∧ base.toList.getLast? ≠ some '/' ∧
      ∀ address' model' sources, SpellsAddress address address' → SpellsModel model model' →
        Configured sources "GEMINI_BASE_URL" address' →
        GoesTo sources model' base (trim model) := by
  refine ⟨baseOf address, framed_baseOf address, getLast?_baseOf_ne address, ?_⟩
  intro address' model' sources haddress hspelled hconfigured
  have hname : modelPath (trim model) = "models/" ++ trim model := by
    rw [modelPath_of_unprefixed (by rwa [trim_trim]), trim_trim]
  rw [← haddress.baseOf_eq hfilled hend]
  exact goesTo_of_configured hconfigured (hspelled.modelPath_eq hmodel) hname

/-- Sources the first of which has a blank address, and the second a text. -/
def addressed (text : String) : List Source :=
  [.ofValues "file" [("GEMINI_BASE_URL", " ")], .ofValues "env" [("GEMINI_BASE_URL", text)],
    Settings.defaults]

theorem configured_addressed {text : String} (h : trim text ≠ "") :
    Configured (addressed text) "GEMINI_BASE_URL" text := by
  refine ⟨[_], _, [_], rfl, ?_, rfl, h⟩
  rw [List.forall_mem_singleton]
  rintro other ⟨hget, hne⟩
  cases hget
  exact hne (by decide)

theorem exists_resolve_addressed (text : String) :
    ∃ settings, Settings.resolve (addressed text) = .ok settings := by
  have htimeout : Settings.resolveTimeout (addressed text) = .ok 120 := by rfl
  cases hresolve : Settings.resolve (addressed text) with
  | ok settings => exact ⟨settings, rfl⟩
  | error e => cases htimeout.symm.trans (Settings.resolve_eq_error_iff.1 hresolve)

theorem addressed_goTo : ∃ settings settings',
    Settings.resolve (addressed " https://localhost/v1 /") = .ok settings ∧
    Settings.resolve (addressed "\n https://localhost/v1 ///\t") = .ok settings' ∧
    (ofBase settings'.baseUrl settings'.apiKey).endpoint " models/imagen\n" =
      (ofBase settings.baseUrl settings.apiKey).endpoint "imagen" := by
  have haddress : SpellsAddress " https://localhost/v1 /" "\n https://localhost/v1 ///\t" := by
    have hspelled : "\n https://localhost/v1 ///\t" =
        "\n" ++ (" https://localhost/v1 /" ++ String.ofList (List.replicate 2 '/')) ++ "\t" := by
      decide
    rw [hspelled]
    exact ⟨2, .mk (by decide) (by decide)⟩
  have hmodel : SpellsModel "imagen" " models/imagen\n" := by
    have hspelled : " models/imagen\n" = " " ++ ("models/" ++ trim "imagen") ++ "\n" := by decide
    rw [hspelled]
    exact .prefixed (.mk (by decide) (by decide))
  obtain ⟨base, -, -, hgo⟩ :=
    spellings_goTo " https://localhost/v1 /" "imagen" (by decide) (by decide) (by decide)
  have hplain := hgo _ _ _ (.refl _) (.refl _) (configured_addressed (by decide))
  have hspelled := hgo _ _ _ haddress hmodel (configured_addressed (by decide))
  obtain ⟨settings, hsettings⟩ := exists_resolve_addressed " https://localhost/v1 /"
  obtain ⟨settings', hsettings'⟩ := exists_resolve_addressed "\n https://localhost/v1 ///\t"
  refine ⟨settings, settings', hsettings, hsettings', ?_⟩
  rw [hplain.endpoint settings hsettings, hspelled.endpoint settings' hsettings']

/-- White space at the end of an address counts when slashes follow, as only one run of it between
slashes is taken off. -/
example : baseOf "http://a / " = "http://a" ∧ baseOf "http://a / /" = "http://a " := by decide

end Gemini

end ImagePrompt
