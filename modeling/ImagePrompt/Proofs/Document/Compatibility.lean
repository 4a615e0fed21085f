import ImagePrompt.Proofs.Document.Normalized
import ImagePrompt.Proofs.Picture.Binding
import ImagePrompt.Proofs.Rendering.Pruned
/-!
# Prompts of later versions

A member that a record does not know, at whatever depth the record stands, is
kept and has no effect: neither on whether the prompt is accepted, nor on what
is made of the document.
-/

namespace ImagePrompt

namespace PromptDocument

variable {d d' : PromptDocument}

/-- What does not depend on unknown members is equal for documents that differ only in them. -/
theorem eq_of_pruned {β : Type} {f : PromptDocument → β} (hf : ∀ d, f d.pruned = f d)
    (h : d'.pruned = d.pruned) : f d' = f d := by
  rw [← hf d', h, hf d]

theorem check_pruned : d.pruned.check = d.check := by
  have hsettings : d.pruned.settings.rangeError? = d.settings.rangeError? := rfl
  rw [check, check, hsettings]
  cases d.settings.rangeError? with
  | some e => rfl
  | none =>
    have hfind : d.pruned.declaredImages.find? (fun declared => Text.isBlank declared.image.path) =
        (d.declaredImages.find? fun declared => Text.isBlank declared.image.path).map .pruned := by
      rw [declaredImages_pruned, List.find?_map]
      rfl
    dsimp only
    rw [hfind]
    cases d.declaredImages.find? (fun declared => Text.isBlank declared.image.path) <;> rfl

theorem strengthWarnings_map_pruned {declared : List DeclaredImage} :
    strengthWarnings (declared.map .pruned) = strengthWarnings declared := by
  rw [strengthWarnings, List.filterMap_map]
  rfl

theorem domainWarnings_pruned : d.pruned.domainWarnings = d.domainWarnings := by
  have hdomain : d.pruned.settings.effectiveDomain = d.settings.effectiveDomain := rfl
  have hgraphic : d.pruned.graphicDesign.isSome = d.graphicDesign.isSome := Option.isSome_map
  have hui : d.pruned.uiDesign.isSome = d.uiDesign.isSome := Option.isSome_map
  simp only [domainWarnings, hdomain, hgraphic, hui]

end PromptDocument

theorem normalize_object {ms : Members} :
    normalize (.object ms) =
      match PromptDocument.codec.decode (.object ms) with
      | .error e => .error (.undecodable e)
      | .ok d => d.check.map fun _ => .ofDocument d := by
  change (match PromptDocument.read ms with
    | .error e => _
    | .ok d => _) = (match PromptDocument.read ms with
    | .error e => _
    | .ok d => _)
  cases PromptDocument.read ms with
  | error e => rfl
  | ok d => cases hcheck : d.check <;> simp [hcheck, bind, Except.bind, pure, Except.pure,
    Except.map, NormalizedPrompt.ofDocument]

theorem normalize_payload_eq_schema {raw : Json} {n : NormalizedPrompt} (hraw : raw.Sorted)
    (h : normalize raw = .ok n) : n.payload = PromptDocument.schema.rewrite raw := by
  obtain ⟨d, hread, -, rfl⟩ := normalize_eq_ok_iff_decode.1 h
  exact PromptDocument.follows.writes hraw hread

theorem Binding.bind_map_pruned {fs : FileSystem} {declared : List DeclaredImage}
    {supplied : List String} :
    bind fs (declared.map .pruned) supplied = bind fs declared supplied := by
  have hnames : names fs ∘ DeclaredImage.pruned = names fs := by
    funext d file
    have hpath : d.pruned.image.path = d.image.path := rfl
    rw [Function.comp_apply, names, names, hpath]
  rw [bind, bind, bindBy_map DeclaredImage.pruned (fun _ => rfl) (fun _ => rfl), hnames]

/-- Two prompts of which the same is made: their images tell the same origins, paths, usages,
strengths, descriptions and targets, in the same order. -/
structure NormalizedPrompt.Alike (n n' : NormalizedPrompt) : Prop where
  images : n'.images.map DeclaredImage.pruned = n.images.map DeclaredImage.pruned
  resolution : n'.resolution = n.resolution
  hybrid : n'.document.isHybrid = n.document.isHybrid
  warnings : n'.warnings = n.warnings
  text : n'.document.promptText = n.document.promptText
  renderWarnings : n'.document.renderWarnings = n.document.renderWarnings
  bindings : ∀ fs supplied, Binding.bind fs n'.images supplied = Binding.bind fs n.images supplied

/-- The same is made of documents that differ only in members that they do not know. -/
theorem NormalizedPrompt.Alike.of_pruned {d d' : PromptDocument} (h : d'.pruned = d.pruned) :
    (NormalizedPrompt.ofDocument d).Alike (.ofDocument d') := by
  have himages : d'.declaredImages.map DeclaredImage.pruned =
      d.declaredImages.map DeclaredImage.pruned := by
    rw [← PromptDocument.declaredImages_pruned, ← PromptDocument.declaredImages_pruned, h]
  have hwarnings : d'.domainWarnings = d.domainWarnings :=
    PromptDocument.eq_of_pruned (fun _ => PromptDocument.domainWarnings_pruned) h
  constructor
  case images => exact himages
  case resolution =>
    exact PromptDocument.eq_of_pruned (f := fun d => d.settings.resolution) (fun _ => rfl) h
  case hybrid => exact PromptDocument.eq_of_pruned (fun _ => PromptDocument.isHybrid_pruned) h
  case warnings =>
    change PromptDocument.strengthWarnings d'.declaredImages ++ d'.domainWarnings =
      PromptDocument.strengthWarnings d.declaredImages ++ d.domainWarnings
    rw [← PromptDocument.strengthWarnings_map_pruned, himages,
      PromptDocument.strengthWarnings_map_pruned, hwarnings]
  case text => exact PromptDocument.eq_of_pruned (fun _ => PromptDocument.promptText_pruned) h
  case renderWarnings =>
    exact PromptDocument.eq_of_pruned (fun _ => PromptDocument.renderWarnings_pruned) h
  case bindings =>
    intro fs supplied
    change Binding.bind fs d'.declaredImages supplied = Binding.bind fs d.declaredImages supplied
    rw [← Binding.bind_map_pruned, himages, Binding.bind_map_pruned]

/-! ## Setting a member that a record does not know -/

namespace PromptDocument

theorem distinct_schema : schema.distinct = true := by decide

variable {raw member : Json} {path : Json.Path} {key : String}

variable (member) in
theorem decode_setMember (h : schema.Open key path raw) :
    (codec.decode (raw.setMember path key member)).map pruned = (codec.decode raw).map pruned := by
  rw [← prunes, ← prunes]
  exact congrArg codec.decode (Schema.prune_setMember distinct_schema h)

variable (member) in
/-- Both values are undecodable for the same reason, or documents that differ only in members that
they do not know. -/
theorem decode_setMember_cases (h : schema.Open key path raw) :
    (∃ e, codec.decode raw = .error e ∧
        codec.decode (raw.setMember path key member) = .error e) ∨
      ∃ d d', codec.decode raw = .ok d ∧
        codec.decode (raw.setMember path key member) = .ok d' ∧ d'.pruned = d.pruned := by
  have hboth := decode_setMember member h
  cases hraw : codec.decode raw with
  | error e =>
    cases hset : codec.decode (raw.setMember path key member) with
    | error e' =>
      rw [hraw, hset] at hboth
      obtain rfl := Except.error.inj hboth
      exact .inl ⟨e', rfl, rfl⟩
    | ok d' =>
      rw [hraw, hset] at hboth
      cases hboth
  | ok d =>
    cases hset : codec.decode (raw.setMember path key member) with
    | error e' =>
      rw [hraw, hset] at hboth
      cases hboth
    | ok d' =>
      rw [hraw, hset] at hboth
      exact .inr ⟨d, d', rfl, rfl, Except.ok.inj hboth⟩

end PromptDocument

section SetMember

variable {raw member : Json} {path : Json.Path} {key : String}

variable (member) in
/-- Both prompts are refused for the same reason, or documents that differ only in members that
they do not know. -/
theorem normalize_setMember_cases (h : PromptDocument.schema.Open key path raw) :
    (∃ e, normalize raw = .error e ∧ normalize (raw.setMember path key member) = .error e) ∨
      ∃ d d', normalize raw = .ok (.ofDocument d) ∧
        normalize (raw.setMember path key member) = .ok (.ofDocument d') ∧
        d'.pruned = d.pruned := by
  obtain ⟨ms, rfl⟩ := Schema.Open.object h
  obtain ⟨ms', hset⟩ : ∃ ms', Json.setMember (.object ms) path key member = .object ms' :=
    Schema.Open.object h.setMember
  have hcases := PromptDocument.decode_setMember_cases member h
  rw [hset] at hcases ⊢
  rw [normalize_object, normalize_object]
  obtain ⟨e, hd, hd'⟩ | ⟨d, d', hd, hd', hpruned⟩ := hcases
  · exact .inl ⟨.undecodable e, by rw [hd], by rw [hd']⟩
  · have hcheck : d'.check = d.check :=
      PromptDocument.eq_of_pruned (fun _ => PromptDocument.check_pruned) hpruned
    rw [hd, hd']
    dsimp only
    rw [hcheck]
    cases d.check with
    | error e => exact .inl ⟨e, rfl, rfl⟩
    | ok => exact .inr ⟨d, d', rfl, rfl, hpruned⟩

theorem payload_setMember {n n' : NormalizedPrompt} (hraw : raw.Sorted) (hmember : member.Sorted)
    (h : PromptDocument.schema.Open key path raw) (hn : normalize raw = .ok n)
    (hn' : normalize (raw.setMember path key member) = .ok n') :
    n'.payload = n.payload.setMember path key member := by
  rw [(normalize_payload_eq_schema hraw hn),
    normalize_payload_eq_schema (Json.sorted_setMember hraw hmember) hn',
    Schema.rewrite_setMember PromptDocument.distinct_schema hraw h]

/-- A member that a record of a prompt does not know changes nothing but the payload, which has it
where it was set. -/
theorem normalize_setMember (hraw : raw.Sorted) (hmember : member.Sorted)
    (h : PromptDocument.schema.Open key path raw) :
    ((∃ n, normalize (raw.setMember path key member) = .ok n) ↔ ∃ n, normalize raw = .ok n) ∧
      (∀ e, normalize (raw.setMember path key member) = .error e ↔ normalize raw = .error e) ∧
      ∀ n n', normalize raw = .ok n → normalize (raw.setMember path key member) = .ok n' →
        n.Alike n' ∧ n'.payload = n.payload.setMember path key member ∧
          n'.payload.at? (path ++ [.member key]) = some member := by
  obtain ⟨e, hrefused, hrefused'⟩ | ⟨d, d', haccepted, haccepted', hpruned⟩ :=
    normalize_setMember_cases member h
  · rw [hrefused, hrefused']
    exact ⟨Iff.rfl, fun _ => Iff.rfl, fun _ _ hn => by cases hn⟩
  · have hpayload := payload_setMember hraw hmember h haccepted haccepted'
    obtain ⟨ms, hms⟩ := (h.rewrite PromptDocument.distinct_schema).at?
    rw [← normalize_payload_eq_schema hraw haccepted] at hms
    rw [haccepted, haccepted']
    refine ⟨by simp, by simp, ?_⟩
    intro n n' hn hn'
    obtain rfl := Except.ok.inj hn
    obtain rfl := Except.ok.inj hn'
    refine ⟨.of_pruned hpruned, hpayload, ?_⟩
    rw [hpayload]
    exact Json.at?_setMember hms

end SetMember

/-- The one element of a design does not know its tint. -/
theorem terse_open : PromptDocument.schema.Open "tint"
    [.member "graphic_design", .member "elements", .element 0] terse := by
  have hdesign : .mk "graphic_design" .optional (.record GraphicDesign.fields) ∈
      PromptDocument.fields := by
    simp [PromptDocument.fields]
  have helements : .mk "elements" .unlessEmpty (.list (.record DesignElement.fields)) ∈
      GraphicDesign.fields := by
    simp [GraphicDesign.fields]
  exact .field rfl hdesign rfl (.field rfl helements rfl (.element rfl (.here rfl (by decide))))

theorem terse_setMember_alike :
    ∃ n n', normalize terse = .ok n ∧
      normalize (terse.setMember [.member "graphic_design", .member "elements", .element 0] "tint"
        (.string "red")) = .ok n' ∧
      n.Alike n' ∧
      n'.payload.at? [.member "graphic_design", .member "elements", .element 0, .member "tint"] =
        some (.string "red") := by
  have hsorted : terse.Sorted := by decide
  have hset := (normalize_setMember hsorted (by decide : (Json.string "red").Sorted) terse_open).2.2
    _ _ rfl rfl
  exact ⟨_, _, rfl, rfl, hset.1, hset.2.2⟩

end ImagePrompt
