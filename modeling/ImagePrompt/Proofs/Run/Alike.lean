import ImagePrompt.Proofs.Run.Stages
/-!
# Runs that cannot be told apart

Two providers that answer alike, as long as their states correspond, make runs
alike: with the same results and the same files, call for call.
-/

namespace ImagePrompt

variable {σ τ : Type} {R : σ → τ → Prop}

/-- Two providers give the same answers in corresponding states, and their states correspond
again. -/
def Provider.Alike (R : σ → τ → Prop) (p : Provider σ) (p' : Provider τ) : Prop :=
  ∀ request s s', R s s' → (p.generate request s).1 = (p'.generate request s').1 ∧
    R (p.generate request s).2 (p'.generate request s').2

/-- Two worlds have corresponding states and the same files. -/
structure World.Alike (R : σ → τ → Prop) (w : World σ) (w' : World τ) : Prop where
  state : R w.state w'.state
  files : w.files = w'.files

/-- Two calls ask for the same, at the same time, and what happens before them keeps worlds
alike. -/
structure Call.Alike (R : σ → τ → Prop) (c : Call σ) (c' : Call τ) : Prop where
  request : c.request = c'.request
  moment : c.moment = c'.moment
  meanwhile : ∀ w w', World.Alike R w w' → World.Alike R (c.meanwhile w) (c'.meanwhile w')

/-- Two calls that have been made found the world alike, left it alike, and have one result. -/
structure Turn.Alike (R : σ → τ → Prop) (t : Turn σ) (t' : Turn τ) : Prop where
  request : t.request = t'.request
  moment : t.moment = t'.moment
  found : World.Alike R t.found t'.found
  left : World.Alike R t.left t'.left
  result : t.result = t'.result

section Run

variable {p : Provider σ} {p' : Provider τ} {w : World σ} {w' : World τ} {m : Moment}

theorem PreparedRun.execute_alike (hp : p.Alike R p') (hw : w.Alike R w') (r : PreparedRun) :
    (r.execute p m w).1.Alike R (r.execute p' m w').1 ∧
      (r.execute p m w).2 = (r.execute p' m w').2 := by
  obtain ⟨hanswer, hstate⟩ := hp r.request w.state w'.state hw.state
  match h : p.generate r.request w.state, h' : p'.generate r.request w'.state with
  | (.error f, state), (answer', state') =>
    rw [h, h'] at hanswer hstate
    obtain rfl : .error f = answer' := hanswer
    rw [execute_of_error h, execute_of_error h']
    exact ⟨⟨hstate, hw.files⟩, rfl⟩
  | (.ok picture, state), (answer', state') =>
    rw [h, h'] at hanswer hstate
    obtain rfl : .ok picture = answer' := hanswer
    rw [execute_of_ok h, execute_of_ok h', hw.files]
    exact ⟨⟨hstate, rfl⟩, rfl⟩

theorem GenerationRequest.run_alike (hp : p.Alike R p') (hw : w.Alike R w')
    (r : GenerationRequest) :
    (r.run p m w).1.Alike R (r.run p' m w').1 ∧ (r.run p m w).2 = (r.run p' m w').2 := by
  match hprepare : r.prepare w.files with
  | ⟨stages, .error f⟩ =>
    have hprepare' := hw.files ▸ hprepare
    rw [run_of_error hprepare, run_of_error hprepare']
    exact ⟨hw, rfl⟩
  | ⟨stages, .ok prepared⟩ =>
    have hprepare' := hw.files ▸ hprepare
    obtain ⟨hleft, hpassage⟩ := PreparedRun.execute_alike (m := m) hp hw prepared
    rw [run_of_ok hprepare, run_of_ok hprepare', hpassage]
    exact ⟨hleft, rfl⟩

end Run

namespace Pipeline

variable {p : Pipeline σ} {p' : Pipeline τ} {w : World σ} {w' : World τ}

theorem call_alike {c : Call σ} {c' : Call τ} (hp : p.provider.Alike R p'.provider)
    (hstages : p.stages = p'.stages) (hw : w.Alike R w') (hc : c.Alike R c') :
    (p.call w c).1.stages = (p'.call w' c').1.stages ∧
      (p.call w c).2.Alike R (p'.call w' c').2 := by
  obtain ⟨request, moment, meanwhile⟩ := c
  obtain ⟨request', moment', meanwhile'⟩ := c'
  obtain ⟨(rfl : request = request'), (rfl : moment = moment'), hmeanwhile⟩ := hc
  have hfound : (meanwhile w).Alike R (meanwhile' w') := hmeanwhile w w' hw
  obtain ⟨hleft, hpassage⟩ := GenerationRequest.run_alike (m := moment) hp hfound request
  constructor
  · change p.stages ++ (request.run p.provider moment (meanwhile w)).2.stages =
      p'.stages ++ (request.run p'.provider moment (meanwhile' w')).2.stages
    rw [hstages, hpassage]
  · exact ⟨rfl, rfl, hfound, hleft, congrArg Passage.result hpassage⟩

/-- Pipelines with providers that answer alike make their calls alike. -/
theorem calls_alike {calls : List (Call σ)} {calls' : List (Call τ)}
    (hp : p.provider.Alike R p'.provider) (hstages : p.stages = p'.stages) (hw : w.Alike R w')
    (hcalls : List.Forall₂ (Call.Alike R) calls calls') :
    (p.calls w calls).1.stages = (p'.calls w' calls').1.stages ∧
      List.Forall₂ (Turn.Alike R) (p.calls w calls).2 (p'.calls w' calls').2 := by
  induction hcalls generalizing p p' w w' with
  | nil => exact ⟨hstages, .nil⟩
  | @cons c c' _ _ hc _ ih =>
    obtain ⟨hnext, hturn⟩ := call_alike hp hstages hw hc
    have hprovider : (p.call w c).1.provider.Alike R (p'.call w' c').1.provider := hp
    obtain ⟨hlast, hturns⟩ := ih hprovider hnext hturn.left
    exact ⟨hlast, .cons hturn hturns⟩

end Pipeline

end ImagePrompt
