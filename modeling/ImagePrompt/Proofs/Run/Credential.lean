import ImagePrompt.Gemini.Basic
import ImagePrompt.Proofs.Run.Alike
/-!
# The credential

The credential stands in the requests to the service and nowhere else: with
another one that a request can carry, a pipeline makes the same calls, sends the
same requests but for it, and comes to the same results and files.
-/

namespace ImagePrompt

/-- Two requests go to one address and have one body. -/
structure HttpRequest.SameButKey (r r' : HttpRequest) : Prop where
  url : r.url = r'.url
  body : r.body = r'.body

/-- A service has the same to answer as another, and got the same requests but for the
credentials. -/
structure Network.SameButKey (n n' : Network) : Prop where
  coming : n.coming = n'.coming
  arrived : List.Forall₂ HttpRequest.SameButKey n.arrived n'.arrived

theorem Network.SameButKey.refl (n : Network) : n.SameButKey n where
  coming := rfl
  arrived := List.forall₂_same.2 fun _ _ => ⟨rfl, rfl⟩

theorem Network.SameButKey.send {n n' : Network} {r r' : HttpRequest} (hn : n.SameButKey n')
    (hr : r.SameButKey r') :
    (n.send r).1 = (n'.send r').1 ∧ (n.send r).2.SameButKey (n'.send r').2 := by
  unfold Network.send
  rw [← hn.coming]
  cases n.coming with
  | nil => exact ⟨rfl, hn⟩
  | cons e rest =>
    refine ⟨rfl, rfl, ?_⟩
    dsimp only
    cases e.arrives with
    | true => exact List.rel_append hn.arrived (.cons hr .nil)
    | false => exact hn.arrived

namespace Gemini

variable {key key' : String}

def withKey (g : Gemini) (key : String) : Gemini := { g with apiKey := some key }

/-- Whether a request can be built, and all that stands in it but the credential, does not depend on
the credential. -/
theorem build_eq_map (g : Gemini) (request : PictureRequest) (hkey : isCarried key = true)
    (hkey' : isCarried key' = true) :
    (g.withKey key').build key' request =
      ((g.withKey key).build key request).map fun r => { r with apiKey := key' } := by
  simp only [build, endpoint, withKey, hkey, hkey']
  -- What is left to check concerns the address alone.
  cases Url.parse? _ with
  | none => rfl
  | some url =>
    dsimp only
    split
    · rfl
    · simp only [Bool.not_true, Bool.false_eq_true, if_false]
      split <;> rfl

/-- The service answers alike whatever credential it is asked with. -/
theorem provider_alike (g : Gemini) (hkey : isCarried key = true) (hkey' : isCarried key' = true) :
    (g.withKey key).provider.Alike Network.SameButKey (g.withKey key').provider := by
  intro request n n' hn
  change ((g.withKey key).generate request n).1 = ((g.withKey key').generate request n').1 ∧
    ((g.withKey key).generate request n).2.SameButKey ((g.withKey key').generate request n').2
  have hbuild := g.build_eq_map request hkey hkey'
  simp only [generate, withKey] at hbuild ⊢
  cases hr : build { g with apiKey := some key } key request with
  | error e =>
    rw [hr] at hbuild
    rw [hbuild]
    exact ⟨rfl, hn⟩
  | ok r =>
    rw [hr] at hbuild
    rw [hbuild]
    have hsame : r.SameButKey { r with apiKey := key' } := ⟨rfl, rfl⟩
    obtain ⟨hexchange, hleft⟩ := hn.send hsame
    exact ⟨congrArg (receive (g.endpoint request.model) r.url) hexchange, hleft⟩

end Gemini

/-- What happens before a call, to the files or to the answers that are to come, does not depend on
the credentials in the requests so far. -/
def Call.Blind (c : Call Network) : Prop := c.Alike Network.SameButKey c

/-- With another credential, the calls of a pipeline enter the same stages, come to the same results
and files, and send the same requests but for the credential. -/
theorem calls_hide_credential (g : Gemini) {key key' : String} (hkey : Gemini.isCarried key = true)
    (hkey' : Gemini.isCarried key' = true) (stages : List Stage) (w : World Network)
    (calls : List (Call Network)) (hcalls : ∀ c ∈ calls, c.Blind) :
    (Pipeline.calls ⟨(g.withKey key).provider, stages⟩ w calls).1.stages =
        (Pipeline.calls ⟨(g.withKey key').provider, stages⟩ w calls).1.stages ∧
      List.Forall₂ (Turn.Alike Network.SameButKey)
        (Pipeline.calls ⟨(g.withKey key).provider, stages⟩ w calls).2
        (Pipeline.calls ⟨(g.withKey key').provider, stages⟩ w calls).2 :=
  Pipeline.calls_alike (g.provider_alike hkey hkey') rfl ⟨.refl _, rfl⟩
    (List.forall₂_same.2 hcalls)

/-- A run before which nothing happens. -/
def lonelyCall : Call Network where
  request := { prompt := .object [], outputDirectory := "out", model := "model" }
  moment := { time := ⟨2024, 1, 2, 3, 4, 5⟩ }
  meanwhile := id

/-- A service that rejects one request, and cannot be reached by the next. -/
def rejecting : World Network where
  state := { coming := [.answered 401 (Bytes.ascii "no")] }
  files := .empty

theorem rejecting_hides_credential :
    List.Forall₂ (Turn.Alike Network.SameButKey)
      (Pipeline.calls ⟨(Gemini.withKey ⟨"https://localhost", none⟩ "one").provider, []⟩
        rejecting [lonelyCall, lonelyCall]).2
      (Pipeline.calls ⟨(Gemini.withKey ⟨"https://localhost", none⟩ "another").provider, []⟩
        rejecting [lonelyCall, lonelyCall]).2 := by
  have hblind : ∀ c ∈ [lonelyCall, lonelyCall], c.Blind := by
    intro c hc
    obtain rfl : c = lonelyCall := by simpa using hc
    exact ⟨rfl, rfl, fun _ _ h => h⟩
  exact (calls_hide_credential ⟨"https://localhost", none⟩ (by decide) (by decide) [] rejecting
    [lonelyCall, lonelyCall] hblind).2

end ImagePrompt
