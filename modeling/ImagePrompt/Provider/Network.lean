import ImagePrompt.Bytes.Words
import ImagePrompt.Url.Basic
/-!
# Traffic with a service

Requests to a service and what comes back. The answers to come are given
beforehand, and the requests that arrived are kept.
-/

namespace ImagePrompt

/-- A request to a service. Its method is always to post. -/
structure HttpRequest where
  url : Url
  apiKey : String
  body : String
  deriving DecidableEq, Repr

def HttpRequest.method : String := "POST"

def HttpRequest.contentType : String := "application/json"

inductive Exchange where
  | unreachable
  /-- The request arrives, and the connection ends without an answer. -/
  | dropped
  /-- An answer begins and breaks off. -/
  | truncated (status : Nat)
  | answered (status : Nat) (body : Bytes)
  deriving DecidableEq, Repr

def Exchange.arrives : Exchange → Bool
  | .unreachable => false
  | _ => true

/-- The traffic with a service: what will come of the next requests, and the requests that
arrived, the earliest first. -/
structure Network where
  coming : List Exchange := []
  arrived : List HttpRequest := []
  deriving DecidableEq, Repr

/-- Sends a request. A service that nothing more will come of cannot be reached. -/
def Network.send (n : Network) (request : HttpRequest) : Exchange × Network :=
  match n.coming with
  | [] => (.unreachable, n)
  | e :: rest =>
    (e, { coming := rest, arrived := if e.arrives then n.arrived ++ [request] else n.arrived })

end ImagePrompt
