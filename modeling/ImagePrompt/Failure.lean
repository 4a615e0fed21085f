/-!
# Failures

How a run can fail: the kind of a failure, who has to act on it, and its
wording.
-/

namespace ImagePrompt

inductive FailureKind where
  | schema
  | missingFile
  | unreadableImage
  | authentication
  | service
  | transport
  | write
  deriving DecidableEq, Repr

inductive Remedy where
  | input
  | credentials
  | retryable
  | environment
  deriving DecidableEq, Repr

/-- The failure of a run. Nothing is retried. -/
inductive Failure where
  | schema (reason : String)
  | missingFile (declared origin : String) (supplied : Nat)
  | unreadableImage (path reason : String)
  | authentication (reason : String)
  | service (reason : String)
  | transport (reason : String)
  | write (path reason : String)
  deriving DecidableEq, Repr

namespace FailureKind

def name : FailureKind → String
  | .schema => "SchemaError"
  | .missingFile => "MissingFileError"
  | .unreadableImage => "UnreadableImageError"
  | .authentication => "AuthenticationError"
  | .service => "UpstreamError"
  | .transport => "TransportError"
  | .write => "WriteError"

def remedy : FailureKind → Remedy
  | .schema => .input
  | .missingFile => .input
  | .unreadableImage => .input
  | .authentication => .credentials
  | .service => .retryable
  | .transport => .retryable
  | .write => .environment

end FailureKind

namespace Remedy

def name : Remedy → String
  | .input => "Input"
  | .credentials => "Credentials"
  | .retryable => "Retryable"
  | .environment => "Environment"

def hint : Remedy → String
  | .input => "fix the prompt document or the supplied images"
  | .credentials => "set GEMINI_API_KEY in .env or the environment"
  | .retryable => "try again later or rephrase the prompt"
  | .environment => "check permissions and free space of the output directory"

def exitCode : Remedy → Nat
  | .input => 2
  | .credentials => 3
  | .retryable => 4
  | .environment => 5

end Remedy

namespace Failure

def kind : Failure → FailureKind
  | .schema _ => .schema
  | .missingFile .. => .missingFile
  | .unreadableImage .. => .unreadableImage
  | .authentication _ => .authentication
  | .service _ => .service
  | .transport _ => .transport
  | .write .. => .write

def remedy (f : Failure) : Remedy := f.kind.remedy

def message : Failure → String
  | .schema reason => "schema error: " ++ reason
  | .missingFile declared origin supplied =>
    "missing file for declared image `" ++ declared ++ "` (" ++ origin ++ "); supplied " ++
      toString supplied ++ " file(s)"
  | .unreadableImage path reason => "unreadable image " ++ path ++ ": " ++ reason
  | .authentication reason => "authentication error: " ++ reason
  | .service reason => "upstream error: " ++ reason
  | .transport reason => "transport error: " ++ reason
  | .write path reason => "write error: " ++ path ++ ": " ++ reason

/-- The wording of a failure and of its cause; only a failed write has one of its own. -/
def chain : Failure → String
  | .write path reason => (Failure.write path reason).message ++ ": " ++ reason
  | other => other.message

end Failure

end ImagePrompt
