import ImagePrompt.Settings.Source
/-!
# Settings

What a run needs to know about the service: the credential, the address, the
model and the time to wait. A file comes before the environment, and both
before the values built in.
-/

namespace ImagePrompt

structure Settings where
  apiKey : Option String
  /-- The key and the source that gave the credential. -/
  apiKeySource : Option String
  baseUrl : String
  model : String
  timeoutSeconds : Nat
  deriving DecidableEq, Repr

namespace Settings

/-- The keys of the credential, the first before the second. -/
def apiKeyKeys : List String := ["GEMINI_API_KEY", "GOOGLE_API_KEY"]

def baseUrlKey : String := "GEMINI_BASE_URL"

def modelKey : String := "GEMINI_MODEL"

def timeoutKey : String := "PROMPTFORGE_TIMEOUT_SECS"

def defaultBaseUrl : String := "https://generativelanguage.googleapis.com/v1beta"

def defaultModel : String := "gemini-3-pro-image-preview"

def defaultTimeoutSeconds : Nat := 120

def defaultFile : String := ".env"

def defaults : Source :=
  .ofValues "default" [(baseUrlKey, defaultBaseUrl), (modelKey, defaultModel),
    (timeoutKey, toString defaultTimeoutSeconds)]

/-- The number that digits stand for, if it has 64 bits and is not zero. A plus may come first. -/
def positive? (s : String) : Option Nat :=
  let digits := match s.toList with
    | '+' :: rest => rest
    | cs => cs
  if digits.isEmpty || !digits.all Char.isDigit then none
  else
    let n := digits.foldl (fun n c => 10 * n + (c.toNat - 48)) 0
    if 0 < n && n < Nat.pow 2 64 then some n else none

def resolveTimeout (sources : List Source) : Except ConfigError Nat :=
  match ImagePrompt.resolve sources timeoutKey with
  | none => .ok defaultTimeoutSeconds
  | some row =>
    match positive? row.value with
    | some n => .ok n
    | none => .error (.timeout timeoutKey row.source row.value)

def resolve (sources : List Source) : Except ConfigError Settings := do
  let apiKey := resolveAny sources apiKeyKeys
  let valueOr (key fallback : String) :=
    ((ImagePrompt.resolve sources key).map (·.value)).getD fallback
  let timeoutSeconds ← resolveTimeout sources
  return {
    apiKey := apiKey.map (·.value)
    apiKeySource := apiKey.map fun row => row.key ++ " (" ++ row.source ++ ")"
    baseUrl := Text.dropEnd '/' (valueOr baseUrlKey defaultBaseUrl)
    model := valueOr modelKey defaultModel
    timeoutSeconds }

/-- The sources in the order of their rank: a file, the environment, the values built in. -/
def standardSources (fs : FileSystem) (environment : Environment) (file : String) :
    Except ConfigError (List Source) :=
  (Source.ofFile fs environment file).map fun source =>
    [source, .ofEnvironment environment, defaults]

def load (fs : FileSystem) (environment : Environment) (file : Option String) :
    Except ConfigError Settings :=
  standardSources fs environment (file.getD defaultFile) >>= resolve

end Settings

end ImagePrompt
