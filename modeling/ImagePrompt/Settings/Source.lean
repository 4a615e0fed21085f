import ImagePrompt.FileSystem.Basic
import ImagePrompt.Settings.Dotenv
/-!
# Sources of settings

Named sources of values, asked one after another. The first source that has
something to say under one of the keys decides, and within a source the first
of the keys.
-/

namespace ImagePrompt

inductive ConfigError where
  | unopened (path : String) (error : FileError)
  | unreadable (path : String) (error : Dotenv.Error)
  | timeout (key source value : String)
  deriving DecidableEq, Repr

def ConfigError.message : ConfigError → String
  | .unopened path error =>
    "failed to open " ++ path ++ ": " ++ error.message ++ ": " ++ error.message
  | .unreadable path error => "failed to parse " ++ path ++ ": " ++ error.message
  | .timeout key source value =>
    key ++ " from " ++ source ++ " must be a positive whole number of seconds, got `" ++
      value ++ "`"

inductive Holdings where
  /-- Assignments to keys, of which the latest counts. -/
  | assigned (values : List (String × String))
  | variables (environment : Environment)
  deriving DecidableEq, Repr

namespace Holdings

def get? : Holdings → String → Option String
  | .assigned values, key => values.reverse.lookup key
  | .variables environment, key => environment.value? key

def isEmpty : Holdings → Bool
  | .assigned values => values.isEmpty
  | .variables environment => environment.isEmpty

end Holdings

structure Source where
  name : String
  holdings : Holdings
  deriving DecidableEq, Repr

namespace Source

def get? (s : Source) (key : String) : Option String := s.holdings.get? key

def ofValues (name : String) (values : List (String × String)) : Source :=
  ⟨name, .assigned values⟩

def ofEnvironment (environment : Environment) : Source :=
  ⟨"environment", .variables environment⟩

/-- A file of assignments. What is no file is a source without values. -/
def ofFile (fs : FileSystem) (environment : Environment) (path : String) :
    Except ConfigError Source :=
  if fs.isFile path then
    match fs.read path with
    | .error e => .error (.unopened path e)
    | .ok bytes =>
      match Dotenv.parse environment bytes with
      | .error e => .error (.unreadable path e)
      | .ok values => .ok (.ofValues path values)
  else .ok (.ofValues path [])

/-- What a source says under a key: its value without blanks around it, if anything is left. -/
def said? (s : Source) (key : String) : Option String :=
  ((s.get? key).map Text.trim).filter (· != "")

end Source

structure ResolvedValue where
  key : String
  value : String
  source : String
  deriving DecidableEq, Repr

namespace Source

/-- What a source says under the first of some keys that it says anything under. -/
def resolve? (s : Source) (keys : List String) : Option ResolvedValue :=
  keys.findSome? fun key => (s.said? key).map fun value => ⟨key, value, s.name⟩

end Source

/-- What the first of some sources says that says anything under some keys. -/
def resolveAny (sources : List Source) (keys : List String) : Option ResolvedValue :=
  sources.findSome? (·.resolve? keys)

def resolve (sources : List Source) (key : String) : Option ResolvedValue :=
  resolveAny sources [key]

end ImagePrompt
