import ImagePrompt.Command.Arguments
import ImagePrompt.Gemini.Basic
import ImagePrompt.Provider.Placeholder
import ImagePrompt.Provider.Registry
import ImagePrompt.Run.Basic
import ImagePrompt.Settings.Basic
/-!
# The command

One run from the command line: the prompt is read, then the settings, then the
provider is looked up by its name, and the run is prepared and made. What it
prints and its exit code tell how far it came.
-/

namespace ImagePrompt

structure CommandReport where
  exitCode : Nat
  output : List String := []
  /-- Lines for the user's eyes only. -/
  notes : List String := []
  deriving DecidableEq, Repr

inductive CommandError where
  | promptFile (path : String) (error : FileError)
  | settings (error : ConfigError)
  | unknownProvider (name : String)
  | run (failure : Failure)
  deriving DecidableEq, Repr

namespace CommandError

def message : CommandError → String
  | .promptFile path error => "failed to read prompt file " ++ path ++ ": " ++ error.message
  | .settings error => "failed to load configuration: " ++ error.message
  | .unknownProvider name => "unknown provider " ++ name
  | .run failure => failure.chain

def exitCode : CommandError → Nat
  | .promptFile _ _ => 1
  | .settings _ => 1
  | .unknownProvider _ => 1
  | .run failure => failure.remedy.exitCode

def advice : CommandError → List String
  | .run failure => [failure.kind.name ++ ": " ++ failure.remedy.hint]
  | _ => []

def report (notes : List String) (e : CommandError) : CommandReport where
  exitCode := e.exitCode
  notes := notes ++ ("promptforge error: " ++ e.message) :: e.advice

end CommandError

namespace Command

def promptText (c : Command) (fs : FileSystem) : Except CommandError String :=
  match c.promptJson with
  | some text => .ok text
  | none =>
    let path := c.promptFile.getD ""
    (fs.readText path).mapError (.promptFile path)

def prompt (c : Command) (fs : FileSystem) : Except CommandError Json := do
  let text ← c.promptText fs
  (Json.parse text).mapError fun e => .run (SchemaError.notJson e).failure

def request (c : Command) (prompt : Json) (s : Settings) : GenerationRequest where
  prompt := prompt
  inputImages := c.inputImages
  outputDirectory := c.outputDirectory
  model := c.model.getD s.model

def providers (s : Settings) : Registry Network :=
  (({} : Registry Network).register Placeholder.provider).register
    (Gemini.ofBase s.baseUrl s.apiKey).provider

def providerName (c : Command) : String := if c.dryRun then "dryrun" else "gemini"

def provider (c : Command) (s : Settings) : Except CommandError (Provider Network) :=
  match (providers s).get? c.providerName with
  | some provider => .ok provider
  | none => .error (.unknownProvider c.providerName)

/-- What a command has before it makes a run: the provider, and the prepared run. -/
def prepare (c : Command) (environment : Environment) (fs : FileSystem) :
    Except CommandError (Provider Network × PreparedRun) := do
  let prompt ← c.prompt fs
  let settings ← (Settings.load fs environment c.envFile).mapError .settings
  let provider ← c.provider settings
  let prepared ← ((c.request prompt settings).prepare fs).result.mapError .run
  return (provider, prepared)

def shownPrompt (c : Command) (r : PreparedRun) : List String :=
  if c.printPrompt then [r.request.promptText] else []

def reportOf (notes : List String) : Except Failure RunOutcome → CommandReport
  | .error f => (CommandError.run f).report notes
  | .ok o =>
    { exitCode := 0
      output := [o.imagePath]
      notes := notes ++ (o.remark.map ("model: " ++ ·)).toList }

def run (c : Command) (environment : Environment) (m : Moment) (w : World Network) :
    World Network × CommandReport :=
  match c.prepare environment w.files with
  | .error e => (w, e.report [])
  | .ok (provider, prepared) =>
    let (w, passage) := prepared.execute provider m w
    (w, reportOf (c.shownPrompt prepared) passage.result)

def haltReport : Halt → CommandReport
  | .usage e => { exitCode := 2, notes := ["error: " ++ e.message] }
  | .help => { exitCode := 0, output := [helpText] }
  | .version => { exitCode := 0, output := [versionText] }

def carryOut (arguments : List String) (environment : Environment) (m : Moment) (w : World Network) :
    World Network × CommandReport :=
  match ofArguments arguments with
  | .error halt => (w, haltReport halt)
  | .ok c => c.run environment m w

end Command

end ImagePrompt
