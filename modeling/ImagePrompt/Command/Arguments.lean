import ImagePrompt.Output.Naming
import ImagePrompt.Text.Split
/-!
# Arguments of the command

What the command is asked to do, read from its arguments. Options stand in any
order; one that takes a value has it behind a sign of equality or in the next
argument, and only that for images takes several and may come again.
-/

namespace ImagePrompt

structure Command where
  promptJson : Option String := none
  promptFile : Option String := none
  inputImages : List String := []
  outputDirectory : String := defaultOutputDirectory
  envFile : Option String := none
  model : Option String := none
  dryRun : Bool := false
  printPrompt : Bool := false
  verbosity : Nat := 0
  deriving DecidableEq, Repr

inductive ValueOption where
  | promptJson
  | promptFile
  | inputImages
  | outputDirectory
  | envFile
  | model
  deriving DecidableEq, Repr

inductive FlagOption where
  | dryRun
  | printPrompt
  | verbose
  | help
  | version
  deriving DecidableEq, Repr

inductive UsageError where
  | unknown (argument : String)
  | unexpectedValue (option : String)
  | missingValue (option : String)
  | emptyValue (option : String)
  | repeated (option : String)
  | severalPrompts
  | noPrompt
  deriving DecidableEq, Repr

def UsageError.message : UsageError → String
  | .unknown argument => "unexpected argument '" ++ argument ++ "' found"
  | .unexpectedValue option => "unexpected value for '" ++ option ++ "'"
  | .missingValue option => "a value is required for '" ++ option ++ "' but none was supplied"
  | .emptyValue option => "an empty value for '" ++ option ++ "' names no path"
  | .repeated option => "the argument '" ++ option ++ "' cannot be used multiple times"
  | .severalPrompts =>
    "the argument '--prompt-json <JSON>' cannot be used with '--prompt-file <PATH>'"
  | .noPrompt =>
    "the following required arguments were not provided: " ++
      "<--prompt-json <JSON>|--prompt-file <PATH>>"

/-- Why reading arguments ends without a command to carry out. -/
inductive Halt where
  | usage (error : UsageError)
  | help
  | version
  deriving DecidableEq, Repr

namespace ValueOption

def all : List ValueOption :=
  [.promptJson, .promptFile, .inputImages, .outputDirectory, .envFile, .model]

def name : ValueOption → String
  | .promptJson => "--prompt-json"
  | .promptFile => "--prompt-file"
  | .inputImages => "--input-images"
  | .outputDirectory => "--output-dir"
  | .envFile => "--env-file"
  | .model => "--model"

/-- The values of an option are paths, which are never empty. -/
def takesPaths : ValueOption → Bool
  | .promptJson => false
  | .model => false
  | _ => true

/-- An option takes as many values as follow it. -/
def takesSeveral : ValueOption → Bool
  | .inputImages => true
  | _ => false

end ValueOption

namespace FlagOption

def all : List FlagOption := [.dryRun, .printPrompt, .verbose, .help, .version]

def name : FlagOption → String
  | .dryRun => "--dry-run"
  | .printPrompt => "--print-prompt"
  | .verbose => "--verbose"
  | .help => "--help"
  | .version => "--version"

def ofLetter? : Char → Option FlagOption
  | 'v' => some .verbose
  | 'h' => some .help
  | 'V' => some .version
  | _ => none

end FlagOption

namespace Command

/-- What options have said so far: the command, and the options that may not come again. -/
structure Draft where
  command : Command := {}
  given : List String := []

namespace Draft

/-- Notes that an option has come, which it may do once. -/
def once (d : Draft) (option : String) : Except Halt Draft :=
  if d.given.contains option then .error (.usage (.repeated option))
  else .ok { d with given := option :: d.given }

def flag (d : Draft) : FlagOption → Except Halt Draft
  | .help => .error .help
  | .version => .error .version
  | .verbose => .ok { d with command := { d.command with verbosity := d.command.verbosity + 1 } }
  | .dryRun => do
    let d ← d.once FlagOption.dryRun.name
    return { d with command := { d.command with dryRun := true } }
  | .printPrompt => do
    let d ← d.once FlagOption.printPrompt.name
    return { d with command := { d.command with printPrompt := true } }

def put (c : Command) (o : ValueOption) (values : List String) : Command :=
  match o with
  | .promptJson => { c with promptJson := values.head? }
  | .promptFile => { c with promptFile := values.head? }
  | .inputImages => { c with inputImages := c.inputImages ++ values }
  | .outputDirectory => { c with outputDirectory := values.headD c.outputDirectory }
  | .envFile => { c with envFile := values.head? }
  | .model => { c with model := values.head? }

def value (d : Draft) (o : ValueOption) (values : List String) : Except Halt Draft := do
  if values.isEmpty then throw (.usage (.missingValue o.name))
  if o.takesPaths && values.any (· == "") then throw (.usage (.emptyValue o.name))
  let d ← if o.takesSeveral then .ok d else d.once o.name
  return { d with command := put d.command o values }

def letters (d : Draft) (argument : String) : List Char → Except Halt Draft
  | [] => .ok d
  | c :: rest =>
    match FlagOption.ofLetter? c with
    | some f => do
      let d ← d.flag f
      d.letters argument rest
    | none => .error (.usage (.unknown argument))

end Draft

def isDashed (argument : String) : Bool :=
  argument.toList.head? == some '-' && argument != "-"

/-- The name of an option with two dashes, and a value behind a sign of equality. -/
def splitLong (argument : String) : String × Option String :=
  let cs := argument.toList
  match cs.dropWhile (· != '=') with
  | [] => (argument, none)
  | _ :: value => (String.ofList (cs.takeWhile (· != '=')), some (String.ofList value))

def countValues (o : ValueOption) (rest : List String) : Nat :=
  let values := rest.takeWhile fun argument => !isDashed argument
  if o.takesSeveral then values.length else min 1 values.length

def read (d : Draft) : List String → Except Halt Draft
  | [] => .ok d
  | argument :: rest =>
    if argument == "--" then
      match rest with
      | [] => .ok d
      | next :: _ => .error (.usage (.unknown next))
    else if !isDashed argument then .error (.usage (.unknown argument))
    else if "--".toList.isPrefixOf argument.toList then
      let (name, attached) := splitLong argument
      match FlagOption.all.find? (·.name == name), ValueOption.all.find? (·.name == name) with
      | some f, _ =>
        if attached.isSome then .error (.usage (.unexpectedValue name))
        else do
          let d ← d.flag f
          read d rest
      | none, some o =>
        match attached with
        | some value => do
          let d ← d.value o [value]
          read d rest
        | none => do
          let count := countValues o rest
          let d ← d.value o (rest.take count)
          read d (rest.drop count)
      | none, none => .error (.usage (.unknown argument))
    else do
      let d ← d.letters argument (argument.toList.drop 1)
      read d rest
termination_by arguments => arguments.length

/-- A command has its prompt from one place. -/
def check (c : Command) : Except Halt Command :=
  match c.promptJson, c.promptFile with
  | some _, some _ => .error (.usage .severalPrompts)
  | none, none => .error (.usage .noPrompt)
  | _, _ => .ok c

def ofArguments (arguments : List String) : Except Halt Command := do
  let d ← read {} arguments
  check d.command

def versionText : String := "promptforge 0.1.0"

def helpText : String :=
  "Turn a structured prompt document into one generated image\n\n" ++
  "Usage: promptforge [OPTIONS] <--prompt-json <JSON>|--prompt-file <PATH>>\n\n" ++
  "Options:\n" ++
  "      --prompt-json <JSON>       Prompt document as an inline JSON string\n" ++
  "      --prompt-file <PATH>       Path to a prompt document\n" ++
  "      --input-images <PATH>...   " ++
  "Reference images, matched to the document's declared images\n" ++
  "      --output-dir <OUTPUT_DIR>  [default: ./generation-image]\n" ++
  "      --env-file <PATH>          Override file read before the process environment\n" ++
  "      --model <MODEL>            \n" ++
  "      --dry-run                  " ++
  "Render a local placeholder instead of calling the service\n" ++
  "      --print-prompt             " ++
  "Print the rendered prompt text to stderr before dispatch\n" ++
  "  -v, --verbose...               \n" ++
  "  -h, --help                     Print help\n" ++
  "  -V, --version                  Print version"

end Command

end ImagePrompt
