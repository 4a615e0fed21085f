import ImagePrompt.FileSystem.Path
/-!
# Names of written pictures

A picture is named for the time of its writing, with a number behind it when
the name is taken, and an extension for its media type.
-/

namespace ImagePrompt

structure Timestamp where
  year : Nat
  month : Nat
  day : Nat
  hour : Nat
  minute : Nat
  second : Nat
  deriving DecidableEq, Repr

namespace Timestamp

def padded (width n : Nat) : String :=
  let digits := toString n
  String.ofList (List.replicate (width - digits.length) '0') ++ digits

def text (t : Timestamp) : String :=
  padded 4 t.year ++ padded 2 t.month ++ padded 2 t.day ++ "_" ++
    padded 2 t.hour ++ padded 2 t.minute ++ padded 2 t.second

/-- The date of a number of days after the first of March of the year zero: eras of 400 years
repeat, and the years in them begin in March, so that a leap day is the last of its year. -/
def dateOfDays (days : Nat) : Nat × Nat × Nat :=
  let era := days / 146097
  let dayOfEra := days % 146097
  let yearOfEra := (dayOfEra - dayOfEra / 1460 + dayOfEra / 36524 - dayOfEra / 146096) / 365
  let dayOfYear := dayOfEra - (365 * yearOfEra + yearOfEra / 4 - yearOfEra / 100)
  let shifted := (5 * dayOfYear + 2) / 153
  let month := if shifted < 10 then shifted + 3 else shifted - 9
  (400 * era + yearOfEra + (if month ≤ 2 then 1 else 0), month,
    dayOfYear - (153 * shifted + 2) / 5 + 1)

def ofSeconds (n : Nat) : Timestamp :=
  let (year, month, day) := dateOfDays (n / 86400 + 719468)
  { year, month, day
    hour := n / 3600 % 24
    minute := n / 60 % 60
    second := n % 60 }

end Timestamp

def extensionFor : Option String → String
  | none => "png"
  | some mediaType =>
    let lowered := Text.asciiLower mediaType
    if Text.contains lowered "jpeg" || Text.contains lowered "jpg" then "jpg"
    else if Text.contains lowered "webp" then "webp"
    else "png"

def defaultOutputDirectory : String := "./generation-image"

structure OutputName where
  directory : String
  time : Timestamp
  extension : String
  deriving DecidableEq, Repr

namespace OutputName

def limit : Nat := 10000

def stem (n : OutputName) : String := "generated_" ++ n.time.text

/-- The name of an attempt: the first has no number. -/
def file (n : OutputName) (attempt : Nat) : String :=
  n.stem ++ (if attempt = 0 then "" else "_" ++ toString attempt) ++ "." ++ n.extension

def path (n : OutputName) (attempt : Nat) : String := Path.join n.directory (n.file attempt)

end OutputName

end ImagePrompt
