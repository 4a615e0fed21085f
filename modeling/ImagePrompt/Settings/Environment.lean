/-!
# The environment of a process

Variables as the entries that a process is started with. An entry holds a name
and a value with an equals sign between them, and a look-up sees the entries
only as such texts: a name may reach into the value of another variable.
-/

namespace ImagePrompt

abbrev Environment := List (String × String)

namespace Environment

def entry (row : String × String) : String := row.1 ++ "=" ++ row.2

/-- A name that can be looked up: it is not empty, and no NUL would cut it off. -/
def isName (name : String) : Bool := name != "" && !name.toList.contains '\x00'

def valueIn? (name entry : String) : Option String :=
  let front := (name ++ "=").toList
  if front.isPrefixOf entry.toList then some (String.ofList (entry.toList.drop front.length))
  else none

/-- The value of the first entry that begins with a name and an equals sign. -/
def value? (environment : Environment) (name : String) : Option String :=
  if isName name then environment.findSome? fun row => valueIn? name (entry row) else none

end Environment

end ImagePrompt
