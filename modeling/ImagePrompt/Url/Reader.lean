import ImagePrompt.Url.Basic
import ImagePrompt.Url.Host
/-!
# Reading addresses

Reading mends what can be mended, as browsers do: blanks around an address,
line breaks in it, backslashes for slashes, a missing path, and characters
that have to be encoded.
-/

namespace ImagePrompt.Url

/-- A text without the blanks and controls at its ends, and without tabs and line breaks. -/
def clean (s : String) : List Char :=
  let isEdge (c : Char) := c.toNat ≤ 0x20
  let inner := (s.toList.dropWhile isEdge).reverse.dropWhile isEdge
  inner.reverse.filter fun c => c != '\t' && c != '\n' && c != '\r'

def readScheme? (cs : List Char) : Option (String × List Char) :=
  let isPart (c : Char) := c.isAlphanum || c == '+' || c == '-' || c == '.'
  match cs.span isPart with
  | (c :: name, ':' :: rest) =>
    if c.isAlpha then some (Text.asciiLower (String.ofList (c :: name)), rest) else none
  | _ => none

/-! ## Hosts and services -/

/-- The number of a service, unless it is the one that the scheme stands for. -/
def readService? (scheme : String) (digits : List Char) : Option (Option Nat) :=
  if digits.isEmpty then some none
  else
    let n := digits.foldl (fun n c => 10 * n + (c.toNat - 48)) 0
    if 65535 < n then none
    else some (if defaultService? scheme == some n then none else some n)

/-- What comes before the last at sign, if there is one, and what follows it. -/
def cutUser (cs : List Char) : Option (List Char) × List Char :=
  let place := (cs.reverse.takeWhile (· != '@')).reverse
  if place.length == cs.length then (none, cs)
  else (some (cs.take (cs.length - place.length - 1)), place)

/-- A host up to a colon that is not between brackets, and what follows that colon. -/
def cutHost (inBrackets : Bool) : List Char → List Char × Option (List Char)
  | [] => ([], none)
  | c :: rest =>
    if c == ':' && !inBrackets then ([], some rest)
    else
      let (host, service) := cutHost (c == '[' || (c != ']' && inBrackets)) rest
      (c :: host, service)

/-- Reads what follows two slashes: credentials, host and service, and then a path. A host may only
be missing where nothing else stands in its place. -/
def readPlace? (scheme : String) (cs : List Char) : Option Url := do
  let special := isSpecial scheme
  let (authority, path) := cs.span fun c => !UrlPath.isSlash special c
  let (user, place) := cutUser authority
  let credentials := user.bind Credentials.ofChars?
  let (host, service) := cutHost false place
  guard (!host.isEmpty ||
    (!special && service.isNone && credentials.isNone && user != some []))
  let host ← if special then Host.web? host else Host.other? host
  let (digits, behind) := (service.getD []).span Char.isDigit
  guard (behind.isEmpty || behind.head? == some '\\')
  let service ← readService? scheme digits
  let path := behind ++ path
  let names := if path.isEmpty && !special then [] else UrlPath.readNames special path
  return { scheme, credentials, host := some host, service, path := .names names }

/-! ## Files -/

def ofFile (host : String) (pieces : List (List Char)) : Url :=
  let names := UrlPath.takeSteps true [] pieces
  let hasDrive := (names.head?.map fun name => UrlPath.isDrive name.toList).getD false
  { scheme := fileScheme
    host := some (if hasDrive then "" else host)
    path := .names (UrlPath.withoutEmpty names) }

/-- Reads the address of a file. What follows two slashes is a host, unless it is a drive. -/
def readFile? (cs : List Char) : Option Url :=
  let rest := UrlPath.below true cs
  let path := UrlPath.below true rest
  if path.length + 2 == cs.length then do
    let (host, names) := path.span fun c => !UrlPath.isSlash true c
    if UrlPath.isDrive host then return ofFile "" (UrlPath.pieces true path)
    else
      let host ← Host.file? host
      if host == "" then return ofFile "" (UrlPath.pieces true names)
      else return ofFile host (UrlPath.pieces true (UrlPath.below true names))
  else some (ofFile "" (UrlPath.pieces true rest))

/-! ## Addresses -/

def readHierarchy? (scheme : String) (cs : List Char) : Option Url :=
  if isWeb scheme then readPlace? scheme (cs.dropWhile (UrlPath.isSlash true))
  else if scheme == fileScheme then readFile? cs
  else
    match cs with
    | '/' :: '/' :: rest => readPlace? scheme rest
    | '/' :: _ => some { scheme, path := .names (UrlPath.readNames false cs) }
    | _ => some { scheme, path := .plain (Percent.encode Percent.isControl cs) }

def parse? (s : String) : Option Url := do
  let (scheme, rest) ← readScheme? (clean s)
  let (rest, fragment) := Text.cut '#' rest
  let (front, query) := Text.cut '?' rest
  let url ← readHierarchy? scheme front
  let inQuery := if isSpecial scheme then Percent.inWebQuery else Percent.inQuery
  return { url with
    query := query.map (Percent.encode inQuery)
    fragment := fragment.map (Percent.encode Percent.inFragment) }

end ImagePrompt.Url
