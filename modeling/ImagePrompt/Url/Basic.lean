import ImagePrompt.Text.Utf8
import ImagePrompt.Url.Path
/-!
# Addresses

Absolute addresses of resources: a scheme, who asks, a host with the number of
its service, a path, a query and a fragment. The text of an address is what
goes over the wire.
-/

namespace ImagePrompt

structure Credentials where
  name : String
  secret : Option String := none
  deriving DecidableEq, Repr

namespace Credentials

def text (c : Credentials) : String := c.name ++ (c.secret.map (":" ++ ·)).getD "" ++ "@"

def ofChars? (cs : List Char) : Option Credentials :=
  let encode := Percent.encode Percent.inCredentials
  let (name, secret) := Text.cut ':' cs
  let secret := (secret.filter (!·.isEmpty)).map encode
  if name.isEmpty && secret.isNone then none else some ⟨encode name, secret⟩

def isText (s : String) : Bool := (Text.Utf8.decode? (Percent.decode s.toList)).isSome

/-- Credentials that can be told apart from an address: the name is a text, and there is a name or
a secret that is a text. -/
def isReadable (c : Credentials) : Bool :=
  isText c.name && (c.name != "" || (c.secret.map isText).getD false)

end Credentials

structure Url where
  scheme : String
  credentials : Option Credentials := none
  /-- The host. It is empty where a place for it is left open. -/
  host : Option String := none
  service : Option Nat := none
  path : UrlPath
  query : Option String := none
  fragment : Option String := none
  deriving DecidableEq, Repr

namespace Url

/-- The number of the service that a scheme of the web stands for. -/
def defaultService? : String → Option Nat
  | "http" => some 80
  | "https" => some 443
  | "ws" => some 80
  | "wss" => some 443
  | "ftp" => some 21
  | _ => none

def isWeb (scheme : String) : Bool := (defaultService? scheme).isSome

def fileScheme : String := "file"

/-- Schemes in whose addresses a backslash counts as a slash. -/
def isSpecial (scheme : String) : Bool := isWeb scheme || scheme == fileScheme

/-- Credentials and host with the number of its service. A path that would be taken for a host is
kept apart where there is none. -/
def authority (u : Url) : String :=
  match u.host with
  | none => if u.path.looksLikeHost then "/." else ""
  | some host =>
    "//" ++ (u.credentials.map Credentials.text).getD "" ++ host ++
      (u.service.map fun n => ":" ++ toString n).getD ""

def target (u : Url) : String :=
  u.path.text ++ (u.query.map ("?" ++ ·)).getD ""

def text (u : Url) : String :=
  u.scheme ++ ":" ++ u.authority ++ u.target ++ (u.fragment.map ("#" ++ ·)).getD ""

/-- The address without credentials that can be told apart from it. -/
def withoutCredentials (u : Url) : Url :=
  { u with credentials := u.credentials.filter (!·.isReadable) }

/-- Characters that stand for themselves in a host, but may not stand in a request. -/
def unsendable : List Char := ['"', '\x60', '\x7b', '\x7d']

def maxLength : Nat := 65534

def isSendable (u : Url) : Bool :=
  !(u.host.getD "").toList.any unsendable.contains && u.text.length ≤ maxLength

end Url

end ImagePrompt
