import ImagePrompt.Domain.Basic
import ImagePrompt.Text.Utf8
import ImagePrompt.Url.Ipv4
import ImagePrompt.Url.Ipv6
/-!
# Hosts

The text between the slashes of an address that says where a resource is: the
name of a domain, an address in numbers, or, for schemes that are not known,
any text without the characters that part an address.
-/

namespace ImagePrompt.Host

def bracketed? (cs : List Char) : Option String := do
  guard (cs.getLast? == some ']')
  let address ← Ipv6.parse? (cs.drop 1).dropLast
  return "[" ++ address.text ++ "]"

def web? (cs : List Char) : Option String :=
  if cs.head? == some '[' then bracketed? cs
  else do
    let name ← Text.Utf8.decode? (Percent.decode cs)
    let wire ← Domain.toWire? name.toList
    guard (wire != "")
    if Ipv4.isNumeric wire then (Ipv4.parse? wire).map Ipv4.text else return wire

def ownName : String := "localhost"

/-- The host of the address of a file, empty for the machine itself. -/
def file? (cs : List Char) : Option String :=
  if cs.isEmpty then some ""
  else (web? cs).map fun host => if host == ownName then "" else host

/-- Characters that no host has, though its scheme is not known. -/
def isForbidden (c : Char) : Bool :=
  c.toNat == 0 || "\t\n\r #/:<>?@[\\]^|".toList.contains c

/-- The host of an address of another kind, which may be empty. -/
def other? (cs : List Char) : Option String :=
  if cs.head? == some '[' then bracketed? cs
  else if cs.any isForbidden then none
  else some (Percent.encode Percent.isControl cs)

end ImagePrompt.Host
