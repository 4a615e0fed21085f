import ImagePrompt.Domain.Direction
import ImagePrompt.Domain.Joining
import ImagePrompt.Domain.Mapping
import ImagePrompt.Domain.Punycode
import ImagePrompt.Text.Composed
import ImagePrompt.Text.Mark
import ImagePrompt.Text.Split
/-!
# Domain names

Names of hosts, as they go over the wire: labels of ASCII characters between
dots. A label of other characters is written in another form behind a mark of
its own.
-/

namespace ImagePrompt.Domain

/-- A label as it is read and as it goes over the wire. -/
structure Label where
  shown : List Char
  wire : List Char
  deriving DecidableEq, Repr

def wireMark : List Char := ['x', 'n', '-', '-']

/-- The most characters that a label in the other form may have. -/
def maxEncoded : Nat := 2000

/-- The most characters of a label that is written in the other form. -/
def maxShown : Nat := 1000

/-- ASCII characters that no name of an address has. -/
def isDenied (c : Char) : Bool :=
  c.toNat ≤ 0x20 || c.toNat == 0x7f || "#/:<>?@[\\]^|%".toList.contains c

def isAscii (cs : List Char) : Bool := cs.all (·.toNat < 0x80)

/-- What a name stands for, in composed form. -/
def normalized? (cs : List Char) : Option (List Char) := (map? cs).map Text.composed

namespace Label

/-- A label of other than ASCII characters is sound: it does not begin with a mark, and joiners
stand where they may. -/
def isSound (cs : List Char) : Bool :=
  !(cs.head?.any Text.isMark) && joinersStand [] cs && cs.length ≤ maxShown

/-- The label whose wire form is given. It stands for itself, and needs that form. -/
def ofWire? (wire : List Char) : Option Label := do
  let encoded := wire.drop wireMark.length
  guard (isAscii wire && encoded.length ≤ maxEncoded)
  let shown ← Punycode.decode? encoded
  guard (!isAscii shown && normalized? shown == some shown && isSound shown)
  return ⟨shown, wire⟩

def read? (cs : List Char) : Option Label :=
  if wireMark.isPrefixOf cs then ofWire? cs
  else if isAscii cs then some ⟨cs, cs⟩
  else if isSound cs then some ⟨cs, wireMark ++ Punycode.encode cs⟩
  else none

end Label

def toWire? (cs : List Char) : Option String := do
  let name ← normalized? cs
  guard (!name.any isDenied)
  let labels ← (Text.splitChars '.' name).mapM Label.read?
  guard (isReadable (labels.map (·.shown)))
  return String.intercalate "." (labels.map fun label => String.ofList label.wire)

end ImagePrompt.Domain
