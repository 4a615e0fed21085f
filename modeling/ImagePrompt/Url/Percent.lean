import ImagePrompt.Text.Utf8
/-!
# Percent encoding

Octets of a text written as a percent sign and two hexadecimal digits, for the
characters that may not stand for themselves in a part of an address.
-/

namespace ImagePrompt.Percent

def digit (n : Nat) : Char := Char.ofNat (if n < 10 then 48 + n else 55 + n)

def ofOctet (b : UInt8) : List Char := ['%', digit (b.toNat / 16), digit (b.toNat % 16)]

/-- Characters that never stand for themselves: controls, and all beyond ASCII. -/
def isControl (c : Char) : Bool := c.toNat < 0x20 || 0x7e < c.toNat

def inFragment (c : Char) : Bool := isControl c || " \"<>`".toList.contains c

def inPath (c : Char) : Bool := inFragment c || ['#', '?', '\x7b', '\x7d'].contains c

def inCredentials (c : Char) : Bool := inPath c || "/:;=@[\\]^|".toList.contains c

def inQuery (c : Char) : Bool := isControl c || " \"#<>".toList.contains c

def inWebQuery (c : Char) : Bool := inQuery c || c == '\''

def encode (encoded : Char → Bool) (cs : List Char) : String :=
  String.ofList (cs.flatMap fun c =>
    if encoded c then (Text.Utf8.encodeChar c).flatMap ofOctet else [c])

def value? (c : Char) : Option Nat :=
  if c.isDigit then some (c.toNat - 48)
  else if 'a' ≤ c && c ≤ 'f' then some (c.toNat - 87)
  else if 'A' ≤ c && c ≤ 'F' then some (c.toNat - 55)
  else none

/-- The octets of a text, those that are encoded and those of the characters. -/
def decode : List Char → List UInt8
  | [] => []
  | '%' :: a :: b :: rest =>
    match value? a, value? b with
    | some x, some y => UInt8.ofNat (16 * x + y) :: decode rest
    | _, _ => 0x25 :: decode (a :: b :: rest)
  | c :: rest => Text.Utf8.encodeChar c ++ decode rest
termination_by cs => cs.length

end ImagePrompt.Percent
