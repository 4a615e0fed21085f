import ImagePrompt.Json.Value
import ImagePrompt.Number.Decimal
/-!
# Printing JSON

Two written forms of a value: the compact one without any space, and the
indented one with a line for each member and element.
-/

namespace ImagePrompt.Json

def hexDigit (n : Nat) : Char :=
  if n < 10 then Char.ofNat (48 + n) else Char.ofNat (87 + n)

def escapeChar (c : Char) : List Char :=
  if c == '"' then ['\\', '"']
  else if c == '\\' then ['\\', '\\']
  else if c.toNat == 8 then ['\\', 'b']
  else if c.toNat == 9 then ['\\', 't']
  else if c.toNat == 10 then ['\\', 'n']
  else if c.toNat == 12 then ['\\', 'f']
  else if c.toNat == 13 then ['\\', 'r']
  else if c.toNat < 0x20 then
    ['\\', 'u', '0', '0', hexDigit (c.toNat / 16), hexDigit (c.toNat % 16)]
  else [c]

def quote (s : String) : List Char :=
  '"' :: (s.toList.flatMap escapeChar ++ ['"'])

/-- A floating-point number shows a fraction, or an exponent below -5 or from 16 on. Of two
equally near decimals it shows the even one. -/
def realText (x : Binary64) : List Char :=
  let d := Binary64.shortest .toEven x
  let body :=
    if d.magnitude < -5 || 16 ≤ d.magnitude then d.scientific
    else if 0 ≤ d.exponent then d.positional ++ ['.', '0']
    else d.positional
  x.sign ++ body

def integerText (n : Int) : List Char :=
  if n < 0 then '-' :: Nat.toDigits 10 n.natAbs else Nat.toDigits 10 n.natAbs

def Number.chars : Number → List Char
  | .integer n => integerText n
  | .real x => realText x

def Number.text (n : Number) : String := String.ofList n.chars

def joinChars (separator : List Char) : List (List Char) → List Char
  | [] => []
  | [cs] => cs
  | cs :: rest => cs ++ separator ++ joinChars separator rest

mutual

def compactChars : Json → List Char
  | .null => "null".toList
  | .bool true => "true".toList
  | .bool false => "false".toList
  | .number n => n.chars
  | .string s => quote s
  | .array elements => '[' :: (joinChars [','] (compactElements elements) ++ [']'])
  | .object members => '{' :: (joinChars [','] (compactMembers members) ++ ['}'])

def compactElements : List Json → List (List Char)
  | [] => []
  | v :: rest => compactChars v :: compactElements rest

def compactMembers : List (String × Json) → List (List Char)
  | [] => []
  | (k, v) :: rest => (quote k ++ ':' :: compactChars v) :: compactMembers rest

end

def compact (v : Json) : String := String.ofList (compactChars v)

/-- A line break and the indentation of a level, two spaces for each. -/
def lineBreak (level : Nat) : List Char :=
  '\n' :: List.replicate (2 * level) ' '

/-- Items between brackets, each on a line of its own one level deeper. -/
def block (level : Nat) (opening closing : Char) : List (List Char) → List Char
  | [] => [opening, closing]
  | items =>
    opening :: (lineBreak (level + 1) ++ joinChars (',' :: lineBreak (level + 1)) items ++
      lineBreak level ++ [closing])

mutual

def indentedChars (level : Nat) : Json → List Char
  | .null => "null".toList
  | .bool true => "true".toList
  | .bool false => "false".toList
  | .number n => n.chars
  | .string s => quote s
  | .array elements => block level '[' ']' (indentedElements (level + 1) elements)
  | .object members => block level '{' '}' (indentedMembers (level + 1) members)

def indentedElements (level : Nat) : List Json → List (List Char)
  | [] => []
  | v :: rest => indentedChars level v :: indentedElements level rest

def indentedMembers (level : Nat) : List (String × Json) → List (List Char)
  | [] => []
  | (k, v) :: rest =>
    (quote k ++ ':' :: ' ' :: indentedChars level v) :: indentedMembers level rest

end

def indented (v : Json) : String := String.ofList (indentedChars 0 v)

end ImagePrompt.Json
