import ImagePrompt.Json.Value
import ImagePrompt.Text.Utf8
/-!
# Reading JSON

A reader for the data format. It refuses a text at the first octet that cannot
continue one, and says why and where. Integers that fit 64 bits stay exact;
any other number goes through two roundings, of its digits and of the power of
ten that they are scaled by.
-/

namespace ImagePrompt.Json

open Text

inductive Complaint where
  | endInValue
  | endInList
  | endInObject
  | endInString
  | expectedValue
  | expectedColon
  | expectedCommaOrBracket
  | expectedCommaOrBrace
  | expectedWord
  | keyNotString
  | trailingComma
  | trailingCharacters
  | invalidNumber
  | numberOutOfRange
  | invalidEscape
  | loneSurrogate
  | unfinishedSurrogate
  | controlCharacter
  | tooDeep
  deriving DecidableEq, Repr

def Complaint.message : Complaint → String
  | .endInValue => "EOF while parsing a value"
  | .endInList => "EOF while parsing a list"
  | .endInObject => "EOF while parsing an object"
  | .endInString => "EOF while parsing a string"
  | .expectedValue => "expected value"
  | .expectedColon => "expected `:`"
  | .expectedCommaOrBracket => "expected `,` or `]`"
  | .expectedCommaOrBrace => "expected `,` or `\x7d`"
  | .expectedWord => "expected ident"
  | .keyNotString => "key must be a string"
  | .trailingComma => "trailing comma"
  | .trailingCharacters => "trailing characters"
  | .invalidNumber => "invalid number"
  | .numberOutOfRange => "number out of range"
  | .invalidEscape => "invalid escape"
  | .loneSurrogate => "lone leading surrogate in hex escape"
  | .unfinishedSurrogate => "unexpected end of hex escape"
  | .controlCharacter => "control character (\\u0000-\\u001F) found while parsing a string"
  | .tooDeep => "recursion limit exceeded"

/-- A complaint and the number of octets from its place to the end of the text. -/
structure Fault where
  complaint : Complaint
  left : Nat
  deriving DecidableEq, Repr

def Fault.before (complaint : Complaint) (rest : List Char) : Fault :=
  ⟨complaint, Utf8.size rest⟩

/-- A complaint after the next octet, or at the end if there is none. -/
def Fault.after (complaint : Complaint) (rest : List Char) : Fault :=
  ⟨complaint, Utf8.size rest - 1⟩

/-- What reads a part at the front of a text gives the part and the rest of the text. -/
abbrev Reader (α : Type) := List Char → Except Fault (α × List Char)

/-! ## Parts of a text -/

def isGap (c : Char) : Bool := c == ' ' || c == '\n' || c == '\t' || c == '\r'

def skipGap (cs : List Char) : List Char := cs.dropWhile isGap

namespace Parser

/-! ## Numbers -/

def digitValue (c : Char) : Nat := c.toNat - '0'.toNat

/-- Appends digits to a significand until the next would take it past 64 bits, and counts them. -/
def absorb : Nat → List Char → Nat × Nat
  | significand, [] => (significand, 0)
  | significand, c :: cs =>
    let next := significand * 10 + digitValue c
    if next < Nat.pow 2 64 then
      let (result, count) := absorb next cs
      (result, count + 1)
    else (significand, 0)

/-- `x · 10 ^ e` for an `x` below `2 ^ 64`, each step rounded. A division by more than `10 ^ 308`
takes two steps, and past `10 ^ 616` nothing is left; a product past the largest number is
refused. -/
def scaleByTen (x : Binary64) (e : Int) : Option Binary64 :=
  if 0 ≤ e then
    if e ≤ 308 then x.mul (Binary64.powerOfTen e.toNat)
    else if x.significand == 0 then some x
    else none
  else if -308 ≤ e then x.div (Binary64.powerOfTen (-e).toNat)
  else if -616 ≤ e then do
    let y ← x.div (Binary64.powerOfTen 308)
    y.div (Binary64.powerOfTen (-e - 308).toNat)
  else some (Binary64.zero x.negative)

def realOf (negative : Bool) (significand : Nat) (e : Int) : Option Binary64 := do
  let x ← scaleByTen (Binary64.ofInt significand) e
  return if negative then x.neg else x

/-- An integer without fraction and exponent, exact where it fits 64 bits. -/
def integerOf (negative : Bool) (significand : Nat) : Number :=
  if negative then
    if significand == 0 || Nat.pow 2 63 < significand then .real (Binary64.ofInt significand).neg
    else .integer (-significand)
  else .integer significand

/-- The largest exponent that is told from a larger one. -/
def exponentLimit : Nat := Nat.pow 2 31 - 1

/-- The digits of an exponent: its value and the rest, or the rest after the digit that takes
it past the limit. -/
def exponentDigits : Nat → List Char → Except (List Char) (Nat × List Char)
  | value, c :: cs =>
    if c.isDigit then
      let next := value * 10 + digitValue c
      if exponentLimit < next then .error cs else exponentDigits next cs
    else .ok (value, c :: cs)
  | value, [] => .ok (value, [])

def finishExponent (negative : Bool) (significand : Nat) (e : Int) (cs : List Char) :
    Except Fault (Number × List Char) :=
  let (down, cs) := match cs with
    | '+' :: r => (false, r)
    | '-' :: r => (true, r)
    | r => (false, r)
  match cs with
  | [] => .error (.before .endInValue [])
  | c :: r =>
    if !c.isDigit then .error (.after .invalidNumber (c :: r))
    else
      match exponentDigits (digitValue c) r with
      | .ok (value, rest) =>
        match realOf negative significand (if down then e - value else e + value) with
        | some x => .ok (.real x, rest)
        | none => .error (.before .numberOutOfRange rest)
      | .error rest =>
        if significand != 0 && !down then .error (.before .numberOutOfRange rest)
        else .ok (.real (Binary64.zero negative), rest.dropWhile Char.isDigit)

def finishReal (negative : Bool) (significand : Nat) (e : Int) (cs : List Char) :
    Except Fault (Number × List Char) :=
  match cs with
  | c :: r =>
    if c == 'e' || c == 'E' then finishExponent negative significand e r
    else
      match realOf negative significand e with
      | some x => .ok (.real x, cs)
      | none => .error (.before .numberOutOfRange cs)
  | [] =>
    match realOf negative significand e with
    | some x => .ok (.real x, [])
    | none => .error (.before .numberOutOfRange [])

/-- A number from its first digit on, its sign already read. -/
def number (negative : Bool) (cs : List Char) : Except Fault (Number × List Char) :=
  match cs with
  | [] => .error (.before .endInValue [])
  | c :: r =>
    if !c.isDigit then .error (.after .invalidNumber cs)
    else
      let whole := if c == '0' then [c] else cs.takeWhile Char.isDigit
      let rest := if c == '0' then r else cs.dropWhile Char.isDigit
      let (significand, taken) := absorb 0 whole
      let dropped := whole.length - taken
      match rest with
      | d :: after =>
        if c == '0' && d.isDigit then .error (.after .invalidNumber rest)
        else if d == '.' then
          let fraction := after.takeWhile Char.isDigit
          let tail := after.dropWhile Char.isDigit
          if fraction.isEmpty then
            if tail.isEmpty then .error (.before .endInValue [])
            else .error (.after .invalidNumber tail)
          else
            let (significand, places) := absorb significand fraction
            finishReal negative significand ((dropped : Int) - places) tail
        else if d == 'e' || d == 'E' then finishExponent negative significand dropped after
        else if dropped == 0 then .ok (integerOf negative significand, rest)
        else finishReal negative significand dropped rest
      | [] =>
        if dropped == 0 then .ok (integerOf negative significand, [])
        else finishReal negative significand dropped []

/-! ## Strings -/

inductive StringState where
  | plain
  | escape
  /-- Within four hex digits, those read so far, after the first half `high` of a pair. -/
  | hex (high : Option Nat) (seen : List Char)
  /-- After the first half of a pair, before the backslash of the second. -/
  | pairBackslash (high : Nat)
  /-- Before the letter that introduces the second half of a pair. -/
  | pairLetter (high : Nat)

def hexValue? (c : Char) : Option Nat :=
  if c.isDigit then some (c.toNat - 48)
  else if 'a' ≤ c && c ≤ 'f' then some (c.toNat - 87)
  else if 'A' ≤ c && c ≤ 'F' then some (c.toNat - 55)
  else none

/-- The value of hex digits, the last first. -/
def hexNumber : List Char → Nat
  | [] => 0
  | c :: cs => (hexValue? c).getD 0 + 16 * hexNumber cs

def simpleEscape? (c : Char) : Option Char :=
  if c == '"' || c == '\\' || c == '/' then some c
  else if c == 'b' then some '\x08'
  else if c == 'f' then some '\x0c'
  else if c == 'n' then some '\n'
  else if c == 'r' then some '\r'
  else if c == 't' then some '\t'
  else none

/-- Four digits have been read: the state they lead to, and the character they complete. -/
def finishHex (high : Option Nat) (n : Nat) (rest : List Char) :
    Except Fault (StringState × Option Char) :=
  match high with
  | none =>
    if 0xdc00 ≤ n && n ≤ 0xdfff then .error (.before .loneSurrogate rest)
    else if 0xd800 ≤ n && n ≤ 0xdbff then .ok (.pairBackslash n, none)
    else .ok (.plain, some (Char.ofNat n))
  | some first =>
    if 0xdc00 ≤ n && n ≤ 0xdfff then
      .ok (.plain, some (Char.ofNat (0x10000 + (first - 0xd800) * 0x400 + (n - 0xdc00))))
    else .error (.before .loneSurrogate rest)

/-- The complaint about a character `c` that is no hex digit after `seen`: four octets must
follow the letter `u`. -/
def hexFault (seen : List Char) (rest : List Char) : Fault :=
  let left := seen.length + Utf8.size rest
  if left < 4 then .before .endInString [] else ⟨.invalidEscape, left - 4⟩

def stringBody : StringState → Reader (List Char)
  | _, [] => .error (.before .endInString [])
  | .plain, c :: rest =>
    if c == '"' then .ok ([], rest)
    else if c == '\\' then stringBody .escape rest
    else if c.toNat < 0x20 then .error (.before .controlCharacter rest)
    else push c (stringBody .plain rest)
  | .escape, c :: rest =>
    if c == 'u' then stringBody (.hex none []) rest
    else
      match simpleEscape? c with
      | some d => push d (stringBody .plain rest)
      | none => .error (.after .invalidEscape (c :: rest))
  | .hex high seen, c :: rest =>
    if (hexValue? c).isSome then
      if seen.length == 3 then
        match finishHex high (hexNumber (c :: seen)) rest with
        | .ok (state, some d) => push d (stringBody state rest)
        | .ok (state, none) => stringBody state rest
        | .error fault => .error fault
      else stringBody (.hex high (c :: seen)) rest
    else .error (hexFault seen (c :: rest))
  | .pairBackslash high, c :: rest =>
    if c == '\\' then stringBody (.pairLetter high) rest
    else .error (.after .unfinishedSurrogate (c :: rest))
  | .pairLetter high, c :: rest =>
    if c == 'u' then stringBody (.hex (some high) []) rest
    else .error (.after .unfinishedSurrogate (c :: rest))
where
  push (c : Char) : Except Fault (List Char × List Char) → Except Fault (List Char × List Char)
    | .ok (cs, rest) => .ok (c :: cs, rest)
    | .error fault => .error fault

def stringText (cs : List Char) : Except Fault (String × List Char) :=
  match stringBody .plain cs with
  | .ok (text, rest) => .ok (String.ofList text, rest)
  | .error fault => .error fault

/-! ## Values -/

def word (letters : List Char) (value : Json) (cs : List Char) : Except Fault (Json × List Char) :=
  match letters, cs with
  | [], _ => .ok (value, cs)
  | _ :: _, [] => .error (.before .endInValue [])
  | l :: ls, c :: rest =>
    if c == l then word ls value rest else .error (.after .expectedWord (c :: rest))

/-- How a list of items goes on: with an item at a place of the text, or no more. -/
inductive Continuation where
  | item (start : List Char)
  | closed (rest : List Char)

def arrayContinuation (first : Bool) (cs : List Char) : Except Fault Continuation :=
  match skipGap cs with
  | [] => .error (.before .endInList [])
  | c :: rest =>
    if c == ']' then .ok (.closed rest)
    else if first then .ok (.item (c :: rest))
    else if c == ',' then
      match skipGap rest with
      | [] => .error (.before .endInValue [])
      | d :: after =>
        if d == ']' then .error (.after .trailingComma (d :: after)) else .ok (.item (d :: after))
    else .error (.after .expectedCommaOrBracket (c :: rest))

def elements (item : Reader Json) : Nat → Bool → Reader (List Json)
  | 0, _, _ => .error (.before .endInList [])
  | fuel + 1, first, cs => do
    match ← arrayContinuation first cs with
    | .closed rest => return ([], rest)
    | .item start =>
      let (v, rest) ← item start
      let (vs, rest) ← elements item fuel false rest
      return (v :: vs, rest)

def colon (cs : List Char) : Except Fault (List Char) :=
  match skipGap cs with
  | [] => .error (.before .endInObject [])
  | c :: rest => if c == ':' then .ok rest else .error (.after .expectedColon (c :: rest))

/-- How an object goes on; an item starts behind the opening quote of its key. -/
def objectContinuation (first : Bool) (cs : List Char) : Except Fault Continuation :=
  match skipGap cs with
  | [] => .error (.before .endInObject [])
  | c :: rest =>
    if c == '}' then .ok (.closed rest)
    else if first then
      if c == '"' then .ok (.item rest) else .error (.after .keyNotString (c :: rest))
    else if c == ',' then
      match skipGap rest with
      | [] => .error (.before .endInValue [])
      | d :: after =>
        if d == '"' then .ok (.item after)
        else if d == '}' then .error (.after .trailingComma (d :: after))
        else .error (.after .keyNotString (d :: after))
    else .error (.after .expectedCommaOrBrace (c :: rest))

def members (item : Reader Json) : Nat → Bool → Reader Members
  | 0, _, _ => .error (.before .endInObject [])
  | fuel + 1, first, cs => do
    match ← objectContinuation first cs with
    | .closed rest => return ([], rest)
    | .item start =>
      let (k, rest) ← stringText start
      let rest ← colon rest
      let (v, rest) ← item rest
      let (ms, rest) ← members item fuel false rest
      return ((k, v) :: ms, rest)

/-- A value with fewer than `depth` brackets open at once. -/
def value : Nat → Reader Json
  | 0, cs => .error (.after .tooDeep cs)
  | depth + 1, cs =>
    match skipGap cs with
    | [] => .error (.before .endInValue [])
    | c :: rest =>
      if c == 'n' then word "ull".toList .null rest
      else if c == 't' then word "rue".toList (.bool true) rest
      else if c == 'f' then word "alse".toList (.bool false) rest
      else if c == '-' then do
        let (n, rest) ← number true rest
        return (.number n, rest)
      else if c.isDigit then do
        let (n, rest) ← number false (c :: rest)
        return (.number n, rest)
      else if c == '"' then do
        let (s, rest) ← stringText rest
        return (.string s, rest)
      else if c == '[' then
        if depth == 0 then .error (.after .tooDeep (c :: rest))
        else do
          let (vs, rest) ← elements (value depth) rest.length true rest
          return (.array vs, rest)
      else if c == '{' then
        if depth == 0 then .error (.after .tooDeep (c :: rest))
        else do
          let (ms, rest) ← members (value depth) rest.length true rest
          return (.ofMembers ms, rest)
      else .error (.after .expectedValue (c :: rest))

/-- One more than the brackets that may be open at once. -/
def depthLimit : Nat := 128

end Parser

/-- A place in a text: its line, and the octets before it on that line. -/
structure Place where
  line : Nat
  column : Nat
  deriving DecidableEq, Repr

def placeAt (offset : Nat) (cs : List Char) : Place :=
  go offset cs ⟨1, 0⟩
where
  go : Nat → List Char → Place → Place
    | 0, _, place => place
    | offset, [], place => { place with column := place.column + offset }
    | offset, c :: cs, place =>
      if c == '\n' then go (offset - 1) cs ⟨place.line + 1, 0⟩
      else if offset < c.utf8Size then { place with column := place.column + offset }
      else go (offset - c.utf8Size) cs { place with column := place.column + c.utf8Size }

structure SyntaxError where
  complaint : Complaint
  place : Place
  deriving DecidableEq, Repr

def SyntaxError.message (e : SyntaxError) : String :=
  e.complaint.message ++ " at line " ++ toString e.place.line ++ " column " ++
    toString e.place.column

def parseChars (cs : List Char) : Except Fault Json := do
  let (v, rest) ← Parser.value Parser.depthLimit cs
  match skipGap rest with
  | [] => return v
  | rest => .error (.after .trailingCharacters rest)

def parse (s : String) : Except SyntaxError Json :=
  match parseChars s.toList with
  | .ok v => .ok v
  | .error fault =>
    .error ⟨fault.complaint, placeAt (Utf8.size s.toList - fault.left) s.toList⟩

end ImagePrompt.Json
