import VocabBindings.Decimal.Numeral
import VocabBindings.Json.Value

/-!
Tokens of JSON text. Every token has the offset of its first character. A token that is wrong in
itself carries its error, which counts only where such a token may stand; a character that starts
no token is a token of its own.
-/

set_option autoImplicit false

namespace VocabBindings.Json

inductive Fault where
  | valueExpected
  | keyExpected
  | colonExpected
  | commaExpected
  | extraData
  | unterminatedText
  | controlCharacter
  | unknownEscape
  | brokenCodeEscape
  | byteOrderMark
  | integerTooLong (digits : Nat)
  | nestedTooDeep
  deriving DecidableEq

structure ReadError where
  fault : Fault
  offset : Nat
  deriving DecidableEq

inductive Token where
  | openObject
  | closeObject
  | openArray
  | closeArray
  | comma
  | colon
  | text (content : Except ReadError Text)
  | scalar (value : Except ReadError Json)
  | stray
  | finish

def isSpace (c : Char) : Bool := c = ' ' || c = '\t' || c = '\n' || c = '\r'

def codeUnit? (t : Text) : Option Nat :=
  if 4 ≤ t.length then Text.hexNumber? 0 (t.take 4) else none

def isHighSurrogate (u : Nat) : Bool := 0xD800 ≤ u && u < 0xDC00

def isLowSurrogate (u : Nat) : Bool := 0xDC00 ≤ u && u < 0xE000

/-- The character of a code unit that stands alone; for half a surrogate pair the replacement
character. -/
def unitChar (u : Nat) : Char :=
  if isHighSurrogate u || isLowSurrogate u then '\uFFFD' else Char.ofNat u

/-- The character that a code escape stands for, given what follows its `u`, and how many of those
characters it takes. One more character has to follow the digits. -/
def codeEscape (offset : Nat) (rest : Text) : Except ReadError (Char × Nat) :=
  match codeUnit? rest with
  | none => .error ⟨.brokenCodeEscape, offset⟩
  | some high =>
    if rest.drop 4 = [] then .error ⟨.brokenCodeEscape, offset⟩
    else if isHighSurrogate high && rest.drop 10 ≠ [] && Text.startsWith "\\u".toList (rest.drop 4)
    then
      match codeUnit? (rest.drop 6) with
      | none => .error ⟨.brokenCodeEscape, offset + 6⟩
      | some low =>
        if isLowSurrogate low then
          .ok (Char.ofNat (0x10000 + (high - 0xD800) * 0x400 + (low - 0xDC00)), 10)
        else .ok (unitChar high, 4)
    else .ok (unitChar high, 4)

def escape (start offset : Nat) (rest : Text) : Except ReadError (Char × Nat) :=
  match rest with
  | [] => .error ⟨.unterminatedText, start⟩
  | 'u' :: digits => (codeEscape (offset + 1) digits).map fun (c, n) => (c, n + 1)
  | c :: _ =>
    if c = '"' || c = '\\' || c = '/' then .ok (c, 1)
    else if c = 'b' then .ok ('\x08', 1)
    else if c = 'f' then .ok ('\x0c', 1)
    else if c = 'n' then .ok ('\n', 1)
    else if c = 'r' then .ok ('\r', 1)
    else if c = 't' then .ok ('\t', 1)
    else .error ⟨.unknownEscape, offset⟩

/-- Reads a quoted text up to its closing quote. `start` is the offset of the opening quote,
`offset` that of the next character, `covered` counts the characters of an escape already read, and
`done` holds what was read, last character first. The answer has the number of characters after the
opening quote. -/
def scanText (start offset : Nat) : Nat → Text → Text → Except ReadError Text × Nat
  | _, _, [] => (.error ⟨.unterminatedText, start⟩, 0)
  | covered + 1, done, _ :: rest => scanText start (offset + 1) covered done rest
  | 0, done, c :: rest =>
    if c = '"' then (.ok done.reverse, offset - start)
    else if c = '\\' then
      match escape start offset rest with
      | .error e => (.error e, 0)
      | .ok (d, n) => scanText start (offset + 1) n (d :: done) rest
    else if c.toNat < 0x20 then (.error ⟨.controlCharacter, offset⟩, 0)
    else scanText start (offset + 1) 0 (c :: done) rest

def wholeDigits : Text → Text
  | [] => []
  | c :: rest => if c = '0' then [c] else (c :: rest).takeWhile Char.isDigit

def fractionDigits : Text → Text
  | '.' :: rest => rest.takeWhile Char.isDigit
  | _ => []

def exponentPart : Text → Int × Nat
  | [] => (0, 0)
  | c :: rest =>
    if c = 'e' || c = 'E' then
      let (sign, body) : Text × Text :=
        match rest with
        | '+' :: r => (['+'], r)
        | '-' :: r => (['-'], r)
        | r => ([], r)
      let digits := body.takeWhile Char.isDigit
      if digits = [] then (0, 0)
      else
        let size : Int := Numeral.valueOf digits
        (if sign = ['-'] then -size else size, 1 + sign.length + digits.length)
    else (0, 0)

/-- The number a text starts with after its sign, if any, and the number of its characters. A number
with neither a fraction nor an exponent is an integer. -/
def scanNumber (offset : Nat) (negative : Bool) (t : Text) : Option (Except ReadError Json × Nat) :=
  let whole := wholeDigits t
  if whole = [] then none
  else
    let fraction := fractionDigits (t.drop whole.length)
    let marked := whole.length + (if fraction = [] then 0 else fraction.length + 1)
    let (exponent, exponentLength) := exponentPart (t.drop marked)
    if fraction = [] && exponentLength = 0 then
      if Numeral.integerLimit < whole.length then
        some (.error ⟨.integerTooLong whole.length, offset⟩, whole.length)
      else
        let size : Int := Numeral.valueOf whole
        some (.ok (.int (if negative then -size else size)), whole.length)
    else
      some (.ok (.number (Binary64.ofDecimal negative (Numeral.valueOf (whole ++ fraction))
        (exponent - fraction.length))), marked + exponentLength)

def token (offset : Nat) (c : Char) (rest : Text) : Token × Nat :=
  let number (negative : Bool) (t : Text) : Token × Nat :=
    match scanNumber offset negative t with
    | none => (.stray, 0)
    | some (v, n) => (.scalar v, if negative then n else n - 1)
  let word (tail : String) (v : Json) (otherwise : Token × Nat) : Token × Nat :=
    if Text.startsWith tail.toList rest then (.scalar (.ok v), tail.length) else otherwise
  if c = '\x7b' then (.openObject, 0)
  else if c = '\x7d' then (.closeObject, 0)
  else if c = '[' then (.openArray, 0)
  else if c = ']' then (.closeArray, 0)
  else if c = ',' then (.comma, 0)
  else if c = ':' then (.colon, 0)
  else if c = '"' then
    let (content, n) := scanText offset (offset + 1) 0 [] rest
    (.text content, n)
  else if c = 'n' then word "ull" .null (.stray, 0)
  else if c = 't' then word "rue" (.bool true) (.stray, 0)
  else if c = 'f' then word "alse" (.bool false) (.stray, 0)
  else if c = 'N' then word "aN" (.number .nan) (.stray, 0)
  else if c = 'I' then word "nfinity" (.number (.infinite false)) (.stray, 0)
  else if c = '-' then word "Infinity" (.number (.infinite true)) (number true rest)
  else if c.isDigit then number false (c :: rest)
  else (.stray, 0)

/-- The tokens of a text from an offset on. The number counts the characters that a token already
read still covers. -/
def tokensFrom : Nat → Nat → Text → List (Nat × Token)
  | offset, _, [] => [(offset, .finish)]
  | offset, covered + 1, _ :: rest => tokensFrom (offset + 1) covered rest
  | offset, 0, c :: rest =>
    if isSpace c then tokensFrom (offset + 1) 0 rest
    else
      let (tok, n) := token offset c rest
      (offset, tok) :: tokensFrom (offset + 1) n rest

end VocabBindings.Json
