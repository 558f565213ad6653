import VocabBindings.Decimal.Binary64
import VocabBindings.Text.Blank
import VocabBindings.Text.Digits
import VocabBindings.Text.Lowercase

/-!
Numerals: numbers as they are written. Blanks around a numeral do not count, its digits may be those
of any script, and an underscore may stand between two of them.
-/

set_option autoImplicit false

namespace VocabBindings.Numeral

/-- A digit of another script as the digit that it stands for, and a blank beyond ASCII as a space.
No other character beyond ASCII can stand in a numeral. -/
def plainChar (c : Char) : Char :=
  if c.toNat < 0x80 then c
  else if Text.isBlank c then ' '
  else
    match Text.digitValue? c with
    | some d => Nat.digitChar d
    | none => '?'

/-- Whether a character of ASCII separates words. The separators U+001C to U+001F do not. -/
def isSpace (c : Char) : Bool := c = ' ' || (0x9 ≤ c.toNat && c.toNat ≤ 0xD)

def plain (t : Text) : Text :=
  (((t.map plainChar).dropWhile isSpace).reverse.dropWhile isSpace).reverse

def joinsDigits : Bool → Text → Bool
  | _, [] => true
  | afterDigit, c :: rest =>
    (c ≠ '_' || (afterDigit && (rest.head?.map Char.isDigit).getD false)) &&
      joinsDigits (Char.isDigit c) rest

def ungrouped? (t : Text) : Option Text :=
  if joinsDigits false t then some (t.filter (· ≠ '_')) else none

def takeSign : Text → Bool × Text
  | '-' :: rest => (true, rest)
  | '+' :: rest => (false, rest)
  | t => (false, t)

def valueOf (digits : Text) : Nat := digits.foldl (fun n c => 10 * n + (c.toNat - 48)) 0

def integerLimit : Nat := 4300

def integer? (t : Text) : Option Int :=
  match (ungrouped? (plain t)).map takeSign with
  | none => none
  | some (negative, digits) =>
    if digits = [] || !digits.all Char.isDigit || integerLimit < digits.length then none
    else
      let size : Int := valueOf digits
      some (if negative then -size else size)

/-- A number in digits: all of them without the point, and the power of ten that the last one
counts. -/
structure Digits where
  digits : Text
  power : Int
  deriving DecidableEq

def exponent? : Text → Option Int
  | [] => some 0
  | c :: rest =>
    if c = 'e' || c = 'E' then
      let (negative, digits) := takeSign rest
      if digits = [] || !digits.all Char.isDigit then none
      else
        let size : Int := valueOf digits
        some (if negative then -size else size)
    else none

def digits? (t : Text) : Option Digits :=
  let whole := t.takeWhile Char.isDigit
  let rest := t.drop whole.length
  let fraction :=
    match rest with
    | '.' :: rest => rest.takeWhile Char.isDigit
    | _ => []
  let rest := if rest.head? = some '.' then rest.drop (fraction.length + 1) else rest
  if whole = [] && fraction = [] then none
  else (exponent? rest).map fun power => ⟨whole ++ fraction, power - fraction.length⟩

def binary? (t : Text) : Option Binary64 :=
  match (ungrouped? (plain t)).map takeSign with
  | none => none
  | some (negative, rest) =>
    let word := rest.map Char.toLower
    if word = "nan".toList then some .nan
    else if word = "inf".toList || word = "infinity".toList then some (.infinite negative)
    else (digits? rest).map fun d => .ofDecimal negative (valueOf d.digits) d.power

/-- The digits of a number in positional notation, without leading zeros before the point but for
one. A zero has no zeros behind the power it counts. -/
def positional (d : Digits) : Text :=
  let trimmed (digits : Text) : Text :=
    let rest := digits.dropWhile (· = '0')
    if rest = [] then ['0'] else rest
  if 0 ≤ d.power then
    let digits := trimmed d.digits
    if digits = ['0'] then digits else digits ++ List.replicate d.power.toNat '0'
  else
    let places := d.power.natAbs
    let digits := List.replicate (places + 1 - d.digits.length) '0' ++ d.digits
    trimmed (digits.take (digits.length - places)) ++ '.' :: digits.drop (digits.length - places)

def roundedLimit : Nat := 28

/-- The number that the last of these digits rounds up or down to, a tie going to the even one. It
has as many digits as a rounded number may have, and none of them is a zero at the end. -/
def Digits.rounded (d : Digits) : Digits :=
  let written := Nat.toDigits 10 (valueOf d.digits)
  let surplus := written.length - roundedLimit
  let kept := Nat.toDigits 10 (Binary64.roundHalfEven (valueOf d.digits) (Nat.pow 10 surplus))
  let zeros := (kept.reverse.takeWhile (· = '0')).length
  if kept = ['0'] then ⟨kept, 0⟩ else ⟨kept.take (kept.length - zeros), d.power + surplus + zeros⟩

def roundedText? (t : Text) : Option Text :=
  let (negative, rest) := takeSign t
  (digits? rest).map fun d =>
    let shown := positional d.rounded
    if negative && shown ≠ ['0'] then '-' :: shown else shown

def powerLimit : Nat := 100000

def notANumber? (word : Text) : Option Text :=
  let named (written shown : String) : Option Text :=
    (Text.after? written.toList word).bind fun digits =>
      if digits.all Char.isDigit then some (shown.toList ++ digits.dropWhile (· = '0')) else none
  (named "nan" "NaN").or (named "snan" "sNaN")

def decimalText? (t : Text) : Option Text :=
  let (negative, rest) := takeSign (((Text.trim t).filter (· ≠ '_')).map plainChar)
  let sign : Text := if negative then ['-'] else []
  let word := rest.map Char.toLower
  if word = "inf".toList || word = "infinity".toList then some (sign ++ "Infinity".toList)
  else
    match notANumber? word with
    | some shown => some (sign ++ shown)
    | none =>
      (digits? rest).bind fun d =>
        if d.power.natAbs ≤ powerLimit then some (sign ++ positional d) else none

end VocabBindings.Numeral
