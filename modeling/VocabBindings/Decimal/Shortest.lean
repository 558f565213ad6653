import VocabBindings.Text.Basic
import VocabBindings.Decimal.Binary64

/-!
The shortest decimal text of a number: the fewest digits that are read back as the same number, and
among those the digits nearest to it. For every count of digits only the two neighbours of the
number on that decimal grid are tried.
-/

set_option autoImplicit false

namespace VocabBindings.Binary64

/-- A positive number in quarters of its unit, with the bounds of the interval that is read as it.
All three count the same power of two. The bounds belong to the interval if the mantissa is even. -/
structure Span where
  low : Nat
  value : Nat
  high : Nat
  exponent : Int
  closed : Bool

def span (mantissa : Nat) (exponent : Int) : Span where
  low :=
    if mantissa = Nat.pow 2 52 && leastExponent < exponent then 4 * mantissa - 1
    else 4 * mantissa - 2
  value := 4 * mantissa
  high := 4 * mantissa + 2
  exponent := exponent - 2
  closed := mantissa % 2 = 0

def Span.factors (s : Span) (power : Int) : Nat × Nat :=
  (Nat.pow 10 power.toNat * Nat.pow 2 (-s.exponent).toNat,
    Nat.pow 2 s.exponent.toNat * Nat.pow 10 (-power).toNat)

def Span.holds (s : Span) (count : Nat) (power : Int) : Bool :=
  let (decimal, binary) := s.factors power
  let x := count * decimal
  if s.closed then s.low * binary ≤ x && x ≤ s.high * binary
  else s.low * binary < x && x < s.high * binary

/-- The multiple of a power of ten, of the two neighbours of the number, that lies in its span and
is nearest to it. A tie goes to the even multiple. -/
def Span.nearest? (s : Span) (power : Int) : Option Nat :=
  let (decimal, binary) := s.factors power
  let target := s.value * binary
  let below := target / decimal
  match s.holds below power, s.holds (below + 1) power with
  | true, true =>
    let left := target - below * decimal
    let right := (below + 1) * decimal - target
    if left < right || (left = right && below % 2 = 0) then some below else some (below + 1)
  | true, false => some below
  | false, true => some (below + 1)
  | false, false => none

def Span.magnitude (s : Span) : Int :=
  let (n, d) := (s.value * Nat.pow 2 s.exponent.toNat, Nat.pow 2 (-s.exponent).toNat)
  if d ≤ n then ((Nat.toDigits 10 (n / d)).length : Int) - 1
  else -((Nat.toDigits 10 (d / n)).length : Int)

/-- The shortest digits of a number with a positive mantissa, without zeros at the end, and the
place of the point: the number is zero, point, digits, times ten to that place. -/
def shortestDigits (mantissa : Nat) (exponent : Int) : Text × Int :=
  let s := span mantissa exponent
  let found := (List.range 17).findSome? fun (k : Nat) =>
    let power : Int := s.magnitude - k
    (s.nearest? power).map fun count => (Nat.toDigits 10 count, power)
  match found with
  | none => ([], 0)
  | some (digits, power) =>
    ((digits.reverse.dropWhile (· = '0')).reverse, (digits.length : Int) + power)

def positional (digits : Text) (point : Int) : Text :=
  if point ≤ 0 then "0.".toList ++ List.replicate (-point).toNat '0' ++ digits
  else if digits.length ≤ point.toNat then
    digits ++ List.replicate (point.toNat - digits.length) '0' ++ ".0".toList
  else digits.take point.toNat ++ '.' :: digits.drop point.toNat

def scientific (digits : Text) (point : Int) : Text :=
  let exponent := point - 1
  let size := Text.ofNat exponent.natAbs
  digits.take 1 ++ (if digits.length ≤ 1 then [] else '.' :: digits.drop 1) ++
    ['e', if exponent < 0 then '-' else '+'] ++ (if size.length < 2 then '0' :: size else size)

def text : Binary64 → Text
  | .nan => "nan".toList
  | .infinite negative => (if negative then "-".toList else []) ++ "inf".toList
  | .finite negative mantissa exponent =>
    (if negative then "-".toList else []) ++
      if mantissa = 0 then "0.0".toList
      else
        let (digits, point) := shortestDigits mantissa exponent
        if -4 < point && point ≤ 16 then positional digits point else scientific digits point

end VocabBindings.Binary64
