/-!
Binary floating point numbers of 64 bits. A finite number is a sign, a mantissa below 2^53 and an
exponent of two from -1074 to 971. A decimal number is read as the nearest of them, a tie going to
the even mantissa.
-/

set_option autoImplicit false

namespace VocabBindings

inductive Binary64 where
  | nan
  | infinite (negative : Bool)
  | finite (negative : Bool) (mantissa : Nat) (exponent : Int)
  deriving DecidableEq

namespace Binary64

def leastExponent : Int := -1074

def greatestExponent : Int := 971

def zero (negative : Bool) : Binary64 := .finite negative 0 leastExponent

def isZero : Binary64 → Bool
  | .finite _ mantissa _ => mantissa = 0
  | _ => false

def roundHalfEven (n d : Nat) : Nat :=
  if 2 * (n % d) < d || (2 * (n % d) = d && n / d % 2 = 0) then n / d else n / d + 1

def scaleDown (n d : Nat) (exponent : Int) : Nat × Nat :=
  (n * Nat.pow 2 (-exponent).toNat, d * Nat.pow 2 exponent.toNat)

def exponentFor (n d : Nat) : Int :=
  let guess : Int := (n.log2 : Int) - d.log2 - 53
  let (a, b) := scaleDown n d guess
  max leastExponent (if Nat.pow 2 53 * b ≤ a then guess + 1 else guess)

def ofQuotient (negative : Bool) (n d : Nat) : Binary64 :=
  let exponent := exponentFor n d
  let (a, b) := scaleDown n d exponent
  let mantissa := roundHalfEven a b
  if mantissa < Nat.pow 2 53 then
    if exponent ≤ greatestExponent then .finite negative mantissa exponent else .infinite negative
  else if exponent + 1 ≤ greatestExponent then .finite negative (Nat.pow 2 52) (exponent + 1)
  else .infinite negative

/-- The number nearest to a decimal number, given as an integer and an exponent of ten. Beyond the
outermost exponents the answer is an infinity or zero without any computation. -/
def ofDecimal (negative : Bool) (digits : Nat) (exponent : Int) : Binary64 :=
  let magnitude : Int := (Nat.toDigits 10 digits).length + exponent
  if digits = 0 || magnitude < -330 then zero negative
  else if 310 < magnitude then .infinite negative
  else ofQuotient negative (digits * Nat.pow 10 exponent.toNat) (Nat.pow 10 (-exponent).toNat)

end Binary64

end VocabBindings
