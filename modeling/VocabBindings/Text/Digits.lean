import VocabBindings.Text.Alphanumeric

/-!
Decimal digits of any script, and the positions and sizes that they write. A position has a greatest
value, and what would go beyond it is none.
-/

set_option autoImplicit false

namespace VocabBindings.Text

def digitValue? (c : Char) : Option Nat :=
  (decimalDigitRanges.find? fun r => r.1 ≤ c.toNat && c.toNat ≤ r.2).map
    fun r => (c.toNat - r.1) % 10

def isDecimalDigit (c : Char) : Bool := (digitValue? c).isSome

/-- What a text says where a position may stand: a word, a number, or more than any position. -/
inductive Position where
  | word
  | number (n : Nat)
  | beyond
  deriving DecidableEq

def greatestPosition : Nat := Nat.pow 2 63 - 1

/-- The position that digits write behind those of a number. The first digit that is too much
decides, whatever follows it. -/
def positionFrom (n : Nat) : Text → Position
  | [] => .number n
  | c :: rest =>
    match digitValue? c with
    | none => .word
    | some d => if greatestPosition < 10 * n + d then .beyond else positionFrom (10 * n + d) rest

def position (t : Text) : Position := if t = [] then .word else positionFrom 0 t

end VocabBindings.Text
