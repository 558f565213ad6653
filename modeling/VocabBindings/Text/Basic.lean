/-!
Text as a list of characters: joining, cutting at a separator, removing a leading part, and
membership in a table of code point ranges.
-/

set_option autoImplicit false

namespace VocabBindings

/-- Text is a list of Unicode scalar values. Lengths, positions and order count and compare them. -/
abbrev Text := List Char

instance : LawfulBEq Text := inferInstance

namespace Text

def atMost (a b : Text) : Bool := !decide (b < a)

def ofNat (n : Nat) : Text := Nat.toDigits 10 n

def ofInt (z : Int) : Text :=
  if z < 0 then '-' :: ofNat z.natAbs else ofNat z.natAbs

def joined (separator : Text) (parts : List Text) : Text := separator.intercalate parts

def pieces (separator : Char) : Text → List Text
  | [] => [[]]
  | c :: rest =>
    if c = separator then [] :: pieces separator rest
    else
      match pieces separator rest with
      | [] => [[c]]
      | p :: ps => (c :: p) :: ps

theorem pieces_ne_nil (separator : Char) (t : Text) : pieces separator t ≠ [] := by
  cases t with
  | nil => simp [pieces]
  | cons c rest =>
    unfold pieces
    split
    · simp
    · split <;> simp

def after? : Text → Text → Option Text
  | [], t => some t
  | _ :: _, [] => none
  | a :: as, c :: cs => if a = c then after? as cs else none

theorem after?_eq_some_iff {lead t rest : Text} : after? lead t = some rest ↔ t = lead ++ rest := by
  induction lead generalizing t with
  | nil => simp [after?, eq_comm]
  | cons a as ih =>
    cases t with
    | nil => simp [after?]
    | cons c cs =>
      by_cases h : a = c
      · subst h
        simp [after?, ih]
      · simp only [after?, h, if_false, List.cons_append, List.cons.injEq, reduceCtorEq, false_iff]
        exact fun hc => h hc.1.symm

def startsWith (lead t : Text) : Bool := (after? lead t).isSome

def endsWith (tail t : Text) : Bool := startsWith tail.reverse t.reverse

/-- Everything up to the last occurrence of a character, and everything after it. Without an
occurrence the first part is `none`. -/
def splitLast (mark : Char) (t : Text) : Option Text × Text :=
  let tail := (t.reverse.takeWhile (· ≠ mark)).reverse
  match t.reverse.dropWhile (· ≠ mark) with
  | [] => (none, tail)
  | _ :: lead => (some lead.reverse, tail)

def hexValue? (c : Char) : Option Nat :=
  if '0' ≤ c && c ≤ '9' then some (c.toNat - 48)
  else if 'a' ≤ c && c ≤ 'f' then some (c.toNat - 87)
  else if 'A' ≤ c && c ≤ 'F' then some (c.toNat - 55)
  else none

def hexNumber? (n : Nat) : Text → Option Nat
  | [] => some n
  | c :: rest =>
    match hexValue? c with
    | some d => hexNumber? (16 * n + d) rest
    | none => none

def inRanges : List (Nat × Nat) → Nat → Bool
  | [], _ => false
  | (first, last) :: rest, n => if n < first then false else n ≤ last || inRanges rest n

end Text

end VocabBindings
