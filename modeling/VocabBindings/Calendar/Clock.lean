import VocabBindings.Calendar.Date

/-!
Times of a day. A written time has up to three pairs of digits, with colons between them or without
any, and a fraction behind the last pair; a time zone may follow. It is written out with all three
pairs.
-/

set_option autoImplicit false

namespace VocabBindings.Calendar

structure Clock where
  hour : Nat
  minute : Nat
  second : Nat
  micro : Nat
  deriving DecidableEq

/-- How pairs of digits end: with the text, with a character of ASCII too much, or with the digits
of a fraction. -/
inductive PairsEnd where
  | done
  | excess
  | fraction (digits : Text)

/-- The pairs of digits that a text starts with, at most so many, and how they end. What follows the
first pair says whether colons stand between pairs. -/
def takePairs (colons : Option Bool) : Nat → Text → Option (List Nat × PairsEnd)
  | 0, t => some ([], .fraction t)
  | count + 1, t =>
    match takeDigits 2 t with
    | none => none
    | some (n, []) => some ([n], .done)
    | some (n, [c]) => if c.toNat < 0x80 then some ([n], .excess) else none
    | some (n, c :: rest) =>
      let separated := colons.getD (c = ':')
      if separated && c = ':' then (takePairs (some true) count rest).map fun p => (n :: p.1, p.2)
      else if c = '.' || c = ',' then some ([n], .fraction rest)
      else if separated then none
      else (takePairs (some false) count (c :: rest)).map fun p => (n :: p.1, p.2)

def fractionLength : Nat := 6

def fractionOf (t : Text) : Option (Nat × Bool) :=
  let digits := t.take fractionLength
  if digits.all Char.isDigit then
    some (Numeral.valueOf digits * Nat.pow 10 (fractionLength - digits.length),
      (t.drop fractionLength).all Char.isDigit)
  else none

namespace Clock

def read (t : Text) : Option (Clock × Bool) := do
  let (pairs, ending) ← takePairs none 3 t
  let (micro, isWhole) ←
    match ending with
    | .done => some (0, true)
    | .excess => some (0, false)
    | .fraction digits => fractionOf digits
  let part (n : Nat) : Nat := (pairs[n]?).getD 0
  some (⟨part 0, part 1, part 2, micro⟩, isWhole)

def isValid (c : Clock) : Bool := c.hour < 24 && c.minute < 60 && c.second < 60

def fractionText (micro : Nat) : Text := if micro = 0 then [] else '.' :: padded 6 micro

def text (c : Clock) : Text :=
  padded 2 c.hour ++ ':' :: padded 2 c.minute ++ ':' :: padded 2 c.second ++ fractionText c.micro

end Clock

structure Offset where
  west : Bool
  second : Nat
  micro : Nat
  deriving DecidableEq

namespace Offset

def limit : Nat := 86400

/-- The offset that a clock stands for. Less than a second is none. -/
def ofClock (west : Bool) (c : Clock) : Option Offset :=
  let second := 3600 * c.hour + 60 * c.minute + c.second
  if second = 0 then some ⟨false, 0, 0⟩
  else if limit ≤ second then none
  else some ⟨west, second, c.micro⟩

def ofText : Text → Option Offset
  | ['Z'] => some ⟨false, 0, 0⟩
  | sign :: rest =>
    if sign = 'Z' then none
    else
      match Clock.read rest with
      | some (c, true) => ofClock (sign = '-') c
      | _ => none
  | [] => none

def text (o : Offset) : Text :=
  (if o.west then '-' else '+') :: padded 2 (o.second / 3600) ++
    ':' :: padded 2 (o.second / 60 % 60) ++
    if o.second % 60 = 0 && o.micro = 0 then []
    else ':' :: padded 2 (o.second % 60) ++ Clock.fractionText o.micro

end Offset

structure Time where
  clock : Clock
  offset : Option Offset
  deriving DecidableEq

namespace Time

def startsZone (c : Char) : Bool := c = '+' || c = '-' || c = 'Z'

def ofText (t : Text) : Option Time := do
  let written := t.takeWhile fun c => !startsZone c
  let (clock, isWhole) ← Clock.read written
  let offset ←
    match t.drop written.length with
    | [] => if isWhole then some none else none
    | zone => (Offset.ofText zone).map some
  if clock.isValid then some ⟨clock, offset⟩ else none

def ofMarkedText : Text → Option Time
  | 'T' :: rest => ofText rest
  | t => ofText t

def text (t : Time) : Text := t.clock.text ++ (t.offset.map Offset.text).getD []

end Time

structure DateTime where
  date : Date
  time : Time
  deriving DecidableEq

namespace DateTime

/-- The length of the date at the start of a text of more than seven characters. Behind a week,
digits up to an odd length start with a day of the week. -/
def dateLength (t : Text) : Option Nat :=
  let isDigitAt (n : Nat) : Bool := ((t[n]?).map Char.isDigit).getD false
  let digits := ((t.drop 7).takeWhile Char.isDigit).length
  if t.length = 7 then some 7
  else if t[4]? = some '-' then
    if t[5]? ≠ some 'W' then some 10
    else if t[8]? ≠ some '-' then some 8
    else if t.length = 9 then none
    else some (if isDigitAt 10 then 8 else 10)
  else if t[4]? ≠ some 'W' then some 8
  else if digits < 2 then some (7 + digits)
  else some (if digits % 2 = 1 then 7 else 8)

def midnight : Time := ⟨⟨0, 0, 0, 0⟩, none⟩

/-- The date and the time that a text writes, with any character between them. -/
def ofText (t : Text) : Option DateTime := do
  if t.length < 7 then none
  let length ← dateLength t
  let date ← Date.ofText (t.take length)
  let time ←
    match t.drop length with
    | [] => some midnight
    | _ :: rest => Time.ofText rest
  some ⟨date, time⟩

def text (d : DateTime) : Text := d.date.text ++ 'T' :: d.time.text

end DateTime

end VocabBindings.Calendar
