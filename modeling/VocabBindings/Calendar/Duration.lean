import VocabBindings.Calendar.Clock

/-!
Durations. A written duration names years, months, weeks and days, and behind a mark hours, minutes
and seconds, each of them with a decimal fraction or not. It is written out without weeks and with
no more months, hours, minutes or seconds than the next greater part leaves to them.
-/

set_option autoImplicit false

namespace VocabBindings.Calendar

/-- A decimal number: its digits as one number, and how many of them are behind the point. -/
structure Quantity where
  digits : Nat := 0
  places : Nat := 0
  deriving DecidableEq

namespace Quantity

def atPlaces (q : Quantity) (places : Nat) : Nat := q.digits * Nat.pow 10 (places - q.places)

def textOf (digits places : Nat) : Text :=
  Text.ofNat (digits / Nat.pow 10 places) ++
    if places = 0 then [] else '.' :: padded places (digits % Nat.pow 10 places)

/-- A number times a natural one, rounded to a natural one, a tie going to the even one. -/
def roundedTimes (q : Quantity) (n : Nat) : Nat :=
  Binary64.roundHalfEven (q.digits * n) (Nat.pow 10 q.places)

/-- The number that a text starts with in front of its unit, and the rest. Without the unit it is
not there. -/
def take (unit : Char) (t : Text) : Quantity × Text :=
  let whole := t.takeWhile Char.isDigit
  let (fraction, rest) : Text × Text :=
    match t.drop whole.length with
    | [] => ([], [])
    | c :: rest =>
      let digits := rest.takeWhile Char.isDigit
      if (c = '.' || c = ',') && digits ≠ [] then (digits, rest.drop digits.length)
      else ([], c :: rest)
  match rest with
  | c :: rest =>
    if whole ≠ [] && c = unit then (⟨Numeral.valueOf (whole ++ fraction), fraction.length⟩, rest)
    else ({}, t)
  | [] => ({}, t)

end Quantity

structure Duration where
  negative : Bool
  months : Nat
  places : Nat
  micro : Nat
  deriving DecidableEq

namespace Duration

def second : Nat := 1000000

def day : Nat := 86400 * second

def dayLimit : Nat := 999999999

def ofParts (negative : Bool) (years months weeks days hours minutes seconds : Quantity) :
    Option Duration :=
  let places := max years.places months.places
  let micro :=
    weeks.roundedTimes (7 * day) + days.roundedTimes day + hours.roundedTimes (3600 * second) +
      minutes.roundedTimes (60 * second) + seconds.roundedTimes second
  if dayLimit < micro / day then none
  else some ⟨negative, 12 * years.atPlaces places + months.atPlaces places, places, micro⟩

def isEnd (t : Text) : Bool := t = [] || t = ['\n']

def ofUnits (negative : Bool) (t : Text) : Option Duration :=
  let (years, rest) := Quantity.take 'Y' t
  let (months, rest) := Quantity.take 'M' rest
  let (weeks, rest) := Quantity.take 'W' rest
  let (days, rest) := Quantity.take 'D' rest
  if isEnd t then none
  else
    match rest with
    | 'T' :: rest =>
      let (hours, rest) := Quantity.take 'H' rest
      let (minutes, rest) := Quantity.take 'M' rest
      let (seconds, rest) := Quantity.take 'S' rest
      if isEnd rest then ofParts negative years months weeks days hours minutes seconds else none
    | rest => if isEnd rest then ofParts negative years months weeks days {} {} {} else none

/-- The duration that a text writes behind its mark like a date and a time. -/
def ofDateTime (t : Text) : Option Duration :=
  (DateTime.ofText t).map fun d =>
    let c := d.time.clock
    ⟨false, 12 * d.date.year + d.date.month, 0,
      d.date.day * day + (3600 * c.hour + 60 * c.minute + c.second) * second + c.micro⟩

def ofText : Text → Option Duration
  | '-' :: 'P' :: rest => ofUnits true rest
  | '+' :: 'P' :: rest => ofUnits false rest
  | 'P' :: rest => (ofUnits false rest).or (ofDateTime rest)
  | _ => none

def partText (unit : Char) (n : Nat) : Text := if n = 0 then [] else Text.ofNat n ++ [unit]

def secondText (seconds micro : Nat) : Text :=
  if micro = 0 then partText 'S' seconds
  else
    Text.ofNat seconds ++ '.' :: ((padded 6 micro).reverse.dropWhile (· = '0')).reverse ++ ['S']

def text (d : Duration) : Text :=
  let yearSize := 12 * Nat.pow 10 d.places
  let seconds := d.micro / second
  let months :=
    partText 'Y' (d.months / yearSize) ++
      if d.months % yearSize = 0 then []
      else Quantity.textOf (d.months % yearSize) d.places ++ ['M']
  let clock :=
    partText 'H' (seconds / 3600 % 24) ++ partText 'M' (seconds / 60 % 60) ++
      secondText (seconds % 60) (d.micro % second)
  let parts :=
    months ++ partText 'D' (d.micro / day) ++ if clock = [] then [] else 'T' :: clock
  let isZero := d.months = 0 && d.micro = 0
  (if d.negative && !isZero then ['-'] else []) ++ 'P' :: if isZero then "0D".toList else parts

end Duration

end VocabBindings.Calendar
