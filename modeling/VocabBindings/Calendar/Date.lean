import VocabBindings.Decimal.Numeral

/-!
Calendar dates. A written date names a month and a day, or a week and a day of the week, with
hyphens between its parts or without any. It is written out with month and day.
-/

set_option autoImplicit false

namespace VocabBindings.Calendar

def takeDigits (count : Nat) (t : Text) : Option (Nat × Text) :=
  let digits := t.take count
  if digits.length = count && digits.all Char.isDigit then
    some (Numeral.valueOf digits, t.drop count)
  else none

def padded (length n : Nat) : Text :=
  let digits := Text.ofNat n
  List.replicate (length - digits.length) '0' ++ digits

/-- A date. Months and days are counted from one. -/
structure Date where
  year : Nat
  month : Nat
  day : Nat
  deriving DecidableEq

def isLeap (year : Nat) : Bool := year % 4 = 0 && (year % 100 ≠ 0 || year % 400 = 0)

def monthLengths (year : Nat) : List Nat :=
  [31, if isLeap year then 29 else 28, 31, 30, 31, 30, 31, 31, 30, 31, 30, 31]

def yearLength (year : Nat) : Nat := (monthLengths year).foldr (· + ·) 0

def lastYear : Nat := 9999

namespace Date

def isValid (d : Date) : Bool :=
  1 ≤ d.year && d.year ≤ lastYear && 1 ≤ d.month && 1 ≤ d.day &&
    d.day ≤ ((monthLengths d.year)[d.month - 1]?).getD 0

def checked (d : Date) : Option Date := if d.isValid then some d else none

def afterMonths (year month days : Nat) : List Nat → Date
  | [] => ⟨year, month, days + 1⟩
  | length :: rest =>
    if days < length then ⟨year, month, days + 1⟩
    else afterMonths year (month + 1) (days - length) rest

/-- The date so many days after the start of a year. It is in that year or one next to it. -/
def ofDayOfYear (year : Nat) (days : Int) : Date :=
  let within (year : Nat) (days : Int) : Date := afterMonths year 1 days.toNat (monthLengths year)
  if days < 0 then within (year - 1) (days + yearLength (year - 1))
  else if days < yearLength year then within year days
  else within (year + 1) (days - yearLength year)

def firstWeekday (year : Nat) : Nat :=
  let before := year - 1
  (365 * before + before / 4 - before / 100 + before / 400) % 7

/-- The number of weeks of a year: those with a Thursday in it. -/
def weekCount (year : Nat) : Nat :=
  if firstWeekday year = 3 || (firstWeekday year = 2 && isLeap year) then 53 else 52

def ofWeek (year week day : Nat) : Option Date :=
  if year = 0 || week = 0 || weekCount year < week || day = 0 || 7 < day then none
  else
    let first : Int := firstWeekday year
    let start : Int := if 3 < first then 7 - first else -first
    some (ofDayOfYear year (start + (week - 1) * 7 + (day - 1)))

def takeHyphen (hyphens : Bool) (t : Text) : Option Text :=
  if hyphens then Text.after? ['-'] t else some t

def ofParts (year : Nat) (hyphens : Bool) (t : Text) : Option Date := do
  match t with
  | 'W' :: t =>
    let (week, rest) ← takeDigits 2 t
    if rest = [] then ofWeek year week 1
    else
      let (day, _) ← takeDigits 1 (← takeHyphen hyphens rest)
      ofWeek year week day
  | t =>
    let (month, rest) ← takeDigits 2 t
    let (day, _) ← takeDigits 2 (← takeHyphen hyphens rest)
    some ⟨year, month, day⟩

/-- The date that a text writes. What follows a whole date is not looked at. -/
def ofText (t : Text) : Option Date := do
  let (year, rest) ← takeDigits 4 t
  let date ←
    match rest with
    | '-' :: rest => ofParts year true rest
    | rest => ofParts year false rest
  date.checked

def lengths : List Nat := [7, 8, 10]

def text (d : Date) : Text :=
  padded 4 d.year ++ '-' :: padded 2 d.month ++ '-' :: padded 2 d.day

end Date

end VocabBindings.Calendar
