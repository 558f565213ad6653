import VocabBindings.Calendar.Duration
import VocabBindings.Decimal.Shortest
import VocabBindings.Rdf.Graph
import VocabBindings.Text.Base64

/-!
Datatypes. A text that writes a value of its datatype is kept in the one form of that value; a text
that writes none, and a text of any other datatype, is kept as it is.
-/

set_option autoImplicit false

namespace VocabBindings.Rdf

namespace Datatype

def space : Text := "http://www.w3.org/2001/XMLSchema#".toList

def named (name : String) : Text := space ++ name.toList

def integerNames : List Text :=
  ["integer", "nonPositiveInteger", "long", "nonNegativeInteger", "negativeInteger", "int",
    "unsignedLong", "positiveInteger", "short", "unsignedInt", "byte", "unsignedShort",
    "unsignedByte"].map String.toList

def durationNames : List Text :=
  ["duration", "dayTimeDuration", "yearMonthDuration"].map String.toList

def booleanForm (t : Text) : Text :=
  if ["1".toList, "true".toList].contains (Text.lower t) then "true".toList else "false".toList

def withoutZoneMark (t : Text) : Text :=
  if t.getLast? = some 'Z' || t.getLast? = some 'z' then t.dropLast else t

/-- The text up to the last plus sign, or else up to the last hyphen if there are more hyphens than
a number. -/
def withoutZone (hyphens : Nat) (t : Text) : Text :=
  match Text.splitLast '+' t with
  | (some (c :: lead), _) => c :: lead
  | _ => if hyphens < t.count '-' then ((Text.splitLast '-' t).1).getD t else t

/-- The form of a date. A time zone or a time behind it is dropped. -/
def dateForm? (t : Text) : Option Text :=
  let t := withoutZoneMark t
  let t := if t.contains 'T' then t.takeWhile (· ≠ 'T') else withoutZone 2 t
  if t.head? = some '-' || t.count '-' < 2 || !Calendar.Date.lengths.contains t.length then none
  else (Calendar.Date.ofText t).map Calendar.Date.text

def year? (t : Text) : Option Nat :=
  if t.length < 4 then none
  else
    match Numeral.integer? t with
    | some (.ofNat n) => if 1 ≤ n && n ≤ Calendar.lastYear then some n else none
    | _ => none

def yearForm? (t : Text) : Option Text :=
  (year? (withoutZone 0 (withoutZoneMark t))).map (Calendar.padded 4)

def yearMonthForm? (t : Text) : Option Text := do
  let t := withoutZone 1 (withoutZoneMark t)
  let written := t.takeWhile (· ≠ '-')
  let year ← year? written
  match Numeral.integer? (t.drop (written.length + 1)) with
  | some (.ofNat month) =>
    if 1 ≤ month && month ≤ 12 then
      some (Calendar.padded 4 year ++ '-' :: Calendar.padded 2 month)
    else none
  | _ => none

def hexForm? (t : Text) : Option Text :=
  if t.length % 2 = 0 && t.all (fun c => (Text.hexValue? c).isSome) then some (t.map Char.toLower)
  else none

def withSpaces (t : Text) : Text :=
  t.map fun c => if c = '\t' || c = '\n' || c = '\r' then ' ' else c

def collapsed : Text → Text
  | [] => []
  | [c] => [c]
  | c :: d :: rest =>
    if c = ' ' && d = ' ' then collapsed (d :: rest) else c :: collapsed (d :: rest)

def form? (name t : Text) : Option Text :=
  if integerNames.contains name then (Numeral.integer? t).map Text.ofInt
  else if durationNames.contains name then (Calendar.Duration.ofText t).map Calendar.Duration.text
  else
    match String.ofList name with
    | "float" => (Numeral.binary? t).map Binary64.text
    | "double" => (Numeral.binary? t).map Binary64.text
    | "decimal" => Numeral.decimalText? t
    | "boolean" => some (booleanForm t)
    | "time" => (Calendar.Time.ofMarkedText t).map Calendar.Time.text
    | "dateTime" => (Calendar.DateTime.ofText t).map Calendar.DateTime.text
    | "date" => dateForm? t
    | "gYear" => yearForm? t
    | "gYearMonth" => yearMonthForm? t
    | "hexBinary" => hexForm? t
    | "base64Binary" => Text.Base64.canonical? t
    | "normalizedString" => some (withSpaces t)
    | "token" => some (collapsed (Text.trim (withSpaces t)))
    | _ => none

def canonical (datatype t : Text) : Text :=
  match Text.after? space datatype with
  | some name => (form? name t).getD t
  | none => t

end Datatype

/-- The literal of a written text. With a datatype it has the form of its value and no language. -/
def Term.ofWritten (t : Text) (language datatype : Option Text) : Term :=
  match datatype with
  | some d => .literal (Datatype.canonical d t) none (some d)
  | none => .literal t language none

end VocabBindings.Rdf
