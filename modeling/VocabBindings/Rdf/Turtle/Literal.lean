import VocabBindings.Rdf.Datatype
import VocabBindings.Rdf.Turtle.Name

/-!
How Turtle writes literals: a quoted text, which a language or a datatype may follow, and numbers
without quotes.
-/

set_option autoImplicit false

namespace VocabBindings.Rdf.Turtle

structure Written where
  content : Text
  language : Option Text := none
  datatype : Option Reference := none
  deriving DecidableEq

def Written.named (content : Text) (datatype : String) : Written :=
  ⟨content, none, some (.iri (Datatype.named datatype))⟩

def shortEscape? (c : Char) : Option Char :=
  match c with
  | 'a' => some '\x07'
  | 'b' => some '\x08'
  | 'f' => some '\x0c'
  | 'r' => some '\r'
  | 't' => some '\t'
  | 'v' => some '\x0b'
  | 'n' => some '\n'
  | '\\' => some '\\'
  | '"' => some '"'
  | '\x27' => some '\x27'
  | _ => none

/-- What an escape stands for, given what follows its backslash, and the number of the characters it
takes. A code that is not written in digits stands for itself. -/
def escape : Text → Except Fault (Text × Nat)
  | [] => .error .endsEarly
  | c :: rest =>
    match shortEscape? c, codeDigits? c with
    | some d, _ => .ok ([d], 1)
    | none, none => .error .malformed
    | none, some n =>
      if rest.length < n then .error .malformed
      else
        match Text.hexNumber? 0 (rest.take n) with
        | none => .ok ('\\' :: c :: rest.take n, n + 1)
        | some code =>
          match charAt? code with
          | some d => .ok ([d], n + 1)
          | none => .error .malformed

/-- The number of quotes that a long text ends with, at a run of quotes. A short run ends
nothing. -/
def closingQuotes (run : Nat) : Option Nat := if run < 3 then none else some (min run 5)

/-- Reads a quoted text up to its closing quotes: its content and the rest. A long text may hold
line ends and single quotes. The number counts the characters of an escape already read, and the
flag says whether the last character was a plain one. -/
def scanText (quote : Char) (long : Bool) : Nat → Bool → Text → Except Fault (Text × Text)
  | _, plain, [] => .error (if plain then .unclosedText else .malformed)
  | covered + 1, plain, _ :: rest => scanText quote long covered plain rest
  | 0, _, c :: rest =>
    let more (content : Text) (covered : Nat) (plain : Bool) : Except Fault (Text × Text) :=
      (scanText quote long covered plain rest).map fun p => (content ++ p.1, p.2)
    if c = quote then
      if long then
        match closingQuotes (1 + (rest.takeWhile (· = quote)).length) with
        | some n => .ok (List.replicate (n - 3) quote, rest.drop (n - 1))
        | none => more [c] 0 false
      else .ok ([], rest)
    else if c = '\\' then
      match escape rest with
      | .error e => .error e
      | .ok (content, n) => more content n false
    else if c = '\n' || c = '\r' then
      if long then more [c] 0 false else .error .malformed
    else more [c] 0 (c ≠ '"' && c ≠ '\x27')

def takeContent (quote : Char) (rest : Text) : Except Fault (Text × Text) :=
  let long := Text.startsWith [quote, quote] rest
  scanText quote long 0 false (if long then rest.drop 2 else rest)

/-- Whether a character is a blank, given what follows it: a carriage return is one before a line
feed. -/
def isSpace (c : Char) (rest : Text) : Bool :=
  c = ' ' || c = '\t' || c = '\n' || (c = '\r' && rest.head? = some '\n')

def skipBlanks : Bool → Text → Text
  | _, [] => []
  | true, c :: rest => skipBlanks (c ≠ '\n') rest
  | false, c :: rest =>
    if c = '#' then skipBlanks true rest
    else if isSpace c rest then skipBlanks false rest
    else c :: rest

def takeLanguage : Text → Except Fault (Option Text × Text)
  | '@' :: rest =>
    match tagOf? isTagCharacter rest with
    | some (tag, rest) => .ok (some tag, rest)
    | none => .error .malformed
  | rest => .ok (none, rest)

def takeDatatype : Text → Except Fault (Option Reference × Text)
  | '^' :: '^' :: rest => do
    let rest := skipBlanks false rest
    match ← reference? rest with
    | some (datatype, n) => .ok (some datatype, rest.drop n)
    | none => .error .endsEarly
  | rest => .ok (none, rest)

/-- The literal behind an opening quote, and the rest. A language that is none is no fault in front
of a datatype. -/
def takeQuoted (quote : Char) (rest : Text) : Except Fault (Written × Text) := do
  let (content, rest) ← takeContent quote rest
  let (language, rest) ← takeLanguage rest
  let (datatype, rest) ← takeDatatype rest
  if datatype.isNone && !(language.map isLanguageTag).getD true then .error .noValue
  else .ok (⟨content, language, datatype⟩, rest)

def exponentLength : Text → Nat
  | [] => 0
  | c :: rest =>
    let sign := (rest.takeWhile fun c => c = '-' || c = '+').take 1
    let digits := (rest.drop sign.length).takeWhile Char.isDigit
    if (c = 'e' || c = 'E') && digits ≠ [] then 1 + sign.length + digits.length else 0

/-- The number at the start of a text, if there is one, and the number of its characters. A dot
without digits behind it belongs to a number only in front of an exponent. -/
def number? (t : Text) : Option (Except Fault Written × Nat) :=
  let sign := (t.takeWhile fun c => c = '-' || c = '+').take 1
  let whole := (t.drop sign.length).takeWhile Char.isDigit
  let afterWhole := t.drop (sign.length + whole.length)
  let dot := (afterWhole.takeWhile (· = '.')).take 1
  let fraction := (afterWhole.drop dot.length).takeWhile Char.isDigit
  let length := sign.length + whole.length + dot.length + fraction.length
  let exponent := exponentLength (t.drop length)
  if whole = [] && fraction = [] then none
  else if exponent ≠ 0 then
    some (.ok (.named (t.take (length + exponent)) "double"), length + exponent)
  else if fraction ≠ [] then
    let content := t.take length
    some (.ok (.named ((Numeral.roundedText? content).getD content) "decimal"), length)
  else
    let content := sign ++ whole
    let written : Except Fault Written :=
      if Numeral.integerLimit < whole.length then .error .noValue
      else .ok (.named content "integer")
    some (written, content.length)

end VocabBindings.Rdf.Turtle
