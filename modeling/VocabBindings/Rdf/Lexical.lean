import VocabBindings.Text.Basic

/-!
What the written forms of RDF share: language tags and the escapes of characters.
-/

set_option autoImplicit false

namespace VocabBindings.Rdf

/-- Why a text is no graph: it is not formed like one, it writes a value that there is not, its
bytes are no encoding, it escapes a code that no machine word holds, an IRI in it escapes a code
that is no code point, or IRIs are relative to an address with a fragment. The last two cases are
special ends of a text: right behind a term, and inside a quoted text after plain characters. -/
inductive Fault where
  | malformed
  | noValue
  | encoding
  | codeTooGreat
  | brokenIri
  | fragmentBase
  | endsEarly
  | unclosedText
  deriving DecidableEq

def isTagLetter (c : Char) : Bool := ('a' ≤ c && c ≤ 'z') || ('A' ≤ c && c ≤ 'Z')

def isTagCharacter (c : Char) : Bool := isTagLetter c || ('0' ≤ c && c ≤ '9')

def subtagsLength : Bool → Text → Nat
  | _, [] => 0
  | inside, c :: rest =>
    if inside && isTagCharacter c then 1 + subtagsLength true rest
    else if c = '-' && (rest.head?.map isTagCharacter).getD false then 1 + subtagsLength true rest
    else 0

def tagOf? (inFirst : Char → Bool) (t : Text) : Option (Text × Text) :=
  let first := t.takeWhile inFirst
  if first = [] then none
  else
    let length := first.length + subtagsLength false (t.drop first.length)
    some (t.take length, t.drop length)

def languageTag? (t : Text) : Option (Text × Text) := tagOf? isTagLetter t

/-- Whether a text is a language tag. A line feed may follow it. -/
def isLanguageTag (t : Text) : Bool :=
  match languageTag? t with
  | some (_, rest) => rest = [] || rest = ['\n']
  | none => false

def lastCodePoint : Nat := 0x10FFFF

def lastWord : Nat := 0x7FFFFFFF

def charAt? (code : Nat) : Option Char :=
  if lastCodePoint < code then none
  else if 0xD800 ≤ code && code < 0xE000 then some '\uFFFD'
  else some (Char.ofNat code)

def codeDigits? (letter : Char) : Option Nat :=
  if letter = 'u' then some 4 else if letter = 'U' then some 8 else none

/-- The code that follows a backslash, if all its digits are there, and the number of its
characters. -/
def code? : Text → Option (Nat × Nat)
  | [] => none
  | letter :: rest =>
    match codeDigits? letter with
    | none => none
    | some n =>
      if rest.length < n then none
      else (Text.hexNumber? 0 (rest.take n)).map fun code => (code, n + 1)

/-- Which escapes a text may have: those of one character, and the letters of code escapes; and what
is wrong with a code that is no code point. -/
structure Escapes where
  short : Char → Option Char := fun _ => none
  letters : Text
  fault : Nat → Fault

/-- Replaces the escapes in a text. A backslash that starts no escape stays. The number counts the
characters of an escape already replaced. -/
def Escapes.replacedFrom (e : Escapes) : Nat → Text → Except Fault Text
  | _, [] => .ok []
  | covered + 1, _ :: rest => e.replacedFrom covered rest
  | 0, c :: rest =>
    let code := if e.letters.contains (rest.head?.getD ' ') then code? rest else none
    if c ≠ '\\' then (e.replacedFrom 0 rest).map (c :: ·)
    else
      match rest.head?.bind e.short, code with
      | some d, _ => (e.replacedFrom 1 rest).map (d :: ·)
      | none, some (code, n) =>
        match charAt? code with
        | some d => (e.replacedFrom n rest).map (d :: ·)
        | none => .error (e.fault code)
      | none, none => (e.replacedFrom 0 rest).map (c :: ·)

def Escapes.replaced (e : Escapes) (t : Text) : Except Fault Text := e.replacedFrom 0 t

end VocabBindings.Rdf
