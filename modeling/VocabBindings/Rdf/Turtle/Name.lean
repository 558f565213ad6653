import VocabBindings.Rdf.Lexical

/-!
How Turtle names things: an IRI between angle brackets, or a name in a scope, with a colon between
the scope and the part. Some characters end a name and stand for something else behind it.
-/

set_option autoImplicit false

namespace VocabBindings.Rdf.Turtle

inductive Reference where
  | iri (t : Text)
  | name (scope part : Text)
  deriving DecidableEq

def nameEnds : Text := "\t\r\n !\"#$&\x27()*+,/;<=>?@[\\]^`\x7b|\x7d~".toList

def isPartCharacter (c : Char) : Bool := !nameEnds.contains c

def isScopeCharacter (c : Char) : Bool := c ≠ ':' && isPartCharacter c

def partEscapes : Text := "(_~.-!$&\x27()*+,;=/?#@%)".toList

def startsNumber (c : Char) : Bool := Char.isDigit c || c = '-' || c = '+' || c = '.'

def percentFault? : Text → Option Fault
  | [] => some .endsEarly
  | c :: rest =>
    if (Text.hexValue? c).isNone then some .malformed
    else
      match rest with
      | [] => some .endsEarly
      | d :: _ => if (Text.hexValue? d).isNone then some .malformed else none

def partFrom (isPart : Char → Bool) : Text → Except Fault (Text × Nat)
  | [] => .ok ([], 0)
  | ['\\'] => .error .malformed
  | '\\' :: c :: rest =>
    if partEscapes.contains c then (partFrom isPart rest).map fun p => (c :: p.1, p.2 + 2)
    else .error .malformed
  | c :: rest =>
    if !isPart c then .ok ([], 0)
    else
      match if c = '%' then percentFault? rest else none with
      | some f => .error f
      | none => (partFrom isPart rest).map fun p => (c :: p.1, p.2 + 1)

/-- The part of a name behind its colon. The labels of blank nodes hold no further colon. A dot at
the end belongs to what follows. -/
def takePart (scope rest : Text) : Except Fault (Text × Nat) :=
  (partFrom (if scope = ['_'] then isScopeCharacter else isPartCharacter) rest).map fun p =>
    if p.1.getLast? = some '.' then (p.1.dropLast, p.2 - 1) else p

def name? (t : Text) : Except Fault (Option (Reference × Nat)) :=
  let scope := t.takeWhile isScopeCharacter
  if (t.head?.map startsNumber).getD false || scope.getLast? = some '.' then .ok none
  else
    match t.drop scope.length with
    | ':' :: rest =>
      (takePart scope rest).map fun p => some (.name scope p.1, scope.length + 1 + p.2)
    | _ => .ok none

def iriEscapes (letter : Char) : Escapes where
  letters := [letter]
  fault _ := .brokenIri

def iri? : Text → Except Fault (Option (Reference × Nat))
  | '<' :: rest =>
    let written := rest.takeWhile (· ≠ '>')
    if rest.length = written.length then .error .malformed
    else do
      let iri ← (iriEscapes 'u').replaced (← (iriEscapes 'U').replaced written)
      .ok (some (.iri iri, written.length + 2))
  | _ => .ok none

def reference? (t : Text) : Except Fault (Option (Reference × Nat)) := do
  match ← name? t with
  | some found => .ok (some found)
  | none => iri? t

end VocabBindings.Rdf.Turtle
