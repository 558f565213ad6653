import VocabBindings.Rdf.Turtle.Literal
import VocabBindings.Text.Lowercase

/-!
Tokens of Turtle. What a piece of text is depends on the place where it stands: a dot may end a
statement or start a number, and a word may be a keyword. A piece that is no token carries its
fault. The end of the text is of two kinds: right behind a term, or behind anything else.
-/

set_option autoImplicit false

namespace VocabBindings.Rdf.Turtle

/-- The language that a text is written in. Of Notation 3 only what it shares with Turtle is
read. -/
inductive Dialect where
  | turtle
  | n3
  deriving DecidableEq

inductive Place where
  | statement
  | scope
  | reference
  | verb
  | term
  | stop
  deriving DecidableEq

/-- A token. A declaration that an at sign starts is dotted: it ends in a dot. -/
inductive Token where
  | reference (r : Reference)
  | literal (w : Written)
  | typeWord
  | declareScope (dotted : Bool)
  | declareBase (dotted : Bool)
  | dot
  | semicolon
  | comma
  | openBracket
  | closeBracket
  | openList
  | closeList
  | faulty (f : Fault)
  | cut
  | finish
  deriving DecidableEq

def Token.isOpenEnded : Token → Bool
  | reference _ => true
  | literal _ => true
  | typeWord => true
  | declareScope _ => true
  | declareBase _ => true
  | closeBracket => true
  | openList => true
  | closeList => true
  | _ => false

def punctuation? (c : Char) : Option Token :=
  match c with
  | '.' => some .dot
  | ';' => some .semicolon
  | ',' => some .comma
  | '[' => some .openBracket
  | ']' => some .closeBracket
  | '(' => some .openList
  | ')' => some .closeList
  | _ => none

def stop (t : Text) : Token × Nat := ((t.head?.bind punctuation?).getD (.faulty .malformed), 1)

def keyword (t : Text) : Text := t.takeWhile fun c => c ≠ '.' && isPartCharacter c

def goingOn (t : Text) (tok : Token) (n : Nat) : Token × Nat :=
  (if t.length ≤ n then .faulty .endsEarly else tok, n)

/-- The token of a keyword at the start of a text, where each of some words has a meaning. An at
sign may stand in front of it. -/
def keyword? (meanings : List (String × Token)) (t : Text) : Option (Token × Nat) :=
  let mark := (t.takeWhile (· = '@')).take 1
  let word := keyword (t.drop mark.length)
  (meanings.lookup (String.ofList word)).map fun tok => goingOn t tok (mark.length + word.length)

def termWords : List (String × Token) :=
  [("this", .faulty .malformed), ("true", .literal (.named "true".toList "boolean")),
    ("false", .literal (.named "false".toList "boolean"))]

def verbWords : List (String × Token) :=
  [("has", .faulty .malformed), ("is", .faulty .malformed), ("a", .typeWord)]

def Dialect.opensText (d : Dialect) (c : Char) : Bool := c = '"' || (d = .turtle && c = '\x27')

def quoted (quote : Char) (rest : Text) : Token × Nat :=
  match takeQuoted quote rest with
  | .ok (w, after) => (.literal w, 1 + (rest.length - after.length))
  | .error f => (.faulty f, 1)

def ofReading (reading : Except Fault (Option (Reference × Nat))) : Option (Token × Nat) :=
  match reading with
  | .ok none => none
  | .ok (some (r, n)) => some (.reference r, n)
  | .error f => some (.faulty f, 1)

def numberToken? (t : Text) : Option (Token × Nat) :=
  (number? t).map fun p =>
    match p.1 with
    | .ok w => (.literal w, p.2)
    | .error f => (.faulty f, p.2)

def term (d : Dialect) (t : Text) : Token × Nat :=
  match t.head?.map d.opensText with
  | some true => quoted (t.head?.getD '"') t.tail
  | _ =>
    (((keyword? termWords t).or (ofReading (reference? t))).or (numberToken? t)).getD (stop t)

def verb (d : Dialect) (t : Text) : Token × Nat :=
  match keyword? verbWords t with
  | some found => found
  | none =>
    if Text.startsWith "<=".toList t || Text.startsWith ":-".toList t then (.faulty .malformed, 2)
    else term d t

/-- Declarations without an at sign. They are words in capital or small letters, in front of a
character that ends a name. -/
def plainDeclaration? (t : Text) : Option (Token × Nat) :=
  let named (word : String) (tok : Token) : Option (Token × Nat) :=
    let n := word.length
    let ends := ((t.drop n).head?.map nameEnds.contains).getD true
    if Text.lower (t.take n) = word.toList && ends then some (goingOn t tok n) else none
  (named "prefix" (.declareScope false)).or (named "base" (.declareBase false))

def declarationWidth : Nat := 7

/-- The declaration behind an at sign. A colon may follow the word of a scope at once, and in front
of a colon any six characters are taken for that word. -/
def markedDeclaration? (rest : Text) : Option (Token × Nat) :=
  let word := keyword rest
  if ["bind", "keywords", "forAll", "forSome"].contains (String.ofList word) then
    some (goingOn rest (.faulty .malformed) word.length)
  else if rest.length < declarationWidth then some (.faulty .endsEarly, 1)
  else if word = "prefix".toList || (rest.drop 6).head? = some ':' then
    some (.declareScope true, 7)
  else if word = "base".toList then some (.declareBase true, 5)
  else none

def statement (d : Dialect) (t : Text) : Token × Nat :=
  let plain := if d = .turtle then plainDeclaration? t else none
  let marked :=
    match t with
    | '@' :: rest => markedDeclaration? rest
    | _ => keyword? [("bind", .faulty .malformed)] t
  (plain.or marked).getD (term d t)

def token (d : Dialect) (place : Place) (t : Text) : Token × Nat :=
  match place with
  | .statement => statement d t
  | .scope => (ofReading (name? t)).getD (.faulty .malformed, 1)
  | .reference => (ofReading (reference? t)).getD (.faulty .malformed, 1)
  | .verb => verb d t
  | .term => term d t
  | .stop => stop t

end VocabBindings.Rdf.Turtle
