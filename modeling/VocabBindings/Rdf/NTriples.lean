import VocabBindings.Rdf.Datatype
import VocabBindings.Rdf.Lexical
import VocabBindings.Text.Lines
import VocabBindings.Text.Utf8

/-!
Reading N-Triples. A line holds one triple or none; spaces and tabs stand between terms. A text
without its last line feed has a last line if something stands there. The bytes are read in blocks,
so that triples come before bytes that are no encoding only if they stand in an earlier block.
-/

set_option autoImplicit false

namespace VocabBindings.Rdf.NTriples

def skipSpaces (t : Text) : Text := t.dropWhile fun c => c = ' ' || c = '\t'

def takeSpaces (t : Text) : Except Fault Text :=
  if (skipSpaces t).length = t.length then .error .malformed else .ok (skipSpaces t)

def shortEscape? (c : Char) : Option Char :=
  match c with
  | 't' => some '\t'
  | 'b' => some '\x08'
  | 'n' => some '\n'
  | 'r' => some '\r'
  | 'f' => some '\x0c'
  | '"' => some '"'
  | '\x27' => some '\x27'
  | '\\' => some '\\'
  | _ => none

def escapes : Escapes where
  short := shortEscape?
  letters := ['u', 'U']
  fault code := if lastWord < code then .codeTooGreat else .noValue

def isIriCharacter (c : Char) : Bool := !Text.isBlank c && c ≠ '"' && c ≠ '<' && c ≠ '>'

def writtenIri? (t : Text) : Option (Text × Text) :=
  let scheme := t.takeWhile (· ≠ ':')
  let tail := (t.drop (scheme.length + 1)).takeWhile isIriCharacter
  let length := scheme.length + 1 + tail.length
  match t.drop length with
  | '>' :: rest => if scheme = [] then none else some (t.take length, rest)
  | _ => none

def takeIri (t : Text) : Except Fault (Text × Text) :=
  match writtenIri? t with
  | some (written, rest) => (escapes.replaced written).map fun iri => (iri, rest)
  | none => .error .malformed

def isLabelStart (c : Char) : Bool := isTagCharacter c || c = '_' || c = ':'

def isLabelCharacter (c : Char) : Bool := isLabelStart c || c = '-' || c = '.'

/-- The label of a blank node, whose underscore is already read, and the rest. It does not end in a
dot. -/
def takeLabel : Text → Except Fault (Text × Text)
  | ':' :: c :: rest =>
    if isLabelStart c then
      let run := rest.takeWhile isLabelCharacter
      let label := c :: (run.reverse.dropWhile (· = '.')).reverse
      .ok (label, (c :: rest).drop label.length)
    else .error .malformed
  | _ => .error .malformed

def takeQuoted : Text → Option (Text × Text)
  | [] => none
  | '"' :: rest => some ([], rest)
  | ['\\'] => none
  | '\\' :: c :: rest => (takeQuoted rest).map fun (written, rest) => ('\\' :: c :: written, rest)
  | c :: rest => (takeQuoted rest).map fun (written, rest) => (c :: written, rest)

def takeSuffix : Text → Option Text × Option Text × Text
  | '@' :: rest =>
    match languageTag? rest with
    | some (tag, rest) => (some tag, none, rest)
    | none => (none, none, '@' :: rest)
  | '^' :: '^' :: '<' :: rest =>
    match writtenIri? rest with
    | some (written, rest) => (none, some written, rest)
    | none => (none, none, "^^<".toList ++ rest)
  | rest => (none, none, rest)

def takeLiteral (t : Text) : Except Fault (Term × Text) :=
  match takeQuoted t with
  | none => .error .malformed
  | some (written, rest) => do
    let (language, datatype, rest) := takeSuffix rest
    let datatype ←
      match datatype with
      | some iri => (escapes.replaced iri).map some
      | none => .ok none
    let content ← escapes.replaced written
    .ok (.ofWritten content language datatype, rest)

def takeSubject : Text → Except Fault (Term × Text)
  | '<' :: rest => (takeIri rest).map fun p => (.iri p.1, p.2)
  | '_' :: rest => (takeLabel rest).map fun p => (.blank p.1, p.2)
  | _ => .error .malformed

def takePredicate : Text → Except Fault (Term × Text)
  | '<' :: rest => (takeIri rest).map fun p => (.iri p.1, p.2)
  | _ => .error .malformed

def takeObject : Text → Except Fault (Term × Text)
  | '"' :: rest => takeLiteral rest
  | t => takeSubject t

def isEnd (t : Text) : Bool :=
  match skipSpaces t with
  | '.' :: rest =>
    match skipSpaces rest with
    | [] => true
    | c :: _ => c = '#'
  | _ => false

def triple (line : Text) : Except Fault Triple := do
  let (subject, rest) ← takeSubject line
  let (predicate, rest) ← takePredicate (← takeSpaces rest)
  let (object, rest) ← takeObject (← takeSpaces rest)
  if isEnd rest then .ok ⟨subject, predicate, object⟩ else .error .malformed

def triples : List Text → Except Fault (List Triple)
  | [] => .ok []
  | line :: rest =>
    match skipSpaces line with
    | [] => triples rest
    | c :: content =>
      if c = '#' then triples rest
      else
        match triple (c :: content) with
        | .error e => .error e
        | .ok first => (triples rest).map (first :: ·)

def blockSize : Nat := 2048

def textBefore (bytes : Bytes) (position : Nat) : Text :=
  let t := Text.decodeBefore (bytes.take (position / blockSize * blockSize))
  t.take (t.length / blockSize * blockSize)

/-- The position of the byte that shows that bytes are no encoding. The first two bytes of half a
surrogate pair do not yet show it. -/
def faultPosition (bytes : Bytes) (e : Text.DecodeError) : Nat :=
  match e.fault, bytes.drop e.position with
  | .invalidStart, _ => e.position
  | .unexpectedEnd, _ => bytes.length
  | .invalidContinuation, first :: second :: _ =>
    e.position + (if first = 0xED && Text.isContinuation second then 2 else e.count)
  | .invalidContinuation, _ => e.position + e.count

/-- The lines of bytes, and whether bytes that are no encoding follow them. Bytes at the end that
only start a character do not count. -/
def linesOf (bytes : Bytes) : List Text × Bool :=
  let pieces (t : Text) : List Text := Text.pieces '\n' (Text.withLineFeeds t)
  let whole (t : Text) : List Text × Bool :=
    let ps := pieces t
    (if Text.isAllBlank (ps.getLast?.getD []) then ps.dropLast else ps, false)
  match Text.decode bytes with
  | .ok t => whole t
  | .error e =>
    let position := faultPosition bytes e
    if bytes.length ≤ position then whole (Text.decodeBefore bytes)
    else ((pieces (textBefore bytes position)).dropLast, true)

def read (bytes : Bytes) : Except Fault Graph :=
  let (lines, isBroken) := linesOf bytes
  match triples lines with
  | .error e => .error e
  | .ok found => if isBroken then .error .encoding else .ok (Graph.ofList found)

end VocabBindings.Rdf.NTriples
