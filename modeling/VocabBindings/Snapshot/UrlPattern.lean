import VocabBindings.Text.Layout
import VocabBindings.Text.Quoted

/-!
Patterns for the addresses of snapshots. A field in braces stands for the version, and a doubled
brace for itself. A field names the version and may pick one character of it, have it quoted, and
lay it out; the layout may hold fields of its own. A pattern is read piece by piece, so that what is
wrong with a piece counts only behind the pieces before it.
-/

set_option autoImplicit false

namespace VocabBindings.Snapshot

/-- What is wrong with a pattern: it is not well formed, it asks for a value by its number or for a
character that is not there, for a value of another name, for a part with a name, for a character by
a word, or for more characters than a text can have. -/
inductive PatternError where
  | malformed
  | noValue
  | unknownName (name : Text)
  | noPart
  | notNumbered
  | tooWide
  deriving DecidableEq

/-- A field: what it names, the letter that says how the value is quoted, and the layout as it is
written. -/
structure Field where
  name : Text
  quoting : Option Char := none
  layout : Text := []
  deriving DecidableEq

inductive PatternPiece where
  | plain (c : Char)
  | field (f : Field)
  | broken
  deriving DecidableEq

def takeFieldName (inBrackets : Bool) : Text → Option (Text × Text)
  | [] => none
  | c :: rest =>
    if inBrackets then (takeFieldName (c ≠ ']') rest).map fun p => (c :: p.1, p.2)
    else if c = '\x7b' then none
    else if c = '\x7d' || c = ':' || c = '!' then some ([], c :: rest)
    else (takeFieldName (c = '[') rest).map fun p => (c :: p.1, p.2)

/-- A written layout up to the brace that ends its field, and the rest behind the brace. The number
counts the braces that are open in it. -/
def takeLayout : Nat → Text → Option (Text × Text)
  | _, [] => none
  | depth, c :: rest =>
    let more (depth : Nat) : Option (Text × Text) :=
      (takeLayout depth rest).map fun p => (c :: p.1, p.2)
    if c = '\x7b' then more (depth + 1)
    else if c = '\x7d' then
      match depth with
      | 0 => some ([], rest)
      | depth + 1 => more depth
    else more depth

def takeField (t : Text) : Option (Field × Text) :=
  let laidOut (name : Text) (quoting : Option Char) (t : Text) : Option (Field × Text) :=
    (takeLayout 0 t).map fun p => ({ name, quoting, layout := p.1 }, p.2)
  match takeFieldName false t with
  | some (name, '\x7d' :: rest) => some ({ name }, rest)
  | some (name, ':' :: rest) => laidOut name none rest
  | some (name, '!' :: letter :: '\x7d' :: rest) => some ({ name, quoting := some letter }, rest)
  | some (name, '!' :: letter :: ':' :: rest) => laidOut name (some letter) rest
  | _ => none

def patternPiecesFrom : Nat → Text → List PatternPiece
  | _, [] => []
  | covered + 1, _ :: rest => patternPiecesFrom covered rest
  | 0, c :: rest =>
    if c = '\x7b' || c = '\x7d' then
      if rest.head? = some c then .plain c :: patternPiecesFrom 1 rest
      else if c = '\x7d' then [.broken]
      else
        match takeField rest with
        | none => [.broken]
        | some (f, after) => .field f :: patternPiecesFrom (rest.length - after.length) rest
    else .plain c :: patternPiecesFrom 0 rest

inductive Selector where
  | part (name : Text)
  | item (name : Text)
  | broken
  deriving DecidableEq

/-- The selectors behind the first word of a name: parts behind a dot and items in square brackets.
The number counts characters already read. -/
def selectorsFrom : Nat → Text → List Selector
  | _, [] => []
  | covered + 1, _ :: rest => selectorsFrom covered rest
  | 0, c :: rest =>
    if c = '.' then
      let name := rest.takeWhile fun d => d ≠ '.' && d ≠ '['
      .part name :: selectorsFrom name.length rest
    else if c = '[' then
      let name := rest.takeWhile (· ≠ ']')
      if name.length = rest.length then [.broken]
      else .item name :: selectorsFrom (name.length + 1) rest
    else [.broken]

/-- What a selector picks from a text. A text has no parts, and its items are its characters. -/
def Selector.pick (value : Text) : Selector → Except PatternError Text
  | .broken => .error .malformed
  | .part name => .error (if name = [] then .malformed else .noPart)
  | .item name =>
    if name = [] then .error .malformed
    else
      match Text.position name with
      | .beyond => .error .malformed
      | .word => .error .notNumbered
      | .number n =>
        match value[n]? with
        | some c => .ok [c]
        | none => .error .noValue

def namedValue (version name : Text) : Except PatternError Text :=
  let word := name.takeWhile fun c => c ≠ '.' && c ≠ '['
  match Text.position word with
  | .beyond => .error .malformed
  | .number _ => .error .noValue
  | .word =>
    if word = [] then .error .noValue
    else if word ≠ "version".toList then .error (.unknownName word)
    else (selectorsFrom 0 (name.drop word.length)).foldlM Selector.pick version

def quotedAs (value : Text) : Option Char → Except PatternError Text
  | none => .ok value
  | some letter =>
    if letter = 's' then .ok value
    else if letter = 'r' then .ok (Text.quoted value)
    else if letter = 'a' then .ok (Text.quotedAscii value)
    else .error .malformed

/-- The number of characters that no text can have. -/
def widthLimit : Nat := Nat.pow 2 40

def laidOut (value layout : Text) : Except PatternError Text :=
  match Text.Layout.read layout with
  | none => .error .malformed
  | some l => if widthLimit ≤ l.width then .error .tooWide else .ok (l.apply value)

/-- The text that a pattern stands for, with a version filled in. The number says how deep the
fields of a pattern may be nested. -/
def filled (version : Text) : Nat → Text → Except PatternError Text
  | 0, _ => .error .malformed
  | depth + 1, pattern =>
    let fieldText (f : Field) : Except PatternError Text := do
      let value ← namedValue version f.name
      let value ← quotedAs value f.quoting
      let layout ← if f.layout.contains '\x7b' then filled version depth f.layout else .ok f.layout
      laidOut value layout
    (patternPiecesFrom 0 pattern).foldlM (fun done piece =>
      match piece with
      | .plain c => .ok (done ++ [c])
      | .field f => (fieldText f).map (done ++ ·)
      | .broken => .error .malformed) []

def fieldDepth : Nat := 2

def address (pattern version : Text) : Except PatternError Text := filled version fieldDepth pattern

def publishedPattern : Text :=
  "https://schema.org/version/\x7bversion\x7d/schemaorg-all-https.jsonld".toList

end VocabBindings.Snapshot
