import VocabBindings.Json.Token
import VocabBindings.Keyed

/-!
Reading JSON text. The reader goes through the tokens once, with the arrays and objects that are not
yet closed on a stack, and reports the first token that may not stand where it does.
-/

set_option autoImplicit false

namespace VocabBindings.Json

/-- An array or object that is not yet closed. The items of an array are held last one first. -/
inductive Frame where
  | array (done : List Json)
  | object (fields : List (Text × Json)) (key : Text)

inductive Awaiting where
  | value
  | firstItem
  | firstKey
  | key (fields : List (Text × Json))
  | colon (fields : List (Text × Json)) (key : Text)
  | afterValue (value : Json)
  | nothing (value : Json)

/-- The state of the reader: the open arrays and objects, innermost first, and what comes next. -/
structure Progress where
  frames : List Frame
  awaiting : Awaiting

/-- The greatest number of arrays and objects that may be open at once. It is a fixed number here,
however deep the calls are that the reading starts from. -/
def depthLimit : Nat := 980

def Progress.openValue (frames : List Frame) (offset : Nat) (awaiting : Awaiting) :
    Except ReadError Progress :=
  if depthLimit ≤ frames.length then .error ⟨.nestedTooDeep, offset⟩ else .ok ⟨frames, awaiting⟩

def Progress.beginValue (frames : List Frame) (offset : Nat) : Token → Except ReadError Progress
  | .openObject => openValue frames offset .firstKey
  | .openArray => openValue frames offset .firstItem
  | .text (.ok t) => .ok ⟨frames, .afterValue (.text t)⟩
  | .text (.error e) => .error e
  | .scalar (.ok v) => .ok ⟨frames, .afterValue v⟩
  | .scalar (.error e) => .error e
  | _ => .error ⟨.valueExpected, offset⟩

def Progress.takeKey (frames : List Frame) (fields : List (Text × Json)) (offset : Nat) :
    Token → Except ReadError Progress
  | .text (.ok t) => .ok ⟨frames, .colon fields t⟩
  | .text (.error e) => .error e
  | _ => .error ⟨.keyExpected, offset⟩

def Progress.closeValue (v : Json) (offset : Nat) : List Frame → Token → Except ReadError Progress
  | [], .finish => .ok ⟨[], .nothing v⟩
  | [], _ => .error ⟨.extraData, offset⟩
  | .array done :: frames, .comma => .ok ⟨.array (v :: done) :: frames, .value⟩
  | .array done :: frames, .closeArray => .ok ⟨frames, .afterValue (.array (v :: done).reverse)⟩
  | .object fields key :: frames, .comma => .ok ⟨frames, .key (Keyed.put key v fields)⟩
  | .object fields key :: frames, .closeObject =>
    .ok ⟨frames, .afterValue (.object (Keyed.put key v fields))⟩
  | _ :: _, _ => .error ⟨.commaExpected, offset⟩

def Progress.step (p : Progress) (placed : Nat × Token) : Except ReadError Progress :=
  match p.awaiting, placed.2 with
  | .value, tok => beginValue p.frames placed.1 tok
  | .firstItem, .closeArray => .ok ⟨p.frames, .afterValue (.array [])⟩
  | .firstItem, tok => beginValue (.array [] :: p.frames) placed.1 tok
  | .firstKey, .closeObject => .ok ⟨p.frames, .afterValue (.object [])⟩
  | .firstKey, tok => takeKey p.frames [] placed.1 tok
  | .key fields, tok => takeKey p.frames fields placed.1 tok
  | .colon fields key, .colon => .ok ⟨.object fields key :: p.frames, .value⟩
  | .colon _ _, _ => .error ⟨.colonExpected, placed.1⟩
  | .afterValue v, tok => closeValue v placed.1 p.frames tok
  | .nothing _, _ => .error ⟨.extraData, placed.1⟩

def read (t : Text) : Except ReadError Json :=
  if t.head? = some '\uFEFF' then .error ⟨.byteOrderMark, 0⟩
  else
    match (tokensFrom 0 0 t).foldlM Progress.step ⟨[], .value⟩ with
    | .error e => .error e
    | .ok ⟨_, .nothing v⟩ => .ok v
    | .ok _ => .error ⟨.valueExpected, t.length⟩

def Fault.text : Fault → Text
  | valueExpected => "Expecting value".toList
  | keyExpected => "Expecting property name enclosed in double quotes".toList
  | colonExpected => "Expecting ':' delimiter".toList
  | commaExpected => "Expecting ',' delimiter".toList
  | extraData => "Extra data".toList
  | unterminatedText => "Unterminated string starting at".toList
  | controlCharacter => "Invalid control character at".toList
  | unknownEscape => "Invalid \\escape".toList
  | brokenCodeEscape => "Invalid \\uXXXX escape".toList
  | byteOrderMark => "Unexpected UTF-8 BOM (decode using utf-8-sig)".toList
  | integerTooLong digits =>
    "Exceeds the limit (".toList ++ Text.ofNat Numeral.integerLimit ++
      " digits) for integer string conversion: value has ".toList ++ Text.ofNat digits ++
      " digits; use sys.set_int_max_str_digits() to increase the limit".toList
  | nestedTooDeep => "Nested too deeply".toList

def lineOf (t : Text) (offset : Nat) : Nat := (t.take offset).count '\n' + 1

def columnOf (t : Text) (offset : Nat) : Nat :=
  ((t.take offset).reverse.takeWhile (· ≠ '\n')).length + 1

def ReadError.message (t : Text) (e : ReadError) : Text :=
  match e.fault with
  | .integerTooLong _ => e.fault.text
  | .nestedTooDeep => e.fault.text
  | _ =>
    e.fault.text ++ ": line ".toList ++ Text.ofNat (lineOf t e.offset) ++ " column ".toList ++
      Text.ofNat (columnOf t e.offset) ++ " (char ".toList ++ Text.ofNat e.offset ++ ")".toList

end VocabBindings.Json
