import VocabBindings.Text.Blank
import VocabBindings.Text.Alphanumeric

/-!
Chunks of a line: the pieces between which a line may be broken. A run of spaces is one chunk, a
dash of two or more hyphens between words is one, and a word ends at a space, before such a dash,
or after a hyphen that joins letters. The chunks of a line, put together, are the line.
-/

set_option autoImplicit false

namespace VocabBindings.Text

def isSpacer (c : Char) : Bool := inRanges [(0x9, 0xD), (0x20, 0x20)] c.toNat

def isDashAnchor (c : Char) : Bool := isWord c || "!\"\x27&.,?".toList.contains c

/-- The length of the dash a text starts with: two or more hyphens before a word character. Zero
if it starts with none. -/
def dashLength (t : Text) : Nat :=
  let hyphens := t.takeWhile (· = '-')
  if 2 ≤ hyphens.length && ((t.drop hyphens.length).head?.map isWord).getD false then hyphens.length
  else 0

def followsAnchor (before : Text) : Bool := (before.head?.map isDashAnchor).getD false

/-- Whether the characters before a hyphen, last one first, let a word end after it: two letters,
or a letter, a hyphen and a letter. -/
def joinsBefore : Text → Bool
  | a :: '-' :: c :: _ => isWordLetter a && isWordLetter c
  | a :: b :: _ => isWordLetter a && isWordLetter b
  | _ => false

/-- Whether the characters after a hyphen let a word end after it: two letters, with or without a
hyphen between them. -/
def joinsAfter : Text → Bool
  | a :: '-' :: c :: _ => isWordLetter a && isWordLetter c
  | a :: b :: _ => isWordLetter a && isWordLetter b
  | _ => false

/-- How many further characters belong to a word that has begun, given the characters before them,
last one first. -/
def wordRest : Text → Text → Nat
  | _, [] => 0
  | before, c :: rest =>
    if c = '-' && joinsBefore before && joinsAfter rest then 1
    else if isSpacer c then 0
    else if followsAnchor before && dashLength (c :: rest) ≠ 0 then 0
    else wordRest (c :: before) rest + 1

def chunkRest (before : Text) (c : Char) (rest : Text) : Nat :=
  if isSpacer c then (rest.takeWhile isSpacer).length
  else if followsAnchor before && dashLength (c :: rest) ≠ 0 then dashLength (c :: rest) - 1
  else wordRest (c :: before) rest

/-- The chunks of a text, given the characters before it, last one first. The number counts the
characters that a chunk already taken still covers. -/
def chunksFrom : Text → Nat → Text → List Text
  | _, _, [] => []
  | before, covered + 1, c :: rest => chunksFrom (c :: before) covered rest
  | before, 0, c :: rest =>
    let more := chunkRest before c rest
    (c :: rest.take more) :: chunksFrom (c :: before) more rest

def chunks (line : Text) : List Text := chunksFrom [] 0 line

theorem flatten_chunksFrom (before : Text) (covered : Nat) (t : Text) :
    (chunksFrom before covered t).flatten = t.drop covered := by
  induction t generalizing before covered with
  | nil => cases covered <;> simp [chunksFrom]
  | cons c rest ih =>
    cases covered with
    | zero => simp [chunksFrom, ih]
    | succ n => simp [chunksFrom, ih]

theorem flatten_chunks (line : Text) : (chunks line).flatten = line := by
  simp [chunks, flatten_chunksFrom]

end VocabBindings.Text
