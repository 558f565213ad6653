import VocabBindings.Text.Composition
import VocabBindings.Text.Direction
import VocabBindings.Text.Punycode
import VocabBindings.Web.LabelCharacters

/-!
Labels of hosts. A label is composed text of letters, digits, marks and hyphens, and its characters
have directions that can be read in one way only. In an address it stands in characters of ASCII: by
itself, or in Punycode behind a mark.
-/

set_option autoImplicit false

namespace VocabBindings.Web

/-- Why a text is no label: it is not formed like one, a character cannot stand in a label, a
character cannot stand where it does, or the directions are mixed. -/
inductive LabelFault where
  | malformed
  | character
  | context
  | direction
  deriving DecidableEq

namespace Label

def mark : Text := "xn--".toList

def lengthLimit : Nat := 63

def joinerClass : Nat := 9

/-- Whether the letters on both sides are joined: the nearest one before that is no mark joins the
next, and the nearest one behind joins the one before. -/
def isJoined (before after : Text) : Bool :=
  let nearest (t : Text) : Option Char := (t.dropWhile fun c => Text.direction c = .mark).head?
  let inTable (rs : List (Nat × Nat)) (c : Option Char) : Bool :=
    (c.map fun c => Text.inRanges rs c.toNat).getD false
  inTable joiningBothRanges (nearest before) &&
    (inTable joiningBothRanges (nearest after) || inTable joiningBackRanges (nearest after))

/-- Whether a character that needs certain neighbours has them, given what is before it, last
character first, and what is behind it. `none` says that it is no such character. -/
def fits? (label before after : Text) (c : Char) : Option Bool :=
  let lastIn (rs : List (Nat × Nat)) (t : Text) : Bool :=
    (t.head?.map fun d => Text.inRanges rs d.toNat).getD false
  let afterJoiner := (before.head?.map Text.markClass) = some joinerClass
  if c = '\u200C' then some (afterJoiner || isJoined before after)
  else if c = '\u200D' then some afterJoiner
  else if c = '\u00B7' then some (before.head? = some 'l' && after.head? = some 'l')
  else if c = '\u0375' then some (lastIn greekRanges after)
  else if c = '\u05F3' || c = '\u05F4' then some (lastIn hebrewRanges before)
  else if c = '\u30FB' then some (label.any fun d => Text.inRanges kanaAndHanRanges d.toNat)
  else if Text.inRanges [(0x660, 0x669)] c.toNat then
    some (!label.any fun d => Text.inRanges [(0x6F0, 0x6F9)] d.toNat)
  else if Text.inRanges [(0x6F0, 0x6F9)] c.toNat then
    some (!label.any fun d => Text.inRanges [(0x660, 0x669)] d.toNat)
  else none

def characterFault? (label : Text) : Text → Text → Option LabelFault
  | _, [] => none
  | before, c :: rest =>
    if isLabelCharacter c then characterFault? label (c :: before) rest
    else
      match fits? label before rest c with
      | some true => characterFault? label (c :: before) rest
      | some false => some .context
      | none => some .character

def endDirection (directions : List Text.Direction) : Option Text.Direction :=
  (directions.reverse.dropWhile (· = .mark)).head?

/-- Whether the directions of a label can be read in one way only. Where nothing is written from
right to left, they can. -/
def areReadable (directions : List Text.Direction) : Bool :=
  if !directions.any (fun d => d = .rightToLeft || d = .arabicDigit) then true
  else if directions.head? = some .rightToLeft then
    !directions.contains .leftToRight &&
      !(directions.contains .digit && directions.contains .arabicDigit) &&
      [some .rightToLeft, some .digit, some .arabicDigit].contains (endDirection directions)
  else false

def hyphensFit (label : Text) : Bool :=
  (label.drop 2).take 2 ≠ "--".toList && label.head? ≠ some '-' && label.getLast? ≠ some '-'

def fault? (label : Text) : Option LabelFault :=
  if label = [] || Text.composed label ≠ label || !hyphensFit label then some .malformed
  else if (label.head?.map Text.isMark).getD false then some .malformed
  else
    match characterFault? label [] label with
    | some fault => some fault
    | none => if areReadable (label.map Text.direction) then none else some .direction

def checked (label : Text) : Except LabelFault Text :=
  match fault? label with
  | none => .ok label
  | some fault => .error fault

def ofAscii (t : Text) : Except LabelFault Text :=
  let t := t.map Char.toLower
  match Text.after? mark t with
  | none => checked t
  | some code =>
    if code = [] || code.getLast? = some '-' then .error .malformed
    else
      match Text.Punycode.decode code with
      | none => .error .malformed
      | some label => checked label

def toAscii (label : Text) : Except LabelFault Text := do
  let code ←
    if label.all (·.toNat < 0x80) then (ofAscii label).map fun _ => label
    else (checked label).map fun label => mark ++ Text.Punycode.encode label
  if lengthLimit < code.length then .error .malformed else .ok code

end Label

/-- The labels of a host, and whether a dot follows the last one. The full stops of Chinese and
Japanese are dots too. -/
def labelsOf (host : Text) : List Text × Bool :=
  let labels :=
    Text.pieces '.' (host.map fun c => if ['\u3002', '\uFF0E', '\uFF61'].contains c then '.' else c)
  if labels.getLast? = some [] then (labels.dropLast, true) else (labels, false)

def joinedLabels (labels : List Text) (dotted : Bool) : Text :=
  Text.joined ['.'] (if dotted then labels ++ [[]] else labels)

def hostLengthLimit : Nat := 253

def asciiHost (host : Text) : Except LabelFault Text := do
  let (labels, dotted) := labelsOf host
  if labels = [] && !dotted then .error .malformed
  let encoded := joinedLabels (← labels.mapM Label.toAscii) dotted
  if hostLengthLimit + (if dotted then 1 else 0) < encoded.length then .error .malformed
  else .ok encoded

def readableHost (host : Text) : Except LabelFault Text := do
  let (labels, dotted) := labelsOf host
  if labels = [] && !dotted then .error .malformed
  return joinedLabels (← labels.mapM Label.ofAscii) dotted

end VocabBindings.Web
