import VocabBindings.Text.Digits

/-!
Layouts of a text: how many characters of it are shown at most, the width that it is brought to, and
where in that width it stands. The written form of a layout names the parts in a fixed order, each
of them optional.
-/

set_option autoImplicit false

namespace VocabBindings.Text

inductive Alignment where
  | left
  | right
  | centre
  deriving DecidableEq

/-- A layout: what fills the width, where the text stands, the least width, and the greatest number
of characters that are shown. -/
structure Layout where
  fill : Char := ' '
  alignment : Alignment := .left
  width : Nat := 0
  shown : Option Nat := none
  deriving DecidableEq

namespace Layout

def alignment? (c : Char) : Option Alignment :=
  if c = '<' then some .left
  else if c = '>' then some .right
  else if c = '^' then some .centre
  else none

/-- The fill and the alignment that a written layout starts with, and the rest. The fill may be any
character in front of an alignment. -/
def takeAlignment : Text → Option Char × Option Alignment × Text
  | [] => (none, none, [])
  | fill :: rest =>
    match rest.head?.bind alignment?, alignment? fill with
    | some alignment, _ => (some fill, some alignment, rest.tail)
    | none, some alignment => (none, some alignment, rest)
    | none, none => (none, none, fill :: rest)

def takeSize (t : Text) : Option (Option Nat × Text) :=
  let digits := t.takeWhile isDecimalDigit
  match position digits with
  | .word => some (none, t)
  | .number n => some (some n, t.drop digits.length)
  | .beyond => none

def takeShown : Text → Option (Option Nat × Text)
  | '.' :: rest =>
    match takeSize rest with
    | some (some n, rest) => some (some n, rest)
    | _ => none
  | t => some (none, t)

/-- The layout that a text writes: a fill with an alignment, a zero that fills in their place, the
width, and the number of shown characters behind a point. At the end may stand the letter for
texts. -/
def read (t : Text) : Option Layout :=
  let (fill, alignment, rest) := takeAlignment t
  let zero := fill.isNone && rest.head? = some '0'
  match takeSize (if zero then rest.tail else rest) with
  | none => none
  | some (width, rest) =>
    match takeShown rest with
    | none => none
    | some (shown, rest) =>
      if rest = [] || rest = ['s'] then
        some
          { fill := fill.getD (if zero then '0' else ' ')
            alignment := alignment.getD .left
            width := width.getD 0
            shown }
      else none

/-- The text in a layout. In the middle, an odd character of the width goes to the right. -/
def apply (l : Layout) (t : Text) : Text :=
  let t := (l.shown.map t.take).getD t
  let room := l.width - t.length
  let before :=
    match l.alignment with
    | .left => 0
    | .right => room
    | .centre => room / 2
  List.replicate before l.fill ++ t ++ List.replicate (room - before) l.fill

end Layout

end VocabBindings.Text
