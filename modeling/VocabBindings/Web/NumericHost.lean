import VocabBindings.Text.Basic

/-!
Hosts that are numbers: four octets with dots between them, or eight groups of sixteen bits with
colons between them, where one run of zeros may be left out.
-/

set_option autoImplicit false

namespace VocabBindings.Web

def isOctet (t : Text) : Bool :=
  t ≠ [] && t.all Char.isDigit && t.length ≤ 3 && (t = ['0'] || t.head? ≠ some '0') &&
    t.foldl (fun n c => 10 * n + (c.toNat - 48)) 0 ≤ 255

def isOctetAddress (t : Text) : Bool :=
  let parts := Text.pieces '.' t
  parts.length = 4 && parts.all isOctet

/-- The states after one more character of a text that is read as four runs of digits with any
character between two runs. An even state waits for the first digit of a run. -/
def runStates (states : List Nat) (c : Char) : List Nat :=
  (List.range 8).filter fun next =>
    states.any fun s =>
      (c.isDigit && (next = s && s % 2 = 1 || next = s + 1 && s % 2 = 0)) ||
        (next = s + 1 && s % 2 = 1)

/-- Whether a text looks like four numbers: four runs of digits with any character between two. A
digit may be that character too. -/
def looksLikeOctets (t : Text) : Bool := (t.foldl runStates [0]).contains 7

def isGroup (t : Text) : Bool :=
  t ≠ [] && t.length ≤ 4 && t.all fun c => (Text.hexValue? c).isSome

def groupCount : Nat := 8

def groupsOf (t : Text) : Option (List Text) :=
  let parts := Text.pieces ':' t
  let last := parts.getLast?.getD []
  if parts.length < 3 then none
  else if last.contains '.' then
    if isOctetAddress last then some (parts.dropLast ++ [['0'], ['0']]) else none
  else some parts

/-- Whether groups make an address. An empty group that is neither the first nor the last stands for
the zeros that are left out; an empty one at an end stands only next to it. -/
def areGroups (parts : List Text) : Bool :=
  let inner := (parts.drop 1).dropLast
  match inner.findIdx? (· = []) with
  | none => parts.length = groupCount && parts.all isGroup
  | some i =>
    let front := parts.take (i + 1)
    let back := parts.drop (i + 2)
    let side (groups : List Text) (outer : Option Text) : Option Nat :=
      if outer = some [] then if groups.length = 1 then some 0 else none
      else if groups.all isGroup then some groups.length
      else none
    match side front front.head?, side back back.getLast? with
    | some before, some behind => before + behind < groupCount
    | _, _ => false

def isGroupAddress (t : Text) : Bool :=
  let address := t.takeWhile (· ≠ '%')
  let zone := t.drop address.length
  !t.contains '/' && (zone = [] || (zone.length ≠ 1 && !zone.tail.contains '%')) &&
    ((groupsOf address).map areGroups).getD false

end VocabBindings.Web
