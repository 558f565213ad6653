import VocabBindings.Text.Basic

/-!
Bytes in sixty-four characters of ASCII, three of them in four characters. Reading passes over all
other characters, and writing puts the same bytes in their one form.
-/

set_option autoImplicit false

namespace VocabBindings.Text.Base64

def alphabet : Text :=
  "ABCDEFGHIJKLMNOPQRSTUVWXYZabcdefghijklmnopqrstuvwxyz0123456789+/".toList

def filler : Char := '='

def value? (c : Char) : Option Nat := alphabet.findIdx? (· = c)

/-- How far reading has come: the numbers so far, last one first, how many fillers follow the last
one, and whether they end the text. -/
structure Progress where
  numbers : List Nat := []
  fillers : Nat := 0
  ended : Bool := false

/-- The state after one more character. Fillers count in the second half of a group. -/
def Progress.step (p : Progress) (c : Char) : Progress :=
  let place := p.numbers.length % 4
  if p.ended then p
  else if c = filler then
    if place < 2 then p
    else { p with fillers := p.fillers + 1, ended := 4 ≤ place + p.fillers + 1 }
  else
    match value? c with
    | none => p
    | some n => { p with numbers := n :: p.numbers, fillers := 0 }

def written (numbers : List Nat) : Text := numbers.map fun n => (alphabet[n]?).getD filler

def trimmed : List Nat → List Nat
  | [] => []
  | n :: rest =>
    let place := (rest.length + 1) % 4
    let unit := if place = 2 then 16 else if place = 3 then 4 else 1
    n / unit * unit :: rest

/-- The one form of the bytes that a text in ASCII writes. A group that is not full needs
fillers. -/
def canonical? (t : Text) : Option Text :=
  let p := t.foldl Progress.step {}
  let place := p.numbers.length % 4
  if !t.all (·.toNat < 0x80) || (place ≠ 0 && !p.ended) then none
  else
    some (written (trimmed p.numbers).reverse ++
      List.replicate (if place = 0 then 0 else 4 - place) filler)

end VocabBindings.Text.Base64
