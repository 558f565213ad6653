import VocabBindings.Text.Basic

/-!
Punycode: a text in characters of ASCII. Its own characters of ASCII come first; the others follow
in the order of their code points, each by its distance from the one before, counted in code points
and places together. A distance is a numeral whose digits weigh more or less as the distances before
were.
-/

set_option autoImplicit false

namespace VocabBindings.Text.Punycode

def digitChar (d : Nat) : Char := if d < 26 then Char.ofNat (97 + d) else Char.ofNat (22 + d)

def digit? (c : Char) : Option Nat :=
  if 'a' ≤ c && c ≤ 'z' then some (c.toNat - 97)
  else if 'A' ≤ c && c ≤ 'Z' then some (c.toNat - 65)
  else if c.isDigit then some (c.toNat - 22)
  else none

def base : Nat := 36

def threshold (bias place : Nat) : Nat := min 26 (max 1 (base * (place + 1) - bias))

/-- A distance brought below the limit, and what the steps on the way add up to. The number bounds
the steps. -/
def dampened : Nat → Nat → Nat → Nat × Nat
  | 0, delta, total => (delta, total)
  | steps + 1, delta, total =>
    if 455 < delta then dampened steps (delta / (base - 1)) (total + base) else (delta, total)

def adapted (delta : Nat) (first : Bool) (count : Nat) : Nat :=
  let delta := if first then delta / 700 else delta / 2
  let delta := delta + delta / count
  let (rest, total) := dampened (delta.log2 + 1) delta 0
  total + base * rest / (rest + 38)

def numeralFrom (bias : Nat) : Nat → Nat → Nat → Text
  | 0, _, _ => []
  | bound + 1, place, n =>
    let t := threshold bias place
    if n < t then [digitChar n]
    else
      digitChar (t + (n - t) % (base - t)) ::
        numeralFrom bias bound (place + 1) ((n - t) / (base - t))

def numeral (bias n : Nat) : Text := numeralFrom bias (n + 1) 0 n

/-- How far an encoding has come: the distance so far, the bias, the number of characters written,
and the numerals. -/
structure Progress where
  delta : Nat := 0
  bias : Nat := 72
  written : Nat
  numerals : Text := []

def Progress.pass (basic code : Nat) (p : Progress) (c : Char) : Progress :=
  if c.toNat < code then { p with delta := p.delta + 1 }
  else if c.toNat = code then
    { delta := 0
      bias := adapted p.delta (p.written = basic) (p.written + 1)
      written := p.written + 1
      numerals := p.numerals ++ numeral p.bias p.delta }
  else p

def Progress.rounds (t : Text) (basic : Nat) : Nat → List Nat → Progress → Progress
  | _, [], p => p
  | before, code :: rest, p =>
    let p := { p with delta := p.delta + (code - before) * (p.written + 1) }
    let p := t.foldl (Progress.pass basic code) p
    Progress.rounds t basic (code + 1) rest { p with delta := p.delta + 1 }

def encode (t : Text) : Text :=
  let basic := t.filter (·.toNat < 0x80)
  let codes := ((t.filter (0x80 ≤ ·.toNat)).map Char.toNat).mergeSort.eraseDups
  basic ++ (if basic = [] then [] else ['-']) ++
    (Progress.rounds t basic.length 0x80 codes { written := basic.length }).numerals

def takeNumeral (bias : Nat) : Nat → Nat → Nat → Text → Option (Nat × Text)
  | _, _, _, [] => none
  | place, weight, sum, c :: rest =>
    match digit? c with
    | none => none
    | some d =>
      let t := threshold bias place
      if d < t then some (sum + d * weight, rest)
      else takeNumeral bias (place + 1) (weight * (base - t)) (sum + d * weight) rest

/-- Puts the characters that numerals stand for into a text: `code` and `position` say where the
last one was put. Half a surrogate pair becomes the replacement character. The number bounds the
numerals. -/
def decodeFrom : Nat → Nat → Nat → Nat → Bool → Text → Text → Option Text
  | _, _, _, _, _, done, [] => some done
  | 0, _, _, _, _, _, _ :: _ => none
  | bound + 1, bias, code, position, first, done, t =>
    match takeNumeral bias 0 1 0 t with
    | none => none
    | some (delta, rest) =>
      let size := done.length + 1
      let place := position + delta
      let code := code + place / size
      if 0x10FFFF < code then none
      else
        let c := if 0xD800 ≤ code && code < 0xE000 then '\uFFFD' else Char.ofNat code
        decodeFrom bound (adapted delta first size) code (place % size + 1) false
          (done.insertIdx (place % size) c) rest

def decode (t : Text) : Option Text :=
  let (basic, numerals) := splitLast '-' t
  decodeFrom (numerals.length + 1) 72 0x80 0 true (basic.getD []) numerals

end VocabBindings.Text.Punycode
