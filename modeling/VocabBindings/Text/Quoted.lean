import VocabBindings.Text.Printable

/-!
Quoted texts, as they stand in messages and inside the text form of a list. The quote is the single
one, unless the text holds single quotes and no double ones.
-/

set_option autoImplicit false

namespace VocabBindings.Text

def hexDigits : Nat → Nat → Text
  | 0, _ => []
  | count + 1, n => hexDigits count (n / 16) ++ [Nat.digitChar (n % 16)]

def quoteFor (t : Text) : Char :=
  if t.contains '\x27' && !t.contains '"' then '"' else '\x27'

def coded (c : Char) : Text :=
  if c.toNat ≤ 0xFF then "\\x".toList ++ hexDigits 2 c.toNat
  else if c.toNat ≤ 0xFFFF then "\\u".toList ++ hexDigits 4 c.toNat
  else "\\U".toList ++ hexDigits 8 c.toNat

def quotedChar (plain : Char → Bool) (quote c : Char) : Text :=
  if c = quote || c = '\\' then ['\\', c]
  else if c = '\n' then "\\n".toList
  else if c = '\r' then "\\r".toList
  else if c = '\t' then "\\t".toList
  else if plain c then [c]
  else coded c

def quotedWith (plain : Char → Bool) (t : Text) : Text :=
  let quote := quoteFor t
  quote :: t.flatMap (quotedChar plain quote) ++ [quote]

def quoted (t : Text) : Text := quotedWith isPrintable t

def quotedAscii (t : Text) : Text := quotedWith (fun c => c.toNat < 0x80 && isPrintable c) t

def quotedList (ts : List Text) : Text :=
  '[' :: joined ", ".toList (ts.map quoted) ++ [']']

end VocabBindings.Text
