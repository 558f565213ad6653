import VocabBindings.Text.Utf8

/-!
Percent encoding. A byte is written as a percent sign and two digits in base sixteen. Encoding
leaves alone what is encoded already, so that encoding twice is encoding once.
-/

set_option autoImplicit false

namespace VocabBindings.Web

def encodedByte (b : UInt8) : Text :=
  let digit (n : Nat) : Char := (Nat.digitChar n).toUpper
  ['%', digit (b.toNat / 16), digit (b.toNat % 16)]

def takeByte : Text → Option UInt8
  | a :: b :: _ => (Text.hexNumber? 0 [a, b]).map Nat.toUInt8
  | _ => none

def encodedChar (allowed : Char → Bool) (c : Char) : Text :=
  if allowed c then [c] else (String.utf8EncodeChar c).flatMap encodedByte

def percentEncodedFrom (allowed : Char → Bool) : Nat → Text → Text
  | _, [] => []
  | covered + 1, c :: rest => c :: percentEncodedFrom allowed covered rest
  | 0, c :: rest =>
    if c = '%' && (takeByte rest).isSome then c :: percentEncodedFrom allowed 2 rest
    else encodedChar allowed c ++ percentEncodedFrom allowed 0 rest

def percentEncoded (allowed : Char → Bool) (t : Text) : Text := percentEncodedFrom allowed 0 t

def decodedBytesFrom : Nat → Text → Bytes
  | _, [] => []
  | covered + 1, _ :: rest => decodedBytesFrom covered rest
  | 0, c :: rest =>
    match if c = '%' then takeByte rest else none with
    | some b => b :: decodedBytesFrom 2 rest
    | none => String.utf8EncodeChar c ++ decodedBytesFrom 0 rest

/-- The text with the encoded bytes decoded. Bytes that encode no character stand for replacement
characters. -/
def percentDecoded (t : Text) : Text := Text.decodeLossy (decodedBytesFrom 0 t)

end VocabBindings.Web
