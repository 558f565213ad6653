import VocabBindings.Text.Quoted

/-!
UTF-8. Every text has one encoding. Decoding stops at the first bytes that belong to no encoding and
names them: an octet that starts no character, an octet that does not continue one, or the end of
the data inside a character.
-/

set_option autoImplicit false

namespace VocabBindings

abbrev Bytes := List UInt8

namespace Text

def encode (t : Text) : Bytes := t.flatMap String.utf8EncodeChar

inductive DecodeFault where
  | invalidStart
  | invalidContinuation
  | unexpectedEnd
  deriving DecidableEq

/-- The first of the bytes that are no encoding, where it stands, and how many they are. -/
structure DecodeError where
  fault : DecodeFault
  first : UInt8
  position : Nat
  count : Nat
  deriving DecidableEq

def isContinuation (b : UInt8) : Bool := 0x80 ≤ b && b < 0xC0

/-- Whether the second octet of a character of three or four fits the first: no longer form than
needed, no surrogate, nothing beyond U+10FFFF. -/
def isSecond (a b : UInt8) : Bool :=
  isContinuation b && (a ≠ 0xE0 || 0xA0 ≤ b) && (a ≠ 0xED || b < 0xA0) && (a ≠ 0xF0 || 0x90 ≤ b)
    && (a ≠ 0xF4 || b < 0x90)

def tailBits (b : UInt8) : Nat := b.toNat % 0x40

/-- What the first character of some bytes is: an encoded one with its number of octets, or the
fault and the number of faulty octets. -/
def decodeFirst (a : UInt8) (rest : Bytes) : Except (DecodeFault × Nat) (Char × Nat) :=
  if a < 0x80 then .ok (Char.ofNat a.toNat, 1)
  else if a < 0xC2 || 0xF5 ≤ a then .error (.invalidStart, 1)
  else if a < 0xE0 then
    match rest with
    | [] => .error (.unexpectedEnd, 1)
    | b :: _ =>
      if isContinuation b then .ok (Char.ofNat (a.toNat % 0x20 * 0x40 + tailBits b), 2)
      else .error (.invalidContinuation, 1)
  else
    match rest with
    | [] => .error (.unexpectedEnd, 1)
    | b :: rest =>
      if !isSecond a b then .error (.invalidContinuation, 1)
      else
        match rest with
        | [] => .error (.unexpectedEnd, 2)
        | c :: rest =>
          if !isContinuation c then .error (.invalidContinuation, 2)
          else if a < 0xF0 then
            .ok (Char.ofNat (a.toNat % 0x10 * 0x1000 + tailBits b * 0x40 + tailBits c), 3)
          else
            match rest with
            | [] => .error (.unexpectedEnd, 3)
            | d :: _ =>
              if isContinuation d then
                .ok (Char.ofNat (a.toNat % 0x8 * 0x40000 + tailBits b * 0x1000 + tailBits c * 0x40
                  + tailBits d), 4)
              else .error (.invalidContinuation, 3)

/-- Decodes bytes from a position on. The number counts the octets that a character already decoded
still covers. -/
def decodeFrom : Nat → Nat → Bytes → Except DecodeError Text
  | _, _, [] => .ok []
  | position, covered + 1, _ :: rest => decodeFrom (position + 1) covered rest
  | position, 0, a :: rest =>
    match decodeFirst a rest with
    | .error (fault, count) => .error ⟨fault, a, position, count⟩
    | .ok (c, n) =>
      match decodeFrom (position + 1) (n - 1) rest with
      | .error e => .error e
      | .ok t => .ok (c :: t)

def decode (bytes : Bytes) : Except DecodeError Text := decodeFrom 0 0 bytes

def decodeBefore (bytes : Bytes) : Text :=
  match decode bytes with
  | .ok t => t
  | .error e => (decode (bytes.take e.position)).toOption.getD []

def decodeWith (shown : Bytes → Text) : Nat → Bytes → Text
  | _, [] => []
  | covered + 1, _ :: rest => decodeWith shown covered rest
  | 0, a :: rest =>
    match decodeFirst a rest with
    | .error (_, count) => shown ((a :: rest).take count) ++ decodeWith shown (count - 1) rest
    | .ok (c, n) => c :: decodeWith shown (n - 1) rest

def decodeLossy (bytes : Bytes) : Text := decodeWith (fun _ => ['\uFFFD']) 0 bytes

def decodeEscaped (bytes : Bytes) : Text :=
  decodeWith (fun broken => broken.flatMap fun b => "\\x".toList ++ hexDigits 2 b.toNat) 0 bytes

def DecodeFault.text : DecodeFault → Text
  | invalidStart => "invalid start byte".toList
  | invalidContinuation => "invalid continuation byte".toList
  | unexpectedEnd => "unexpected end of data".toList

def DecodeError.message (e : DecodeError) : Text :=
  "'utf-8' codec can't decode ".toList ++
    (if e.count = 1 then
      "byte 0x".toList ++ hexDigits 2 e.first.toNat ++ " in position ".toList ++ ofNat e.position
    else
      "bytes in position ".toList ++ ofNat e.position ++ "-".toList ++
        ofNat (e.position + e.count - 1)) ++
    ": ".toList ++ e.fault.text

end Text

end VocabBindings
