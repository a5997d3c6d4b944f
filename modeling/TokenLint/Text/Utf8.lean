/-!
# UTF-8

Text as bytes and back. Decoding is strict: the first byte that no character can
begin or go on with is an error, together with the bytes of the character that it
breaks off.
-/

namespace TokenLint.Text

/-- Why bytes are no text. -/
inductive DecodeReason where
  | invalidStart
  | invalidContinuation
  | unexpectedEnd
  deriving DecidableEq

/-- The wording of a reason. -/
def DecodeReason.message : DecodeReason → String
  | invalidStart => "invalid start byte"
  | invalidContinuation => "invalid continuation byte"
  | unexpectedEnd => "unexpected end of data"

/-- A place where bytes are no text: the position of a byte, how many bytes after it are affected
too, and its value. -/
structure DecodeError where
  position : Nat
  following : Nat
  byte : UInt8
  reason : DecodeReason
  deriving DecidableEq

/-- A byte as two hexadecimal digits. -/
def hexByte (byte : UInt8) : String :=
  let digits := Nat.toDigits 16 byte.toNat
  String.ofList (List.replicate (2 - digits.length) '0' ++ digits)

/-- The wording of an error, with the place of the bytes that it is about. -/
def DecodeError.message (error : DecodeError) : String :=
  let place :=
    if error.following = 0 then
      "byte 0x" ++ hexByte error.byte ++ " in position " ++ toString error.position
    else
      "bytes in position " ++ toString error.position ++ "-" ++
        toString (error.position + error.following)
  "'utf-8' codec can't decode " ++ place ++ ": " ++ error.reason.message

/-- Whether a byte continues a character. -/
def isContinuation (byte : UInt8) : Bool := 0x80 ≤ byte && byte < 0xc0

/-- Whether a byte may be the second one of a character with the given first byte. The shortest
form is required, and neither surrogates nor numbers beyond the last character are written. -/
def mayFollow (first second : UInt8) : Bool :=
  isContinuation second &&
    !(first == 0xe0 && second < 0xa0) && !(first == 0xed && 0xa0 ≤ second) &&
    !(first == 0xf0 && second < 0x90) && !(first == 0xf4 && 0x90 ≤ second)

/-- The part of a byte below a bound: the bits of a character that it carries. -/
def payload (byte : UInt8) (bound : Nat) : Nat := byte.toNat % bound

/-- The character of two bytes. -/
def twoByteChar (first second : UInt8) : Char :=
  Char.ofNat (payload first 0x20 * 0x40 + payload second 0x40)

/-- The character of three bytes. -/
def threeByteChar (first second third : UInt8) : Char :=
  Char.ofNat ((payload first 0x10 * 0x40 + payload second 0x40) * 0x40 + payload third 0x40)

/-- The character of four bytes. -/
def fourByteChar (first second third fourth : UInt8) : Char :=
  let upper := (payload first 0x08 * 0x40 + payload second 0x40) * 0x40 + payload third 0x40
  Char.ofNat (upper * 0x40 + payload fourth 0x40)

/-- The characters that bytes write, where the first byte has the given position. -/
def decodeFrom (position : Nat) : List UInt8 → Except DecodeError (List Char)
  | [] => .ok []
  | first :: rest =>
    if first < 0x80 then (decodeFrom (position + 1) rest).map (Char.ofNat first.toNat :: ·)
    else if first < 0xc2 || 0xf5 ≤ first then .error ⟨position, 0, first, .invalidStart⟩
    else
      match rest with
      | [] => .error ⟨position, 0, first, .unexpectedEnd⟩
      | second :: rest =>
        if !mayFollow first second then .error ⟨position, 0, first, .invalidContinuation⟩
        else if first < 0xe0 then
          (decodeFrom (position + 2) rest).map (twoByteChar first second :: ·)
        else
          match rest with
          | [] => .error ⟨position, 1, first, .unexpectedEnd⟩
          | third :: rest =>
            if !isContinuation third then .error ⟨position, 1, first, .invalidContinuation⟩
            else if first < 0xf0 then
              (decodeFrom (position + 3) rest).map (threeByteChar first second third :: ·)
            else
              match rest with
              | [] => .error ⟨position, 2, first, .unexpectedEnd⟩
              | fourth :: rest =>
                if !isContinuation fourth then .error ⟨position, 2, first, .invalidContinuation⟩
                else
                  (decodeFrom (position + 4) rest).map
                    (fourByteChar first second third fourth :: ·)

/-- The text that some bytes encode. -/
def decode (bytes : List UInt8) : Except DecodeError String :=
  (decodeFrom 0 bytes).map String.ofList

/-- The text that bytes write when they arrive piece by piece. A character that is broken off at the
end is then met alone, at position zero. -/
def decodeStreamed (bytes : List UInt8) : Except DecodeError String :=
  match decode bytes with
  | .error error =>
    .error (if error.reason = .unexpectedEnd then { error with position := 0 } else error)
  | result => result

/-- The bytes that write a text. -/
def encode (text : String) : List UInt8 := text.toList.flatMap String.utf8EncodeChar

end TokenLint.Text
