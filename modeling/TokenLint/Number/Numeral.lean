import TokenLint.Number.Binary64
import TokenLint.Text.Blank
import TokenLint.Text.Digit

/-!
# Numerals

Reading integers and floating-point numbers from text. Digits of any script count as
digits, surrounding whitespace is ignored, and single underscores may stand between
digits. A decimal integer may have at most 4300 digits.
-/

namespace TokenLint

open Text

/-- Why a text is no integer. -/
inductive NumeralError where
  | notANumeral
  | tooManyDigits (count : Nat)
  deriving DecidableEq

namespace NumeralError

/-- The wording of an error about a numeral with more digits than are read. -/
def tooLongMessage (count : Nat) : String :=
  "Exceeds the limit (4300 digits) for integer string conversion: value has " ++
    toString count ++ " digits; use sys.set_int_max_str_digits() to increase the limit"

end NumeralError

/-- The most digits that a decimal integer may have. -/
def maxDecimalDigits : Nat := 4300

/-- The ASCII form of a character of a numeral: whitespace beyond ASCII becomes a space, a digit of
any script its ASCII digit, and anything else a question mark. -/
def numeralChar (char : Char) : Char :=
  if char.toNat < 0x7f then char
  else if isBlank char then ' '
  else
    match digitValue? char with
    | some value => Char.ofNat (0x30 + value)
    | none => '?'

/-- The characters of a numeral, in ASCII if they are not already. -/
def numeralChars (text : String) : List Char :=
  let chars := text.toList
  if chars.all fun char => char.toNat < 0x80 then chars else chars.map numeralChar

/-- Whitespace that may surround a numeral. -/
def isNumeralSpace (char : Char) : Bool :=
  char == ' ' || (0x9 ≤ char.toNat && char.toNat ≤ 0xd)

/-- The value of a digit in bases up to sixteen. -/
def baseDigit? (base : Nat) (char : Char) : Option Nat :=
  let value :=
    if char.isDigit then some (char.toNat - 0x30)
    else if 'a' ≤ char.toLower ∧ char.toLower ≤ 'f' then some (char.toLower.toNat - 0x61 + 10)
    else none
  value.filter (· < base)

/-- Whether a numeral begins with a minus sign, and what follows its sign. -/
def splitSign : List Char → Bool × List Char
  | '-' :: rest => (true, rest)
  | '+' :: rest => (false, rest)
  | chars => (false, chars)

/-- A numeral without the mark of its base and one underscore behind that. -/
def dropBaseMark (base : Nat) (chars : List Char) : List Char :=
  match chars with
  | '0' :: mark :: rest =>
    let marked := (base = 16 ∧ mark.toLower = 'x') ∨ (base = 8 ∧ mark.toLower = 'o') ∨
      (base = 2 ∧ mark.toLower = 'b')
    if marked then
      match rest with
      | '_' :: digits => digits
      | digits => digits
    else chars
  | _ => chars

/-- The digit values of a numeral without sign, each underscore standing between two digits. -/
def digitValues? (base : Nat) : List Char → Option (List Nat)
  | [] => none
  | [char] => (baseDigit? base char).map ([·])
  | char :: '_' :: rest => do
    let value ← baseDigit? base char
    let values ← digitValues? base rest
    return value :: values
  | char :: rest => do
    let value ← baseDigit? base char
    let values ← digitValues? base rest
    return value :: values

/-- The number with the given digit values. -/
def ofDigitValues (base : Nat) (values : List Nat) : Nat :=
  values.foldl (fun number value => base * number + value) 0

/-- Whether numerals of a base are read whatever their length. -/
def isUnlimitedBase (base : Nat) : Bool := base == 2 || base == 8 || base == 16

/-- Reads an integer. Blanks around it are dropped, underscores may stand between digits, and the
number of decimal digits is limited. -/
def readInteger (base : Nat) (text : String) : Except NumeralError Int :=
  let trimmed := trimChars isNumeralSpace (numeralChars text)
  let (negative, unsigned) := splitSign trimmed
  match digitValues? base (dropBaseMark base unsigned) with
  | none => .error .notANumeral
  | some values =>
    if !isUnlimitedBase base && maxDecimalDigits < values.length then
      .error (.tooManyDigits values.length)
    else
      let size : Int := ofDigitValues base values
      .ok (if negative then -size else size)

/-- The digits at the head of a text, their number, and the rest. -/
def splitDigits (chars : List Char) : Nat × Nat × List Char :=
  let digits := chars.takeWhile Char.isDigit
  (ofDigitValues 10 (digits.map fun digit => digit.toNat - 0x30), digits.length,
    chars.drop digits.length)

/-- The exponent at the head of a text, with the rest; without one, zero. -/
def splitExponent (chars : List Char) : Int × List Char :=
  match chars with
  | mark :: rest =>
    if mark.toLower = 'e' then
      let (negative, unsigned) := splitSign rest
      let (size, count, afterDigits) := splitDigits unsigned
      if count = 0 then (0, chars) else (if negative then -(size : Int) else size, afterDigits)
    else (0, chars)
  | [] => (0, [])

/-- The floating-point number that a text without underscores writes. -/
def readFloat? (text : String) : Option Binary64 :=
  let trimmed := trimChars isNumeralSpace (numeralChars text)
  let (negative, unsigned) := splitSign trimmed
  let word := String.ofList (unsigned.map Char.toLower)
  if word = "inf" ∨ word = "infinity" then some (.infinite negative)
  else if word = "nan" then some .notANumber
  else
    let (whole, wholeCount, afterWhole) := splitDigits unsigned
    let (fraction, fractionCount, afterFraction) := match afterWhole with
      | '.' :: rest => splitDigits rest
      | rest => (0, 0, rest)
    let (exponent, rest) := splitExponent afterFraction
    if wholeCount + fractionCount = 0 ∨ rest ≠ [] then none
    else
      some (.ofDecimal negative (whole * Nat.pow 10 fractionCount + fraction)
        (exponent - (fractionCount : Int)))

end TokenLint
