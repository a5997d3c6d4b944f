import TokenLint.Number.Binary64

/-!
# Decimal digits of a floating-point number

Three ways to choose the digits of a number: the fewest that read back to it, a fixed
number of places, and a fixed number of significant digits. Roundings are exact, a
tie going to the even digit.
-/

namespace TokenLint

/-- Significant digits, most significant first, and the power of ten of the first one. -/
structure DecimalDigits where
  digits : List Char
  leading : Int
  deriving DecidableEq, Repr

namespace DecimalDigits

/-- The digits of a number `digits * 10 ^ exponent`. -/
def ofScaled (digits : Nat) (exponent : Int) : DecimalDigits :=
  let shown := Nat.toDigits 10 digits
  ⟨shown, exponent + shown.length - 1⟩

/-- Drops the zeros at the end, but never the first digit. -/
def stripped (decimal : DecimalDigits) : DecimalDigits :=
  match (decimal.digits.reverse.dropWhile (· == '0')).reverse with
  | [] => { decimal with digits := ['0'] }
  | kept => { decimal with digits := kept }

/-- The digits in positional notation with at least `places` digits after the point. -/
def positional (decimal : DecimalDigits) (places : Nat) : List Char × List Char :=
  let whole :=
    if decimal.leading < 0 then ['0']
    else
      let count := decimal.leading.toNat + 1
      decimal.digits.take count ++ List.replicate (count - decimal.digits.length) '0'
  let fraction :=
    if decimal.leading < 0 then
      List.replicate ((-decimal.leading).toNat - 1) '0' ++ decimal.digits
    else decimal.digits.drop (decimal.leading.toNat + 1)
  (whole, fraction ++ List.replicate (places - fraction.length) '0')

end DecimalDigits

/-- A power of ten as a quotient of two integers. -/
def tenPower (exponent : Int) : Nat × Nat :=
  (Nat.pow 10 exponent.toNat, Nat.pow 10 (-exponent).toNat)

/-- A finite size as a quotient. -/
def binaryQuotient (mantissa : Nat) (exponent : Int) : Nat × Nat :=
  (mantissa * Nat.pow 2 exponent.toNat, Nat.pow 2 (-exponent).toNat)

/-- The power of ten of the first digit of a positive quotient. -/
def leadingPower (numerator denominator : Nat) : Int :=
  let atLeast (power : Int) : Bool :=
    let (high, low) := tenPower power
    high * denominator ≤ numerator * low
  let guess : Int := ((numerator.log2 : Int) - denominator.log2) * 30103 / 100000
  if atLeast (guess + 1) then guess + 1
  else if atLeast guess then guess
  else if atLeast (guess - 1) then guess - 1
  else guess - 2

/-- A quotient rounded to a multiple of a power of ten, as a count of it. -/
def roundToPower (numerator denominator : Nat) (power : Int) : Nat :=
  let (high, low) := tenPower power
  roundQuotient (numerator * low) (denominator * high)

/-- The fewest digits, up to `budget` more than `count`, that read back to the number. -/
def shortestFrom (mantissa : Nat) (exponent : Int) (count : Nat) : Nat → DecimalDigits
  | 0 =>
    let (numerator, denominator) := binaryQuotient mantissa exponent
    let power := leadingPower numerator denominator - 16
    .ofScaled (roundToPower numerator denominator power) power
  | budget + 1 =>
    let (numerator, denominator) := binaryQuotient mantissa exponent
    let power := leadingPower numerator denominator - (count : Int)
    let (high, low) := tenPower power
    let below := numerator * low / (denominator * high)
    let readsBack (digits : Nat) : Bool :=
      Binary64.ofDecimal false digits power = .finite false mantissa exponent
    let nearest := roundToPower numerator denominator power
    if readsBack nearest then .ofScaled nearest power
    else if readsBack below then .ofScaled below power
    else if readsBack (below + 1) then .ofScaled (below + 1) power
    else shortestFrom mantissa exponent (count + 1) budget

/-- The fewest digits that read back to a finite size. -/
def shortestDigits (mantissa : Nat) (exponent : Int) : DecimalDigits :=
  if mantissa = 0 then ⟨['0'], 0⟩ else (shortestFrom mantissa exponent 0 17).stripped

/-- The digits of a finite size rounded to `places` digits after the point. -/
def fixedDigits (mantissa : Nat) (exponent : Int) (places : Nat) : List Char × List Char :=
  let (numerator, denominator) := binaryQuotient mantissa exponent
  let digits := Nat.toDigits 10 (roundToPower numerator denominator (-(places : Int)))
  let padded := List.replicate (places + 1 - digits.length) '0' ++ digits
  (padded.take (padded.length - places), padded.drop (padded.length - places))

/-- A finite size rounded to `count` significant digits. -/
def significantDigits (mantissa : Nat) (exponent : Int) (count : Nat) : DecimalDigits :=
  if mantissa = 0 then ⟨List.replicate count '0', 0⟩
  else
    let (numerator, denominator) := binaryQuotient mantissa exponent
    let leading := leadingPower numerator denominator
    let power := leading - count + 1
    let rounded := Nat.toDigits 10 (roundToPower numerator denominator power)
    if rounded.length = count + 1 then ⟨rounded.take count, leading + 1⟩ else ⟨rounded, leading⟩

/-- An exponent with its mark, a sign and at least two digits. -/
def exponentText (exponent : Int) : List Char :=
  let digits := Nat.toDigits 10 exponent.natAbs
  'e' :: (if exponent < 0 then '-' else '+') ::
    (List.replicate (2 - digits.length) '0' ++ digits)

/-- Digits with a point behind the first of them, and an exponent. -/
def scientificText (decimal : DecimalDigits) (keepPoint : Bool) : List Char :=
  let fraction := decimal.digits.drop 1
  decimal.digits.take 1 ++ (if fraction.isEmpty && !keepPoint then [] else '.' :: fraction) ++
    exponentText decimal.leading

/-- Whole and fractional digits with a point between them. -/
def pointText (parts : List Char × List Char) (keepPoint : Bool) : List Char :=
  parts.1 ++ (if parts.2.isEmpty && !keepPoint then [] else '.' :: parts.2)

/-- The plain text of a number: the fewest digits that read back, positionally with at least one
place from 10⁻⁴ up to below 10¹⁶ and with an exponent elsewhere. -/
def Binary64.text : Binary64 → String
  | notANumber => "nan"
  | infinite negative => if negative then "-inf" else "inf"
  | finite negative mantissa exponent =>
    let decimal := shortestDigits mantissa exponent
    let size :=
      if -4 ≤ decimal.leading ∧ decimal.leading < 16 then pointText (decimal.positional 1) true
      else scientificText decimal false
    String.ofList (if negative then '-' :: size else size)

end TokenLint
