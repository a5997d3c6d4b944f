/-!
# Binary floating-point numbers

Numbers of 53 significant bits with an exponent range, held exactly as an integer
times a power of two. Reading a decimal rounds to the nearest such number, a tie
going to the even one; everything here is integer arithmetic.
-/

namespace TokenLint

/-- A floating-point number: `mantissa * 2 ^ exponent` with its sign, or no finite number. -/
inductive Binary64 where
  | finite (negative : Bool) (mantissa : Nat) (exponent : Int)
  | infinite (negative : Bool)
  | notANumber
  deriving DecidableEq, Repr

/-- The nearest integer to a quotient, a tie going to the even one. -/
def roundQuotient (numerator denominator : Nat) : Nat :=
  let floor := numerator / denominator
  let twice := 2 * (numerator % denominator)
  if twice < denominator then floor
  else if denominator < twice then floor + 1
  else floor + floor % 2

namespace Binary64

/-- The exponent of the smallest numbers. -/
def leastExponent : Int := -1074

/-- A quotient with its power of two split off: numerator and denominator of
`numerator / denominator * 2 ^ (-exponent)`. -/
def scaled (numerator denominator : Nat) (exponent : Int) : Nat × Nat :=
  (numerator * Nat.pow 2 (-exponent).toNat, denominator * Nat.pow 2 exponent.toNat)

/-- The exponent at which the quotient has 53 bits before the point, or the least exponent. -/
def exponentFor (numerator denominator : Nat) : Int :=
  let guess : Int := (numerator.log2 : Int) - denominator.log2 - 53
  let (high, low) := scaled numerator denominator guess
  max leastExponent (if high / low < Nat.pow 2 53 then guess else guess + 1)

/-- The number next to a quotient; of two that are as near, the one with an even mantissa. -/
def ofQuotient (negative : Bool) (numerator denominator : Nat) : Binary64 :=
  if numerator = 0 then finite negative 0 leastExponent
  else
    let exponent := exponentFor numerator denominator
    let (high, low) := scaled numerator denominator exponent
    let mantissa := roundQuotient high low
    let (mantissa, exponent) :=
      if mantissa = Nat.pow 2 53 then (Nat.pow 2 52, exponent + 1) else (mantissa, exponent)
    if 971 < exponent then infinite negative else finite negative mantissa exponent

/-- The number nearest to `digits * 10 ^ exponent`. Exponents far outside the range are settled
without forming the power. -/
def ofDecimal (negative : Bool) (digits : Nat) (exponent : Int) : Binary64 :=
  let places : Int := (Nat.toDigits 10 digits).length
  if digits = 0 ∨ exponent + places < -400 then finite negative 0 leastExponent
  else if 400 < exponent then infinite negative
  else ofQuotient negative (digits * Nat.pow 10 exponent.toNat) (Nat.pow 10 (-exponent).toNat)

/-- The number nearest to an integer. -/
def ofInt (number : Int) : Binary64 := ofDecimal (number < 0) number.natAbs 0

/-- The integer part, for a finite number. -/
def truncate? : Binary64 → Option Int
  | finite negative mantissa exponent =>
    let size := mantissa * Nat.pow 2 exponent.toNat / Nat.pow 2 (-exponent).toNat
    some (if negative then -(size : Int) else size)
  | _ => none

/-- Whether a number is one of the two zeros. -/
def isZero : Binary64 → Bool
  | finite _ 0 _ => true
  | _ => false

/-- Whether a number has a minus sign, as one of the two zeros has. -/
def isNegative : Binary64 → Bool
  | finite negative _ _ => negative
  | infinite negative => negative
  | notANumber => false

/-- Whether a number is less than an integer, compared exactly. -/
def lessThanInt (number : Binary64) (bound : Int) : Bool :=
  match number with
  | finite negative mantissa exponent =>
    let size : Int := (mantissa * Nat.pow 2 exponent.toNat : Nat)
    (if negative then -size else size) < bound * (Nat.pow 2 (-exponent).toNat : Nat)
  | infinite negative => negative
  | notANumber => false

end Binary64

end TokenLint
