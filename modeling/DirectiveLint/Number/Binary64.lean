import DirectiveLint.Number.Rounding

/-!
# Binary floating-point numbers of 64 bits

A finite number is a sign, a significand and a power of two.  Numbers are built
by rounding an exact quotient, so every finite number made here has a
significand below `2 ^ 53` and is normal or carries the least exponent.
Comparison and arithmetic go through the exact rational value and round at most
once.

What is not a number carries a payload.  It never equals anything, but two of
one payload are the same datum, and containers compare their parts as data.
-/

namespace DirectiveLint
namespace Number

/-- A number of the 64-bit binary format.  `finite negative significand exponent` stands for
`significand * 2 ^ exponent` with the given sign. -/
inductive Binary64
  | finite (negative : Bool) (significand : Nat) (exponent : Int)
  | infinite (negative : Bool)
  | notANumber (payload : Nat)
  deriving DecidableEq, Repr

namespace Binary64

/-- The exponent of the least positive number. -/
def leastExponent : Int := -1074

/-- The exponent of the greatest finite numbers. -/
def greatestExponent : Int := 971

/-- The least significand of a normal number, `2 ^ 52`. -/
def leastNormal : Nat := 1 <<< 52

def zero (negative : Bool) : Binary64 :=
  .finite negative 0 leastExponent

/-- A quotient in units of a power of two, rounded to the nearest even significand. -/
def significandAt (numerator denominator : Nat) (exponent : Int) : Nat :=
  roundHalfEven (numerator <<< (-exponent).toNat) (denominator <<< exponent.toNat)

/-- The exponent at which a positive quotient has a significand of 53 bits, or the least one. -/
def exponentOf (numerator denominator : Nat) : Int :=
  let estimate : Int := (numerator.log2 : Int) - (denominator.log2 : Int) - 52
  let floor := (numerator <<< (-estimate).toNat) / (denominator <<< estimate.toNat)
  max leastExponent (if floor < leastNormal then estimate - 1 else estimate)

/-- The number nearest to a quotient, with the given sign. -/
def ofQuotient (negative : Bool) (numerator denominator : Nat) : Binary64 :=
  if numerator == 0 || denominator == 0 then zero negative
  else
    let exponent := exponentOf numerator denominator
    let significand := significandAt numerator denominator exponent
    let (significand, exponent) :=
      if significand == 2 * leastNormal then (leastNormal, exponent + 1)
      else (significand, exponent)
    if greatestExponent < exponent then .infinite negative
    else .finite negative significand exponent

/-- The exact value of a finite number. -/
def toRat? : Binary64 → Option Rat
  | .finite negative significand exponent =>
    let magnitude : Rat :=
      if 0 ≤ exponent then ((significand <<< exponent.toNat : Nat) : Rat)
      else mkRat significand (1 <<< (-exponent).toNat)
    some (if negative then -magnitude else magnitude)
  | .infinite _ => none
  | .notANumber _ => none

/-- The number nearest to a rational number; a zero result keeps the given sign. -/
def ofRat (value : Rat) (negativeZero : Bool) : Binary64 :=
  if value.num == 0 then zero negativeZero
  else ofQuotient (decide (value.num < 0)) value.num.natAbs value.den

/-- The number nearest to an integer, unless it is beyond the finite numbers. -/
def ofInt? (value : Int) : Option Binary64 :=
  match ofRat value false with
  | .infinite _ => none
  | number => some number

/-- The number nearest to `digits * 10 ^ exponent`.  Exponents far outside the range are settled
by the count of digits, so that no needlessly large power is formed. -/
def ofDecimal (negative : Bool) (digits : Nat) (exponent : Int) : Binary64 :=
  let magnitude : Int := (digits.log2 : Int) * 30103 / 100000 + exponent
  if digits == 0 || magnitude < -400 then zero negative
  else if 400 < magnitude then .infinite negative
  else ofQuotient negative (digits * Nat.pow 10 exponent.toNat) (Nat.pow 10 (-exponent).toNat)

def isNegative : Binary64 → Bool
  | .finite negative _ _ => negative
  | .infinite negative => negative
  | .notANumber _ => false

/-- Whether a number is a zero of either sign. -/
def isZero : Binary64 → Bool
  | .finite _ significand _ => significand == 0
  | _ => false

/-- The integer part of a finite number. -/
def truncate? (number : Binary64) : Option Int :=
  number.toRat?.map fun value => value.num.tdiv value.den

/-- Numeric equality: the zeros are equal and nothing equals a number that is not one. -/
def equals : Binary64 → Binary64 → Bool
  | .notANumber _, _ => false
  | _, .notANumber _ => false
  | .infinite first, .infinite second => first == second
  | first, second =>
    match first.toRat?, second.toRat? with
    | some first, some second => first == second
    | _, _ => false

/-- Whether two numbers are the same datum: equal, or not numbers and of one payload. -/
def isSameDatum : Binary64 → Binary64 → Bool
  | .notANumber payload, .notANumber other => payload == other
  | first, second => first.equals second

/-- Whether an exact value is below a number. -/
def exceeds (number : Binary64) (value : Rat) : Bool :=
  match number with
  | .notANumber _ => false
  | .infinite negative => !negative
  | other =>
    match other.toRat? with
    | some bound => decide (value < bound)
    | none => false

/-- Addition, rounded once. -/
def add : Binary64 → Binary64 → Binary64
  | .notANumber payload, _ => .notANumber payload
  | _, .notANumber payload => .notANumber payload
  | .infinite first, .infinite second =>
    if first == second then .infinite first else .notANumber 0
  | .infinite first, _ => .infinite first
  | _, .infinite second => .infinite second
  | first, second =>
    match first.toRat?, second.toRat? with
    | some left, some right => ofRat (left + right) (first.isNegative && second.isNegative)
    | _, _ => .notANumber 0

end Binary64
end Number
end DirectiveLint
