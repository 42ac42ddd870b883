/-!
# Floating-point numbers as data

A double-precision number is kept as its sign, significand and exponent, so reading a decimal and
asking for a whole number are exact integer arithmetic.
-/

namespace DeclLinker

/-- A double-precision number: `± significand · 2 ^ exponent`, an infinity, or no number. -/
inductive Binary64 where
  | finite (negative : Bool) (significand : Nat) (exponent : Int)
  | infinite (negative : Bool)
  | notANumber
  deriving DecidableEq

namespace Binary64

/-- The exponent of the smallest positive number. -/
def minExponent : Int := -1074

/-- The largest exponent. -/
def maxExponent : Int := 971

/-- The fraction `numerator / denominator` rounded to the nearest whole number, a half to the even
one. -/
def roundHalfEven (numerator denominator : Nat) : Nat :=
  let quotient := numerator / denominator
  let twice := 2 * (numerator % denominator)
  if twice < denominator then
    quotient
  else if denominator < twice then
    quotient + 1
  else
    quotient + quotient % 2

/-- The quotient `numerator / (denominator · 2 ^ exponent)` as a fraction. -/
def scaled (numerator denominator : Nat) (exponent : Int) : Nat × Nat :=
  if 0 ≤ exponent then
    (numerator, denominator * Nat.pow 2 exponent.toNat)
  else
    (numerator * Nat.pow 2 (-exponent).toNat, denominator)

/-- The exponent at which the significand of a positive fraction has 53 bits, but not below the
least exponent. -/
def exponentFor (numerator denominator : Nat) : Int :=
  let guess : Int := (numerator.log2 : Int) - denominator.log2 - 52
  let (top, bottom) := scaled numerator denominator guess
  let exact := if top < bottom * Nat.pow 2 52 then guess - 1 else guess
  if exact < minExponent then minExponent else exact

/-- The number nearest to a fraction, a tie to the even significand. -/
def ofFraction (negative : Bool) (numerator denominator : Nat) : Binary64 :=
  if numerator = 0 then
    .finite negative 0 minExponent
  else
    let exponent := exponentFor numerator denominator
    let (top, bottom) := scaled numerator denominator exponent
    let significand := roundHalfEven top bottom
    if significand = Nat.pow 2 53 then
      if maxExponent < exponent + 1 then .infinite negative
      else .finite negative (Nat.pow 2 52) (exponent + 1)
    else if maxExponent < exponent then
      .infinite negative
    else
      .finite negative significand exponent

/-- The number nearest to `digits · 10 ^ power`.  Powers far outside the range are answered without
computing them. -/
def ofDecimal (negative : Bool) (digits : Nat) (power : Int) : Binary64 :=
  let size : Int := (Nat.toDigits 10 digits).length + power
  if digits = 0 ∨ size < -400 then
    .finite negative 0 minExponent
  else if 400 < size then
    .infinite negative
  else if 0 ≤ power then
    ofFraction negative (digits * Nat.pow 10 power.toNat) 1
  else
    ofFraction negative digits (Nat.pow 10 (-power).toNat)

/-- The number nearest to `± significand · 2 ^ exponent`. -/
def ofScaled (negative : Bool) (significand : Nat) (exponent : Int) : Binary64 :=
  if 0 ≤ exponent then
    ofFraction negative (significand * Nat.pow 2 exponent.toNat) 1
  else
    ofFraction negative significand (Nat.pow 2 (-exponent).toNat)

/-- The significand with its sign, in units of a power of two not above the exponent. -/
def alignedTo (unit : Int) (negative : Bool) (significand : Nat) (exponent : Int) : Int :=
  let size : Int := (significand * Nat.pow 2 (exponent - unit).toNat : Nat)
  if negative then -size else size

/-- The sum, rounded to the nearest number. -/
def add : Binary64 → Binary64 → Binary64
  | .finite negative significand exponent, .finite negative' significand' exponent' =>
      let unit := if exponent ≤ exponent' then exponent else exponent'
      let sum := alignedTo unit negative significand exponent +
        alignedTo unit negative' significand' exponent'
      if sum = 0 then
        .finite (negative && negative') 0 minExponent
      else
        ofScaled (sum < 0) sum.natAbs unit
  | .infinite negative, .infinite negative' =>
      if negative = negative' then .infinite negative else .notANumber
  | .infinite negative, .finite .. => .infinite negative
  | .finite .., .infinite negative => .infinite negative
  | _, _ => .notANumber

/-- Whether a number is zero, of either sign. -/
def isZero : Binary64 → Bool
  | .finite _ significand _ => significand == 0
  | _ => false

/-- The product, rounded to the nearest number. -/
def mul : Binary64 → Binary64 → Binary64
  | .finite negative significand exponent, .finite negative' significand' exponent' =>
      ofScaled (negative != negative') (significand * significand') (exponent + exponent')
  | .infinite negative, .infinite negative' => .infinite (negative != negative')
  | .infinite negative, .finite negative' significand' _ =>
      if significand' = 0 then .notANumber else .infinite (negative != negative')
  | .finite negative significand _, .infinite negative' =>
      if significand = 0 then .notANumber else .infinite (negative != negative')
  | _, _ => .notANumber

/-- The number with the other sign. -/
def neg : Binary64 → Binary64
  | .finite negative significand exponent => .finite (!negative) significand exponent
  | .infinite negative => .infinite (!negative)
  | .notANumber => .notANumber

/-- The number nearest to a natural number. -/
def ofNat (number : Nat) : Binary64 :=
  ofFraction false number 1

/-- The number as an integer, when it is one. -/
def toInt? : Binary64 → Option Int
  | .finite negative significand exponent =>
      let sign : Int := if negative then -1 else 1
      if 0 ≤ exponent then
        some (sign * (significand * Nat.pow 2 exponent.toNat : Nat))
      else
        let unit := Nat.pow 2 (-exponent).toNat
        if significand % unit = 0 then some (sign * (significand / unit : Nat)) else none
  | _ => none

end Binary64

end DeclLinker
