import DeclLinker.Number.Binary64
import DeclLinker.Text.Basic

/-!
# The shortest decimal that reads back

A floating-point number is written with the fewest significant digits from which it can be read
again; of two such decimals the nearer one is taken, and on a tie the one with the even last digit.
The point stands among the digits for exponents from -4 up to 15, otherwise the exponent is written.
-/

namespace DeclLinker.Binary64

/-- Digits and a power of ten: `digits · 10 ^ power`. -/
abbrev Decimal := Nat × Int

/-- The value `significand · 2 ^ exponent` as a fraction. -/
def fraction (significand : Nat) (exponent : Int) : Nat × Nat :=
  if 0 ≤ exponent then
    (significand * Nat.pow 2 exponent.toNat, 1)
  else
    (significand, Nat.pow 2 (-exponent).toNat)

/-- The number of digits before the point of a positive fraction, counted negatively for zeros
behind the point. -/
def magnitude (top bottom : Nat) : Int :=
  if bottom ≤ top then
    (Nat.toDigits 10 (top / bottom)).length
  else
    let size := (Nat.toDigits 10 (bottom / top)).length
    if bottom = top * Nat.pow 10 (size - 1) then 2 - (size : Int) else 1 - (size : Int)

/-- The fraction `top / bottom` divided by `10 ^ power`. -/
def inUnits (top bottom : Nat) (power : Int) : Nat × Nat :=
  if 0 ≤ power then
    (top, bottom * Nat.pow 10 power.toNat)
  else
    (top * Nat.pow 10 (-power).toNat, bottom)

/-- The two neighbours of a fraction with the given number of digits, the nearer one first. -/
def neighbours (top bottom count : Nat) : List Decimal :=
  let power := magnitude top bottom - count
  let (above, below) := inUnits top bottom power
  let digits := above / below
  let twice := 2 * (above % below)
  let near := if twice < below ∨ (twice = below ∧ digits % 2 = 0) then digits else digits + 1
  let far := if near = digits then digits + 1 else digits
  [(near, power), (far, power)]

/-- The shortest decimal for a positive finite number. -/
def shortest (significand : Nat) (exponent : Int) : Decimal :=
  let (top, bottom) := fraction significand exponent
  let candidates := (List.range 17).flatMap fun count => neighbours top bottom (count + 1)
  let readsBack : Decimal → Bool := fun (digits, power) =>
    ofDecimal false digits power == .finite false significand exponent
  (candidates.find? readsBack).getD (0, 0)

/-- The digits with trailing zeros moved into the power. -/
def trimZeros : Text → Text
  | [] => []
  | char :: rest =>
      match trimZeros rest with
      | [] => if char = '0' then [] else [char]
      | kept => char :: kept

/-- Positional notation: digits, and where the point stands among them. -/
def positional (digits : Text) (point : Int) : Text :=
  if point ≤ 0 then
    "0.".toList ++ List.replicate (-point).toNat '0' ++ digits
  else
    let count := point.toNat
    let whole := digits.take count ++ List.replicate (count - digits.length) '0'
    let rest := digits.drop count
    whole ++ '.' :: (if rest.isEmpty then ['0'] else rest)

/-- Exponent notation: one digit before the point, a sign, at least two exponent digits. -/
def scientific (digits : Text) (exponent : Int) : Text :=
  let mantissa :=
    match digits with
    | [] => []
    | [only] => [only]
    | first :: rest => first :: '.' :: rest
  let size := Text.ofNat exponent.natAbs
  let filled := if size.length < 2 then '0' :: size else size
  mantissa ++ 'e' :: (if exponent < 0 then '-' else '+') :: filled

/-- The text of a number. -/
def toText : Binary64 → Text
  | .notANumber => "nan".toList
  | .infinite negative => (if negative then "-inf" else "inf").toList
  | .finite negative significand exponent =>
      let sign := if negative then ['-'] else []
      if significand = 0 then
        sign ++ "0.0".toList
      else
        let (number, power) := shortest significand exponent
        let all := Text.ofNat number
        let point : Int := all.length + power
        let digits := trimZeros all
        if -4 < point ∧ point ≤ 16 then
          sign ++ positional digits point
        else
          sign ++ scientific digits (point - 1)

end DeclLinker.Binary64
