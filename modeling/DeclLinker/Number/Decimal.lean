import DeclLinker.Number.Binary64
import DeclLinker.Number.Numeral
import DeclLinker.Text.Case

/-!
# Decimal numbers as text

A decimal number is a sign, digits around a point, and an exponent; the words for infinity and for
no number are decimals as well.  It is read as the nearest floating-point number.
-/

namespace DeclLinker.Binary64

/-- A run of decimal digits, and what follows it. -/
def spanDigits (text : Text) : Text × Text :=
  (text.takeWhile fun char => (Text.digitValue? char).isSome,
    text.dropWhile fun char => (Text.digitValue? char).isSome)

/-- The power of ten that an exponent adds; none when it is malformed. -/
def exponent? : Text → Option Int
  | [] => some 0
  | mark :: rest =>
      let (negative, unsigned) := Numeral.splitSign rest
      let (digits, after) := spanDigits unsigned
      if (mark = 'e' ∨ mark = 'E') ∧ !digits.isEmpty ∧ after.isEmpty then
        let size : Int := Text.digitsToNat digits
        some (if negative then -size else size)
      else
        none

/-- The number of the words that stand for numbers. -/
def ofWord? (negative : Bool) (word : Text) : Option Binary64 :=
  if word = "inf".toList ∨ word = "infinity".toList then some (.infinite negative)
  else if word = "nan".toList then some .notANumber
  else none

/-- The number nearest to a decimal without sign. -/
def ofUnsigned? (negative : Bool) (text : Text) : Option Binary64 :=
  let (whole, rest) := spanDigits text
  let (fraction, rest) :=
    match rest with
    | '.' :: after => spanDigits after
    | _ => ([], rest)
  if whole.isEmpty ∧ fraction.isEmpty then
    none
  else
    (exponent? rest).map fun power =>
      ofDecimal negative (Text.digitsToNat (whole ++ fraction)) (power - fraction.length)

/-- The number nearest to a decimal, blanks around it aside. -/
def ofText? (text : Text) : Option Binary64 :=
  let (negative, unsigned) := Numeral.splitSign (Text.trim text)
  match ofWord? negative (Text.lower unsigned) with
  | some number => some number
  | none => ofUnsigned? negative unsigned

end DeclLinker.Binary64
