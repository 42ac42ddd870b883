import DeclLinker.Text.Blank
import DeclLinker.Text.Digit
import DeclLinker.Text.Quoted

/-!
# Numerals

A numeral is a whole number in a base: a sign, a mark for the base, and digits, which may be grouped
by single underscores.  Decimal numerals have a limit on their length.
-/

namespace DeclLinker

/-- What is wrong with a numeral: it spells no number in its base, it has too many digits, or a
number would need too many. -/
inductive NumeralFault where
  | invalid (base : Nat) (text : Text)
  | tooLong (digits : Nat)
  | unshowable
  deriving DecidableEq

/-- The message for a fault. -/
def NumeralFault.message : NumeralFault → Text
  | .invalid base text =>
      "invalid literal for int() with base ".toList ++ Text.ofNat base ++ [':', ' '] ++
        text.quoted.take 200
  | .tooLong digits =>
      "Exceeds the limit (4300 digits) for integer string conversion: value has ".toList ++
        Text.ofNat digits ++
        " digits; use sys.set_int_max_str_digits() to increase the limit".toList
  | .unshowable =>
      "Exceeds the limit (4300 digits) for integer string conversion; ".toList ++
        "use sys.set_int_max_str_digits() to increase the limit".toList

namespace Numeral

/-- The most digits a decimal numeral may have. -/
def digitLimit : Nat := 4300

/-- The value of a digit: letters follow the decimal digits. -/
def digit? (char : Char) : Option Nat :=
  match Text.digitValue? char with
  | some value => some value
  | none =>
      if 'a' ≤ char ∧ char ≤ 'z' then some (char.toNat - 'a'.toNat + 10)
      else if 'A' ≤ char ∧ char ≤ 'Z' then some (char.toNat - 'A'.toNat + 10)
      else none

/-- A sign, and what follows it. -/
def splitSign : Text → Bool × Text
  | '-' :: rest => (true, rest)
  | '+' :: rest => (false, rest)
  | text => (false, text)

/-- The mark before the digits of a base. -/
def baseMark? (base : Nat) : Option Char :=
  [(2, 'b'), (8, 'o'), (16, 'x')].lookup base

/-- The digits behind the mark of the base, if there is one; an underscore may follow the mark. -/
def dropMark (base : Nat) (text : Text) : Text :=
  match text with
  | '0' :: mark :: rest =>
      if baseMark? base = some mark.toLower then
        match rest with
        | '_' :: digits => digits
        | digits => digits
      else
        text
  | _ => text

/-- The values of the digits of a numeral, given whether an underscore may be next.  Underscores
stand between digits. -/
def digits? (base : Nat) : (between : Bool) → Text → Option (List Nat)
  | between, [] => if between then some [] else none
  | between, char :: rest =>
      if char = '_' then
        if between then digits? base false rest else none
      else
        match digit? char with
        | some digit =>
            if digit < base then (digits? base true rest).map fun more => digit :: more else none
        | none => none

/-- The number that digits spell. -/
def ofDigits (base : Nat) (digits : List Nat) : Nat :=
  digits.foldl (fun number digit => number * base + digit) 0

/-- The number that a numeral spells, blanks around it aside. -/
def read (base : Nat) (text : Text) : Except NumeralFault Int :=
  let (negative, unsigned) := splitSign (Text.trim text)
  match digits? base false (dropMark base unsigned) with
  | none => .error (.invalid base text)
  | some digits =>
      if base = 10 ∧ digitLimit < digits.length then
        .error (.tooLong digits.length)
      else if negative then
        .ok (-(ofDigits base digits : Int))
      else
        .ok (ofDigits base digits)

end Numeral

end DeclLinker
