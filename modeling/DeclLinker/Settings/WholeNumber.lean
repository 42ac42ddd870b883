import DeclLinker.Number.Numeral

/-!
# Whole numbers in settings

A whole number may be given as text.  In strict form that is a minus or nothing, and digits without
a zero in front.  Any other text is tidied first: blanks around it, a plus, zeros in front, single
underscores between digits and zeros behind a point go away, and what is left has to be strict.

Underscores among the zeros in front go away with them, however many there are, and a minus may
stand behind such zeros.
-/

namespace DeclLinker.WholeNumber

/-- White space around a number.  The four information separators are not white space here. -/
def isWhite (char : Char) : Bool :=
  Text.isBlank char && !(0x1c ≤ char.toNat && char.toNat ≤ 0x1f)

/-- The text without the white space at its ends. -/
def trimWhite (text : Text) : Text :=
  ((text.dropWhile isWhite).reverse.dropWhile isWhite).reverse

/-- Whether a character is a digit other than zero. -/
def isLeadDigit (char : Char) : Bool :=
  char != '0' && char.isDigit

/-- The digits at the start of a text, if the first of them is not a zero. -/
def leadDigits : Text → Text
  | [] => []
  | char :: rest => if isLeadDigit char then char :: rest.takeWhile Char.isDigit else []

/-- Whether the number at the start of a text has more digits than a numeral may have. -/
def isTooLong : Text → Bool
  | '-' :: rest => Numeral.digitLimit < (leadDigits rest).length
  | text => Numeral.digitLimit < (leadDigits text).length

/-- The number that digits in strict form spell. -/
def strictNat? (text : Text) : Option Nat :=
  if text = ['0'] then some 0
  else if !text.isEmpty && leadDigits text == text then some (Text.digitsToNat text)
  else none

/-- The number that a text in strict form spells. -/
def strict? : Text → Option Int
  | '-' :: digits => (strictNat? digits).map fun number => -(number : Int)
  | digits => (strictNat? digits).map fun number => (number : Int)

/-- What follows zeros, given the last character that was passed over.  Of zeros alone the last one
is left, and the one before a point stays. -/
def afterZeros? : (last : Char) → Text → Option Text
  | last, [] => some [last]
  | last, char :: rest =>
      if char = '0' ∨ char = '_' then afterZeros? char rest
      else if isLeadDigit char ∨ char = '-' then some (char :: rest)
      else if char = '.' then some (last :: char :: rest)
      else none

/-- The text without the zeros in front of its number. -/
def dropZeros? : Text → Option Text
  | [] => none
  | char :: rest =>
      if char = '0' then afterZeros? char rest
      else if isLeadDigit char ∨ char = '-' then some (char :: rest)
      else none

/-- The text without a point and the zeros behind it. -/
def dropPoint (text : Text) : Text :=
  match text.dropWhile fun char => char != '.' with
  | _ :: zero :: zeros =>
      if (zero :: zeros).all fun char => char == '0' then
        text.takeWhile fun char => char != '.'
      else
        text
  | _ => text

/-- The text without its underscores, if no two of them are neighbours and none is at an end. -/
def ungroup (text : Text) : Text :=
  if text.head? = some '_' ∨ text.getLast? = some '_' ∨ Text.occursIn ['_', '_'] text then text
  else text.filter fun char => char != '_'

/-- A text in tidy form; none when it can spell no number. -/
def tidy? (text : Text) : Option Text :=
  let bare? :=
    match trimWhite text with
    | '+' :: '-' :: _ => none
    | '+' :: rest => dropZeros? rest
    | '-' :: rest =>
        match dropZeros? rest with
        | none | some ('-' :: _) => none
        | some digits => some ('-' :: digits)
    | trimmed => dropZeros? trimmed
  bare?.map fun bare => ungroup (dropPoint bare)

/-- The number that a text spells after tidying. -/
def lenient? (text : Text) : Option Int :=
  match tidy? text with
  | none => none
  | some tidy => if isTooLong tidy then none else strict? tidy

/-- The number that a text spells. -/
def ofText? (text : Text) : Option Int :=
  match strict? text with
  | some number => some number
  | none => lenient? text

end DeclLinker.WholeNumber
