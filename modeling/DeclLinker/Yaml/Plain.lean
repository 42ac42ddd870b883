import DeclLinker.Number.Decimal
import DeclLinker.Yaml.Binary
import DeclLinker.Yaml.Tag
import DeclLinker.Yaml.Timestamp

/-!
# The meaning of scalars

A plain scalar is null, a truth value, an integer, a number, a day or a moment when it is spelled
like one, and a text otherwise.  Integers may be binary, octal, decimal, hexadecimal or written in
base sixty; underscores inside numbers are ignored.

The kind comes first, from the spelling or from a tag, and only then is the value made.  Making it
can fail: a mark for a base may have nothing but underscores behind it, an integer may have too many
digits, a month may have too few days, and a text with a tag may spell nothing of its kind.
-/

namespace DeclLinker.Yaml

/-- The spellings of null. -/
def nulls : List Text :=
  ["".toList, "~".toList, "null".toList, "Null".toList, "NULL".toList]

/-- The spellings of true. -/
def trues : List Text :=
  ["yes", "Yes", "YES", "true", "True", "TRUE", "on", "On", "ON"].map String.toList

/-- The spellings of false. -/
def falses : List Text :=
  ["no", "No", "NO", "false", "False", "FALSE", "off", "Off", "OFF"].map String.toList

/-! ## Spellings of numbers -/

/-- Whether a character is a digit by the given test, or an underscore. -/
def orUnderscore (isDigit : Char → Bool) (char : Char) : Bool :=
  isDigit char || char == '_'

/-- Whether a text is made of digits of a base and underscores, and is not empty. -/
def allDigits (isDigit : Char → Bool) (text : Text) : Bool :=
  !text.isEmpty && text.all (orUnderscore isDigit)

/-- Decimal digits and underscores that start with a digit. -/
def isDecimal : Text → Bool
  | [] => false
  | char :: rest => char.isDigit && rest.all (orUnderscore Char.isDigit)

/-- Whether a text is a place of a base-sixty number: at most two digits, below sixty. -/
def isSixtieth : Text → Bool
  | [digit] => digit.isDigit
  | [tens, ones] => '0' ≤ tens && tens ≤ '5' && ones.isDigit
  | _ => false

/-- Whether a text without sign is spelled like a natural number. -/
def isNatural (text : Text) : Bool :=
  match text with
  | '0' :: 'b' :: digits => allDigits (fun char => char == '0' || char == '1') digits
  | '0' :: 'x' :: digits => allDigits (fun char => (Json.hexDigit? char).isSome) digits
  | ['0'] => true
  | '0' :: digits => allDigits (fun char => '0' ≤ char && char ≤ '7') digits
  | _ =>
      match text.splitOn ':' with
      | whole :: places => isDecimal whole && places.all isSixtieth
      | [] => false

/-- Whether a text is spelled like an integer. -/
def isInteger (text : Text) : Bool :=
  isNatural (Numeral.splitSign text).2

/-- Whether the text behind a point is digits and perhaps an exponent, which needs a sign. -/
def isFraction (text : Text) : Bool :=
  match text.dropWhile (orUnderscore Char.isDigit) with
  | [] => true
  | mark :: sign :: power =>
      (mark == 'e' || mark == 'E') && (sign == '-' || sign == '+') && !power.isEmpty &&
        power.all Char.isDigit
  | _ => false

/-- The words for infinity, behind the point. -/
def infinities : List Text := ["inf".toList, "Inf".toList, "INF".toList]

/-- The words for no number, behind the point. -/
def notNumbers : List Text := ["nan".toList, "NaN".toList, "NAN".toList]

/-- Whether a number may start with a point: a digit follows, or an unsigned or signed word. -/
def isPointed (signed : Bool) (rest : Text) : Bool :=
  infinities.contains rest ||
    (!signed && (notNumbers.contains rest || ((rest.head?.any Char.isDigit) && isFraction rest)))

/-- Whether the digits before a point are the places of a base-sixty number. -/
def isSixty (whole : Text) : Bool :=
  match whole.splitOn ':' with
  | first :: place :: places => isDecimal first && (place :: places).all isSixtieth
  | _ => false

/-- Whether a text is spelled like a number with a point. -/
def isFloat (text : Text) : Bool :=
  let unsigned := (Numeral.splitSign text).2
  let whole := unsigned.takeWhile fun char => char != '.'
  match unsigned.dropWhile fun char => char != '.' with
  | [] => false
  | _ :: rest =>
      if whole.isEmpty then isPointed (text.length != unsigned.length) rest
      else if isDecimal whole then isFraction rest
      else isSixty whole && rest.all (orUnderscore Char.isDigit)

/-! ## The numbers themselves -/

/-- The text without underscores. -/
def ungrouped (text : Text) : Text :=
  text.filter fun char => char != '_'

/-- A numeral of a base. -/
def numeral (base : Nat) (text : Text) : Read Int :=
  (Numeral.read base text).mapError .numeral

/-- A sign and what follows it; there has to be something before the sign is looked at. -/
def signed (text : Text) : Read (Bool × Text) :=
  if text.isEmpty then .error .noDigits else .ok (Numeral.splitSign text)

/-- The number of the places of a base-sixty number. -/
def sixty (places : List Text) : Read Int :=
  places.foldlM (fun number place => (numeral 10 place).map fun next => number * 60 + next) 0

/-- The integer that a spelling without sign and underscores stands for. -/
def naturalOf (text : Text) : Read Int :=
  match text with
  | [] => .error .noDigits
  | ['0'] => .ok 0
  | '0' :: 'b' :: digits => numeral 2 digits
  | '0' :: 'x' :: digits => numeral 16 digits
  | '0' :: _ => numeral 8 text
  | _ => if text.contains ':' then sixty (text.splitOn ':') else numeral 10 text

/-- The integer that a spelling stands for. -/
def integerOf (text : Text) : Read Int := do
  let (negative, unsigned) ← signed (ungrouped text)
  let number ← naturalOf unsigned
  pure (if negative then -number else number)

/-- A decimal number. -/
def decimal (text : Text) : Read Binary64 :=
  match Binary64.ofText? text with
  | some number => .ok number
  | none => .error (.notDecimal text)

/-- The sum of the places of a base-sixty number from the last one on, each times its power; every
step is rounded, and every power has to be a number itself. -/
def sumPlaces : (power : Nat) → (sum : Binary64) → List Binary64 → Read Binary64
  | _, sum, [] => .ok sum
  | power, sum, place :: places =>
      match Binary64.ofNat power with
      | .infinite _ => .error .placesTooMany
      | factor => sumPlaces (power * 60) (sum.add (place.mul factor)) places

/-- The word for no number. -/
def notNumberWord : Text := ".nan".toList

/-- The number that a spelling without sign and underscores stands for. -/
def unsignedOf (text : Text) : Read Binary64 :=
  if text = ".inf".toList then
    .ok (.infinite false)
  else if text = notNumberWord then
    .ok .notANumber
  else if text.contains ':' then
    ((text.splitOn ':').mapM decimal).bind fun places =>
      sumPlaces 1 (.ofNat 0) places.reverse
  else
    decimal text

/-- The number that a spelling with a point stands for. -/
def floatOf (text : Text) : Read Binary64 := do
  let (negative, unsigned) ← signed (Text.lower (ungrouped text))
  let number ← unsignedOf unsigned
  pure (if negative then number.neg else number)

/-- Whether a spelling is the word for no number, with or without a sign. -/
def isNotNumberWord (text : Text) : Bool :=
  (Numeral.splitSign (Text.lower (ungrouped text))).2 == notNumberWord

/-- The truth value that a word stands for, in whatever letter case. -/
def truthOf (text : Text) : Read Bool :=
  let word := Text.lower text
  if trues.contains word then .ok true
  else if falses.contains word then .ok false
  else .error (.notTruth word)

/-! ## Kinds and values -/

/-- The kind of an unbroken spelling. -/
def kindOfLine (text : Text) : Tag :=
  if nulls.contains text then .null
  else if trues.contains text ∨ falses.contains text then .bool
  else if text = ['<', '<'] then .merge
  else if text = ['='] then .value
  else if text = ['!'] ∨ text = ['&'] ∨ text = ['*'] then .unknown
  else if isFloat text then .float
  else if isInteger text then .int
  else if Timestamp.isSpelled text then .timestamp
  else .str

/-- The kind that the spelling of a scalar has; a line feed at its end makes no difference, unless
it is all there is. -/
def kindOf (text : Text) : Tag :=
  if text.length ≠ 1 ∧ text.getLast? = some '\n' then kindOfLine text.dropLast
  else kindOfLine text

/-- The text without a line feed at its end. -/
def chomped (text : Text) : Text :=
  if text.getLast? = some '\n' then text.dropLast else text

/-- The value of a scalar of a kind. -/
def scalarOf (tag : Tag) (text : Text) : Read Scalar :=
  match tag with
  | .null => .ok .null
  | .bool => (truthOf text).map .bool
  | .int => (integerOf text).map .int
  | .float => (floatOf text).map .float
  | .str => .ok (.str text)
  | .binary => require ((Binary.bytes? text).map .bytes)
  | .timestamp => Timestamp.read (chomped text)
  | _ => .error .malformed

end DeclLinker.Yaml
