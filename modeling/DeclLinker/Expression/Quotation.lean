import DeclLinker.Expression.Token
import DeclLinker.Number.Numeral
import DeclLinker.Text.CharacterName

/-!
# Escapes in quotations

A backslash in a quotation that is not raw starts an escape: two, four or eight hexadecimal digits
give a character by its number, and a name in braces gives it by its name.

Positions count a character beyond the seven-bit range as ten, and a backslash before one, or at the
end, as six.
-/

namespace DeclLinker.Expression.Quotation

/-- The letter of an escape by number, how many digits it takes, and what is said when some are
missing. -/
def numberEscapes : List (Char × Nat × Text) :=
  [('x', 2, "truncated \\xXX escape".toList), ('u', 4, "truncated \\uXXXX escape".toList),
    ('U', 8, "truncated \\UXXXXXXXX escape".toList)]

/-- The width of a character where positions are counted. -/
def width (char : Char) : Nat :=
  if char.toNat < 0x80 then 1 else 10

/-- The width of a text where positions are counted. -/
def textWidth : Text → Nat
  | [] => 0
  | ['\\'] => 6
  | '\\' :: char :: rest => (if width char = 1 then 2 else 16) + textWidth rest
  | char :: rest => width char + textWidth rest

/-- The hexadecimal digits at the start of a text, at most so many. -/
def leadingDigits (limit : Nat) (text : Text) : Text :=
  (text.take limit).takeWhile Token.isHexadecimal

/-- The number of the last character there is. -/
def lastCharacter : Nat := 0x10ffff

/-- What is wrong with the escape by number at a position. -/
def numberFault? (position digits : Nat) (short rest : Text) : Option QuotationFault :=
  let found := leadingDigits digits rest
  let value := Numeral.ofDigits 16 (found.filterMap Numeral.digit?)
  if found.length < digits then
    some (.escape position (position + 1 + found.length) short)
  else if lastCharacter < value then
    some (.escape position (position + 1 + digits) "illegal Unicode character".toList)
  else
    none

/-- What is wrong with the escape by name at a position. -/
def nameFault? (position : Nat) (rest : Text) : Option QuotationFault :=
  let malformed (stop : Nat) : QuotationFault :=
    .escape position stop "malformed \\N character escape".toList
  match rest with
  | '{' :: behind =>
      let name := behind.takeWhile fun char => char != '}'
      if name.length = behind.length then
        some (malformed (position + 2 + textWidth behind))
      else if name.isEmpty then
        some (malformed (position + 2))
      else if Text.namesCharacter name then
        none
      else
        some (.escape position (position + 2 + textWidth (name ++ ['}']))
          "unknown Unicode character name".toList)
  | _ => some (malformed (position + 1))

/-- The first escape from a position on that stands for no character. -/
def escapeFault? : (position : Nat) → Text → Option QuotationFault
  | _, [] => none
  | position, '\\' :: char :: rest =>
      let fault? :=
        match numberEscapes.lookup char with
        | some (digits, short) => numberFault? position digits short rest
        | none => if char = 'N' then nameFault? position rest else none
      match fault? with
      | some fault => some fault
      | none => escapeFault? (position + (if width char = 1 then 2 else 16)) rest
  | position, char :: rest => escapeFault? (position + width char) rest

/-- The first escape from a position on that stands for no byte. -/
def byteFault? : (position : Nat) → Text → Option QuotationFault
  | _, [] => none
  | position, '\\' :: char :: rest =>
      if char = 'x' && (leadingDigits 2 rest).length < 2 then
        some (.byteEscape position)
      else
        byteFault? (position + 2) rest
  | position, _ :: rest => byteFault? (position + 1) rest

/-- What is wrong with a quotation.  One with expressions in it is a template, which is read
elsewhere. -/
def fault? (quotation : Quotation) : Option QuotationFault :=
  if quotation.isFormatted then
    none
  else if quotation.isBytes && quotation.body.any fun char => 0x80 ≤ char.toNat then
    some .notSevenBit
  else if quotation.isRaw then
    none
  else if quotation.isBytes then
    byteFault? 0 quotation.body
  else
    escapeFault? 0 quotation.body

end DeclLinker.Expression.Quotation
