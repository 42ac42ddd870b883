import DeclLinker.Number.Numeral

/-!
# What is wrong with an expression

Some faults are found while a text is cut into tokens, the others when the tokens make up no
expression.  Where several stand in one text, a fault of the first kind that stands further behind
may hide one of the second kind.
-/

namespace DeclLinker.Expression

/-- What is wrong with a quotation: what its escapes stand for cannot be told. -/
inductive QuotationFault where
  | mixed
  | notSevenBit
  | escape (start stop : Nat) (what : Text)
  | byteEscape (position : Nat)
  deriving DecidableEq

/-- The message for a fault. -/
def QuotationFault.message : QuotationFault → Text
  | .mixed => "cannot mix bytes and nonbytes literals".toList
  | .notSevenBit => "bytes can only contain ASCII literal characters".toList
  | .escape start stop what =>
      "(unicode error) 'unicodeescape' codec can't decode bytes in position ".toList ++
        Text.ofNat start ++ '-' :: Text.ofNat stop ++ ": ".toList ++ what
  | .byteEscape position =>
      "(value error) invalid \\x escape at position ".toList ++ Text.ofNat position

/-- What is wrong with a quotation that has expressions in braces. -/
inductive TemplateFault where
  | loneBrace
  | unclosed
  | empty
  | missing (mark : Char)
  | conversion
  | tooDeep
  | backslash
  | comment
  | tooManyBrackets
  | unterminated
  | unmatched (bracket : Char)
  | mismatched (closing opening : Char)
  deriving DecidableEq

/-- The message for a fault. -/
def TemplateFault.message : TemplateFault → Text
  | .loneBrace => "f-string: single '\x7d' is not allowed".toList
  | .unclosed => "f-string: expecting '\x7d'".toList
  | .empty => "f-string: empty expression not allowed".toList
  | .missing mark => "f-string: expression required before ".toList ++ Text.quoted [mark]
  | .conversion => "f-string: invalid conversion character: expected 's', 'r', or 'a'".toList
  | .tooDeep => "f-string: expressions nested too deeply".toList
  | .backslash => "f-string expression part cannot include a backslash".toList
  | .comment => "f-string expression part cannot include '#'".toList
  | .tooManyBrackets => "f-string: too many nested parenthesis".toList
  | .unterminated => "f-string: unterminated string".toList
  | .unmatched bracket => "f-string: unmatched ".toList ++ Text.quoted [bracket]
  | .mismatched closing opening =>
      "f-string: closing parenthesis ".toList ++ Text.quoted [closing] ++
        " does not match opening parenthesis ".toList ++ Text.quoted [opening]

/-- What is wrong with an expression.  A fault of an expression in a quotation is told as such,
unless it was found while cutting. -/
inductive Fault where
  | unexpected
  | indented
  | nulCharacter
  | neverClosed (bracket : Char)
  | unmatched (bracket : Char)
  | mismatched (closing opening : Char) (line? : Option Nat)
  | tooDeep
  | unterminated (long : Bool) (line : Nat)
  | number (kind : Text)
  | wrongDigit (digit : Char) (kind : Text)
  | leadingZeros
  | character (char : Char)
  | strayBackslash
  | tooLong (digits : Nat)
  | quotation (fault : QuotationFault)
  | template (fault : TemplateFault)
  | complaint (text : Text)
  | embedded (fault : Fault)
  | misaligned
  | exhausted
  | tooNested
  deriving DecidableEq

namespace Fault

/-- The number of a character as it is written behind `U+`. -/
def codePoint (char : Char) : Text :=
  "U+".toList ++ (Text.hex 4 char.toNat).map Char.toUpper

/-- The message for a fault. -/
def message : Fault → Text
  | .unexpected => "invalid syntax".toList
  | .indented => "unexpected indent".toList
  | .nulCharacter => "source code string cannot contain null bytes".toList
  | .neverClosed bracket => Text.quoted [bracket] ++ " was never closed".toList
  | .unmatched bracket => "unmatched ".toList ++ Text.quoted [bracket]
  | .mismatched closing opening line? =>
      "closing parenthesis ".toList ++ Text.quoted [closing] ++
        " does not match opening parenthesis ".toList ++ Text.quoted [opening] ++
        match line? with
        | some line => " on line ".toList ++ Text.ofNat line
        | none => []
  | .tooDeep => "too many nested parentheses".toList
  | .unterminated long line =>
      "unterminated ".toList ++ (if long then "triple-quoted ".toList else []) ++
        "string literal (detected at line ".toList ++ Text.ofNat line ++ [')']
  | .number kind => "invalid ".toList ++ kind ++ " literal".toList
  | .wrongDigit digit kind =>
      "invalid digit ".toList ++ Text.quoted [digit] ++ " in ".toList ++ kind ++ " literal".toList
  | .leadingZeros =>
      "leading zeros in decimal integer literals are not permitted; ".toList ++
        "use an 0o prefix for octal integers".toList
  | .character char =>
      if Text.isPrintable char then
        "invalid character '".toList ++ char :: "' (".toList ++ codePoint char ++ [')']
      else
        "invalid non-printable character ".toList ++ codePoint char
  | .strayBackslash => "unexpected character after line continuation character".toList
  | .tooLong digits =>
      (NumeralFault.tooLong digits).message ++ " - Consider hexadecimal for huge ".toList ++
        "integer literals to avoid decimal conversion limits.".toList
  | .quotation fault => fault.message
  | .template fault => fault.message
  | .complaint text => text
  | .embedded fault => "f-string: ".toList ++ fault.message
  | .misaligned => "unindent does not match any outer indentation level".toList
  | .exhausted => []
  | .tooNested => "maximum recursion depth exceeded during ast construction".toList

/-- Whether a fault is one of the text as a whole, and not of a place in it. -/
def isGeneral : Fault → Bool
  | .nulCharacter | .exhausted | .tooNested => true
  | _ => false

/-- Whether a fault found while cutting is told even where the expression goes wrong before it. -/
def isLoud : Fault → Bool
  | .neverClosed _ | .strayBackslash | .misaligned => false
  | _ => true

/-- A fault as it is told of an expression in a quotation. -/
def inside (fault : Fault) : Fault :=
  match fault with
  | .unexpected | .indented | .neverClosed _ | .tooLong _ | .quotation _ | .template _
  | .complaint _ => .embedded fault
  | _ => fault

end Fault

end DeclLinker.Expression
