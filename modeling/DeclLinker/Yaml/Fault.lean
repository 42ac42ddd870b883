import DeclLinker.Number.Numeral
import DeclLinker.Text.Utf8
import DeclLinker.Value.Moment

/-!
# Faults of documents

A document may break the rules of the format, its bytes may encode no text, or it may have too many
collections in each other.  Apart from that, a scalar may be spelled like a number or a day that
cannot be made, it may be called something that it does not spell, or an escape may name a character
that does not exist.
-/

namespace DeclLinker.Yaml

/-- What keeps a text from being a document. -/
inductive Fault where
  | malformed
  | undecodable (fault : Utf8Fault)
  | tooDeep
  | numeral (fault : NumeralFault)
  | noSuchCharacter
  | noSuchCodePoint
  | noDigits
  | notDecimal (text : Text)
  | notTruth (text : Text)
  | placesTooMany
  | notDate
  | calendar (fault : CalendarFault)
  deriving DecidableEq

/-- The message for a fault. -/
def Fault.message : Fault → Text
  | .malformed => "not a well-formed document".toList
  | .undecodable fault => fault.message
  | .tooDeep => "maximum recursion depth exceeded".toList
  | .numeral fault => fault.message
  | .noSuchCharacter => "chr() arg not in range(0x110000)".toList
  | .noSuchCodePoint => "Python int too large to convert to C int".toList
  | .noDigits => "string index out of range".toList
  | .notDecimal text => "could not convert string to float: ".toList ++ text.quoted
  | .notTruth text => text.quoted
  | .placesTooMany => "int too large to convert to float".toList
  | .notDate => "'NoneType' object has no attribute 'groupdict'".toList
  | .calendar fault => fault.message

/-- What a reader of a document answers with. -/
abbrev Read (α : Type) := Except Fault α

/-- A value that may be missing where the format asks for it. -/
def require {α : Type} : Option α → Read α
  | some value => .ok value
  | none => .error .malformed

end DeclLinker.Yaml
