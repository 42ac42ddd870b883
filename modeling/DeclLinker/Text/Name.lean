import DeclLinker.Text.Digit
import DeclLinker.Text.NameTable
import DeclLinker.Text.Word

/-!
# Names

A name starts with a letter or an underscore; letters, digits, marks and underscores follow.
-/

namespace DeclLinker.Text

/-- Whether a character can stand in a name. -/
def isNameChar (char : Char) : Bool :=
  if char.toNat < 0x80 then
    isWord char
  else
    (isWord char && !inRanges namelessRanges char.toNat) || inRanges nameMarkRanges char.toNat

/-- Whether a name can start with a character. -/
def isNameStart (char : Char) : Bool :=
  isNameChar char &&
    ((isWord char && (digitValue? char).isNone && !inRanges innerRanges char.toNat) ||
      inRanges leadingRanges char.toNat)

/-- The first character of a text that keeps it from being a name. -/
def nameFault? : Text → Option Char
  | [] => none
  | first :: rest =>
      if isNameStart first then rest.find? fun char => !isNameChar char else some first

end DeclLinker.Text
