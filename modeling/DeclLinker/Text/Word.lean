import DeclLinker.Text.WordTable

/-!
# Word characters

Names of packages, types and exports are runs of word characters: letters, characters with a numeric
value, and the underscore.
-/

namespace DeclLinker.Text

/-- Letters, numbers and the underscore.  Seven-bit characters are decided without the table. -/
def isWord (char : Char) : Bool :=
  if char.toNat < 0x80 then
    char.isAlphanum || char == '_'
  else
    inRanges wordRanges char.toNat

/-- On seven-bit characters a word character is a letter, a digit or the underscore. -/
theorem isWord_of_lt {char : Char} (low : char.toNat < 0x80) :
    isWord char = (char.isAlphanum || char == '_') := by
  simp [isWord, low]

/-- What a dotted name is made of: word characters and dots. -/
def isDotted (char : Char) : Bool :=
  isWord char || char == '.'

end DeclLinker.Text
