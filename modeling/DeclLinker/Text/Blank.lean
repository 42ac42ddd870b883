import DeclLinker.Text.Pieces
import DeclLinker.Text.Range

/-!
# Blanks

White space in the sense of the Unicode standard, including the line separators and the four
information separators.
-/

namespace DeclLinker.Text

/-- The code points of white space. -/
def blankRanges : List Range :=
  [(0x09, 0x0d), (0x1c, 0x20), (0x85, 0x85), (0xa0, 0xa0), (0x1680, 0x1680), (0x2000, 0x200a),
    (0x2028, 0x2029), (0x202f, 0x202f), (0x205f, 0x205f), (0x3000, 0x3000)]

/-- Whether a character is white space. -/
def isBlank (char : Char) : Bool :=
  inRanges blankRanges char.toNat

/-- The text without the blanks at its start. -/
def trimStart (text : List Char) : List Char :=
  text.dropWhile isBlank

/-- The text without the blanks at its ends. -/
def trim (text : List Char) : List Char :=
  (trimStart (trimStart text).reverse).reverse

/-- Recognises one blank. -/
def blank : Recogniser Unit
  | [] => none
  | char :: _ => if isBlank char then some ((), 1) else none

/-- The words of a text: what stands between blanks. -/
def words (text : Text) : List Text :=
  (splitAtHits blank text).filter fun word => !word.isEmpty

end DeclLinker.Text
