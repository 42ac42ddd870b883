import DeclLinker.Text.Half
import DeclLinker.Text.HiddenTable

/-!
# Quoted texts

A quoted text stands in single quotes, or in double quotes when it holds single quotes and no double
ones.  Inside, the backslash and the surrounding quote are escaped, three control characters have a
letter of their own, and every other character that does not print is shown by its number.
-/

namespace DeclLinker.Text

/-- The single quote. -/
def singleQuote : Char := Char.ofNat 0x27

/-- The double quote. -/
def doubleQuote : Char := Char.ofNat 0x22

/-- A number in lower-case hexadecimal digits, filled with zeros up to a width. -/
def hex (width number : Nat) : Text :=
  let digits := Nat.toDigits 16 number
  List.replicate (width - digits.length) '0' ++ digits

/-- Whether a character prints. -/
def isPrintable (char : Char) : Bool :=
  if char.toNat < 0x80 then
    0x20 ≤ char.toNat && char.toNat < 0x7f
  else
    !inRanges hiddenRanges char.toNat

/-- A character that does not print, by its number: two, four or eight digits. -/
def escapeHidden (char : Char) : Text :=
  let number := char.toNat
  if number < 0x100 then
    "\\x".toList ++ hex 2 number
  else if number < 0x10000 then
    "\\u".toList ++ hex 4 number
  else
    "\\U".toList ++ hex 8 number

/-- A character as it stands inside the given quotes. -/
def quoteChar (quote char : Char) : Text :=
  if char = quote ∨ char = '\\' then
    ['\\', char]
  else if char = '\n' then
    "\\n".toList
  else if char = '\r' then
    "\\r".toList
  else if char = '\t' then
    "\\t".toList
  else if isPrintable char then
    [char]
  else
    escapeHidden char

/-- The quote a text is put in. -/
def quoteFor (text : Text) : Char :=
  if text.contains singleQuote && !text.contains doubleQuote then doubleQuote else singleQuote

/-- The text in quotes. -/
def quoted (text : Text) : Text :=
  let quote := quoteFor text
  quote :: text.flatMap (quoteChar quote) ++ [quote]

/-- A text with lone halves in it in quotes; a half is shown by its number. -/
def quotedPoints (points : List Nat) : Text :=
  let quote := quoteFor (withoutHalves points)
  let shown (point : Nat) :=
    if isHalf point then "\\u".toList ++ hex 4 point else quoteChar quote (Char.ofNat point)
  quote :: points.flatMap shown ++ [quote]

end DeclLinker.Text
