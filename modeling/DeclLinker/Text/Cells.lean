import DeclLinker.Text.Basic
import DeclLinker.Text.CellTable

/-!
# Cells of a terminal

The width of a text is counted in cells.  A joiner makes one picture of the characters on its sides,
so the character behind it adds nothing; the mark for a picture widens the character before it.
Tabs lead to the next of every eight columns.
-/

namespace DeclLinker.Text

/-- The character that joins its neighbours into one picture. -/
def joiner : Char := Char.ofNat 0x200d

/-- The mark that makes a picture of the character before it. -/
def pictureMark : Char := Char.ofNat 0xfe0f

/-- The mark that makes plain text of the character before it. -/
def plainMark : Char := Char.ofNat 0xfe0e

/-- The cells a character takes. -/
def cellWidth (char : Char) : Nat :=
  if inRanges flatRanges char.toNat then 0 else if inRanges wideRanges char.toNat then 2 else 1

/-- The cells the mark for a picture adds to the character before it. -/
def widening : Option Char → Nat
  | some char => if inRanges widenedRanges char.toNat then 1 else 0
  | none => 0

/-- The cells of a text, given whether its first character is joined to the one before it, and the
character a mark would widen. -/
def cellsFrom : (joined : Bool) → (last? : Option Char) → Text → Nat
  | _, _, [] => 0
  | true, last?, _ :: rest => cellsFrom false last? rest
  | false, last?, char :: rest =>
      if char = joiner then
        cellsFrom true last? rest
      else if char = pictureMark then
        widening last? + cellsFrom false none rest
      else
        let width := cellWidth char
        width + cellsFrom false (if width = 0 then last? else some char) rest

/-- The cells of a text. -/
def cells (text : Text) : Nat :=
  cellsFrom false none text

/-- The distance between columns that tabs lead to. -/
def tabWidth : Nat := 8

/-- Stretches between tabs as one text, the first stretch at the given column.  A tab is one blank,
and more up to the next column that tabs lead to. -/
def joinTabs : (column : Nat) → List Text → Text
  | _, [] => []
  | _, [last] => last
  | column, stretch :: rest =>
      let blanked := stretch ++ [' ']
      let reached := column + cells blanked
      let fill := (tabWidth - reached % tabWidth) % tabWidth
      blanked ++ List.replicate fill ' ' ++ joinTabs (reached + fill) rest

/-- The text with blanks for its tabs, line by line. -/
def expandTabs (text : Text) : Text :=
  ['\n'].intercalate ((text.splitOn '\n').map fun line => joinTabs 0 (line.splitOn '\t'))

end DeclLinker.Text
