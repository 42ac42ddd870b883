import DeclLinker.Yaml.Supply

/-!
# Reading positions

A cursor is what is left to read, with the line and column it starts at.  Line endings have been
unified to line feeds before; the next-line character and the two separator characters end lines
too.  Behind what is left comes the end of the text, or a fault. -/

namespace DeclLinker.Yaml

/-- The characters that end a line. -/
def isBreak (char : Char) : Bool :=
  char == '\n' || char == Char.ofNat 0x85 || char == Char.ofNat 0x2028 ||
    char == Char.ofNat 0x2029

/-- A position in a document. -/
structure Cursor where
  rest : Text
  beyond? : Option Fault
  index : Nat
  line : Nat
  column : Nat

namespace Cursor

/-- The start of a supply. -/
def start (supply : Supply) : Cursor := ⟨supply.text, supply.beyond?, 0, 0, 0⟩

/-- What is wrong with a text that ends where more is needed. -/
def ended (cursor : Cursor) : Fault :=
  cursor.beyond?.getD .malformed

/-- Whether the character some places ahead can be looked at; the end of the text can. -/
def supplied (cursor : Cursor) (count : Nat) : Read Unit :=
  match cursor.rest[count]?, cursor.beyond? with
  | none, some fault => .error fault
  | _, _ => .ok ()

/-- The next character. -/
def peek? (cursor : Cursor) : Option Char :=
  cursor.rest.head?

/-- The character some places ahead. -/
def peekAt? (cursor : Cursor) (count : Nat) : Option Char :=
  cursor.rest[count]?

/-- The position behind one character; a byte order mark takes no column. -/
def next (cursor : Cursor) : Cursor :=
  match cursor.rest with
  | [] => cursor
  | char :: rest =>
      if isBreak char then
        { cursor with rest, index := cursor.index + 1, line := cursor.line + 1, column := 0 }
      else if char = Char.ofNat 0xfeff then
        { cursor with rest, index := cursor.index + 1 }
      else
        { cursor with rest, index := cursor.index + 1, column := cursor.column + 1 }

/-- The position behind some characters. -/
def forward : Nat → Cursor → Cursor
  | 0, cursor => cursor
  | count + 1, cursor => forward count cursor.next

/-- The characters that meet a condition, and the position behind them. -/
def span (holds : Char → Bool) (cursor : Cursor) : Text × Cursor :=
  let taken := cursor.rest.takeWhile holds
  (taken, cursor.forward taken.length)

/-- The position behind the characters that meet a condition. -/
def skip (holds : Char → Bool) (cursor : Cursor) : Cursor :=
  (cursor.span holds).2

/-- Whether the character some places ahead ends a line or the text. -/
def breakAt (cursor : Cursor) (count : Nat) : Bool :=
  match cursor.peekAt? count with
  | none => true
  | some char => isBreak char

/-- Whether the character some places ahead is a blank, or ends a line or the text. -/
def gapAt (cursor : Cursor) (count : Nat) : Bool :=
  match cursor.peekAt? count with
  | none => true
  | some char => char == ' ' || char == '\t' || isBreak char

/-- Whether the next character is the given one. -/
def atChar (cursor : Cursor) (char : Char) : Bool :=
  cursor.peek? == some char

/-- Whether a line break is next. -/
def atBreak (cursor : Cursor) : Bool :=
  match cursor.peek? with
  | none => false
  | some char => isBreak char

/-- Whether everything has been read. -/
def atEnd (cursor : Cursor) : Bool :=
  cursor.rest.isEmpty

/-- Whether three dashes or three dots stand here, before a gap. -/
def atDocumentMark (cursor : Cursor) : Bool :=
  (['-', '-', '-'].isPrefixOf cursor.rest || ['.', '.', '.'].isPrefixOf cursor.rest) &&
    cursor.gapAt 3

/-- A line break, as it counts in a scalar: separators stand for themselves, the others for a line
feed. -/
def lineBreak (cursor : Cursor) : Text × Cursor :=
  match cursor.peek? with
  | some char =>
      if char = Char.ofNat 0x2028 ∨ char = Char.ofNat 0x2029 then
        ([char], cursor.next)
      else if isBreak char then
        (['\n'], cursor.next)
      else
        ([], cursor)
  | none => ([], cursor)

/-- The position behind a comment, if one starts here. -/
def skipComment (cursor : Cursor) : Cursor :=
  if cursor.atChar '#' then cursor.skip fun char => !isBreak char else cursor

end Cursor

end DeclLinker.Yaml
