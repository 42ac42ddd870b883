import DeclLinker.Yaml.Fault
import DeclLinker.Yaml.Tag

/-!
# Directives

A line that starts with a percent sign says something about the document after it: the version of
the format, or what a handle in front of tags stands for.  Other directives are passed over.  A
version may be given once and has to be compatible, and so may each handle.
-/

namespace DeclLinker.Yaml

/-- What a line about a document says. -/
inductive Directive where
  | version (major : Int)
  | handle (name first : Text)
  | reserved
  deriving DecidableEq

namespace Directive

open Cursor
open Tag (atSpace isNameChar)

/-- The position behind spaces. -/
def skipSpaces (cursor : Cursor) : Cursor :=
  cursor.skip fun char => char == ' '

/-- The name of a directive, which a space or the end of the line follows. -/
def name? (cursor : Cursor) : Option (Text × Cursor) :=
  let (name, cursor) := cursor.span isNameChar
  if name.isEmpty ∨ !atSpace cursor then none else some (name, cursor)

/-- One of the two numbers of a version. -/
def number (cursor : Cursor) : Read (Int × Cursor) :=
  let (digits, cursor) := cursor.span Char.isDigit
  if digits.isEmpty then
    .error .malformed
  else
    ((Numeral.read 10 digits).mapError .numeral).map fun number => (number, cursor)

/-- A version: two numbers with a point between them. -/
def readVersion (cursor : Cursor) : Read (Directive × Cursor) := do
  let (major, cursor) ← number (skipSpaces cursor)
  if cursor.atChar '.' then
    let (_, cursor) ← number cursor.next
    if atSpace cursor then pure (.version major, cursor) else .error .malformed
  else
    .error .malformed

/-- What a handle stands for. -/
def tagHandle? (cursor : Cursor) : Option (Directive × Cursor) := do
  let (name, cursor) ← Tag.handle? (skipSpaces cursor)
  if cursor.atChar ' ' then
    let (first, cursor) ← Tag.text? (skipSpaces cursor)
    if atSpace cursor then pure (.handle name first, cursor) else none
  else
    none

/-- The end of a directive: spaces and a comment, then the end of the line. -/
def lineEnd? (cursor : Cursor) : Option Cursor :=
  let cursor := (skipSpaces cursor).skipComment
  if cursor.breakAt 0 then some cursor.lineBreak.2 else none

/-- A directive from its percent sign on, with the end of its line. -/
def read (cursor : Cursor) : Read (Directive × Cursor) := do
  let (name, cursor) ← require (name? cursor.next)
  let (directive, cursor) ←
    if name = "YAML".toList then readVersion cursor
    else if name = "TAG".toList then require (tagHandle? cursor)
    else .ok (.reserved, cursor.skip fun char => !isBreak char)
  let cursor ← require (lineEnd? cursor)
  pure (directive, cursor)

/-- What directives say together: whether the version has been given, and what handles stand
for. -/
structure Stated where
  versioned : Bool
  handles : Tag.Handles

/-- Nothing has been said. -/
def Stated.nothing : Stated := ⟨false, []⟩

/-- One more directive: the version is given once and has to be compatible, and so is each
handle. -/
def Stated.add? (stated : Stated) : Directive → Option Stated
  | .version major =>
      if stated.versioned ∨ major ≠ 1 then none else some { stated with versioned := true }
  | .handle name first =>
      if Dict.has name stated.handles then none
      else some { stated with handles := Dict.put name first stated.handles }
  | .reserved => some stated

/-- What handles stand for: those that are always known keep their meaning unless they are given
another. -/
def Stated.allHandles (stated : Stated) : Tag.Handles :=
  stated.handles ++ Tag.Handles.known

end Directive

end DeclLinker.Yaml
