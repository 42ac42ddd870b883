import DeclLinker.Text.Range
import DeclLinker.Text.Utf8
import DeclLinker.Yaml.Fault

/-!
# What there is to read

A file is read a portion at a time, and the bytes of a file are decoded a chunk at a time.  What is
wrong with a portion is found out when the reader gets to it, and not before: a document with a
fault in an earlier portion is refused for that one.
-/

namespace DeclLinker.Yaml

/-- The control characters a document must not hold. -/
def isForbidden (char : Char) : Bool :=
  !Text.inRanges
    [(0x09, 0x0a), (0x0d, 0x0d), (0x20, 0x7e), (0x85, 0x85), (0xa0, 0xd7ff), (0xe000, 0xfffd),
      (0x10000, 0x10ffff)] char.toNat

/-- The number of characters in a portion. -/
def portionSize : Nat := 4096

/-- The number of bytes in a chunk. -/
def chunkSize : Nat := 8192

/-- Where the portion of a position starts; the first two portions are one. -/
def portionStart (position : Nat) : Nat :=
  if position < 2 * portionSize then 0 else position / portionSize * portionSize

/-- The text that can be read, and what is met behind it instead of the end of the text. -/
structure Supply where
  text : Text
  beyond? : Option Fault

namespace Supply

/-- The portions before a position, with a fault behind them. -/
def stopBefore (position : Nat) (fault : Fault) (text : Text) : Supply :=
  ⟨text.take (portionStart position), some fault⟩

/-- A control character makes its portion unreadable. -/
def screen (supply : Supply) : Supply :=
  match supply.text.findIdx? isForbidden with
  | some position => stopBefore position .malformed supply.text
  | none => supply

/-- A text that is all there. -/
def ofText (text : Text) : Supply :=
  screen ⟨text, none⟩

/-- A text without the carriage return at its end, which may be half of a line ending. -/
def settled (text : Text) : Text :=
  if text.getLast? = some '\r' then text.dropLast else text

/-- The text in the whole chunks before a fault. -/
def decodedBefore (fault : Utf8Fault) (bytes : ByteArray) : Text :=
  match fault.noticed? with
  | none => Utf8.decodeStart bytes
  | some position => Utf8.decodeStart (bytes.extract 0 (position / chunkSize * chunkSize))

/-- What there is to read of a file. -/
def ofBytes (bytes : ByteArray) : Supply :=
  match Utf8.decode bytes with
  | .ok text => ofText text.unifyNewlines
  | .error fault =>
      let text := (settled (decodedBefore fault bytes)).unifyNewlines
      (stopBefore text.length (.undecodable fault) text).screen

end Supply

end DeclLinker.Yaml
