import DeclLinker.Console.Style

/-!
# Spans of a style

A span is a stretch of a text that is shown in one style.  The words of the style are looked at when
the text is laid out, part by part: a part ends with a tab, or before a line feed, or with the text.
So a span without a character to show keeps its words unread, unless the text is a single part.
-/

namespace DeclLinker.Console

/-- The stretch of a text from one position up to another, and the words of its style. -/
structure Span where
  start : Nat
  stop : Nat
  style : Text
  deriving DecidableEq

namespace Span

/-- The numeral that keeps the words of a style from being read. -/
def fault? (span : Span) : Option NumeralFault :=
  match Style.ofText? span.style with
  | .error fault => some fault
  | .ok _ => none

/-- Whether a span has a character between two positions. -/
def meets (span : Span) (part : Nat × Nat) : Bool :=
  span.start < span.stop && part.1 < part.2 && span.start < part.2 && part.1 < span.stop

end Span

/-- The parts of a text from a position on, given where the part at that position starts. -/
def partsFrom : (start position : Nat) → Text → List (Nat × Nat)
  | start, position, [] => [(start, position)]
  | start, position, char :: rest =>
      if char = '\n' then
        (start, position) :: partsFrom (position + 1) (position + 1) rest
      else if char = '\t' then
        (start, position + 1) :: partsFrom (position + 1) (position + 1) rest
      else
        partsFrom start (position + 1) rest

/-- A text and the spans of its styles, in the order in which they are looked at. -/
structure Styled where
  text : Text
  spans : List Span
  deriving DecidableEq

/-- The first numeral that keeps a text from being laid out. -/
def Styled.fault? (styled : Styled) : Option NumeralFault :=
  match styled.spans.filter fun span => span.fault?.isSome with
  | [] => none
  | faulty =>
      match partsFrom 0 0 styled.text with
      | [_] => faulty.findSome? Span.fault?
      | parts => parts.findSome? fun part =>
          (faulty.filter fun span => span.meets part).findSome? Span.fault?

end DeclLinker.Console
