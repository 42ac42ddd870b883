import DeclLinker.Text.Quoted
import DeclLinker.Value.Json
import DeclLinker.Yaml.Cursor
import DeclLinker.Yaml.Fault

/-!
# The text of scalars

Three ways to write a scalar: plain, in quotes, and as an indented block.  Each reader answers with
the text and the position behind it, or with what is wrong with the scalar.

The loops over lines carry a bound that is never reached: every round consumes a character, and the
bound is above the number of characters left.
-/

namespace DeclLinker.Yaml

open Cursor

/-! ## Quoted scalars -/

/-- The one-letter escapes of double quotes. -/
def escapes : List (Char × Nat) :=
  [('0', 0x00), ('a', 0x07), ('b', 0x08), ('t', 0x09), ('\t', 0x09), ('n', 0x0a), ('v', 0x0b),
    ('f', 0x0c), ('r', 0x0d), ('e', 0x1b), (' ', 0x20), (Text.doubleQuote, 0x22),
    ('\\', 0x5c), ('/', 0x2f), ('N', 0x85), ('_', 0xa0), ('L', 0x2028), ('P', 0x2029)]

/-- How many hexadecimal digits a numbered escape takes. -/
def escapeWidth? (char : Char) : Option Nat :=
  [('x', 2), ('u', 4), ('U', 8)].lookup char

/-- The number that hexadecimal digits spell. -/
def hexNumber? : Nat → Text → Option Nat
  | number, [] => some number
  | number, char :: rest =>
      match Json.hexDigit? char with
      | some digit => hexNumber? (number * 16 + digit) rest
      | none => none

/-- Empty lines inside a quoted scalar.  A document mark at the start of a line is an error. -/
def quotedBreaks : (bound : Nat) → Cursor → Option (Text × Cursor)
  | 0, _ => none
  | bound + 1, cursor =>
      if cursor.atDocumentMark then
        none
      else
        let cursor := cursor.skip fun char => char == ' ' || char == '\t'
        if cursor.atBreak then
          let (text, cursor) := cursor.lineBreak
          (quotedBreaks bound cursor).map fun (more, cursor) => (text ++ more, cursor)
        else
          some ([], cursor)

/-- A line break and the empty lines after it: one line break folds into a blank. -/
def foldBreak (bound : Nat) (cursor : Cursor) : Option (Text × Cursor) :=
  let (text, cursor) := cursor.lineBreak
  match quotedBreaks bound cursor with
  | none => none
  | some (breaks, cursor) =>
      if text != ['\n'] then some (text ++ breaks, cursor)
      else if breaks.isEmpty then some ([' '], cursor)
      else some (breaks, cursor)

/-- The number of a character, which has to fit a word and to be a code point. -/
def character (point : Nat) : Read Nat :=
  if point < 0x110000 then .ok point
  else if point < 0x80000000 then .error .noSuchCharacter
  else .error .noSuchCodePoint

/-- An escape by number, behind its letter. -/
def numberedEscape (width : Nat) (cursor : Cursor) : Read (List Nat × Cursor) :=
  let digits := cursor.rest.take width
  match hexNumber? 0 digits with
  | none => .error .malformed
  | some point =>
      if digits.length < width then .error cursor.ended
      else (character point).map fun point => ([point], cursor.forward width)

/-- The numbers of the characters of a text. -/
def pointsOf (text : Text) : List Nat :=
  text.map Char.toNat

/-- An escape sequence behind its backslash. -/
def escape (bound : Nat) (cursor : Cursor) : Read (List Nat × Cursor) :=
  match cursor.peek? with
  | none => .error cursor.ended
  | some char =>
      match escapes.lookup char, escapeWidth? char with
      | some point, _ => .ok ([point], cursor.next)
      | none, some width => numberedEscape width cursor.next
      | none, none =>
          if isBreak char then
            let (_, cursor) := cursor.lineBreak
            (require (quotedBreaks bound cursor)).map fun (text, cursor) => (pointsOf text, cursor)
          else
            .error .malformed

/-- The characters that need attention inside quotes. -/
def isQuotedStop (char : Char) : Bool :=
  char == Text.singleQuote || char == Text.doubleQuote || char == '\\' || char == ' ' ||
    char == '\t' || isBreak char

/-- The rest of a quoted scalar, up to and with its closing quote, as the numbers of its
characters. -/
def quotedRest (double : Bool) : (bound : Nat) → Cursor → Read (List Nat × Cursor)
  | 0, _ => .error .malformed
  | bound + 1, cursor =>
      let (plain, cursor) := cursor.span fun char => !isQuotedStop char
      let plain := pointsOf plain
      let go (points : List Nat) (cursor : Cursor) :=
        (quotedRest double bound cursor).map fun (rest, cursor) =>
          (plain ++ points ++ rest, cursor)
      let more (text : Text) := go (pointsOf text)
      match cursor.peek? with
      | none => .error cursor.ended
      | some char =>
          if char = Text.singleQuote ∧ !double then
            if cursor.peekAt? 1 = some Text.singleQuote then more [char] (cursor.forward 2)
            else .ok (plain, cursor.next)
          else if char = Text.doubleQuote ∧ double then
            .ok (plain, cursor.next)
          else if char = '\\' ∧ double then do
            let (points, cursor) ← escape (bound + 1) cursor.next
            go points cursor
          else if char = ' ' ∨ char = '\t' then
            let (blanks, cursor) := cursor.span fun char => char == ' ' || char == '\t'
            if cursor.atEnd then
              .error cursor.ended
            else if cursor.atBreak then do
              let (text, cursor) ← require (foldBreak (bound + 1) cursor)
              more text cursor
            else
              more blanks cursor
          else if isBreak char then do
            let (text, cursor) ← require (foldBreak (bound + 1) cursor)
            more text cursor
          else
            more [char] cursor.next

/-- A quoted scalar from its opening quote on. -/
def quotedScalar (bound : Nat) (double : Bool) (cursor : Cursor) :
    Read (List Nat × Cursor) :=
  quotedRest double bound cursor.next

/-! ## Plain scalars -/

/-- Whether a plain scalar ends before the character at hand. -/
def plainStops (flow : Bool) (char : Char) (after : Option Char) : Bool :=
  char == ' ' || char == '\t' || isBreak char ||
    (char == ':' &&
      match after with
      | none => true
      | some next =>
          next == ' ' || next == '\t' || isBreak next ||
            (flow && [',', '[', ']', Char.ofNat 0x7b, Char.ofNat 0x7d].contains next)) ||
    (flow && [',', '?', '[', ']', Char.ofNat 0x7b, Char.ofNat 0x7d].contains char)

/-- The characters of a plain scalar up to a blank or its end. -/
def plainChunk (flow : Bool) : Text → Text
  | [] => []
  | char :: rest =>
      if plainStops flow char rest.head? then [] else char :: plainChunk flow rest

/-- Blanks and empty lines that a plain scalar may go on after; none behind a document mark. -/
def plainBreaks : (bound : Nat) → Cursor → Option Text × Cursor
  | 0, cursor => (none, cursor)
  | bound + 1, cursor =>
      if cursor.atChar ' ' then
        plainBreaks bound cursor.next
      else if cursor.atBreak then
        let (text, cursor) := cursor.lineBreak
        if cursor.atDocumentMark then
          (none, cursor)
        else
          match plainBreaks bound cursor with
          | (some more, cursor) => (some (text ++ more), cursor)
          | (none, cursor) => (none, cursor)
      else
        (some [], cursor)

/-- The space between two stretches of a plain scalar, where it leads, and whether it crosses a
line.  Without space, or behind a document mark, the scalar ends. -/
def plainSpace (bound : Nat) (cursor : Cursor) : Text × Cursor × Bool :=
  let (blanks, cursor) := cursor.span fun char => char == ' '
  if cursor.atBreak then
    let (text, cursor) := cursor.lineBreak
    if cursor.atDocumentMark then
      ([], cursor, true)
    else
      match plainBreaks bound cursor with
      | (none, cursor) => ([], cursor, true)
      | (some breaks, cursor) =>
          let lead := if text != ['\n'] then text else if breaks.isEmpty then [' '] else []
          (lead ++ breaks, cursor, true)
  else
    (blanks, cursor, false)

/-- A plain scalar, the position behind it, and whether it ended by crossing a line. -/
def plainScalar (flow : Bool) (indent : Int) :
    (bound : Nat) → (space : Text) → (crossed : Bool) → Cursor → Text × Cursor × Bool
  | 0, _, crossed, cursor => ([], cursor, crossed)
  | bound + 1, space, crossed, cursor =>
      let chunk := if cursor.atChar '#' then [] else plainChunk flow cursor.rest
      if chunk.isEmpty then
        ([], cursor, crossed)
      else
        let (gap, after, crosses) := plainSpace (bound + 1) (cursor.forward chunk.length)
        if gap.isEmpty ∨ after.atChar '#' ∨ (!flow ∧ (after.column : Int) < indent + 1) then
          (space ++ chunk, after, crosses)
        else
          let (rest, after, crosses) := plainScalar flow indent bound gap crosses after
          (space ++ chunk ++ rest, after, crosses)

/-! ## Block scalars -/

/-- What happens to the line breaks at the end of a block scalar. -/
inductive Chomp where
  | clip
  | strip
  | keep
  deriving DecidableEq

/-- The header of a block scalar: how its end is treated, and its indentation if given. -/
def blockHeader (cursor : Cursor) : Option (Chomp × Option Nat × Cursor) :=
  let chompOf (char : Char) : Option Chomp :=
    if char = '+' then some .keep else if char = '-' then some .strip else none
  let digitOf (char : Char) : Option Nat :=
    if char.isDigit then some (char.toNat - '0'.toNat) else none
  let first := cursor.peek?
  let second := cursor.peekAt? 1
  let (chomp, width?, cursor) :=
    match first.bind chompOf, first.bind digitOf with
    | some chomp, _ =>
        match second.bind digitOf with
        | some width => (chomp, some width, cursor.forward 2)
        | none => (chomp, none, cursor.next)
    | none, some width =>
        match second.bind chompOf with
        | some chomp => (chomp, some width, cursor.forward 2)
        | none => (.clip, some width, cursor.next)
    | none, none => (.clip, none, cursor)
  let spaced := cursor.atEnd || cursor.atChar ' ' || cursor.atBreak
  if width? = some 0 ∨ !spaced then
    none
  else
    let cursor := (cursor.skip fun char => char == ' ').skipComment
    if cursor.atEnd ∨ cursor.atBreak then some (chomp, width?, cursor.lineBreak.2) else none

/-- The empty lines before a block scalar and the deepest column its blanks reach. -/
def blockIndent : (bound : Nat) → (deepest : Nat) → Cursor → Text × Nat × Cursor
  | 0, deepest, cursor => ([], deepest, cursor)
  | bound + 1, deepest, cursor =>
      if cursor.atChar ' ' then
        let cursor := cursor.next
        blockIndent bound (max deepest cursor.column) cursor
      else if cursor.atBreak then
        let (text, cursor) := cursor.lineBreak
        let (more, deepest, cursor) := blockIndent bound deepest cursor
        (text ++ more, deepest, cursor)
      else
        ([], deepest, cursor)

/-- The position behind the blanks before a column. -/
def skipTo (column : Nat) (cursor : Cursor) : Cursor :=
  let blanks := cursor.rest.takeWhile fun char => char == ' '
  cursor.forward (min blanks.length (column - cursor.column))

/-- Empty lines inside a block scalar of the given indentation. -/
def blockBreaks (indent : Nat) : (bound : Nat) → Cursor → Text × Cursor
  | 0, cursor => ([], cursor)
  | bound + 1, cursor =>
      let cursor := skipTo indent cursor
      if cursor.atBreak then
        let (text, cursor) := cursor.lineBreak
        let (more, cursor) := blockBreaks indent bound cursor
        (text ++ more, cursor)
      else
        ([], cursor)

/-- Whether a blank is next. -/
def atBlank (cursor : Cursor) : Bool :=
  cursor.atChar ' ' || cursor.atChar '\t'

/-- The lines of a block scalar, the last line break, the empty lines behind it, and where it
ends. -/
def blockLines (folded : Bool) (indent : Nat) :
    (bound : Nat) → (breaks : Text) → Cursor → Text × Text × Text × Cursor
  | 0, breaks, cursor => ([], [], breaks, cursor)
  | bound + 1, breaks, cursor =>
      if cursor.column = indent ∧ !cursor.atEnd then
        let flush := !atBlank cursor
        let (line, cursor) := cursor.span fun char => !isBreak char
        let (text, cursor) := cursor.lineBreak
        let (next, cursor) := blockBreaks indent (bound + 1) cursor
        if cursor.column = indent ∧ !cursor.atEnd then
          let joint :=
            if folded && text == ['\n'] && flush && !atBlank cursor then
              if next.isEmpty then [' '] else []
            else
              text
          let (rest, last, breaks', cursor) := blockLines folded indent bound next cursor
          (breaks ++ line ++ joint ++ rest, last, breaks', cursor)
        else
          (breaks ++ line, text, next, cursor)
      else
        ([], [], breaks, cursor)

/-- A block scalar behind its indicator, inside the given indentation. -/
def blockScalar (bound : Nat) (folded : Bool) (outer : Int) (cursor : Cursor) :
    Option (Text × Cursor) :=
  match blockHeader cursor with
  | none => none
  | some (chomp, width?, cursor) =>
      let least := (max (outer + 1) 1).toNat
      let (indent, breaks, cursor) :=
        match width? with
        | some width =>
            let indent := least + width - 1
            let (breaks, cursor) := blockBreaks indent bound cursor
            (indent, breaks, cursor)
        | none =>
            let (breaks, deepest, cursor) := blockIndent bound 0 cursor
            (max least deepest, breaks, cursor)
      let (text, last, breaks, cursor) := blockLines folded indent bound breaks cursor
      let tail :=
        match chomp with
        | .clip => last
        | .strip => []
        | .keep => last ++ breaks
      some (text ++ tail, cursor)

end DeclLinker.Yaml
