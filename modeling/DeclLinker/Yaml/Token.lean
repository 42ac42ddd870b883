import DeclLinker.Dict
import DeclLinker.Yaml.Directive
import DeclLinker.Yaml.Scalar

/-!
# Tokens

The scanner turns a text into tokens.  Indentation becomes explicit start and end tokens.  A mapping
key is recognised only when its colon is met, so a position that may start a key is remembered, and
the tokens that open the key are put in there later.

The scanner is asked for tokens one by one, and goes only as far as it has to: up to the token, and
further while that token may still turn out to start a key.  So where the text cannot be read on,
the tokens that were certain before end with a token for the fault.
-/

namespace DeclLinker.Yaml

/-- A token of a document. -/
inductive Token where
  | directive (content : Directive)
  | documentStart
  | documentEnd
  | sequenceStart
  | mappingStart
  | blockEnd
  | flowSequenceStart
  | flowSequenceEnd
  | flowMappingStart
  | flowMappingEnd
  | blockEntry
  | flowEntry
  | key
  | value
  | anchor (name : Text)
  | alias (name : Text)
  | tag (written : Tag.Written)
  | scalar (text : Text) (plain : Bool)
  | halved (points : List Nat)
  | broken (fault : Fault)
  deriving DecidableEq

namespace Token

/-- Whether a token starts a collection. -/
def opens : Token → Bool
  | .sequenceStart | .mappingStart | .flowSequenceStart | .flowMappingStart => true
  | _ => false

/-- Whether a token ends a collection. -/
def closes : Token → Bool
  | .blockEnd | .flowSequenceEnd | .flowMappingEnd => true
  | _ => false

/-- How many collections may stand in each other. -/
def depthLimit : Nat := 485

/-- The tokens up to the collection that is one too deep, given how many are open. -/
def limitDepth : (depth : Nat) → List Token → List Token
  | _, [] => []
  | depth, token :: rest =>
      if token.opens then
        if depthLimit ≤ depth then [.broken .tooDeep] else token :: limitDepth (depth + 1) rest
      else if token.closes then
        token :: limitDepth (depth - 1) rest
      else
        token :: limitDepth depth rest

end Token

/-- A position that may turn out to start a mapping key. -/
structure KeyMark where
  position : Nat
  required : Bool
  index : Nat
  line : Nat
  column : Nat

/-- How far the scanner has come, with the tokens it has found, the last one first. -/
structure Lexer where
  cursor : Cursor
  found : List Token
  count : Nat
  flow : Nat
  indent : Int
  indents : List Int
  keyAllowed : Bool
  marks : Dict Nat KeyMark

namespace Lexer

/-- The start of a supply; a byte order mark is passed over. -/
def start (supply : Supply) : Lexer :=
  let cursor := Cursor.start supply
  let cursor := if cursor.atChar (Char.ofNat 0xfeff) then cursor.next else cursor
  ⟨cursor, [], 0, 0, -1, [], true, []⟩

/-- One more token. -/
def emit (token : Token) (lexer : Lexer) : Lexer :=
  { lexer with found := token :: lexer.found, count := lexer.count + 1 }

/-- The scanner with tokens put in at a position. -/
def insert (position : Nat) (tokens : List Token) (lexer : Lexer) : Lexer :=
  let behind := lexer.count - position
  { lexer with
    found := lexer.found.take behind ++ tokens.reverse ++ lexer.found.drop behind
    count := lexer.count + tokens.length }

/-- Some characters further. -/
def advance (count : Nat) (lexer : Lexer) : Lexer :=
  { lexer with cursor := lexer.cursor.forward count }

/-- Blocks that a column to the left ends. -/
def unwindTo (column : Int) : (indents : List Int) → Lexer → Lexer
  | [], lexer => lexer
  | outer :: rest, lexer =>
      if column < lexer.indent then
        unwindTo column rest (emit .blockEnd { lexer with indent := outer, indents := rest })
      else
        lexer

/-- Blocks end where the text is indented less, outside brackets. -/
def unwind (column : Int) (lexer : Lexer) : Lexer :=
  if lexer.flow = 0 then unwindTo column lexer.indents lexer else lexer

/-- A deeper block, if the column is to the right of the current one. -/
def deepen (column : Nat) (lexer : Lexer) : Option Lexer :=
  if lexer.indent < column then
    some { lexer with indent := column, indents := lexer.indent :: lexer.indents }
  else
    none

/-- Whether a remembered position can no longer start a key. -/
def isStale (lexer : Lexer) (mark : KeyMark) : Bool :=
  mark.line != lexer.cursor.line || 1024 < lexer.cursor.index - mark.index

/-- Positions that can no longer start a key are forgotten; a required one is an error. -/
def dropStale (lexer : Lexer) : Option Lexer :=
  if lexer.marks.any fun pair => lexer.isStale pair.2 && pair.2.required then
    none
  else
    some { lexer with marks := lexer.marks.filter fun pair => !lexer.isStale pair.2 }

/-- The remembered position on this level is forgotten; a required one is an error. -/
def dropMark (lexer : Lexer) : Option Lexer :=
  match Dict.get? lexer.flow lexer.marks with
  | some mark =>
      if mark.required then
        none
      else
        some { lexer with marks := lexer.marks.filter fun pair => pair.1 != lexer.flow }
  | none => some lexer

/-- The position at hand is remembered as the possible start of a key. -/
def saveMark (lexer : Lexer) : Option Lexer :=
  if lexer.keyAllowed then
    let required := lexer.flow == 0 && lexer.indent == (lexer.cursor.column : Int)
    lexer.dropMark.map fun lexer =>
      let mark : KeyMark :=
        ⟨lexer.count, required, lexer.cursor.index, lexer.cursor.line,
          lexer.cursor.column⟩
      { lexer with marks := Dict.put lexer.flow mark lexer.marks }
  else
    some lexer

/-- Blanks, comments and line breaks are passed over; a new line may start a key. -/
def toNextToken : (bound : Nat) → Lexer → Lexer
  | 0, lexer => lexer
  | bound + 1, lexer =>
      let cursor := (lexer.cursor.skip fun char => char == ' ').skipComment
      if cursor.atBreak then
        toNextToken bound
          { lexer with
            cursor := cursor.lineBreak.2
            keyAllowed := lexer.keyAllowed || lexer.flow == 0 }
      else
        { lexer with cursor }

/-- Every open block ends before a document mark or a directive. -/
def closeAll (lexer : Lexer) : Option Lexer :=
  (lexer.unwind (-1)).dropMark.map fun lexer => { lexer with keyAllowed := false }

/-- A mark before or behind a document. -/
def documentMark (token : Token) (lexer : Lexer) : Option Lexer :=
  lexer.closeAll.map fun lexer => emit token (advance 3 lexer)

/-- A directive. -/
def directive (lexer : Lexer) : Read Lexer := do
  let lexer ← require lexer.closeAll
  let (content, cursor) ← Directive.read lexer.cursor
  pure (emit (.directive content) { lexer with cursor })

/-- An opening bracket. -/
def openFlow (token : Token) (lexer : Lexer) : Option Lexer :=
  lexer.saveMark.map fun lexer =>
    emit token (advance 1 { lexer with flow := lexer.flow + 1, keyAllowed := true })

/-- A closing bracket. -/
def closeFlow (token : Token) (lexer : Lexer) : Option Lexer :=
  lexer.dropMark.map fun lexer =>
    emit token (advance 1 { lexer with flow := lexer.flow - 1, keyAllowed := false })

/-- A block that starts at the cursor, unless it is open already or brackets are. -/
def openBlock (token : Token) (lexer : Lexer) : Option Lexer :=
  if lexer.flow = 0 then
    if lexer.keyAllowed then
      match lexer.deepen lexer.cursor.column with
      | some deeper => some (emit token deeper)
      | none => some lexer
    else
      none
  else
    some lexer

/-- A dash before an item. -/
def blockEntry (lexer : Lexer) : Option Lexer := do
  let lexer ← lexer.openBlock .sequenceStart
  let lexer ← dropMark { lexer with keyAllowed := true }
  pure (emit .blockEntry (advance 1 lexer))

/-- A comma between items. -/
def flowEntry (lexer : Lexer) : Option Lexer := do
  let lexer ← dropMark { lexer with keyAllowed := true }
  pure (emit .flowEntry (advance 1 lexer))

/-- A question mark before a key. -/
def explicitKey (lexer : Lexer) : Option Lexer := do
  let lexer ← lexer.openBlock .mappingStart
  let lexer ← dropMark { lexer with keyAllowed := lexer.flow == 0 }
  pure (emit .key (advance 1 lexer))

/-- A colon: the remembered position becomes a key, or a value follows an explicit one. -/
def value (lexer : Lexer) : Option Lexer :=
  match Dict.get? lexer.flow lexer.marks with
  | some mark =>
      let lexer := { lexer with
        marks := lexer.marks.filter fun pair => pair.1 != lexer.flow
        keyAllowed := false }
      let opened : Lexer × List Token :=
        match if lexer.flow = 0 then lexer.deepen mark.column else none with
        | some deeper => (deeper, [.mappingStart, .key])
        | none => (lexer, [.key])
      some (emit .value (advance 1 (opened.1.insert mark.position opened.2)))
  | none => do
      let lexer ← lexer.openBlock .mappingStart
      let lexer ← dropMark { lexer with keyAllowed := lexer.flow == 0 }
      pure (emit .value (advance 1 lexer))

/-- A token that may itself be a key: the position is remembered before it is read. -/
def content (read : Cursor → Read (Token × Cursor)) (lexer : Lexer) : Read Lexer := do
  let lexer ← require lexer.saveMark
  let (token, cursor) ← read lexer.cursor
  pure (emit token { lexer with cursor, keyAllowed := false })

/-- An anchor or alias name behind its mark. -/
def anchorName (make : Text → Token) (cursor : Cursor) : Read (Token × Cursor) :=
  let (name, cursor) := cursor.next.span Tag.isNameChar
  let ends := cursor.gapAt 0 ||
    match cursor.peek? with
    | some char => ['?', ':', ',', ']', Char.ofNat 0x7d, '%', '@', Char.ofNat 0x60].contains char
    | none => true
  if name.isEmpty ∨ !ends then .error .malformed else .ok (make name, cursor)

/-- A tag. -/
def tagOf (cursor : Cursor) : Read (Token × Cursor) :=
  require ((Tag.read? cursor).map fun (written, cursor) => (.tag written, cursor))

/-- A scalar in quotes. -/
def quoted (bound : Nat) (double : Bool) (cursor : Cursor) : Read (Token × Cursor) :=
  (quotedScalar bound double cursor).map fun (points, cursor) =>
    match Text.ofPoints? points with
    | some text => (.scalar text false, cursor)
    | none => (.halved points, cursor)

/-- A plain scalar; a line break behind it may start a key. -/
def plain (bound : Nat) (lexer : Lexer) : Option Lexer :=
  lexer.saveMark.map fun lexer =>
    let (text, cursor, crossed) :=
      plainScalar (lexer.flow != 0) lexer.indent bound [] false lexer.cursor
    emit (.scalar text true) { lexer with cursor, keyAllowed := crossed }

/-- A block scalar; a key may follow it. -/
def block (bound : Nat) (folded : Bool) (lexer : Lexer) : Option Lexer := do
  let lexer ← dropMark { lexer with keyAllowed := true }
  let (text, cursor) ← blockScalar bound folded lexer.indent lexer.cursor.next
  pure (emit (.scalar text false) { lexer with cursor })

/-- The characters that a plain scalar cannot start with, unless more is known. -/
def indicators : Text :=
  "-?:,[]\x7b\x7d#&*!|>\x27\x22%@\x60".toList

/-- Whether a plain scalar starts at the cursor. -/
def startsPlain (lexer : Lexer) (char : Char) : Bool :=
  !(indicators.contains char || char == ' ' || char == '\t' || isBreak char) ||
    (!lexer.cursor.gapAt 1 &&
      (char == '-' || (lexer.flow == 0 && (char == '?' || char == ':'))))

/-- The token that starts with a character. -/
def token (bound : Nat) (lexer : Lexer) (char : Char) : Read Lexer :=
  let cursor := lexer.cursor
  let marked := cursor.column == 0 && cursor.atDocumentMark
  if char = '%' ∧ cursor.column = 0 then
    directive lexer
  else if char = '-' ∧ marked then
    require (documentMark .documentStart lexer)
  else if char = '.' ∧ marked then
    require (documentMark .documentEnd lexer)
  else if char = '[' then
    require (openFlow .flowSequenceStart lexer)
  else if char = Char.ofNat 0x7b then
    require (openFlow .flowMappingStart lexer)
  else if char = ']' then
    require (closeFlow .flowSequenceEnd lexer)
  else if char = Char.ofNat 0x7d then
    require (closeFlow .flowMappingEnd lexer)
  else if char = ',' then
    require (flowEntry lexer)
  else if char = '-' ∧ cursor.gapAt 1 then
    require (blockEntry lexer)
  else if char = '?' ∧ (lexer.flow ≠ 0 ∨ cursor.gapAt 1) then
    require (explicitKey lexer)
  else if char = ':' ∧ (lexer.flow ≠ 0 ∨ cursor.gapAt 1) then
    require (value lexer)
  else if char = '*' then
    content (anchorName .alias) lexer
  else if char = '&' then
    content (anchorName .anchor) lexer
  else if char = '!' then
    content tagOf lexer
  else if char = '|' ∧ lexer.flow = 0 then
    require (block bound false lexer)
  else if char = '>' ∧ lexer.flow = 0 then
    require (block bound true lexer)
  else if char = Text.singleQuote then
    content (quoted bound false) lexer
  else if char = Text.doubleQuote then
    content (quoted bound true) lexer
  else if lexer.startsPlain char then
    require (plain bound lexer)
  else
    .error .malformed

/-- The next token and what it brings with it; none at the end of the text, where all blocks
end.  The character behind a token is looked at too. -/
def step (bound : Nat) (lexer : Lexer) : Read (Lexer × Bool) := do
  let lexer := toNextToken bound (← require lexer.dropStale)
  lexer.cursor.supplied 0
  let lexer ← require lexer.dropStale
  let lexer := lexer.unwind lexer.cursor.column
  lexer.cursor.supplied 1
  match lexer.cursor.peek? with
  | none =>
      let lexer ← require (lexer.unwind (-1)).dropMark
      pure (lexer, true)
  | some char =>
      let lexer ← token bound lexer char
      lexer.cursor.supplied 0
      pure (lexer, false)

/-- The number of tokens that nothing can be put in before. -/
def certain (lexer : Lexer) : Nat :=
  (lexer.marks.filter fun pair => !lexer.isStale pair.2).foldl
    (fun least pair => min least pair.2.position) lexer.count

/-- The tokens that are certain, and the fault that keeps the rest from being read. -/
def broken (lexer : Lexer) (fault : Fault) : List Token :=
  lexer.found.reverse.take lexer.certain ++ [.broken fault]

/-- All tokens.  Every round but the last reads a character, so the bound stays above the number of
characters left. -/
def run : (bound : Nat) → Lexer → List Token
  | 0, lexer => lexer.broken .malformed
  | bound + 1, lexer =>
      match lexer.step (bound + 1) with
      | .error fault => lexer.broken fault
      | .ok (lexer, true) => lexer.found.reverse
      | .ok (lexer, false) => run bound lexer

end Lexer

/-- The tokens of a document. -/
def tokens (supply : Supply) : List Token :=
  Token.limitDepth 0 (Lexer.run (supply.text.length + 2) (Lexer.start supply))

end DeclLinker.Yaml
