import DeclLinker.Expression.Fault
import DeclLinker.Text.Name
import DeclLinker.Text.Utf8

/-!
# Tokens of an expression

An expression is cut into names, numbers, quotations and signs.  Blanks and comments divide tokens.
A line feed ends a line, except between brackets; a line that starts further right than the one
before it is told by a token of its own.  Cutting ends at the first fault.
-/

namespace DeclLinker.Expression

/-- A quoted text as it is written, without its quotes. -/
structure Quotation where
  isBytes : Bool
  isRaw : Bool
  isFormatted : Bool
  body : Text
  deriving DecidableEq

/-- What a number is: whole and written in so many decimal digits, any other real number, or
imaginary. -/
inductive NumberKind where
  | decimal (digits : Nat)
  | real
  | imaginary
  deriving DecidableEq

/-- A token. -/
inductive Token where
  | name (text : Text)
  | number (kind : NumberKind)
  | quotation (quotation : Quotation)
  | sign (text : Text)
  | lineEnd
  | indent
  | finish
  deriving DecidableEq

/-- A token, the line it starts in, and how many brackets are open behind it. -/
structure Placed where
  token : Token
  line : Nat
  depth : Nat
  deriving DecidableEq

namespace Token

/-- The words that cannot be names. -/
def reserved : List Text :=
  ["False", "None", "True", "and", "as", "assert", "async", "await", "break", "class", "continue",
    "def", "del", "elif", "else", "except", "finally", "for", "from", "global", "if", "import",
    "in", "is", "lambda", "nonlocal", "not", "or", "pass", "raise", "return", "try", "while",
    "with", "yield"].map String.toList

/-- The signs of more than one character, the longer ones first. -/
def longSigns : List Text :=
  ["**=", "//=", "<<=", ">>=", "...", "!=", "%=", "&=", "**", "*=", "+=", "-=", "->", "//", "/=",
    ":=", "<<", "<=", "<>", "==", ">=", ">>", "@=", "^=", "|="].map String.toList

/-- The sign at the start of a text. -/
def signAt (first : Char) (text : Text) : Text :=
  (longSigns.find? fun sign => sign.isPrefixOf text).getD [first]

/-- Whether a character can stand in what may be a name. -/
def mayBeName (char : Char) : Bool :=
  char.isAlphanum || char == '_' || 0x80 ≤ char.toNat

/-- Whether a text starts with a word that may follow a number without a blank.  Of the short ones
only the start is looked at. -/
def mayFollowNumber (text : Text) : Bool :=
  (["and", "else", "for", "not", "or"].map String.toList).contains (text.takeWhile mayBeName) ||
    (["if", "in", "is"].map String.toList).contains (text.take 2)

/-- What follows a number must not look like a part of it. -/
def endNumber (kind rest : Text) : Except Fault Unit :=
  if rest.head?.any mayBeName && !mayFollowNumber rest then
    .error (.number kind)
  else
    .ok ()

/-- How many characters digits cover that may be grouped by single underscores, and whether the last
underscore is left without a digit behind it. -/
def grouped (allowed : Char → Bool) : Text → Nat × Bool
  | [] => (0, false)
  | '_' :: next :: rest =>
      if allowed next then
        let (covered, hanging) := grouped allowed rest
        (covered + 2, hanging)
      else
        (1, true)
  | ['_'] => (1, true)
  | char :: rest =>
      if allowed char then
        let (covered, hanging) := grouped allowed rest
        (covered + 1, hanging)
      else
        (0, false)

/-- The length of a number with a mark for its base, which stands before the text. -/
def markedLength (kind : Text) (allowed : Char → Bool) (text : Text) : Except Fault Nat := do
  let (covered, hanging) := grouped allowed text
  let rest := text.drop covered
  match rest.head?.filter Char.isDigit with
  | some digit => .error (.wrongDigit digit kind)
  | none =>
      if hanging || covered = 0 then
        .error (.number kind)
      else
        endNumber kind rest
        pure covered

/-- The length of digits after the first of them. -/
def digitsLength (text : Text) : Except Fault Nat :=
  match grouped Char.isDigit text with
  | (covered, false) => .ok covered
  | (_, true) => .error (.number "decimal".toList)

/-- The length of a decimal point and the digits behind it. -/
def fractionLength : Text → Except Fault Nat
  | '.' :: rest =>
      match rest with
      | digit :: _ => if digit.isDigit then (digitsLength rest).map (· + 1) else .ok 1
      | [] => .ok 1
  | _ => .ok 0

/-- The length of an exponent. -/
def exponentLength : Text → Except Fault Nat
  | mark :: rest =>
      if mark.toLower = 'e' then
        let signed := rest.head? = some '+' || rest.head? = some '-'
        let digits := if signed then rest.drop 1 else rest
        if (digits.head?.any Char.isDigit) then
          (digitsLength digits).map (· + if signed then 2 else 1)
        else if signed then
          .error (.number "decimal".toList)
        else
          .ok 0
      else
        .ok 0
  | [] => .ok 0

/-- A decimal number and its length.  A whole number that is not zero does not start with a zero. -/
def decimalAt (text : Text) : Except Fault (NumberKind × Nat) := do
  let whole ← digitsLength text
  let fraction ← fractionLength (text.drop whole)
  let exponent ← exponentLength (text.drop (whole + fraction))
  let covered := whole + fraction + exponent
  let rest := text.drop covered
  let mark? := rest.head?.map Char.toLower
  if mark? = some 'j' then
    endNumber "imaginary".toList (rest.drop 1)
    pure (.imaginary, covered + 1)
  else if text.head? = some '0' && covered = whole && mark? != some 'e' &&
      (text.take whole).any fun char => char.isDigit && char != '0' then
    .error .leadingZeros
  else
    endNumber "decimal".toList rest
    let digits := (text.take whole).filter Char.isDigit
    pure (if covered = whole && text.head? != some '0' then .decimal digits.length else .real,
      covered)

/-- Whether a character is a hexadecimal digit. -/
def isHexadecimal (char : Char) : Bool :=
  char.isDigit || ('a' ≤ char.toLower && char.toLower ≤ 'f')

/-- A number and its length. -/
def numberAt (text : Text) : Except Fault (NumberKind × Nat) :=
  let marked (kind : String) (allowed : Char → Bool) (rest : Text) :=
    (markedLength kind.toList allowed rest).map fun covered => (NumberKind.real, covered + 2)
  match text with
  | '0' :: mark :: rest =>
      if mark.toLower = 'x' then marked "hexadecimal" isHexadecimal rest
      else if mark.toLower = 'o' then marked "octal" (fun char => '0' ≤ char && char < '8') rest
      else if mark.toLower = 'b' then marked "binary" (fun char => char == '0' || char == '1') rest
      else decimalAt text
  | _ => decimalAt text

/-- How long the body of a quotation is, up to the quotes that close it; or, where nothing closes
it, how many lines end before that shows. -/
def bodyLength (quote : Char) (long : Bool) : Text → Except Nat Nat
  | [] => .error 0
  | '\\' :: escaped :: rest =>
      match bodyLength quote long rest with
      | .ok length => .ok (length + 2)
      | .error lines => .error (if escaped = '\n' then lines + 1 else lines)
  | char :: rest =>
      if char = quote && (!long || [quote, quote].isPrefixOf rest) then
        .ok 0
      else if char = '\n' && !long then
        .error 0
      else
        match bodyLength quote long rest with
        | .ok length => .ok (length + 1)
        | .error lines => .error (if char = '\n' then lines + 1 else lines)

/-- The marks that may stand before a quote, in small letters. -/
def quoteMarks : List Text :=
  ["b", "br", "f", "fr", "r", "rb", "rf", "u"].map String.toList

/-- A quotation behind its marks: the quotation and its length. -/
def quotationAt (line : Nat) (marks : Text) (quote : Char) (text : Text) :
    Except Fault (Token × Nat) :=
  let long := [quote, quote, quote].isPrefixOf text
  let width := if long then 3 else 1
  let inner := text.drop width
  match bodyLength quote long inner with
  | .error lines => .error (.unterminated long (line + lines))
  | .ok length =>
      let marks := marks.map Char.toLower
      .ok (.quotation ⟨marks.contains 'b', marks.contains 'r', marks.contains 'f',
        inner.take length⟩, marks.length + width + length + width)

/-- A name or a reserved word. -/
def named (word : Text) : Except Fault (Token × Nat) :=
  match Text.nameFault? word with
  | some char => .error (.character char)
  | none => .ok (if reserved.contains word then .sign word else .name word, word.length)

/-- A name, a reserved word, or a quotation with marks before it. -/
def wordAt (line : Nat) (text : Text) : Except Fault (Token × Nat) :=
  let word := text.takeWhile mayBeName
  let rest := text.drop word.length
  match rest with
  | quote :: _ =>
      if (quote = Text.singleQuote || quote = Text.doubleQuote) &&
          quoteMarks.contains (word.map Char.toLower) then
        quotationAt line word quote rest
      else
        named word
  | [] => named word

end Token

/-- How far right a line starts.  A tab takes a line to the next multiple of eight columns, or by
one column: lines are told apart only where both ways of counting agree. -/
structure Margin where
  wide : Nat
  narrow : Nat
  deriving DecidableEq

namespace Margin

/-- The margin of a line that starts with no blank. -/
def none : Margin := ⟨0, 0⟩

/-- The columns between the stops of a tab. -/
def tabWidth : Nat := 8

/-- A margin behind one more character that may stand at the start of a line. -/
def after (margin : Margin) (char : Char) : Margin :=
  if char = '\t' then ⟨(margin.wide / tabWidth + 1) * tabWidth, margin.narrow + 1⟩
  else if char = ' ' then ⟨margin.wide + 1, margin.narrow + 1⟩
  else none

/-- The most margins that may stand in each other. -/
def limit : Nat := 99

/-- The margins of a line, given those of the line before it, the innermost first: a line that
starts further right has one more, and any other has to start where an earlier one did. -/
def settle? (margins : List Margin) (margin : Margin) : Option (List Margin) :=
  let kept := margins.dropWhile fun outer => margin.wide < outer.wide
  let last := kept.headD none
  if margin.wide = last.wide then
    if margin.narrow = last.narrow then some kept else Option.none
  else if kept.length = margins.length && last.narrow < margin.narrow && margins.length < limit then
    some (margin :: kept)
  else
    Option.none

end Margin

/-- How far a text has been cut: the line, the open brackets with their lines, the innermost first,
whether the line has no token yet, how far right it has come then, the column that a backslash at
the end of a line has settled, and the margins of the lines before. -/
structure CutState where
  line : Nat
  brackets : List (Char × Nat)
  fresh : Bool
  margin : Margin
  settled : Nat
  margins : List Margin

/-- What cutting a text gives: its tokens, the fault that ends them, the innermost bracket that is
then open, and, where a backslash ended them, the rest of its line with the state before it. -/
structure Cut where
  tokens : List Placed
  fault? : Option Fault
  opened? : Option (Char × Nat)
  behind? : Option (CutState × Text)

namespace CutState

/-- The start of a text whose first line has a number. -/
def start (line : Nat) : CutState := ⟨line, [], true, .none, 0, []⟩

/-- The most brackets that may be open. -/
def bracketLimit : Nat := 200

/-- The brackets behind a sign. -/
def bracketsAfter (state : CutState) (sign : Text) : Except Fault (List (Char × Nat)) :=
  let close (closing opening : Char) : Except Fault (List (Char × Nat)) :=
    match state.brackets with
    | [] => .error (.unmatched closing)
    | (bracket, line) :: rest =>
        if bracket = opening then .ok rest
        else .error (.mismatched closing bracket (if line = state.line then none else some line))
  match sign with
  | [')'] => close ')' '('
  | [']'] => close ']' '['
  | ['}'] => close '}' '{'
  | ['('] | ['['] | ['{'] =>
      if bracketLimit ≤ state.brackets.length then .error .tooDeep
      else .ok ((sign.headD '(', state.line) :: state.brackets)
  | _ => .ok state.brackets

/-- The token at the start of a text, and its length. -/
def tokenAt (state : CutState) (char : Char) (text : Text) : Except Fault (Token × Nat) :=
  if char.isDigit || (char = '.' && (text.drop 1).head?.any Char.isDigit) then
    (Token.numberAt text).map fun (kind, covered) => (.number kind, covered)
  else if Token.mayBeName char then
    Token.wordAt state.line text
  else if char = Text.singleQuote || char = Text.doubleQuote then
    Token.quotationAt state.line [] char text
  else if Text.isPrintable char then
    let sign := Token.signAt char text
    .ok (.sign sign, sign.length)
  else
    .error (.character char)

/-- The margins behind the next token, if it may stand where it does.  Only the first token of a
line matters, and only outside brackets. -/
def nextMargins? (state : CutState) : Option (List Margin) :=
  if state.fresh && state.brackets.isEmpty then
    Margin.settle? state.margins
      (if state.settled = 0 then state.margin else ⟨state.settled, state.settled⟩)
  else
    some state.margins

/-- The token that tells of a line that starts further right than the one before it. -/
def indents (state : CutState) : List Placed :=
  match state.nextMargins? with
  | some margins =>
      if state.margins.length < margins.length then
        [⟨.indent, state.line, state.brackets.length⟩]
      else
        []
  | none => []

/-- A token at the start of a text: the tokens it gives, the state behind it, and its length. -/
def take (state : CutState) (char : Char) (text : Text) :
    Except Fault (List Placed × CutState × Nat) := do
  match state.nextMargins? with
  | none => throw .misaligned
  | some margins =>
      let (token, covered) ← state.tokenAt char text
      let brackets ← match token with
        | .sign sign => state.bracketsAfter sign
        | _ => pure state.brackets
      let placed : Placed := ⟨token, state.line, brackets.length⟩
      let lines := (text.take covered).count '\n'
      pure (state.indents ++ [placed],
        ⟨state.line + lines, brackets, false, .none, 0, margins⟩, covered)

/-- The end of a line: it is told where the line has a token and no bracket is open. -/
def endLine (state : CutState) : List Placed × CutState :=
  if state.brackets.isEmpty then
    (if state.fresh then [] else [⟨.lineEnd, state.line, 0⟩],
      ⟨state.line + 1, [], true, .none, 0, state.margins⟩)
  else
    ([], { state with line := state.line + 1 })

/-- The end of a line that a backslash hides: where the line had no token yet, the column is
settled. -/
def joinLine (state : CutState) : CutState :=
  { state with
    line := state.line + 1
    settled := if state.settled = 0 then state.margin.wide else state.settled }

/-- What stands at the start of a text: the tokens it gives, the state behind it, and its length. -/
def step (state : CutState) (char : Char) (text : Text) :
    Except Fault (List Placed × CutState × Nat) :=
  if char = '\n' then
    let (tokens, next) := state.endLine
    .ok (tokens, next, 1)
  else if char = ' ' || char = '\t' || char = Char.ofNat 12 then
    .ok ([], { state with margin := if state.fresh then state.margin.after char else .none }, 1)
  else if char = '#' then
    .ok ([], state, (text.takeWhile fun char => char != '\n').length)
  else if char = '\\' then
    match text with
    | _ :: '\n' :: _ => .ok ([], state.joinLine, 2)
    | _ => .error .strayBackslash
  else
    state.take char text

/-- What cutting ends with. -/
def ending (state : CutState) : Cut :=
  match state.brackets with
  | (bracket, line) :: _ => ⟨[], some (.neverClosed bracket), some (bracket, line), none⟩
  | [] => ⟨[⟨.finish, state.line, 0⟩], none, none, none⟩

/-- What cutting ends with at a fault in front of a text. -/
def failing (state : CutState) (fault : Fault) (rest : Text) : Cut :=
  if fault = .strayBackslash then
    ⟨[], some fault, state.brackets.head?,
      some ({ state with fresh := false }, (rest.takeWhile fun char => char != '\n').drop 1)⟩
  else
    ⟨state.indents, some fault, state.brackets.head?, none⟩

/-- A text cut into tokens from a state on; its first `skip` characters belong to what was there
before. -/
def cutFrom : (skip : Nat) → CutState → Text → Cut
  | _, state, [] => state.ending
  | skip + 1, state, _ :: rest => cutFrom skip state rest
  | 0, state, char :: rest =>
      match state.step char (char :: rest) with
      | .error fault => state.failing fault rest
      | .ok (tokens, next, covered) =>
          let cut := cutFrom (covered - 1) next rest
          { cut with tokens := tokens ++ cut.tokens }

end CutState

/-- A text cut into tokens; its lines are counted from a number on. -/
def cut (line : Nat) (text : Text) : Cut :=
  CutState.cutFrom 0 (CutState.start line) (Text.unifyNewlines text)

end DeclLinker.Expression
