import DeclLinker.Expression.Quotation

/-!
# Expressions in quotations

A formatted quotation is a template: plain text with expressions in braces.  Behind an expression
may stand an equals sign, a conversion, and a format, which is again a template.  A brace of plain
text is written twice, except in a format.

What is wrong with the expressions themselves is not decided here: the readers are told it, given
the line in which an expression starts.
-/

namespace DeclLinker.Expression

namespace Template

/-- Whether a character is a brace. -/
def isBrace (char : Char) : Bool :=
  char == '{' || char == '}'

/-! ## Where an expression ends -/

/-- How far the end of an expression has been looked for: the quote that is open, with a mark when
it is a triple one, and the open brackets, the innermost first. -/
structure Reach where
  quote? : Option (Char × Bool)
  brackets : List Char

/-- Whether a text starts with two of a character. -/
def startsTwice (char : Char) (text : Text) : Bool :=
  [char, char].isPrefixOf text

/-- The bracket that another one closes. -/
def opening : Char → Char
  | ')' => '('
  | ']' => '['
  | _ => '{'

/-- Whether a character starts a sign that goes on with an equals sign. -/
def isComparing (char : Char) : Bool :=
  char == '!' || char == '=' || char == '<' || char == '>'

/-- Whether a character ends an expression outside brackets, unless it is a part of a longer
sign. -/
def isStop (char : Char) : Bool :=
  char == '!' || char == ':' || char == '=' || char == '}'

namespace Reach

/-- What a character within a quotation does, and how many more characters belong to it. -/
def quoted (reach : Reach) (quote : Char) (long : Bool) (char : Char) (rest : Text) :
    Reach × Nat :=
  if char != quote then (reach, 0)
  else if !long then ({ reach with quote? := none }, 0)
  else if startsTwice quote rest then ({ reach with quote? := none }, 2)
  else (reach, 0)

/-- What a closing bracket does. -/
def closed (reach : Reach) (char : Char) : Except TemplateFault Reach :=
  match reach.brackets with
  | [] => .error (.unmatched char)
  | bracket :: rest =>
      if bracket = opening char then .ok { reach with brackets := rest }
      else .error (.mismatched char bracket)

/-- What a character of an expression does, and how many more characters belong to it; nothing when
the expression ends before it. -/
def step (reach : Reach) (char : Char) (rest : Text) :
    Except TemplateFault (Option (Reach × Nat)) :=
  if char = '\\' then
    .error .backslash
  else
    match reach.quote? with
    | some (quote, long) => .ok (some (reach.quoted quote long char rest))
    | none =>
        if char = Text.singleQuote || char = Text.doubleQuote then
          let long := startsTwice char rest
          .ok (some ({ reach with quote? := some (char, long) }, if long then 2 else 0))
        else if char = '(' || char = '[' || char = '{' then
          if CutState.bracketLimit ≤ reach.brackets.length then .error .tooManyBrackets
          else .ok (some ({ reach with brackets := char :: reach.brackets }, 0))
        else if char = '#' then
          .error .comment
        else if reach.brackets.isEmpty && isComparing char && rest.head? = some '=' then
          .ok (some (reach, 1))
        else if reach.brackets.isEmpty && isStop char then
          .ok none
        else if char = ')' || char = ']' || char = '}' then
          (reach.closed char).map fun next => some (next, 0)
        else
          .ok (some (reach, 0))

/-- Nothing may be open at the end of a text. -/
def ending (reach : Reach) : Except TemplateFault Unit :=
  match reach.quote?, reach.brackets with
  | some _, _ => .error .unterminated
  | none, bracket :: _ => .error (.unmatched bracket)
  | none, [] => .ok ()

end Reach

/-- The length of the expression at the start of a text; the first `skip` characters belong to what
was there before. -/
def expressionLength : (skip : Nat) → Reach → Text → Except TemplateFault Nat
  | _, reach, [] => reach.ending.map fun _ => 0
  | skip + 1, reach, _ :: rest => (expressionLength skip reach rest).map (· + 1)
  | 0, reach, char :: rest => do
      match ← reach.step char rest with
      | none => pure 0
      | some (next, skip) => (expressionLength skip next rest).map (· + 1)

/-! ## Plain text -/

/-- How many characters behind a backslash belong to its escape.  A brace is none of them, except
around a name. -/
def escapeLength : Text → Nat
  | 'N' :: '{' :: rest => (rest.takeWhile fun char => char != '}').length + 3
  | 'N' :: _ => 2
  | char :: _ => if isBrace char then 0 else 1
  | [] => 0

/-- The length of the plain text at the start of a text; the first `skip` characters belong to an
escape. -/
def plainLength (raw : Bool) : (skip : Nat) → Text → Nat
  | _, [] => 0
  | skip + 1, _ :: rest => plainLength raw skip rest + 1
  | 0, char :: rest =>
      if isBrace char then 0
      else plainLength raw (if raw || char != '\\' then 0 else escapeLength rest) rest + 1

/-- What is wrong with plain text. -/
def plainFault (raw : Bool) (text : Text) : Except Fault Unit :=
  if raw then
    .ok ()
  else
    match Quotation.escapeFault? 0 text with
    | some fault => .error (.quotation fault)
    | none => .ok ()

/-! ## Templates -/

/-- What a template is read with: whether backslashes stand for themselves, and what is wrong with
an expression that starts in a line of the template. -/
structure Setting where
  raw : Bool
  fault? : (lines : Nat) → Text → Option Fault

/-- The characters that may follow the mark of a conversion. -/
def conversions : Text := ['s', 'r', 'a']

/-- The deepest level at which expressions may stand. -/
def levelLimit : Nat := 2

/-- Whether a character is a blank before an expression. -/
def isBlank (char : Char) : Bool :=
  char == ' ' || char == '\t' || char == '\n' || char == Char.ofNat 12

/-- The expression at the start of a text is there and has no fault. -/
def checkExpression (setting : Setting) (lines : Nat) (expression rest : Text) :
    Except Fault Unit :=
  match rest with
  | [] => .error (.template .unclosed)
  | mark :: _ =>
      if expression.all isBlank then
        .error (.template (if mark = '}' then .empty else .missing mark))
      else
        match setting.fault? lines expression with
        | some fault => .error fault
        | none => .ok ()

/-- The text behind the equals sign that may follow an expression. -/
def dropEquals : Text → Text
  | '=' :: rest => rest.dropWhile fun char => isBlank char || char == Char.ofNat 11
  | text => text

/-- The text behind the conversion that may follow an expression. -/
def dropConversion : Text → Except TemplateFault Text
  | ['!'] => .error .unclosed
  | '!' :: char :: rest => if conversions.contains char then .ok rest else .error .conversion
  | text => .ok text

/-- The text behind a closing brace. -/
def dropBrace : Text → Except TemplateFault Text
  | '}' :: rest => .ok rest
  | _ => .error .unclosed

/-- The number of line feeds in a text. -/
def lineFeeds (text : Text) : Nat :=
  text.count '\n'

mutual

/-- Reads a template up to its end, or up to a closing brace within braces.  `lines` is the number
of line feeds before the text. -/
def read (setting : Setting) :
    (bound : Nat) → (level lines : Nat) → Text → Except Fault Text
  | 0, _, _, text => .ok text
  | bound + 1, level, lines, text =>
      let plain := text.take (plainLength setting.raw 0 text)
      let rest := text.drop plain.length
      let behind := lines + lineFeeds plain
      match rest with
      | [] => (plainFault setting.raw plain).map fun _ => []
      | brace :: more =>
          if level = 0 && more.head? = some brace then do
            plainFault setting.raw (plain ++ [brace])
            read setting bound level behind (more.drop 1)
          else if brace = '{' then do
            plainFault setting.raw plain
            let after ← readField setting bound level behind more
            let passed := lineFeeds (more.take (more.length - after.length))
            read setting bound level (behind + passed) after
          else if level = 0 then
            .error (.template .loneBrace)
          else
            (plainFault setting.raw plain).map fun _ => rest

/-- Reads what stands between braces, and the closing one. -/
def readField (setting : Setting) :
    (bound : Nat) → (level lines : Nat) → Text → Except Fault Text
  | 0, _, _, text => .ok text
  | bound + 1, level, lines, text => do
      if levelLimit ≤ level then
        throw (.template .tooDeep)
      let length ← (expressionLength 0 ⟨none, []⟩ text).mapError .template
      let expression := text.take length
      let rest := text.drop length
      checkExpression setting lines expression rest
      let rest ← (dropConversion (dropEquals rest)).mapError .template
      match rest with
      | ':' :: format =>
          let passed := lineFeeds (text.take (text.length - format.length))
          let after ← read setting bound (level + 1) (lines + passed) format
          (dropBrace after).mapError .template
      | _ => (dropBrace rest).mapError .template

end

end Template

namespace Quotation

/-- What is wrong with the expressions in a quotation, given what is wrong with each of them by the
line it starts in. -/
def templateFault? (fault? : (line : Nat) → Text → Option Fault) (line : Nat)
    (quotation : Quotation) : Option Fault :=
  if quotation.isFormatted then
    let setting : Template.Setting := ⟨quotation.isRaw, fun lines => fault? (line + lines)⟩
    match Template.read setting (2 * quotation.body.length + 1) 0 0 quotation.body with
    | .error fault => some fault
    | .ok _ => none
  else
    none

/-- What is wrong with quotations that follow each other, each with the line it starts in, of which
the first holds bytes or not. -/
def joinFault? (fault? : (line : Nat) → Text → Option Fault) (isBytes : Bool) :
    List (Nat × Quotation) → Option Fault
  | [] => none
  | (line, quotation) :: rest =>
      match quotation.fault? with
      | some fault => some (.quotation fault)
      | none =>
          if quotation.isBytes != isBytes then
            some (.quotation .mixed)
          else
            match quotation.templateFault? fault? line with
            | some fault => some fault
            | none => joinFault? fault? isBytes rest

end Quotation

end DeclLinker.Expression
