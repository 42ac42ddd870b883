import DeclLinker.Console.Action
import DeclLinker.Console.Emoji
import DeclLinker.Console.Span
import DeclLinker.Text.Pieces

/-!
# Markup

Text for the console may carry tags in square brackets that switch styles on and off.  Without
colours, printing a text drops its tags.  A backslash before a tag makes it plain text.  A closing
tag has to match an open one; the argument of an action is read when its tag is closed.  Codes for
pictures are replaced between the tags.
-/

namespace DeclLinker.Console

/-- What is wrong with a tag: a closing tag closes nothing, a colour cannot be read, or the argument
of an action cannot. -/
inductive MarkupFault where
  | unmatched (tag : Text) (position : Nat)
  | nothingOpen (position : Nat)
  | colour (fault : NumeralFault)
  | action (argument : Text) (fault : ActionFault)
  deriving DecidableEq

/-- The message for a fault. -/
def MarkupFault.message : MarkupFault → Text
  | .unmatched tag position =>
      "closing tag '[".toList ++ tag ++ "]' at position ".toList ++ Text.ofNat position ++
        " doesn't match any open tag".toList
  | .nothingOpen position =>
      "closing tag '[/]' at position ".toList ++ Text.ofNat position ++
        " has nothing to close".toList
  | .colour fault => fault.message
  | .action argument fault => fault.message argument

namespace Markup

/-- The characters a tag can start with. -/
def startsTag (char : Char) : Bool :=
  ('a' ≤ char && char ≤ 'z') || char == '#' || char == '/' || char == '@'

/-- Whether a character can stand inside a tag. -/
def insideTag (char : Char) : Bool :=
  char != '[' && char != ']'

/-- Recognises a tag with the backslashes before it: how many there are, and what the brackets
hold. -/
def tagAt : Text.Recogniser (Nat × Text) :=
  fun text =>
    let slashes := (text.takeWhile fun char => char == '\\').length
    match text.drop slashes with
    | '[' :: first :: rest =>
        match startsTag first, rest.dropWhile insideTag with
        | true, ']' :: _ =>
            let body := first :: rest.takeWhile insideTag
            some ((slashes, body), slashes + body.length + 2)
        | _, _ => none
    | _ => none

/-- A stretch of marked-up text: ordinary text, text that is printed as it stands, or a tag and its
position. -/
inductive Stretch where
  | ordinary (text : Text)
  | verbatim (text : Text)
  | tag (position : Nat) (body : Text)
  deriving DecidableEq

/-- One more character before stretches. -/
def addChar (char : Char) : List Stretch → List Stretch
  | .ordinary text :: rest => .ordinary (char :: text) :: rest
  | stretches => .ordinary [char] :: stretches

/-- The stretches a tag with backslashes before it stands for: every two backslashes are one, and
one left over makes the tag plain text. -/
def tagStretches (position slashes : Nat) (body : Text) : List Stretch :=
  .verbatim (List.replicate (slashes / 2) '\\') ::
    if slashes % 2 = 1 then
      [.verbatim ('[' :: body ++ [']'])]
    else
      [.tag (position + slashes) body]

/-- The stretches that pieces make up, the first piece at the given position. -/
def stretchesFrom : (position : Nat) → List (Text.Piece (Nat × Text)) → List Stretch
  | _, [] => []
  | position, .single char :: rest => addChar char (stretchesFrom (position + 1) rest)
  | position, .hit text (slashes, body) :: rest =>
      tagStretches position slashes body ++ stretchesFrom (position + text.length) rest

/-- The stretches of a marked-up text. -/
def stretches (text : Text) : List Stretch :=
  stretchesFrom 0 (Text.pieces tagAt text)

/-- The name in a tag: what stands before an equals sign. -/
def tagName (body : Text) : Text :=
  Text.firstSegment '=' body

/-- The argument in a tag: what stands behind an equals sign. -/
def tagArgument? (body : Text) : Option Text :=
  match body.dropWhile fun char => char != '=' with
  | _ :: argument => some argument
  | [] => none

/-- A tag that has not been closed: where its text starts, the normal form of its name, and its
argument. -/
structure OpenTag where
  start : Nat
  name : Text
  argument? : Option Text
  deriving DecidableEq

/-- The words of the style a tag stands for: its argument follows its name. -/
def OpenTag.style (tag : OpenTag) : Text :=
  match tag.argument? with
  | some argument => tag.name ++ ' ' :: argument
  | none => tag.name

/-- The tag with its text up to a position. -/
def OpenTag.upTo (stop : Nat) (tag : OpenTag) : Span :=
  ⟨tag.start, stop, tag.style⟩

/-- The span of a tag that is closed at a position; an action has no style. -/
def OpenTag.closedAt (stop : Nat) (tag : OpenTag) : Except MarkupFault Span :=
  if Action.isName tag.name then
    match tag.argument?.filter fun argument => !argument.isEmpty with
    | none => .ok ⟨tag.start, stop, []⟩
    | some argument =>
        match Action.fault? argument with
        | some fault => .error (.action argument fault)
        | none => .ok ⟨tag.start, stop, []⟩
  else
    .ok (tag.upTo stop)

/-- The last open tag of a name, and the other open tags; none when there is no such tag. -/
def close? (name : Text) : List OpenTag → Option (OpenTag × List OpenTag)
  | [] => none
  | tag :: rest =>
      if tag.name = name then
        some (tag, rest)
      else
        (close? name rest).map fun (found, rest) => (found, tag :: rest)

/-- The normal form of the name of a style in a tag. -/
def styleName (name : Text) : Except MarkupFault Text :=
  (Style.normalForm name).mapError .colour

/-- Marked-up text that has been read up to some point: the stretches of its text and the spans that
are complete, the last one first, and the open tags, the last one first. -/
structure Reading where
  shown : List Text
  length : Nat
  openTags : List OpenTag
  spans : List Span

namespace Reading

/-- Nothing has been read. -/
def start : Reading := ⟨[], 0, [], []⟩

/-- The control characters a console does not print: bell, backspace, the vertical ones and the
carriage return. -/
def isControl (char : Char) : Bool :=
  [7, 8, 11, 12, 13].contains char.toNat

/-- Text between tags, with pictures for its codes. -/
def addText (reading : Reading) (text : Text) : Reading :=
  let shown := (Emoji.replaceCodes text).filter fun char => !isControl char
  { reading with shown := shown :: reading.shown, length := reading.length + shown.length }

/-- The tag that a closing tag closes, and the tags that stay open. -/
def closed (reading : Reading) (position : Nat) (body name : Text) :
    Except MarkupFault (OpenTag × List OpenTag) :=
  if name.isEmpty then
    match reading.openTags with
    | [] => .error (.nothingOpen position)
    | tag :: rest => .ok (tag, rest)
  else do
    match close? (← styleName name) reading.openTags with
    | none => .error (.unmatched body position)
    | some closed => .ok closed

/-- A tag that opens or closes. -/
def addTag (reading : Reading) (position : Nat) (body : Text) : Except MarkupFault Reading :=
  match tagName body with
  | '/' :: name => do
      let (tag, openTags) ← reading.closed position body (Text.trim name)
      let span ← tag.closedAt reading.length
      pure { reading with openTags, spans := span :: reading.spans }
  | name => do
      let tag := ⟨reading.length, ← styleName name, tagArgument? body⟩
      pure { reading with openTags := tag :: reading.openTags }

/-- The whole text with its spans: open tags reach to its end, and spans go by where they start. -/
def finish (reading : Reading) : Styled where
  text := reading.shown.reverse.flatten
  spans :=
    ((reading.openTags.map (OpenTag.upTo reading.length)).reverse ++ reading.spans).mergeSort
      fun first second => first.start ≤ second.start

end Reading

/-- Ordinary text as it is printed: a backslash before an opening bracket goes away. -/
def unescape (text : Text) : Text :=
  text.replaceAll (Text.phrase ['\\', '[']) fun _ => ['[']

/-- One more stretch of marked-up text. -/
def add (reading : Reading) : Stretch → Except MarkupFault Reading
  | .ordinary text => .ok (reading.addText (unescape text))
  | .verbatim text => .ok (reading.addText text)
  | .tag position body => reading.addTag position body

/-- The text without its tags, and the spans of its styles. -/
def styled (text : Text) : Except MarkupFault Styled :=
  ((stretches text).foldlM add Reading.start).map Reading.finish

/-- What the console prints for a marked-up text, with the line feed that ends it. -/
def print (text : Text) : Except MarkupFault Text := do
  let styled ← styled text
  match styled.fault? with
  | some fault => .error (.colour fault)
  | none => pure (Text.expandTabs styled.text ++ ['\n'])

end Markup

end DeclLinker.Console
