import DeclLinker.Text.Utf8
import DeclLinker.Value.Json
import DeclLinker.Yaml.Cursor

/-!
# Tags

A tag says what kind of data a node is.  It is written behind an exclamation mark: in full between
angle brackets, or as a handle and a rest, where the handle stands for the first part of the tag.
The kinds that the format itself knows have tags with a common first part.
-/

namespace DeclLinker.Yaml

/-- The kinds of data the format knows; all others are unknown. -/
inductive Tag where
  | null
  | bool
  | int
  | float
  | str
  | binary
  | timestamp
  | seq
  | omap
  | pairs
  | map
  | set
  | merge
  | value
  | unknown
  deriving DecidableEq

namespace Tag

open Cursor

/-- The first part of the tags of known kinds. -/
def family : Text := "tag:yaml.org,2002:".toList

/-- The names of known kinds. -/
def names : List (Text × Tag) :=
  [("null".toList, .null), ("bool".toList, .bool), ("int".toList, .int),
    ("float".toList, .float), ("str".toList, .str), ("binary".toList, .binary),
    ("timestamp".toList, .timestamp), ("seq".toList, .seq), ("omap".toList, .omap),
    ("pairs".toList, .pairs), ("map".toList, .map), ("set".toList, .set),
    ("merge".toList, .merge), ("value".toList, .value)]

/-- The kind that a tag in full names. -/
def ofText (text : Text) : Tag :=
  match Text.after? family text with
  | some name => (names.lookup name).getD .unknown
  | none => .unknown

/-! ## Tags as they are written -/

/-- What stands before a node: a handle, unless the tag is in full, and the rest of the tag. -/
structure Written where
  handle? : Option Text
  rest : Text
  deriving DecidableEq

/-- What handles stand for. -/
abbrev Handles := Dict Text Text

/-- The handles that are always known. -/
def Handles.known : Handles := [(['!'], ['!']), (['!', '!'], family)]

/-- The tag in full; none when its handle is not known. -/
def Written.full? (handles : Handles) (written : Written) : Option Text :=
  match written.handle? with
  | none => some written.rest
  | some handle => (Dict.get? handle handles).map fun first => first ++ written.rest

/-- The characters of a name. -/
def isNameChar (char : Char) : Bool :=
  char.isAlphanum || char == '-' || char == '_'

/-- The characters that stand for themselves in a tag. -/
def isTagChar (char : Char) : Bool :=
  char.isAlphanum || "-;/?:@&=+$,_.!~*'()[]".toList.contains char

/-- The bytes that escapes at the start of a text spell, and what follows them. -/
def escapedBytes : Text → Option (List UInt8 × Text)
  | '%' :: high :: low :: rest =>
      match Json.hexDigit? high, Json.hexDigit? low, escapedBytes rest with
      | some high, some low, some (bytes, rest) =>
          some (UInt8.ofNat (high * 16 + low) :: bytes, rest)
      | _, _, _ => none
  | '%' :: _ => none
  | rest => some ([], rest)

/-- The text of a tag with its escapes undone, and its length as written; none when an escape is
bad. -/
def spelled? : (bound : Nat) → Text → Option (Text × Nat)
  | 0, _ => some ([], 0)
  | _ + 1, [] => some ([], 0)
  | bound + 1, char :: rest =>
      if char = '%' then
        match escapedBytes (char :: rest) with
        | none => none
        | some (bytes, after) =>
            match Utf8.decode (ByteArray.mk bytes.toArray) with
            | .error _ => none
            | .ok text =>
                (spelled? bound after).map fun (more, length) =>
                  (text ++ more, 3 * bytes.length + length)
      else if isTagChar char then
        (spelled? bound rest).map fun (more, length) => (char :: more, length + 1)
      else
        some ([], 0)

/-- The text of a tag, which is not empty, and the position behind it. -/
def text? (cursor : Cursor) : Option (Text × Cursor) :=
  match spelled? (cursor.rest.length + 1) cursor.rest with
  | none | some (_, 0) => none
  | some (text, length) => some (text, cursor.forward length)

/-- A handle: one mark, or a name between two. -/
def handle? (cursor : Cursor) : Option (Text × Cursor) :=
  if cursor.atChar '!' then
    if cursor.peekAt? 1 = some ' ' then
      some (['!'], cursor.next)
    else
      let (name, cursor) := cursor.next.span isNameChar
      if cursor.atChar '!' then some ('!' :: name ++ ['!'], cursor.next) else none
  else
    none

/-- Whether a space, a line break or the end is next. -/
def atSpace (cursor : Cursor) : Bool :=
  cursor.atChar ' ' || cursor.breakAt 0

/-- A tag with a handle.  Without a second mark before the next space, the handle is one mark. -/
def handled? (cursor : Cursor) : Option (Written × Cursor) := do
  let ahead := cursor.next.rest.takeWhile fun char => !(char == ' ' || isBreak char)
  let (handle, cursor) ← if ahead.contains '!' then handle? cursor else some (['!'], cursor.next)
  let (text, cursor) ← text? cursor
  pure (⟨some handle, text⟩, cursor)

/-- A tag between angle brackets. -/
def bracketed? (cursor : Cursor) : Option (Written × Cursor) := do
  let (text, cursor) ← text? (cursor.forward 2)
  if cursor.atChar '>' then pure (⟨none, text⟩, cursor.next) else none

/-- A tag from its mark on, with a space or a line break behind it. -/
def read? (cursor : Cursor) : Option (Written × Cursor) := do
  let (written, cursor) ←
    if cursor.peekAt? 1 = some '<' then bracketed? cursor
    else if cursor.gapAt 1 then some (⟨none, ['!']⟩, cursor.next)
    else handled? cursor
  if atSpace cursor then pure (written, cursor) else none

end Tag

end DeclLinker.Yaml
