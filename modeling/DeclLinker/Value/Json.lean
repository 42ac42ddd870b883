import DeclLinker.Number.Numeral
import DeclLinker.Value.Basic

/-!
# JSON

A reader and a writer for values.  The reader keeps the order of keys, lets the last of repeated
keys win, tells whole numbers from numbers with a point or an exponent, knows the words for the
infinities and for no number, and refuses whole numbers with more digits than a numeral may have and
values that stand in each other too deep.
-/

namespace DeclLinker.Json

/-- The characters between tokens. -/
def isSpace (char : Char) : Bool :=
  char == ' ' || char == '\t' || char == '\n' || char == '\r'

/-- The text from its next token on. -/
def skipSpace (text : Text) : Text :=
  text.dropWhile isSpace

/-- The value of a hexadecimal digit. -/
def hexDigit? (char : Char) : Option Nat :=
  if '0' ≤ char ∧ char ≤ '9' then some (char.toNat - '0'.toNat)
  else if 'a' ≤ char ∧ char ≤ 'f' then some (char.toNat - 'a'.toNat + 10)
  else if 'A' ≤ char ∧ char ≤ 'F' then some (char.toNat - 'A'.toNat + 10)
  else none

/-- The number that four hexadecimal digits spell, and the rest. -/
def hex4? : Text → Option (Nat × Text)
  | a :: b :: c :: d :: rest => do
      let a ← hexDigit? a
      let b ← hexDigit? b
      let c ← hexDigit? c
      let d ← hexDigit? d
      pure (((a * 16 + b) * 16 + c) * 16 + d, rest)
  | _ => none

/-- The character of a one-letter escape. -/
def shortEscape? (char : Char) : Option Char :=
  if char = Text.doubleQuote ∨ char = '\\' ∨ char = '/' then some char
  else if char = 'b' then some (Char.ofNat 8)
  else if char = 'f' then some (Char.ofNat 12)
  else if char = 'n' then some '\n'
  else if char = 'r' then some '\r'
  else if char = 't' then some '\t'
  else none

/-- The number of the character of a numbered escape, which may take a second escape for its low
half. -/
def numbered (unit : Nat) (rest : Text) : Nat × Text :=
  if 0xd800 ≤ unit ∧ unit < 0xdc00 then
    match rest with
    | '\\' :: 'u' :: more =>
        match hex4? more with
        | some (low, after) =>
            if 0xdc00 ≤ low ∧ low < 0xe000 then
              (0x10000 + (unit - 0xd800) * 0x400 + (low - 0xdc00), after)
            else
              (unit, rest)
        | none => (unit, rest)
    | _ => (unit, rest)
  else
    (unit, rest)

/-- The numbers of the characters of a string up to its closing quote, and the rest. -/
def readString : (fuel : Nat) → Text → Option (List Nat × Text)
  | 0, _ => none
  | _ + 1, [] => none
  | fuel + 1, char :: rest =>
      if char = Text.doubleQuote then
        some ([], rest)
      else if char = '\\' then
        match rest with
        | [] => none
        | escape :: more =>
            if escape = 'u' then
              match hex4? more with
              | none => none
              | some (unit, after) =>
                  let (point, after) := numbered unit after
                  (readString fuel after).map fun (points, rest) => (point :: points, rest)
            else
              match shortEscape? escape with
              | none => none
              | some char =>
                  (readString fuel more).map fun (points, rest) => (char.toNat :: points, rest)
      else if char.toNat < 0x20 then
        none
      else
        (readString fuel rest).map fun (points, rest) => (char.toNat :: points, rest)

/-- A run of decimal digits and the rest. -/
def digits (text : Text) : Text × Text :=
  (text.takeWhile Char.isDigit, text.dropWhile Char.isDigit)

/-- The number that digits spell. -/
def ofDigits (digits : Text) : Nat :=
  digits.foldl (fun number char => number * 10 + (char.toNat - '0'.toNat)) 0

/-- The digits after a point, if a point with digits follows. -/
def readFraction (text : Text) : Option Text × Text :=
  match text with
  | '.' :: rest =>
      match digits rest with
      | ([], _) => (none, text)
      | (fraction, after) => (some fraction, after)
  | _ => (none, text)

/-- The exponent, if one follows. -/
def readExponent (text : Text) : Option Int × Text :=
  match text with
  | mark :: rest =>
      if mark = 'e' ∨ mark = 'E' then
        let (negative, unsigned) :=
          match rest with
          | '-' :: after => (true, after)
          | '+' :: after => (false, after)
          | _ => (false, rest)
        match digits unsigned with
        | ([], _) => (none, text)
        | (exponent, after) =>
            (some (if negative then -(ofDigits exponent : Int) else ofDigits exponent), after)
      else
        (none, text)
  | [] => (none, text)

/-- A number without its sign: whole digits without a leading zero, a fraction, an exponent. -/
def readNumber (negative : Bool) (text : Text) : Option (Scalar × Text) :=
  let (whole, rest) :=
    match text with
    | '0' :: rest => (['0'], rest)
    | _ => digits text
  if whole.isEmpty then
    none
  else
    let (fraction?, rest) := readFraction rest
    let (exponent?, rest) := readExponent rest
    match fraction?, exponent? with
    | none, none =>
        let number : Int := ofDigits whole
        if Numeral.digitLimit < whole.length then
          none
        else
          some (.int (if negative then -number else number), rest)
    | _, _ =>
        let fraction := fraction?.getD []
        let power : Int := exponent?.getD 0 - fraction.length
        some (.float (Binary64.ofDecimal negative (ofDigits (whole ++ fraction)) power), rest)

/-- The words that are values. -/
def words : List (Text × Scalar) :=
  [("null".toList, .null), ("true".toList, .bool true), ("false".toList, .bool false),
    ("NaN".toList, .float .notANumber), ("Infinity".toList, .float (.infinite false)),
    ("-Infinity".toList, .float (.infinite true))]

/-- A word or a number. -/
def readScalar (text : Text) : Option (Scalar × Text) :=
  match words.findSome? fun (word, scalar) => (Text.after? word text).map fun rest =>
      (scalar, rest) with
  | some found => some found
  | none =>
      match text with
      | '-' :: rest => readNumber true rest
      | _ => readNumber false text

/-- Why a text denotes no value: it is malformed, or lists and mappings stand in each other too
deep; then, whether the last of them is a mapping. -/
inductive Fault where
  | malformed
  | tooDeep (mapping : Bool)
  deriving DecidableEq

/-- The message for a fault. -/
def Fault.message : Fault → Text
  | .malformed => "malformed".toList
  | .tooDeep mapping =>
      "maximum recursion depth exceeded while decoding a JSON ".toList ++
        (if mapping then "object".toList else "array".toList) ++
        " from a unicode string".toList

/-- How deep lists and mappings may stand in each other. -/
def depthLimit : Nat := 980

/-- What a reader found, or that the text is malformed. -/
def found {α : Type} : Option α → Except Fault α
  | some value => .ok value
  | none => .error .malformed

mutual

/-- The value at the start of a text, and the rest. -/
def readValue : (fuel depth : Nat) → Text → Except Fault (Value × Text)
  | 0, _, _ => .error .malformed
  | fuel + 1, depth, text =>
      match text with
      | [] => .error .malformed
      | char :: rest =>
          if char = Text.doubleQuote then
            (found (readString (rest.length + 1) rest)).map fun (points, rest) =>
              (.scalar (.ofPoints points), rest)
          else if char = '[' then
            if depthLimit ≤ depth then
              .error (.tooDeep false)
            else
              match skipSpace rest with
              | ']' :: after => .ok (.list [], after)
              | inner =>
                  (readItems fuel (depth + 1) inner).map fun (items, rest) => (.list items, rest)
          else if char = Char.ofNat 0x7b then
            if depthLimit ≤ depth then
              .error (.tooDeep true)
            else
              match skipSpace rest with
              | [] => .error .malformed
              | next :: after =>
                  if next = Char.ofNat 0x7d then
                    .ok (.dict [], after)
                  else
                    (readMembers fuel (depth + 1) [] (next :: after)).map fun (fields, rest) =>
                      (.dict fields, rest)
          else
            (found (readScalar text)).map fun (scalar, rest) => (.scalar scalar, rest)

/-- The items of a list up to its bracket. -/
def readItems : (fuel depth : Nat) → Text → Except Fault (List Value × Text)
  | 0, _, _ => .error .malformed
  | fuel + 1, depth, text =>
      match readValue fuel depth text with
      | .error fault => .error fault
      | .ok (value, rest) =>
          match skipSpace rest with
          | ']' :: after => .ok ([value], after)
          | ',' :: more =>
              (readItems fuel depth (skipSpace more)).map fun (items, rest) =>
                (value :: items, rest)
          | _ => .error .malformed

/-- The members of a mapping up to its brace, put over those read before. -/
def readMembers : (fuel depth : Nat) → Fields → Text → Except Fault (Fields × Text)
  | 0, _, _, _ => .error .malformed
  | fuel + 1, depth, fields, text =>
      match text with
      | [] => .error .malformed
      | quote :: rest =>
          if quote = Text.doubleQuote then
            match readString (rest.length + 1) rest with
            | none => .error .malformed
            | some (key, rest) =>
                match skipSpace rest with
                | ':' :: rest =>
                    match readValue fuel depth (skipSpace rest) with
                    | .error fault => .error fault
                    | .ok (value, rest) =>
                        let fields := Dict.put (.ofPoints key) value fields
                        match skipSpace rest with
                        | ',' :: more => readMembers fuel depth fields (skipSpace more)
                        | close :: after =>
                            if close = Char.ofNat 0x7d then .ok (fields, after)
                            else .error .malformed
                        | [] => .error .malformed
                | _ => .error .malformed
          else
            .error .malformed

end

/-- The value that a whole text denotes. -/
def parse (text : Text) : Except Fault Value :=
  match readValue (2 * text.length + 2) 0 (skipSpace text) with
  | .error fault => .error fault
  | .ok (value, rest) =>
      if (skipSpace rest).isEmpty then .ok value else .error .malformed

/-- The value that a whole text denotes, if it denotes one. -/
def parse? (text : Text) : Option Value :=
  (parse text).toOption

/-- The letters of the one-letter escapes for control characters. -/
def controlLetters : List (Nat × Char) :=
  [(8, 'b'), (9, 't'), (10, 'n'), (12, 'f'), (13, 'r')]

/-- An escape by number. -/
def unitEscape (unit : Nat) : Text :=
  "\\u".toList ++ Text.hex 4 unit

/-- A character inside a string.  Whatever is not a printing ASCII character is escaped, a character
with a number above four digits by its two halves. -/
def escape (char : Char) : Text :=
  if char = Text.doubleQuote ∨ char = '\\' then
    ['\\', char]
  else if ' ' ≤ char ∧ char ≤ '~' then
    [char]
  else
    match controlLetters.lookup char.toNat with
    | some letter => ['\\', letter]
    | none =>
        if char.toNat < 0x10000 then
          unitEscape char.toNat
        else
          let rest := char.toNat - 0x10000
          unitEscape (0xd800 + rest / 0x400) ++ unitEscape (0xdc00 + rest % 0x400)

/-- A text as a string. -/
def string (text : Text) : Text :=
  Text.doubleQuote :: text.flatMap escape ++ [Text.doubleQuote]

/-- A text with lone halves in it as a string. -/
def stringOfPoints (points : List Nat) : Text :=
  let shown (point : Nat) :=
    if Text.isHalf point then unitEscape point else escape (Char.ofNat point)
  Text.doubleQuote :: points.flatMap shown ++ [Text.doubleQuote]

/-- A scalar as JSON. -/
def ofScalar : Scalar → Text
  | .null => "null".toList
  | .bool true => "true".toList
  | .bool false => "false".toList
  | .int number => Text.ofInt number
  | .float .notANumber => "NaN".toList
  | .float (.infinite true) => "-Infinity".toList
  | .float (.infinite false) => "Infinity".toList
  | .float number => number.toText
  | .str text => string text
  | .halved points => stringOfPoints points
  | scalar => string scalar.display

/-- A key as JSON; keys other than texts are written as the text of the value they hold. -/
def ofKey : Scalar → Text
  | .str text => string text
  | .halved points => stringOfPoints points
  | key => string (ofScalar key)

mutual

/-- A value as JSON. -/
def render : Value → Text
  | .scalar scalar => ofScalar scalar
  | .list items => '[' :: Text.commaList (renderItems items) ++ [']']
  | .tuple items => '[' :: Text.commaList (renderItems items) ++ [']']
  | .set items => '[' :: Text.commaList (items.map ofScalar) ++ [']']
  | .dict fields =>
      Char.ofNat 0x7b :: Text.commaList (renderFields fields) ++ [Char.ofNat 0x7d]
  | .cyclic _ value => render value

/-- The items of a list. -/
def renderItems : List Value → List Text
  | [] => []
  | value :: rest => render value :: renderItems rest

/-- The fields of a mapping. -/
def renderFields : List (Scalar × Value) → List Text
  | [] => []
  | (key, value) :: rest => (ofKey key ++ ':' :: ' ' :: render value) :: renderFields rest

end

end DeclLinker.Json
