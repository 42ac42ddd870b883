import DeclLinker.Console.Colour
import DeclLinker.Dict
import DeclLinker.Text.Blank
import DeclLinker.Text.Case

/-!
# Styles

A style is named by words: attributes, a colour, a background colour behind the word for it, and a
link.  Two spellings of one style have the same normal form.  Words that name no style are their own
name, up to letter case.  The words are read in order up to the first that does not fit.
-/

namespace DeclLinker.Console

/-- The parts of a style. -/
structure Style where
  attributes : Dict Text Bool
  colour? : Option Text
  background? : Option Text
  link? : Option Text

/-- The attributes in the order in which they are written, each with its short forms. -/
def attributeNames : List (Text × List Text) :=
  [("bold".toList, ["b".toList]), ("dim".toList, ["d".toList]), ("italic".toList, ["i".toList]),
    ("underline".toList, ["u".toList]), ("blink".toList, []), ("blink2".toList, []),
    ("reverse".toList, ["r".toList]), ("conceal".toList, ["c".toList]),
    ("strike".toList, ["s".toList]), ("underline2".toList, ["uu".toList]),
    ("frame".toList, []), ("encircle".toList, []), ("overline".toList, ["o".toList])]

/-- The attribute a word stands for. -/
def attribute? (word : Text) : Option Text :=
  (attributeNames.find? fun entry => entry.1 == word || entry.2.contains word).map Prod.fst

namespace Style

/-- No style. -/
def plain : Style := ⟨[], none, none, none⟩

/-- A style whose colour is a word; none when the word is no colour. -/
def setColour? (word : Text) (set : Text → Style) : Except NumeralFault (Option Style) :=
  (isColour word).map fun is => if is then some (set word) else none

/-- A style with one more word of its own: an attribute or a colour. -/
def addWord? (style : Style) (word : Text) : Except NumeralFault (Option Style) :=
  let word := Text.lower word
  match attribute? word with
  | some name => .ok (some { style with attributes := Dict.put name true style.attributes })
  | none => setColour? word fun colour => { style with colour? := some colour }

/-- Whether a word needs another one after it. -/
def isOpener (word : Text) : Bool :=
  ["on".toList, "not".toList, "link".toList].contains word

/-- A style with a word and what that word needs. -/
def addPair? (style : Style) (opener word : Text) : Except NumeralFault (Option Style) :=
  if opener = "on".toList then
    setColour? (Text.lower word) fun colour => { style with background? := some colour }
  else if opener = "not".toList then
    .ok ((attribute? word).map fun name =>
      { style with attributes := Dict.put name false style.attributes })
  else
    .ok (some { style with link? := some word })

/-- The style that words name. -/
def addWords? : List Text → Style → Except NumeralFault (Option Style)
  | [], style => .ok (some style)
  | [word], style => if isOpener (Text.lower word) then .ok none else style.addWord? word
  | word :: next :: rest, style => do
      if isOpener (Text.lower word) then
        match ← style.addPair? (Text.lower word) next with
        | some style => addWords? rest style
        | none => pure none
      else
        match ← style.addWord? word with
        | some style => addWords? (next :: rest) style
        | none => pure none

/-- The words of a style in their fixed order. -/
def words (style : Style) : List Text :=
  attributeNames.flatMap (fun entry =>
    match Dict.get? entry.1 style.attributes with
    | some true => [entry.1]
    | some false => ["not".toList, entry.1]
    | none => []) ++
  style.colour?.toList ++
  (match style.background? with
    | some colour => ["on".toList, colour]
    | none => []) ++
  (match style.link? with
    | some target => ["link".toList, target]
    | none => [])

/-- The style that a text names: the empty text and the word for no style name the plain one. -/
def ofText? (text : Text) : Except NumeralFault (Option Style) :=
  if text.isEmpty ∨ Text.trim text = "none".toList then
    .ok (some plain)
  else
    addWords? (Text.words text) plain

/-- The normal form of the name of a style. -/
def normalForm (name : Text) : Except NumeralFault Text :=
  (ofText? name).map fun style? =>
    match style? with
    | some style => if style.words.isEmpty then "none".toList else [' '].intercalate style.words
    | none => Text.lower (Text.trim name)

end Style

end DeclLinker.Console
