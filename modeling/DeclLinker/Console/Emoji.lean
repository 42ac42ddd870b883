import DeclLinker.Console.EmojiTable
import DeclLinker.Dict
import DeclLinker.Text.Blank
import DeclLinker.Text.Case
import DeclLinker.Text.Cells

/-!
# Codes for pictures

A name between two colons is a code for a picture.  Behind the name may stand whether the picture or
its plain form is meant.  Letter case does not matter, and a name that is not known stays as it is.
-/

namespace DeclLinker.Console.Emoji

/-- The pictures by name. -/
def pictures : Dict Text Text :=
  pictureRows.flatten.map fun entry => (entry.1.toList, entry.2)

/-- The endings of a name that choose a form, each with the mark for that form. -/
def forms : List (Text × Char) :=
  [("-emoji".toList, Text.pictureMark), ("-text".toList, Text.plainMark)]

/-- A name without the ending that chooses a form, and the mark for that form. -/
def splitForm (name : Text) : Text × Text :=
  match forms.find? fun form => form.1.isSuffixOf name with
  | some (ending, mark) => (name.take (name.length - ending.length), [mark])
  | none => (name, [])

/-- Whether a character can stand between the colons of a code. -/
def insideCode (char : Char) : Bool :=
  char != ':' && !Text.isBlank char

/-- Recognises a code and answers with what stands between its colons. -/
def codeAt : Text.Recogniser Text
  | ':' :: rest =>
      match rest.dropWhile insideCode with
      | ':' :: _ =>
          let name := rest.takeWhile insideCode
          some (name, name.length + 2)
      | _ => none
  | _ => none

/-- What is shown for a code. -/
def shown (name : Text) : Text :=
  let (plain, mark) := splitForm name
  match Dict.get? (Text.lower plain) pictures with
  | some picture => picture ++ mark
  | none => ':' :: name ++ [':']

/-- The text with pictures for its codes. -/
def replaceCodes (text : Text) : Text :=
  text.replaceAll codeAt shown

end DeclLinker.Console.Emoji
