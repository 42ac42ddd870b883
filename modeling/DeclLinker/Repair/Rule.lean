import DeclLinker.Text.Blank
import DeclLinker.Text.Pieces
import DeclLinker.Text.Word

/-!
# Structural rules

Some raw identifiers come out of the generator without a placeholder.  A rule recognises such a
stretch and gives the text that belongs there.  There are two kinds: a type annotation that spells a
foreign type, with any blanks around it, and an exported constant whose value is the word `any`.
-/

namespace DeclLinker

/-- A structural rule. -/
inductive Rule where
  /-- A colon, blanks, the written type, blanks and the closing character become `repaired`. -/
  | field (written : Text) (close : Char) (repaired : Text)
  /-- An exported constant with the value `any` becomes an unknown null constant. -/
  | constant
  deriving DecidableEq

namespace Rule

/-- What remains after a type annotation of the given spelling. -/
def fieldRest? (written : Text) (close : Char) (source : Text) : Option Text :=
  match Text.after? [':'] source with
  | none => none
  | some rest =>
      match Text.after? written (Text.trimStart rest) with
      | none => none
      | some rest => Text.after? [close] (Text.trimStart rest)

/-- The start of an exported constant. -/
def constantOpening : Text := "export const ".toList

/-- The value of a constant the generator could not express. -/
def constantValue : Text := " = any;".toList

/-- The declaration that stands in for such a constant, after its name. -/
def constantRepair : Text := ": unknown = null;".toList

/-- The name of an exported `any` constant and what remains after it. -/
def constantRest? (source : Text) : Option (Text × Text) :=
  match Text.after? constantOpening source with
  | none => none
  | some rest =>
      let name := rest.takeWhile Text.isWord
      if name.isEmpty then
        none
      else
        (Text.after? constantValue (rest.dropWhile Text.isWord)).map fun rest => (name, rest)

/-- A rule as a recogniser; its value is the repaired text. -/
def recognise : Rule → Text.Recogniser Text
  | .field written close repaired => fun source =>
      (fieldRest? written close source).map fun rest =>
        (repaired, source.length - rest.length)
  | .constant => fun source =>
      (constantRest? source).map fun (name, rest) =>
        (constantOpening ++ name ++ constantRepair, source.length - rest.length)

/-- The text with every hit of the rule repaired. -/
def apply (rule : Rule) (text : Text) : Text :=
  text.replaceAll rule.recognise id

/-- How many hits of the rule change their text. -/
def count (rule : Rule) (text : Text) : Nat :=
  text.countChanges rule.recognise id

/-- The characters that a search pattern must escape. -/
def isOperator (char : Char) : Bool :=
  "[]()*|".toList.contains char

/-- A literal text inside a search pattern. -/
def escape (text : Text) : Text :=
  text.flatMap fun char => if isOperator char then ['\\', char] else [char]

/-- The rule as a search pattern. -/
def pattern : Rule → Text
  | .field written close _ =>
      ":\\s*".toList ++ escape written ++ "\\s*".toList ++ escape [close]
  | .constant => constantOpening ++ "(\\w+)".toList ++ constantValue

/-- What the pattern is replaced by; `\1` is the name. -/
def template : Rule → Text
  | .field _ _ repaired => repaired
  | .constant => constantOpening ++ "\\1".toList ++ constantRepair

end Rule

/-- A text and how many of its stretches were changed. -/
structure Repaired where
  text : Text
  count : Nat
  deriving DecidableEq

namespace Repaired

/-- One more rule applied. -/
def step (repaired : Repaired) (rule : Rule) : Repaired :=
  ⟨rule.apply repaired.text, repaired.count + rule.count repaired.text⟩

/-- The rules applied one after the other. -/
def ofRules (rules : List Rule) (text : Text) : Repaired :=
  rules.foldl step ⟨text, 0⟩

end Repaired

end DeclLinker
