import DeclLinker.Source.Reference

/-!
# Scanning a declaration file

One pass over the lines of a file finds the names it exports and the placeholders it holds, each in
file order.
-/

namespace DeclLinker

/-- What a file exports and refers to, in file order; names exported twice are listed twice. -/
structure Scan where
  exports : List Text
  placeholders : List Placeholder
  deriving DecidableEq

namespace Scan

/-- The keywords that introduce an exported declaration, each with the blank after it. -/
def keywords : List Text :=
  ["interface ".toList, "type ".toList, "const ".toList]

/-- The name a line exports: `export`, a keyword and a run of word characters at its start. -/
def exportName? (line : Text) : Option Text :=
  match Text.after? "export ".toList line with
  | none => none
  | some rest =>
      match keywords.findSome? fun keyword => Text.after? keyword rest with
      | none => none
      | some declared =>
          let name := declared.takeWhile Text.isWord
          if name.isEmpty then none else some name

/-- The placeholders of one line. -/
def placeholdersOf (line : Text) (number : Nat) : List Placeholder :=
  (Text.findAll Reference.recognise line).map fun reference => ⟨reference, number⟩

/-- The exports and placeholders of a text; lines are numbered from one. -/
def ofText (text : Text) : Scan :=
  ⟨text.lines.filterMap exportName?,
    (text.lines.zipIdx 1).flatMap fun (line, number) => placeholdersOf line number⟩

end Scan

end DeclLinker
