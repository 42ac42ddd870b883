import DeclLinker.Text.Pieces
import DeclLinker.Text.Word

/-!
# References and placeholders

The generator writes `any /* some.pkg.Type */` where it could not see a type.  The dotted name
inside is cut at its last dot into a package and a type name.  A placeholder is such a reference
together with the line it stands on.
-/

namespace DeclLinker

/-- A type name qualified by the package it comes from. -/
structure Reference where
  package : Text
  typeName : Text
  deriving DecidableEq

/-- A reference at a line of a file. -/
structure Placeholder extends Reference where
  line : Nat
  deriving DecidableEq

namespace Reference

/-- The text before the dotted name of a placeholder. -/
def opening : Text := "any /* ".toList

/-- The text after the dotted name of a placeholder. -/
def closing : Text := " */".toList

/-- Package and type name with a dot between them. -/
def qualified (reference : Reference) : Text :=
  reference.package ++ '.' :: reference.typeName

/-- The placeholder text of a reference. -/
def text (reference : Reference) : Text :=
  opening ++ reference.qualified ++ closing

/-- The last segment of the package name. -/
def shortPackage (reference : Reference) : Text :=
  reference.package.lastSegment '.'

/-- The type name qualified by the last segment of the package name. -/
def shortQualified (reference : Reference) : Text :=
  reference.shortPackage ++ '.' :: reference.typeName

/-- The reference a dotted name denotes: both sides of its last dot must hold something. -/
def ofDotted? (dotted : Text) : Option Reference :=
  match dotted.splitLast? '.' with
  | some (package, typeName) =>
      if package.isEmpty || typeName.isEmpty then none else some ⟨package, typeName⟩
  | none => none

/-- The reference whose placeholder text stands at the start of a text. -/
def read? (source : Text) : Option Reference :=
  match Text.after? opening source with
  | none => none
  | some rest =>
      if closing.isPrefixOf (rest.dropWhile Text.isDotted) then
        ofDotted? (rest.takeWhile Text.isDotted)
      else
        none

/-- Placeholders as a recogniser: each covers exactly its text. -/
def recognise : Text.Recogniser Reference := fun source =>
  (read? source).map fun reference => (reference, reference.text.length)

end Reference

namespace Placeholder

/-- The qualified name and the line, as reports show them. -/
def describe (placeholder : Placeholder) : Text :=
  placeholder.qualified ++ " (line ".toList ++ Text.ofNat placeholder.line ++ [')']

end Placeholder

end DeclLinker
