import DeclLinker.Dict
import DeclLinker.Path.Basic
import DeclLinker.Source.Reference

/-!
# The declaration index

The index says which file declares a qualified name.  It is asked in three ways: for exact keys in
order, and, when they all miss, for the smallest key with a given start and a given last segment.
-/

namespace DeclLinker

/-- Where a qualified name is declared. -/
structure Entry where
  path : Path
  exportName : Text
  tag : Text
  deriving DecidableEq

/-- Declarations by qualified name. -/
structure Index where
  entries : Dict Text Entry
  deriving DecidableEq

namespace Index

/-- The index without declarations. -/
def empty : Index := ⟨[]⟩

/-- The number of qualified names. -/
def size (index : Index) : Nat :=
  index.entries.length

/-- The declaration of a key. -/
def get? (index : Index) (key : Text) : Option Entry :=
  Dict.get? key index.entries

/-- The declaration of the first of several keys that has one. -/
def firstOf? (index : Index) (keys : List Text) : Option Entry :=
  keys.findSome? index.get?

/-- The pair with the smallest key, the first of them when keys repeat. -/
def least? : List (Text × Entry) → Option (Text × Entry)
  | [] => none
  | pair :: rest =>
      match least? rest with
      | none => some pair
      | some other => if Text.le pair.1 other.1 then some pair else some other

/-- Whether a key starts with `start` and ends in a dot and the type name. -/
def fits (start typeName key : Text) : Bool :=
  start.isPrefixOf key && ('.' :: typeName).isSuffixOf key

/-- The declaration of the smallest key that fits. -/
def bySuffix? (index : Index) (start typeName : Text) : Option Entry :=
  (least? (index.entries.filter fun pair => fits start typeName pair.1)).map Prod.snd

/-- The declaration a reference denotes: by its qualified name, by its short one, by suffix. -/
def resolve? (index : Index) (reference : Reference) : Option Entry :=
  match index.firstOf? [reference.qualified, reference.shortQualified] with
  | some entry => some entry
  | none => index.bySuffix? reference.shortPackage reference.typeName

end Index

end DeclLinker
