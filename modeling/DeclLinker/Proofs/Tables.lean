import DeclLinker.Tables

/-!
# The built-in tables as characters

A literal is kept as bytes, and whoever compares a key with it decodes it.  Here the literals of the
built-in tables are taken apart once, and a fact about a small corpus is decided over the tables of
characters that they leave.
-/

namespace DeclLinker.Tables

/-- The first pair of a dictionary from literals, taken apart. -/
theorem spelled_cons {key value : Text} {rest : List (String × String)} {others : Dict Text Text}
    (apart : spelled rest = others) :
    spelled ((String.ofList key, String.ofList value) :: rest) = (key, value) :: others := by
  rw [← apart]
  simp only [spelled, List.map_cons, String.toList_ofList]

/-- The first of some lines from literals, taken apart. -/
theorem toList_cons {line : Text} {rest others : List Text} (apart : rest = others) :
    (String.ofList line).toList :: rest = line :: others := by
  rw [apart, String.toList_ofList]

/-- The built-in expressions.  Unification reads the characters off the literals. -/
def decodedBuiltins : { builtins : Dict Text Text // defaultBuiltins = builtins } := by
  apply Subtype.mk
  repeat apply spelled_cons
  exact rfl

/-- The files of well-known packages. -/
def decodedPackages : { packages : Dict Text Text // defaultPackages = packages } := by
  apply Subtype.mk
  repeat apply spelled_cons
  exact rfl

/-- The declarations that the generator leaves out. -/
def decodedDeclarations : { declarations : Text // missingDeclarations = declarations } := by
  apply Subtype.mk
  apply congrArg (List.intercalate ['\n'])
  repeat first | apply toList_cons | apply congrArg (List.cons _)
  exact rfl

/-- Extended tables, over the dictionaries of characters. -/
def decoded (banner : Text) (families : List Text) (builtins packages : Dict Text Text) : Tables :=
  { extended banner families builtins packages with
    builtins := decodedBuiltins.val.putAll builtins
    packages := decodedPackages.val.putAll packages
    synthetic := [("caddy-rewrite.ts".toList, decodedDeclarations.val)] }

theorem extended_eq_decoded : extended = decoded := by
  funext banner families builtins packages
  rw [decoded, ← decodedBuiltins.property, ← decodedPackages.property,
    ← decodedDeclarations.property]
  rfl

/-- The tables without configuration. -/
def decodedDefault : Tables :=
  decoded defaultBanner defaultFamilies [] []

theorem default_eq_decoded : default = decodedDefault := by
  rw [default, extended_eq_decoded, decodedDefault]

end DeclLinker.Tables
