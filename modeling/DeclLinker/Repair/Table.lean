import DeclLinker.Repair.Rule

/-!
# The built-in structural rules

Every rule is in the order in which it is applied.
-/

namespace DeclLinker.Rule

/-- A rule for a field type, from literals. -/
def spelled (written : String) (close : Char) (repaired : String) : Rule :=
  .field written.toList close repaired.toList

/-- The rules for error values, big integers, context keys and the types that no file declares. -/
def builtin : List Rule :=
  [spelled "error" ';' ": Error;",
    spelled "error" '|' ": Error |",
    spelled "error" '\x7d' ": Error\x7d",
    spelled "bigInt[]" ';' ": string[];",
    spelled "bigInt" ';' ": string;",
    spelled "*bigInt" ';' ": string;",
    .constant,
    spelled "substrReplacer[]" ';' ": substrReplacer[];",
    spelled "(regexReplacer | undefined)[]" ';' ": regexReplacer[];",
    spelled "queryOps" ';' ": queryOps;"]

end DeclLinker.Rule
