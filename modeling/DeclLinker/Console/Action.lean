import DeclLinker.Expression.Literal
import DeclLinker.Text.Blank

/-!
# Actions

A tag whose name starts with an at sign stands for an action.  Its argument names a handler and
gives its parameters in brackets, or is a value by itself; either has to be a literal.  A handler
without brackets takes no parameters.
-/

namespace DeclLinker.Console

/-- Why an argument cannot be read: its parameters are no expression, they cannot be told at all, or
they are an expression that is no literal. -/
inductive ActionFault where
  | unreadable (parameters : Text) (fault : Expression.Fault)
  | failed (fault : Expression.Fault)
  | notLiteral (fault : Expression.LiteralFault)
  deriving DecidableEq

/-- The message for a fault in an argument. -/
def ActionFault.message (argument : Text) : ActionFault → Text
  | .unreadable parameters fault =>
      "error parsing ".toList ++ parameters.quoted ++ " in ".toList ++ argument.quoted ++
        "; ".toList ++ fault.message
  | .failed fault =>
      "error parsing ".toList ++ argument.quoted ++ "; ".toList ++ fault.message
  | .notLiteral fault =>
      "error parsing ".toList ++ argument.quoted ++ "; ".toList ++ fault.message

namespace Action

/-- Whether the name of a tag is that of an action. -/
def isName (name : Text) : Bool :=
  name.head? = some '@'

/-- Whether a text is one line in round brackets. -/
def isBracketed (text : Text) : Bool :=
  2 ≤ text.length && text.head? = some '(' && text.getLast? = some ')' && !text.contains '\n'

/-- The parameters in an argument: what stands in brackets behind the name of a handler, nothing
where only the name stands, and otherwise all of it. -/
def parameters (argument : Text) : Text :=
  let argument := Text.trim argument
  let rest := argument.dropWhile Text.isDotted
  if rest.isEmpty then "()".toList
  else if isBracketed rest then rest
  else argument

/-- What is wrong with an argument. -/
def fault? (argument : Text) : Option ActionFault :=
  let parameters := parameters argument
  match Expression.parse parameters with
  | .error fault => some (if fault.isGeneral then .failed fault else .unreadable parameters fault)
  | .ok trees =>
      match Expression.Tree.literals trees with
      | .error fault => some (.notLiteral fault)
      | .ok _ => none

end Action

end DeclLinker.Console
