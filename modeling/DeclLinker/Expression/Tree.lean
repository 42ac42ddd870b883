import DeclLinker.Expression.Token

/-!
# Expression trees

A tree tells what an expression is made of, as far as it decides whether the expression is a literal
and how it is called in a complaint.  Brackets around an expression leave no trace.
-/

namespace DeclLinker.Expression

/-- What the parts of an expression make up. -/
inductive Label where
  | constant (word : Text)
  | quotations
  | tuple
  | set
  | dict
  | pair
  | spread
  | starred
  | sum
  | signed
  | operation
  | logical
  | comparison
  | membership
  | conditional
  | function
  | attribute
  | call
  | keyword
  | generator
  | setComprehension
  | dictComprehension
  | yielding
  | awaiting
  | assignment
  deriving DecidableEq

/-- A token that stands for itself, or parts under a label. -/
inductive Tree where
  | leaf (token : Token)
  | node (label : Label) (parts : List Tree)

namespace Tree

/-- The quotation of a leaf. -/
def quotation? : Tree → Option Quotation
  | .leaf (.quotation quotation) => some quotation
  | _ => none

/-- Whether a tree is a name out of a list. -/
def isName (names : List Text) : Tree → Bool
  | .leaf (.name text) => names.contains text
  | _ => false

/-- Whether a tree spreads a dictionary. -/
def isSpread : Tree → Bool
  | .node .spread _ => true
  | _ => false

/-- Whether a tree among arguments is one without a name. -/
def isPositional : Tree → Bool
  | .node .spread _ | .node .keyword _ => false
  | _ => true

/-- What a tree is called in a complaint. -/
def kind : Tree → Text
  | .leaf (.name _) => "name".toList
  | .leaf _ => "literal".toList
  | .node label parts =>
      match label with
      | .constant word => if word = "...".toList then "ellipsis".toList else word
      | .quotations =>
          if (parts.filterMap quotation?).any Quotation.isFormatted then
            "f-string expression".toList
          else
            "literal".toList
      | .tuple => "tuple".toList
      | .set => "set display".toList
      | .dict => "dict literal".toList
      | .pair | .spread | .keyword | .sum | .signed | .operation | .logical =>
          "expression".toList
      | .starred => "starred".toList
      | .comparison | .membership => "comparison".toList
      | .conditional => "conditional expression".toList
      | .function => "lambda".toList
      | .attribute => "attribute".toList
      | .call => "function call".toList
      | .generator => "generator expression".toList
      | .setComprehension => "set comprehension".toList
      | .dictComprehension => "dict comprehension".toList
      | .yielding => "yield expression".toList
      | .awaiting => "await expression".toList
      | .assignment => "named expression".toList

mutual

/-- The first part of a tree that no value can be assigned to.  What is looked for in another value
counts as a target of its own. -/
def unassignablePart? : Tree → Option Tree
  | .leaf (.name _) | .node .attribute _ => none
  | .node .tuple parts | .node .starred parts => unassignable? parts
  | .node .comparison (left :: _) => unassignableMember? left
  | .node .membership (left :: _) => unassignablePart? left
  | tree => some tree

/-- The same for the start of a chain of comparisons, which has to ask for membership. -/
def unassignableMember? : Tree → Option Tree
  | .node .comparison (left :: _) => unassignableMember? left
  | .node .membership (left :: _) => unassignablePart? left
  | _ => none

/-- The first part of several trees that no value can be assigned to. -/
def unassignable? : List Tree → Option Tree
  | [] => none
  | tree :: rest => (unassignablePart? tree).or (unassignable? rest)

end

/-- Whether the operands of a label are counted as if they stood side by side. -/
def isChained : Label → Bool
  | .logical | .comparison | .membership => true
  | _ => false

mutual

/-- How many trees stand in each other. -/
def depth : Tree → Nat
  | .leaf _ => 1
  | .node label parts => depths parts + if isChained label then 0 else 1

/-- The same for the deepest of several trees. -/
def depths : List Tree → Nat
  | [] => 0
  | tree :: rest => Nat.max tree.depth (depths rest)

end

/-- Trees that follow an expression, each taking what stands before it as its first part. -/
def grow (first : List Tree) (rest : List Tree) : List Tree :=
  rest.foldl
    (fun grown tree =>
      match tree with
      | .node label parts => [.node label (grown ++ parts)]
      | .leaf token => grown ++ [.leaf token])
    first

end Tree

end DeclLinker.Expression
