import DeclLinker.Expression.Grammar

/-!
# Literals

A literal is an expression that needs no evaluation: a constant, a quotation, a number with or
without a sign, the sum of a real and an imaginary number, and tuples, sets and dictionaries of
literals.  What is a key or an item of a set must not itself be a set or a dictionary, nor hold one.
-/

namespace DeclLinker.Expression

/-- Why an expression is no literal: it needs evaluation, it spreads another dictionary, or a key is
a collection that can change. -/
inductive LiteralFault where
  | malformed
  | spread
  | unhashable (kind : Text)
  deriving DecidableEq

/-- The message for a fault. -/
def LiteralFault.message : LiteralFault → Text
  | .malformed => "malformed node or string".toList
  | .spread => "malformed node or string: None".toList
  | .unhashable kind => "unhashable type: ".toList ++ kind.quoted

/-- What a literal is: a value that can be a key, or the collection in it that keeps it from being
one. -/
abbrev Keyable := Option Text

namespace Tree

/-- Whether a tree is a number, and then whether it is imaginary. -/
def number? : Tree → Option Bool
  | .leaf (.number kind) => some (kind = .imaginary)
  | _ => none

/-- Whether a tree is a number with at most one sign, and then whether it is imaginary. -/
def signedNumber? : Tree → Option Bool
  | .node .signed [operand] => operand.number?
  | tree => tree.number?

/-- A value that is to be a key. -/
def asKey : Keyable → Except LiteralFault Unit
  | none => .ok ()
  | some kind => .error (.unhashable kind)

mutual

/-- What a literal is; a fault if the tree is none. -/
def literal : Tree → Except LiteralFault Keyable
  | .leaf token =>
      match token with
      | .number _ => .ok none
      | _ => .error .malformed
  | .node (.constant _) _ => .ok none
  | .node .quotations parts =>
      if (parts.filterMap quotation?).any Quotation.isFormatted then .error .malformed
      else .ok none
  | .node .tuple parts => literals parts
  | .node .set parts => do
      keys parts
      pure (some "set".toList)
  | .node .dict parts => do
      pairs parts
      pure (some "dict".toList)
  | .node .call [callee] =>
      if callee.isName ["set".toList] then .ok (some "set".toList) else .error .malformed
  | .node .signed [operand] =>
      if operand.number?.isSome then .ok none else .error .malformed
  | .node .sum [left, right] =>
      if left.signedNumber? = some false && right.number? = some true then .ok none
      else .error .malformed
  | .node _ _ => .error .malformed

/-- What a tuple of literals is: the first that cannot be a key decides. -/
def literals : List Tree → Except LiteralFault Keyable
  | [] => .ok none
  | part :: rest => do
      let first ← part.literal
      let others ← literals rest
      pure (first <|> others)

/-- Literals that are to be keys. -/
def keys : List Tree → Except LiteralFault Unit
  | [] => .ok ()
  | part :: rest => do
      asKey (← part.literal)
      keys rest

/-- The pairs of a dictionary: a key is read, then its value, then the key is put in. -/
def pairs : List Tree → Except LiteralFault Unit
  | [] => .ok ()
  | .node .pair [key, value] :: rest => do
      let key ← key.literal
      let _ ← value.literal
      asKey key
      pairs rest
  | _ :: _ => .error .spread

end

end Tree

end DeclLinker.Expression
