import DeclLinker.Dict
import DeclLinker.Value.Scalar

/-!
# Configuration values

Configuration is read as plain data first: scalars, lists, tuples, sets, and mappings that keep the
order of their keys.  Two mappings are merged key by key, where both sides hold a mapping again and
otherwise by replacement.

A value may contain itself.  It then has a name, and is spelled out a few times over; where it is
written inside itself, only its brackets are.
-/

namespace DeclLinker

/-- Plain data. -/
inductive Value where
  | scalar (leaf : Scalar)
  | list (items : List Value)
  | tuple (items : List Value)
  | set (items : List Scalar)
  | dict (fields : List (Scalar × Value))
  | cyclic (name : Nat) (value : Value)

/-- The fields of a mapping. -/
abbrev Fields := Dict Scalar Value

namespace Value

/-- A text as a value. -/
def str (text : Text) : Value := .scalar (.str text)

/-- A number as a value. -/
def int (number : Int) : Value := .scalar (.int number)

/-- A truth value as a value. -/
def bool (truth : Bool) : Value := .scalar (.bool truth)

/-- The missing value. -/
def null : Value := .scalar .null

/-- A mapping from texts to values. -/
def record (fields : List (Text × Value)) : Value :=
  .dict (fields.map fun (name, value) => (.str name, value))

/-- The value without the name it has for containing itself. -/
def bare : Value → Value
  | .cyclic _ value => value.bare
  | value => value

/-- The fields of a mapping. -/
def fields? (value : Value) : Option Fields :=
  match value.bare with
  | .dict fields => some fields
  | _ => none

/-- The items of a list, a tuple or a set. -/
def items? (value : Value) : Option (List Value) :=
  match value.bare with
  | .list items | .tuple items => some items
  | .set items => some (items.map Value.scalar)
  | _ => none

/-- Whether a value is a mapping. -/
def isDict (value : Value) : Bool :=
  value.fields?.isSome

/-- Null, false, zero, and everything without content. -/
def isEmpty (value : Value) : Bool :=
  match value.bare with
  | .scalar leaf => leaf.isEmpty
  | .list items | .tuple items => items.isEmpty
  | .set items => items.isEmpty
  | .dict fields => fields.isEmpty
  | .cyclic .. => false

/-- A text in braces. -/
def braced (text : Text) : Text :=
  Char.ofNat 0x7b :: text ++ [Char.ofNat 0x7d]

/-- How a value is written inside itself. -/
def ellipsis (value : Value) : Text :=
  match value.bare with
  | .dict _ => braced "...".toList
  | _ => "[...]".toList

mutual

/-- How a value is written inside a larger one, given the names of the values around it. -/
def literalIn (around : List Nat) : Value → Text
  | .scalar leaf => leaf.literal
  | .list items => '[' :: Text.commaList (literalsIn around items) ++ [']']
  | .tuple [item] => '(' :: literalIn around item ++ [',', ')']
  | .tuple items => '(' :: Text.commaList (literalsIn around items) ++ [')']
  | .set [] => "set()".toList
  | .set items => braced (Text.commaList (items.map Scalar.literal))
  | .dict fields => braced (Text.commaList (fieldLiteralsIn around fields))
  | .cyclic name value =>
      if around.contains name then value.ellipsis else literalIn (name :: around) value

/-- The items of a list. -/
def literalsIn (around : List Nat) : List Value → List Text
  | [] => []
  | value :: rest => literalIn around value :: literalsIn around rest

/-- The fields of a mapping, each key before a colon. -/
def fieldLiteralsIn (around : List Nat) : List (Scalar × Value) → List Text
  | [] => []
  | (key, value) :: rest =>
      (key.literal ++ ':' :: ' ' :: literalIn around value) :: fieldLiteralsIn around rest

end

mutual

/-- Whether every scalar in a value can be shown. -/
def isShowable : Value → Bool
  | .scalar leaf => leaf.isShowable
  | .list items | .tuple items => areShowable items
  | .set items => items.all Scalar.isShowable
  | .dict fields => fieldsShowable fields
  | .cyclic _ value => isShowable value

/-- Whether every scalar in a list can be shown. -/
def areShowable : List Value → Bool
  | [] => true
  | value :: rest => isShowable value && areShowable rest

/-- Whether every scalar in the fields of a mapping can be shown. -/
def fieldsShowable : List (Scalar × Value) → Bool
  | [] => true
  | (key, value) :: rest => key.isShowable && isShowable value && fieldsShowable rest

end

/-- How a value is written inside a larger one. -/
def literal (value : Value) : Text :=
  value.literalIn []

/-- How a value is shown on its own: a scalar by itself. -/
def display : Value → Text
  | .scalar leaf => leaf.display
  | value => value.literal

/-- The value of a field of a mapping. -/
def field? (name : Text) (value : Value) : Option Value :=
  value.fields?.bind (Dict.get? (.str name))

end Value

namespace Fields

/-- The value of a key; truth values and whole numbers are one key when they are equal. -/
def get? (key : Scalar) : Fields → Option Value
  | [] => none
  | (other, value) :: rest => if other.sameKey key then some value else get? key rest

/-- A field put into a mapping; equal keys keep the first spelling and the last value. -/
def put (key : Scalar) (value : Value) : Fields → Fields
  | [] => [(key, value)]
  | (other, held) :: rest =>
      if other.sameKey key then (other, value) :: rest
      else (other, held) :: put key value rest

mutual

/-- A value put over another: mappings merge, anything else replaces. -/
def overlay (base : Option Value) : Value → Value
  | .dict fields =>
      match base.bind Value.fields? with
      | some held => .dict (merge held fields)
      | none => .dict fields
  | .cyclic name value =>
      match base.bind Value.fields? with
      | some _ => overlay base value
      | none => .cyclic name value
  | value => value

/-- The fields of `base` with those of the second mapping put over them, key by key. -/
def merge (base : Fields) : List (Scalar × Value) → Fields
  | [] => base
  | (key, value) :: rest => merge (put key (overlay (get? key base) value) base) rest

end

mutual

/-- Whether putting a value over another comes back to the same two mappings and so never ends. -/
def overlaysForever (around : List (Nat × Nat)) (base : Value) : Value → Bool
  | .dict fields =>
      match base.fields? with
      | some held => mergesForever around held fields
      | none => false
  | .cyclic name value =>
      match base with
      | .cyclic other _ =>
          around.contains (other, name) || overlaysForever ((other, name) :: around) base value
      | _ => overlaysForever around base value
  | _ => false

/-- Whether merging two mappings never ends. -/
def mergesForever (around : List (Nat × Nat)) (base : Fields) : List (Scalar × Value) → Bool
  | [] => false
  | (key, value) :: rest =>
      (match get? key base with
        | some held => overlaysForever around held value
        | none => false) ||
      mergesForever around base rest

end

end Fields

end DeclLinker
