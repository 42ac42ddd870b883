import DeclLinker.Value.Scalar

/-!
# The order of sets

A set gives its items in the order of their places in a table.  The place of a number is found from
its remainder by a prime; an item whose place is taken goes to one behind it.  Of items that are not
all numbers the places cannot be told, and they keep the order in which they were put in.
-/

namespace DeclLinker.Scalar

/-- The prime that remainders are taken by.  A power of two whose exponent it bounds is one
again. -/
def scatterPrime : Nat := Nat.pow 2 61 - 1

/-- The number of words that a place is counted from. -/
def wordCount : Nat := Nat.pow 2 64

/-- The word for a remainder with a sign; the word for minus one is never used. -/
def signedWord (negative : Bool) (remainder : Nat) : Nat :=
  if negative && remainder != 0 then wordCount - max remainder 2 else remainder

/-- The word that the place of a number is found from. -/
def word? : Scalar → Option Nat
  | .bool value => some (if value then 1 else 0)
  | .int value => some (signedWord (value < 0) (value.natAbs % scatterPrime))
  | .float (.finite negative significand exponent) =>
      let power := Nat.pow 2 (Int.emod exponent 61).toNat
      some (signedWord negative (significand * power % scatterPrime))
  | .float (.infinite negative) => some (signedWord negative 314159)
  | _ => none

/-- The size of a table for so many items: a power of two. -/
def tableSize (count : Nat) : Nat :=
  if count < 5 then 8 else Nat.pow 2 ((2 * count).log2 + 1)

/-- How many places behind the first one are tried before another is looked for. -/
def neighbours : Nat := 9

/-- The free place for an item: the place of a word or one behind it, or else another that follows
from the word.  After as many rounds as there are places all of them have been tried. -/
def freePlace (table : Array (Option Scalar)) : (bound word place : Nat) → Nat
  | 0, _, place => place
  | bound + 1, word, place =>
      let reach := if place + neighbours < table.size then neighbours + 1 else 1
      let free? := ((List.range reach).map (place + ·)).find? fun place =>
        (table[place]?.join).isNone
      match free? with
      | some place => place
      | none => freePlace table bound (word / 32) ((place * 5 + 1 + word / 32) % table.size)

/-- The table with one more item. -/
def place (table : Array (Option Scalar)) (item : Scalar × Nat) : Array (Option Scalar) :=
  let start := item.2 % table.size
  table.setIfInBounds (freePlace table (table.size + 16) item.2 start) (some item.1)

/-- The items of a set in their order. -/
def scatter (items : List Scalar) : List Scalar :=
  match items.mapM fun item => item.word?.map fun word => (item, word) with
  | some words =>
      let empty := Array.replicate (tableSize items.length) none
      (words.foldl place empty).toList.filterMap id
  | none => items

end DeclLinker.Scalar
