import DeclLinker.Text.Basic

/-!
# Halves of characters

A number in an escape may be half of a pair that stands for one character.  A half without its
partner is no character, so a text with lone halves in it is kept as the numbers of its characters
and halves.
-/

namespace DeclLinker.Text

/-- Whether a number is a half of a pair. -/
def isHalf (point : Nat) : Bool :=
  0xd800 ≤ point && point < 0xe000

/-- The text that numbers stand for, unless there are lone halves among them. -/
def ofPoints? (points : List Nat) : Option Text :=
  if points.any isHalf then none else some (points.map Char.ofNat)

/-- The text with a mark for each of the three bytes that a lone half would take. -/
def withoutHalves (points : List Nat) : Text :=
  points.flatMap fun point =>
    if isHalf point then List.replicate 3 (Char.ofNat 0xfffd) else [Char.ofNat point]

end DeclLinker.Text
