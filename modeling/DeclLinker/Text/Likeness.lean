import DeclLinker.Text.Basic

/-!
# Likeness of texts

Two texts are alike when they share long stretches in the same order.  The longest shared stretch is
taken first, and what is left of both texts on either side of it is compared in the same way.  The
likeness is twice the number of shared characters over the number of all characters.
-/

namespace DeclLinker.Text

/-- A stretch that two texts share: where it starts in either, and how long it is. -/
structure Shared where
  first : Nat
  second : Nat
  length : Nat
  deriving DecidableEq

/-- The longer of two stretches, the former one when they are equally long. -/
def Shared.longer (former latter : Shared) : Shared :=
  if former.length < latter.length then latter else former

/-- The number of characters with which two texts start alike. -/
def commonLead : Text → Text → Nat
  | char :: rest, other :: rest' => if char = other then commonLead rest rest' + 1 else 0
  | _, _ => 0

/-- The longest stretch that starts where the first text does, given the places of both texts. -/
def longestAt (first : Nat) (text : Text) : (second : Nat) → Text → Shared
  | second, [] => ⟨first, second, 0⟩
  | second, char :: rest =>
      Shared.longer ⟨first, second, commonLead text (char :: rest)⟩
        (longestAt first text (second + 1) rest)

/-- The longest shared stretch, the first one when there are several, given the place of the first
text. -/
def longestShared : (first : Nat) → Text → Text → Shared
  | first, [], _ => ⟨first, 0, 0⟩
  | first, char :: rest, other =>
      Shared.longer (longestAt first (char :: rest) 0 other)
        (longestShared (first + 1) rest other)

/-- The number of characters that two texts share, for first texts up to a length. -/
def sharedUpTo : (bound : Nat) → Text → Text → Nat
  | 0, _, _ => 0
  | bound + 1, text, other =>
      let shared := longestShared 0 text other
      if shared.length = 0 then
        0
      else
        sharedUpTo bound (text.take shared.first) (other.take shared.second) + shared.length +
          sharedUpTo bound (text.drop (shared.first + shared.length))
            (other.drop (shared.second + shared.length))

/-- A fraction, not reduced. -/
structure Fraction where
  top : Nat
  bottom : Nat
  deriving DecidableEq

/-- How alike two texts are. -/
def likeness (text other : Text) : Fraction :=
  ⟨2 * sharedUpTo text.length text other, text.length + other.length⟩

/-- Whether a fraction is at most another. -/
def Fraction.le (first second : Fraction) : Bool :=
  first.top * second.bottom ≤ second.top * first.bottom

/-- How alike two texts are at least, for one to be suggested in place of the other. -/
def leastLikeness : Fraction := ⟨3, 5⟩

/-- The order of suggestions: what is more alike comes first, and of texts that are equally alike
the greater one. -/
def comesBefore (word first second : Text) : Bool :=
  let former := likeness first word
  let latter := likeness second word
  if former.le latter && latter.le former then le second first else latter.le former

/-- The three texts most like a word, among those that are enough like it, in code point order. -/
def suggestions (word : Text) (known : List Text) : List Text :=
  let near := known.filter fun text => leastLikeness.le (likeness text word)
  ((near.mergeSort (comesBefore word)).take 3).mergeSort le

end DeclLinker.Text
