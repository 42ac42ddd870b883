import DeclLinker.Text.Basic

/-!
# Cutting a text into hits and single characters

A recogniser looks at the start of a text and may answer with a value and the number of characters
it covers.  `pieces` applies a recogniser from left to right: where it answers, the covered
characters become one hit and the search goes on behind them; elsewhere one character passes.

Both the scanner for placeholders and the structural rules are recognisers, so finding, counting and
replacing are three views of the same list of pieces.
-/

namespace DeclLinker.Text

universe u

/-- One piece of a text: a character nothing was recognised at, or a recognised stretch. -/
inductive Piece (α : Type u) where
  | single (char : Char)
  | hit (text : Text) (value : α)

/-- What a recogniser answers at the start of a text: a value and how many characters it covers. -/
abbrev Recogniser (α : Type u) := Text → Option (α × Nat)

namespace Piece

variable {α : Type u}

/-- The characters a piece covers. -/
def text : Piece α → Text
  | .single char => [char]
  | .hit text _ => text

/-- The value of a hit. -/
def value? : Piece α → Option α
  | .single _ => none
  | .hit _ value => some value

/-- The text of a piece after its hit is replaced. -/
def replaced (replace : α → Text) : Piece α → Text
  | .single char => [char]
  | .hit _ value => replace value

/-- Whether replacing a piece changes its text. -/
def changes (replace : α → Text) : Piece α → Bool
  | .single _ => false
  | .hit text value => replace value != text

end Piece

variable {α : Type u}

/-- The pieces of a text of which the first `skip` characters belong to the hit before. -/
def piecesFrom (recognise : Recogniser α) : (skip : Nat) → Text → List (Piece α)
  | _, [] => []
  | skip + 1, _ :: rest => piecesFrom recognise skip rest
  | 0, char :: rest =>
      match recognise (char :: rest) with
      | none => .single char :: piecesFrom recognise 0 rest
      | some (value, covered) =>
          .hit ((char :: rest).take covered) value :: piecesFrom recognise (covered - 1) rest

/-- The pieces of a text, from left to right. -/
def pieces (recognise : Recogniser α) (text : Text) : List (Piece α) :=
  piecesFrom recognise 0 text

/-- Skipping characters is dropping them. -/
theorem piecesFrom_eq_drop (recognise : Recogniser α) (skip : Nat) (text : Text) :
    piecesFrom recognise skip text = pieces recognise (text.drop skip) := by
  induction text generalizing skip with
  | nil => cases skip <;> simp [pieces, piecesFrom]
  | cons char rest ih =>
      cases skip with
      | zero => rfl
      | succ skip => simpa [piecesFrom] using ih skip

@[simp]
theorem pieces_nil (recognise : Recogniser α) : pieces recognise [] = [] :=
  rfl

theorem pieces_cons_of_none {recognise : Recogniser α} {char : Char} {rest : Text}
    (miss : recognise (char :: rest) = none) :
    pieces recognise (char :: rest) = .single char :: pieces recognise rest := by
  simp [pieces, piecesFrom, miss]

theorem pieces_cons_of_some {recognise : Recogniser α} {char : Char} {rest : Text} {value : α}
    {covered : Nat} (found : recognise (char :: rest) = some (value, covered + 1)) :
    pieces recognise (char :: rest) =
      .hit (char :: rest.take covered) value :: pieces recognise (rest.drop covered) := by
  have step := piecesFrom_eq_drop recognise covered rest
  simp [pieces, piecesFrom, found, step]

/-- The values recognised in a text, from left to right. -/
def findAll (recognise : Recogniser α) (text : Text) : List α :=
  (pieces recognise text).filterMap Piece.value?

/-- The text with every hit replaced at once. -/
def replaceAll (recognise : Recogniser α) (replace : α → Text) (text : Text) : Text :=
  (pieces recognise text).flatMap (Piece.replaced replace)

/-- How many hits change their text when replaced. -/
def countChanges (recognise : Recogniser α) (replace : α → Text) (text : Text) : Nat :=
  (pieces recognise text).countP (Piece.changes replace)

/-- Recognises one phrase. -/
def phrase (wanted : Text) : Recogniser Unit :=
  fun text => (after? wanted text).map fun _ => ((), wanted.length)

/-- A piece in front of stretches that hits keep apart. -/
def addPiece (piece : Piece α) (stretches : List Text) : List Text :=
  match piece, stretches with
  | .hit _ _, _ => [] :: stretches
  | .single char, [] => [[char]]
  | .single char, stretch :: rest => (char :: stretch) :: rest

/-- The stretches between the hits, one more than there are hits. -/
def splitAtHits (recognise : Recogniser α) (text : Text) : List Text :=
  (pieces recognise text).foldr addPiece [[]]

end DeclLinker.Text
