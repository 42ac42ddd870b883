/-!
# Text as a list of characters

Declaration files are scanned, cut and spliced character by character, and the laws of this library
speak of prefixes, positions and occurrences.  A text is therefore the list of its characters.

This module holds the cuts that everything else is built from: at the first occurrence of a phrase,
at every occurrence of a separator, and at the last one.
-/

namespace DeclLinker

/-- A text is the list of its characters. -/
abbrev Text := List Char

namespace Text

/-- A statement about all characters of a text is decided along the text, not by trying every
character there is. -/
instance (priority := 2000) decidableForallMem {p : Char → Prop} [DecidablePred p]
    (text : List Char) : Decidable (∀ char ∈ text, p char) :=
  List.decidableBAll p text

/-- What remains after `lead` when the text starts with it. -/
def after? : (lead text : Text) → Option Text
  | [], text => some text
  | _ :: _, [] => none
  | first :: lead, char :: text => if first = char then after? lead text else none

theorem after?_eq_some_iff {lead text rest : Text} :
    after? lead text = some rest ↔ text = lead ++ rest := by
  induction lead generalizing text with
  | nil => simp [after?]
  | cons first lead ih =>
      cases text with
      | nil => simp [after?]
      | cons char text =>
          by_cases same : first = char
          · simp [after?, same, ih]
          · simp [after?, same, Ne.symm same]

@[simp]
theorem after?_append (lead rest : Text) : after? lead (lead ++ rest) = some rest :=
  after?_eq_some_iff.2 rfl

/-- The texts before and after the first occurrence of `phrase`. -/
def cut? (phrase : Text) : Text → Option (Text × Text)
  | [] => if phrase = [] then some ([], []) else none
  | char :: rest =>
      match after? phrase (char :: rest) with
      | some tail => some ([], tail)
      | none => (cut? phrase rest).map fun halves => (char :: halves.1, halves.2)

/-- Cutting at a phrase loses nothing but the phrase. -/
theorem eq_append_of_cut? {phrase text before rest : Text}
    (found : cut? phrase text = some (before, rest)) : text = before ++ phrase ++ rest := by
  induction text generalizing before rest with
  | nil =>
      by_cases empty : phrase = []
      · simp only [cut?, empty, if_true, Option.some.injEq, Prod.mk.injEq] at found
        simp [← found.1, ← found.2, empty]
      · simp [cut?, empty] at found
  | cons char text ih =>
      cases here : after? phrase (char :: text) with
      | some tail =>
          simp only [cut?, here, Option.some.injEq, Prod.mk.injEq] at found
          rw [after?_eq_some_iff.1 here, ← found.1, ← found.2]
          rfl
      | none =>
          simp only [cut?, here, Option.map_eq_some_iff] at found
          obtain ⟨⟨before', rest'⟩, inner, same⟩ := found
          simp only [Prod.mk.injEq] at same
          rw [← same.1, ← same.2, ih inner]
          rfl

/-- Whether `phrase` occurs somewhere in the text. -/
def occursIn (phrase text : Text) : Bool :=
  (cut? phrase text).isSome

/-- The text with the first occurrence of `phrase` replaced; without one, the text itself. -/
def replaceFirst (phrase replacement text : Text) : Text :=
  match cut? phrase text with
  | some (before, rest) => before ++ replacement ++ rest
  | none => text

/-- The pieces between the occurrences of a separator, one more than there are separators. -/
def splitOn (separator : Char) : Text → List Text
  | [] => [[]]
  | char :: rest =>
      if char = separator then
        [] :: splitOn separator rest
      else
        match splitOn separator rest with
        | [] => [[char]]
        | piece :: pieces => (char :: piece) :: pieces

theorem splitOn_ne_nil (separator : Char) (text : Text) : splitOn separator text ≠ [] := by
  induction text with
  | nil => simp [splitOn]
  | cons char rest ih =>
      by_cases same : char = separator
      · simp [splitOn, same]
      · cases pieces : splitOn separator rest <;> simp [splitOn, same, pieces]

/-- The lines of a text; only the line feed ends a line. -/
def lines (text : Text) : List Text :=
  splitOn '\n' text

/-- The texts before and after the last occurrence of a separator. -/
def splitLast? (separator : Char) : Text → Option (Text × Text)
  | [] => none
  | char :: rest =>
      match splitLast? separator rest with
      | some (before, after) => some (char :: before, after)
      | none => if char = separator then some ([], rest) else none

/-- What stands after the last separator; without one, the whole text. -/
def lastSegment (separator : Char) (text : Text) : Text :=
  match splitLast? separator text with
  | some (_, after) => after
  | none => text

/-- What stands before the first separator; without one, the whole text. -/
def firstSegment (separator : Char) (text : Text) : Text :=
  text.takeWhile fun char => char != separator

/-- The text without an ending it has.  The empty ending takes the whole text with it. -/
def dropEnding (text ending : Text) : Text :=
  if ending.isSuffixOf text then
    if ending.isEmpty then [] else text.take (text.length - ending.length)
  else
    text

/-- The decimal digits of a number. -/
def ofNat (number : Nat) : Text :=
  Nat.toDigits 10 number

/-- The decimal digits of an integer, after a minus sign when it is negative. -/
def ofInt : Int → Text
  | .ofNat number => ofNat number
  | .negSucc number => '-' :: ofNat (number + 1)

/-- Code point order: whether a text comes before another, a prefix before what it starts. -/
def lt (first second : Text) : Bool :=
  List.lex first second fun one other => decide (one < other)

/-- Code point order: whether a text does not come after another. -/
def le (first second : Text) : Bool :=
  !lt second first

/-- Texts joined by a comma and a blank. -/
def commaList (items : List Text) : Text :=
  [',', ' '].intercalate items

end Text

end DeclLinker
