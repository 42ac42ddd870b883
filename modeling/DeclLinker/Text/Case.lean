import DeclLinker.Text.Basic
import DeclLinker.Text.CasedTable
import DeclLinker.Text.CaseTable

/-!
# Upper case, lower case and case folding

Each mapping takes one character to one or more: first the table of spelled-out results, then the
runs that move characters together, and every other character stays.  Only the lower case of a
capital sigma depends on where it stands.
-/

namespace DeclLinker.Text

/-- Where the first run that holds a code point takes it. -/
def shift? (point : Nat) : List Shift → Option Nat
  | [] => none
  | (first, last, step, target) :: runs =>
      if first ≤ point ∧ point ≤ last ∧ (point - first) % step = 0 then
        some (target + (point - first))
      else
        shift? point runs

/-- A character under a case mapping. -/
def mapCase (spellings : List (Nat × List Nat)) (shifts : List Shift) (char : Char) : Text :=
  match spellings.lookup char.toNat with
  | some points => points.map Char.ofNat
  | none =>
      match shift? char.toNat shifts with
      | some point => [Char.ofNat point]
      | none => [char]

/-- The upper case of a character, which may take several characters. -/
def upperChar : Char → Text :=
  mapCase upperSpellings upperShifts

/-- The form under which texts are compared without regard to case. -/
def fold (text : Text) : Text :=
  text.flatMap (mapCase foldSpellings foldShifts)

/-- Whether the first character that interrupts a word, or belongs to one, is a letter with case. -/
def leadsToCased (chars : Text) : Bool :=
  match chars.dropWhile fun char => inRanges transparentRanges char.toNat with
  | [] => false
  | char :: _ => inRanges casedRanges char.toNat

/-- The lower case of a character between what stands before it, the nearest first, and what
follows.  A capital sigma takes its final form at the end of a word. -/
def lowerChar (before : Text) (char : Char) (after : Text) : Text :=
  if char = 'Σ' then
    [if leadsToCased before && !leadsToCased after then 'ς' else 'σ']
  else
    mapCase lowerSpellings lowerShifts char

/-- The lower case of a text behind the given characters, the nearest first. -/
def lowerAfter : (before : Text) → Text → Text
  | _, [] => []
  | before, char :: rest => lowerChar before char rest ++ lowerAfter (char :: before) rest

/-- The lower case of a text. -/
def lower (text : Text) : Text :=
  lowerAfter [] text

/-- The text with its first character in upper case. -/
def capitalize : Text → Text
  | [] => []
  | char :: rest => upperChar char ++ rest

end DeclLinker.Text
