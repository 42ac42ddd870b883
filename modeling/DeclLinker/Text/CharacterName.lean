import DeclLinker.Number.Numeral
import DeclLinker.Text.CharacterNameTable
import DeclLinker.Text.Range

/-!
# Names of characters

A character has a name of capital letters, digits, hyphens and single blanks.  Letter case does not
matter when a character is called by its name, except for two large families whose names follow a
rule: ideographs by their numbers, and syllables by the letters they are put together from.
-/

namespace DeclLinker.Text

/-! ## Listed names -/

/-- An entry of a row: how many words it shares with the name before it, and its other words. -/
def nameEntry (entry : Text) : Nat × List Text :=
  ((entry.head?.bind Numeral.digit?).getD 0, (splitOn ' ' (entry.drop 1)))

/-- How many words two lists of words share at their start. -/
def sharedWords : List Text → List Text → Nat
  | first :: rest, other :: others => if first = other then sharedWords rest others + 1 else 0
  | _, _ => 0

/-- Whether a name is among entries, given how many words it shares with the name before them. -/
def isAmong (name : List Text) : (shared : Nat) → List Text → Bool
  | _, [] => false
  | shared, entry :: rest =>
      let (kept, words) := nameEntry entry
      if shared < kept then
        isAmong name shared rest
      else
        let shared := kept + sharedWords (name.drop kept) words
        (shared = name.length && kept + words.length = name.length) || isAmong name shared rest

/-- Whether a name in capital letters is listed. -/
def isListedName (name : Text) : Bool :=
  match name with
  | [] => false
  | first :: _ =>
      let rows := (nameRows.lookup first).getD []
      isAmong (splitOn ' ' name) 0 (rows.flatMap fun row => splitOn ',' row.toList)

/-! ## Names with numbers -/

/-- Names that differ in a number at their end: what stands before it, its base and least width, and
the numbers there are. -/
structure NumberedName where
  start : String
  base : Nat
  width : Nat
  ranges : List (Nat × Nat)

/-- The names with numbers. -/
def numberedNames : List NumberedName :=
  [⟨"CJK COMPATIBILITY IDEOGRAPH-", 16, 4,
      [(0xf900, 0xfa6d), (0xfa70, 0xfad9), (0x2f800, 0x2fa1d)]⟩,
    ⟨"KHITAN SMALL SCRIPT CHARACTER-", 16, 4, [(0x18b00, 0x18cd5)]⟩,
    ⟨"NUSHU CHARACTER-", 16, 4, [(0x1b170, 0x1b2fb)]⟩,
    ⟨"TANGUT COMPONENT-", 10, 3, [(1, 768)]⟩,
    ⟨"VARIATION SELECTOR-", 10, 1, [(1, 256)]⟩, ⟨"VS", 10, 1, [(1, 256)]⟩]

/-- A number in capital digits of a base, filled with zeros up to a width. -/
def numberText (base width number : Nat) : Text :=
  let digits := (Nat.toDigits base number).map Char.toUpper
  List.replicate (width - digits.length) '0' ++ digits

/-- The number that digits of a base spell. -/
def spelledNumber? (base : Nat) (digits : Text) : Option Nat :=
  (digits.mapM fun digit => (Numeral.digit? digit).filter (· < base)).map (Numeral.ofDigits base)

/-- Whether a name is one with a number. -/
def NumberedName.holds (family : NumberedName) (name : Text) : Bool :=
  match after? family.start.toList name with
  | none => false
  | some digits =>
      (spelledNumber? family.base digits).any fun number =>
        inRanges family.ranges number && numberText family.base family.width number == digits

/-! ## Ideographs and syllables -/

/-- The numbers of ideographs. -/
def ideographRanges : List (Nat × Nat) :=
  [(0x3400, 0x4dbf), (0x4e00, 0x9fff), (0x20000, 0x2a6df), (0x2a700, 0x2b738), (0x2b740, 0x2b81d),
    (0x2b820, 0x2cea1), (0x2ceb0, 0x2ebe0), (0x30000, 0x3134a)]

/-- Whether digits are four or five, in capital letters, and give an ideograph. -/
def isIdeograph (digits : Text) : Bool :=
  (digits.length == 4 || digits.length == 5) && digits.all (fun char => !char.isLower) &&
    (spelledNumber? 16 digits).any (inRanges ideographRanges)

/-- The first, middle and last parts of syllables. -/
def syllableParts : List (List String) :=
  [["G", "GG", "N", "D", "DD", "R", "M", "B", "BB", "S", "SS", "", "J", "JJ", "C", "K", "T", "P",
      "H"],
    ["A", "AE", "YA", "YAE", "EO", "E", "YEO", "YE", "O", "WA", "WAE", "OE", "YO", "U", "WEO",
      "WE", "WI", "YU", "EU", "YI", "I"],
    ["", "G", "GG", "GS", "N", "NJ", "NH", "D", "L", "LG", "LM", "LB", "LS", "LT", "LP", "LH", "M",
      "B", "BS", "S", "SS", "NG", "J", "C", "K", "T", "P", "H"]]

/-- The text behind the longest of several parts that it starts with. -/
def pastLongest? (parts : List String) (text : Text) : Option Text :=
  let rests := parts.filterMap fun part => after? part.toList text
  rests.foldl
    (fun best? rest =>
      match best? with
      | some best => some (if rest.length < List.length best then rest else best)
      | none => some rest)
    none

/-- Whether a text is a syllable: one part of each kind, the longest that fits each time. -/
def isSyllable (text : Text) : Bool :=
  syllableParts.foldlM (fun rest parts => pastLongest? parts rest) text == some []

/-! ## All names -/

/-- Whether a text is the name of a character. -/
def namesCharacter (name : Text) : Bool :=
  match after? "HANGUL SYLLABLE ".toList name, after? "CJK UNIFIED IDEOGRAPH-".toList name with
  | some syllable, _ => isSyllable syllable
  | none, some digits => isIdeograph digits
  | none, none =>
      let name := name.map Char.toUpper
      isListedName name || numberedNames.any fun family => family.holds name

end DeclLinker.Text
