import DeclLinker.Import.Plan
import DeclLinker.Proofs.Source.Grammar
import DeclLinker.Text.Blank

/-!
# The characters of local names

A local name is an exported name, or an alias: the last segment of a module tag with its first
character in upper case, the exported name and perhaps a number.  The upper case of a word character
need not consist of word characters, but it holds no blank and, of the seven-bit characters, only
letters, digits and the underscore; and no small seven-bit letter stands in it.
-/

namespace DeclLinker

namespace Text

/-- Characters of a local name: seven-bit word characters, and beyond them everything but blanks. -/
def isNaming (char : Char) : Bool :=
  if char.toNat < 0x80 then char.isAlphanum || char == '_' else !isBlank char

/-- The small seven-bit letters. -/
def isSmall (char : Char) : Bool :=
  0x61 ≤ char.toNat && char.toNat ≤ 0x7a

/-- Whether no range of one list meets a range of the other. -/
def disjoint (ranges others : List Range) : Bool :=
  ranges.all fun range => others.all fun other => range.2 < other.1 || other.2 < range.1

theorem inRanges_eq_false_of_disjoint {ranges others : List Range}
    (apart : disjoint ranges others = true) {point : Nat} (inside : inRanges ranges point = true) :
    inRanges others point = false := by
  obtain ⟨range, member, low, high⟩ := inRanges_eq_true_iff.1 inside
  rw [← Bool.not_eq_true, inRanges_eq_true_iff]
  rintro ⟨other, otherMember, otherLow, otherHigh⟩
  simp only [disjoint, List.all_eq_true, Bool.or_eq_true, decide_eq_true_eq] at apart
  have separate := apart range member other otherMember
  omega

theorem isBlank_of_isWord {char : Char} (word : isWord char = true) : isBlank char = false := by
  by_cases low : char.toNat < 0x80
  · have table : ∀ point < 0x80, isWord (Char.ofNat point) = true →
        isBlank (Char.ofNat point) = false := by decide +kernel
    have known := table char.toNat low
    rw [Char.ofNat_toNat] at known
    exact known word
  · have tables : disjoint wordRanges blankRanges = true := by decide +kernel
    rw [isWord, if_neg low] at word
    exact inRanges_eq_false_of_disjoint tables word

theorem isNaming_of_isWord {char : Char} (word : isWord char = true) : isNaming char = true := by
  by_cases low : char.toNat < 0x80
  · rwa [isNaming, if_pos low, ← isWord_of_lt low]
  · rw [isNaming, if_neg low, isBlank_of_isWord word, Bool.not_false]

/-- A naming character is no seven-bit character other than a word character. -/
theorem isWord_of_isNaming {char : Char} (naming : isNaming char = true)
    (low : char.toNat < 0x80) : isWord char = true := by
  rwa [isNaming, if_pos low, ← isWord_of_lt low] at naming

/-- The points a run moves its characters to are those of capitals. -/
def isCapitalRun (run : Shift) : Bool :=
  let last := run.2.2.2 + (run.2.1 - run.1)
  (0x41 ≤ run.2.2.2 && last ≤ 0x5a) ||
    (0x80 ≤ run.2.2.2 && disjoint [(run.2.2.2, last)] blankRanges &&
      (last < 0xd800 || (0xe000 ≤ run.2.2.2 && last < 0x110000)))

theorem toNat_ofNat_of_valid {point : Nat} (valid : point.isValidChar) :
    (Char.ofNat point).toNat = point := by
  rw [Char.ofNat, dif_pos valid]
  rfl

theorem naming_of_capitalRun {run : Shift} (capital : isCapitalRun run = true) {point : Nat}
    (low : run.2.2.2 ≤ point) (high : point ≤ run.2.2.2 + (run.2.1 - run.1)) :
    isNaming (Char.ofNat point) = true ∧ isSmall (Char.ofNat point) = false := by
  simp only [isCapitalRun, Bool.or_eq_true, Bool.and_eq_true, decide_eq_true_eq] at capital
  rcases capital with ⟨first, last⟩ | ⟨⟨first, apart⟩, valid⟩
  · have table : ∀ point < 0x5b, 0x41 ≤ point →
        isNaming (Char.ofNat point) = true ∧ isSmall (Char.ofNat point) = false := by
      decide +kernel
    exact table point (by omega) (by omega)
  · have validPoint : point.isValidChar := by
      rw [Nat.isValidChar]
      omega
    have point_eq := toNat_ofNat_of_valid validPoint
    have inside : inRanges [(run.2.2.2, run.2.2.2 + (run.2.1 - run.1))] point = true := by
      simp [inRanges, low, high]
    have notBlank := inRanges_eq_false_of_disjoint apart inside
    constructor
    · rw [isNaming, point_eq, if_neg (by omega), isBlank, point_eq, notBlank, Bool.not_false]
    · rw [isSmall, point_eq]
      simp
      omega

theorem shift?_eq_some {point target : Nat} {runs : List Shift}
    (found : shift? point runs = some target) :
    ∃ run ∈ runs, run.2.2.2 ≤ target ∧ target ≤ run.2.2.2 + (run.2.1 - run.1) := by
  induction runs with
  | nil => cases found
  | cons run runs ih =>
      obtain ⟨first, last, step, start⟩ := run
      rw [shift?] at found
      split at found
      · rename_i inside
        cases found
        exact ⟨_, List.mem_cons_self, by simp, by simp; omega⟩
      · obtain ⟨run, member, bounds⟩ := ih found
        exact ⟨run, .tail _ member, bounds⟩

/-- The upper case of a character consists of naming characters, or it is the character itself; no
small letter stands in it. -/
theorem upperChar_cases (char : Char) :
    (∀ upper ∈ upperChar char, isNaming upper = true ∧ isSmall upper = false) ∨
      upperChar char = [char] ∧ isSmall char = false := by
  rw [upperChar, mapCase]
  split
  · rename_i points found
    have table : ∀ pair ∈ upperSpellings, ∀ point ∈ pair.2,
        isNaming (Char.ofNat point) = true ∧ isSmall (Char.ofNat point) = false := by
      decide +kernel
    refine .inl fun upper member => ?_
    obtain ⟨point, pointMember, rfl⟩ := List.mem_map.1 member
    obtain ⟨earlier, later, spellings_eq, -⟩ := List.lookup_eq_some_iff.1 found
    exact table (char.toNat, points) (by simp [spellings_eq]) point pointMember
  · split
    · rename_i point found
      refine .inl fun upper member => ?_
      rw [List.mem_singleton.1 member]
      have table : ∀ run ∈ upperShifts, isCapitalRun run = true := by decide +kernel
      obtain ⟨run, runMember, low, high⟩ := shift?_eq_some found
      exact naming_of_capitalRun (table run runMember) low high
    · rename_i unmapped
      refine .inr ⟨rfl, ?_⟩
      -- The first run moves the small letters, so an unmapped character is none of them.
      by_contra small
      simp only [isSmall, Bool.not_eq_false, Bool.and_eq_true, decide_eq_true_eq] at small
      obtain ⟨runs, runs_eq⟩ : ∃ runs, upperShifts = (0x61, 0x7a, 1, 0x41) :: runs := ⟨_, rfl⟩
      have moved : shift? char.toNat upperShifts = some (0x41 + (char.toNat - 0x61)) := by
        rw [runs_eq, shift?, if_pos ⟨small.1, small.2, Nat.mod_one _⟩]
      rw [moved] at unmapped
      cases unmapped

/-- The upper case of a word character consists of naming characters, none of them small. -/
theorem upperChar_naming {char : Char} (word : isWord char = true) :
    ∀ upper ∈ upperChar char, isNaming upper = true ∧ isSmall upper = false := by
  rcases upperChar_cases char with naming | ⟨same, notSmall⟩
  · exact naming
  · intro upper member
    rw [same] at member
    rw [List.mem_singleton.1 member]
    exact ⟨isNaming_of_isWord word, notSmall⟩

theorem upperChar_ne_nil (char : Char) : upperChar char ≠ [] := by
  rw [upperChar, mapCase]
  split
  · rename_i points found
    have table : ∀ pair ∈ upperSpellings, pair.2 ≠ [] := by decide +kernel
    obtain ⟨earlier, later, spellings_eq, -⟩ := List.lookup_eq_some_iff.1 found
    have points_ne := table (char.toNat, points) (by simp [spellings_eq])
    simpa using points_ne
  · split <;> simp

/-- A text in upper case starts with no small letter. -/
theorem capitalize_head {text : Text} (allWord : ∀ char ∈ text, isWord char = true) {first : Char}
    {rest : Text} (capital : capitalize text = first :: rest) : isSmall first = false := by
  cases text with
  | nil => cases capital
  | cons char text =>
      obtain ⟨upper, more, upper_eq⟩ := List.exists_cons_of_ne_nil (upperChar_ne_nil char)
      rw [capitalize, upper_eq, List.cons_append, List.cons.injEq] at capital
      have known := upperChar_naming (allWord char List.mem_cons_self) upper (by simp [upper_eq])
      exact capital.1 ▸ known.2

/-- Only a character of its own puts a character that is no naming character into upper case. -/
theorem mem_of_mem_capitalize {text : Text} {char : Char} (foreign : isNaming char = false)
    (member : char ∈ capitalize text) : char ∈ text := by
  cases text with
  | nil => exact member
  | cons first rest =>
      rcases List.mem_append.1 member with inUpper | inRest
      · rcases upperChar_cases first with naming | ⟨same, -⟩
        · rw [(naming char inUpper).1] at foreign
          cases foreign
        · rw [same] at inUpper
          rw [List.mem_singleton.1 inUpper]
          exact List.mem_cons_self
      · exact .tail first inRest

theorem capitalize_naming {text : Text} (allWord : ∀ char ∈ text, isWord char = true) :
    ∀ char ∈ capitalize text, isNaming char = true := by
  cases text with
  | nil => exact fun _ member => absurd member List.not_mem_nil
  | cons first rest =>
      intro char member
      rcases List.mem_append.1 member with inUpper | inRest
      · exact (upperChar_naming (allWord first List.mem_cons_self) char inUpper).1
      · exact isNaming_of_isWord (allWord char (.tail first inRest))

theorem ofNat_word {number : Nat} : ∀ char ∈ Text.ofNat number, isWord char = true := by
  intro char member
  have digit := Nat.isDigit_of_mem_toDigits (by decide) (by decide) member
  have low : char.toNat < 0x80 := by
    simp only [Char.isDigit, Bool.and_eq_true, decide_eq_true_eq] at digit
    have high := UInt32.le_iff_toNat_le.1 digit.2
    exact Nat.lt_of_le_of_lt high (by decide)
  simp [isWord, low, Char.isAlphanum, digit]

theorem lastSegment_subset (separator : Char) (text : Text) :
    ∀ char ∈ lastSegment separator text, char ∈ text := by
  intro char member
  unfold lastSegment at member
  split at member
  · rename_i before after found
    rw [(splitLast?_eq_some_iff.1 found).1]
    exact List.mem_append_right _ (List.mem_cons_of_mem _ member)
  · exact member

theorem separator_not_mem_lastSegment (separator : Char) (text : Text) :
    separator ∉ lastSegment separator text := by
  unfold lastSegment
  split
  · rename_i before after found
    exact (splitLast?_eq_some_iff.1 found).2
  · rename_i nothing
    exact splitLast?_eq_none_iff.1 nothing

end Text

/-- An entry as an index built from scanned files holds it: the exported name is a nonempty word,
and the module tag consists of word characters and dashes. -/
structure Entry.Named (entry : Entry) : Prop where
  exportName_ne : entry.exportName ≠ []
  exportName_word : ∀ char ∈ entry.exportName, Text.isWord char = true
  tag_chars : ∀ char ∈ entry.tag, Text.isWord char = true ∨ char = '-'

namespace Alias

open Text

theorem mint_cases (base : Text) (reserved : List Text) :
    mint base reserved = base ∨
      ∃ number, mint base reserved = base ++ Text.ofNat (number + 2) := by
  unfold mint
  cases found : List.find? (fun name => !reserved.contains name)
      ((List.range (reserved.length + 1)).map (candidate base)) with
  | none => exact .inl rfl
  | some name =>
      obtain ⟨number, -, rfl⟩ := List.mem_map.1 (List.mem_of_find?_eq_some found)
      cases number with
      | zero => exact .inl rfl
      | succ number => exact .inr ⟨number, rfl⟩

theorem segment_word {entry : Entry} (named : entry.Named) :
    ∀ char ∈ entry.tag.lastSegment '-', isWord char = true := by
  intro char member
  rcases named.tag_chars char (lastSegment_subset '-' entry.tag char member) with word | rfl
  · exact word
  · exact absurd member (separator_not_mem_lastSegment '-' entry.tag)

theorem lead_naming {entry : Entry} (named : entry.Named) :
    ∀ char ∈ lead entry.tag, isNaming char = true :=
  capitalize_naming (segment_word named)

/-- An alias consists of naming characters. -/
theorem mint_naming {entry : Entry} (named : entry.Named) (reserved : List Text) :
    ∀ char ∈ mint (base entry.tag entry.exportName) reserved, isNaming char = true := by
  have baseNaming : ∀ char ∈ base entry.tag entry.exportName, isNaming char = true := by
    intro char member
    rcases List.mem_append.1 member with inLead | inName
    · exact lead_naming named char inLead
    · exact isNaming_of_isWord (named.exportName_word char inName)
  intro char member
  rcases mint_cases (base entry.tag entry.exportName) reserved with same | ⟨number, numbered⟩
  · exact baseNaming char (same ▸ member)
  · rw [numbered] at member
    rcases List.mem_append.1 member with inBase | inNumber
    · exact baseNaming char inBase
    · exact isNaming_of_isWord (ofNat_word char inNumber)

theorem mint_ne_nil {entry : Entry} (named : entry.Named) (reserved : List Text) :
    mint (base entry.tag entry.exportName) reserved ≠ [] := by
  have base_ne : base entry.tag entry.exportName ≠ [] := by
    simp [base, named.exportName_ne]
  rcases mint_cases (base entry.tag entry.exportName) reserved with same | ⟨number, numbered⟩
  · rwa [same]
  · simp [numbered, base_ne]

end Alias

end DeclLinker
