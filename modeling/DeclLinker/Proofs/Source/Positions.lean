import DeclLinker.Proofs.Source.Scan
import Mathlib.Data.List.Forall2
import Mathlib.Data.List.Pairwise

/-!
# Where placeholders stand

An occurrence is a dotted name in the brackets of a placeholder, with the text before it and the
text after it.  Scanning reports the occurrences in a text from left to right: it passes over none,
however close they stand, and invents none.  Two occurrences in one text never overlap.
-/

namespace DeclLinker

open Text

/-- A name in the brackets of a placeholder, with the text around it. -/
structure Occurrence where
  before : Text
  name : Text
  after : Text

namespace Occurrence

/-- The characters of the occurrence. -/
def stretch (occurrence : Occurrence) : Text :=
  "any /* ".toList ++ occurrence.name ++ " */".toList

/-- The number of characters before the occurrence. -/
def start (occurrence : Occurrence) : Nat :=
  occurrence.before.length

/-- The number of characters up to the end of the occurrence. -/
def stop (occurrence : Occurrence) : Nat :=
  occurrence.start + occurrence.stretch.length

/-- The occurrence stands in a text, and its name holds something on both sides of its last dot. -/
structure IsIn (occurrence : Occurrence) (text : Text) : Prop where
  whole : text = occurrence.before ++ (occurrence.stretch ++ occurrence.after)
  chars : ∀ char ∈ occurrence.name, isWord char = true ∨ char = '.'
  halves : ∃ package typeName, occurrence.name = package ++ '.' :: typeName ∧ '.' ∉ typeName ∧
    package ≠ [] ∧ typeName ≠ []

/-- The first occurrence ends where the second one starts, or before. -/
def Precedes (first second : Occurrence) : Prop :=
  first.stop ≤ second.start

/-- The occurrences among the pieces of a text, of which the given part stands before them. -/
def ofPieces : (before : Text) → List (Piece Reference) → List Occurrence
  | _, [] => []
  | before, .single char :: rest => ofPieces (before ++ [char]) rest
  | before, .hit stretch reference :: rest =>
      ⟨before, reference.qualified, rest.flatMap Piece.text⟩ :: ofPieces (before ++ stretch) rest

/-- An occurrence is listed for every hit, with the pieces on both sides of it. -/
theorem mem_ofPieces_iff {before : Text} {pieces : List (Piece Reference)}
    {occurrence : Occurrence} :
    occurrence ∈ ofPieces before pieces ↔
      ∃ earlier stretch reference later, pieces = earlier ++ .hit stretch reference :: later ∧
        occurrence = ⟨before ++ earlier.flatMap Piece.text, reference.qualified,
          later.flatMap Piece.text⟩ := by
  induction pieces generalizing before with
  | nil => simp [ofPieces]
  | cons piece pieces ih =>
      cases piece with
      | single char =>
          rw [ofPieces, ih]
          constructor
          · rintro ⟨earlier, stretch, reference, later, rfl, rfl⟩
            exact ⟨.single char :: earlier, stretch, reference, later, rfl, by simp [Piece.text]⟩
          · rintro ⟨earlier, stretch, reference, later, pieces_eq, rfl⟩
            rcases List.cons_eq_append_iff.1 pieces_eq with ⟨-, same⟩ | ⟨inner, rfl, rfl⟩
            · cases same
            · exact ⟨inner, stretch, reference, later, rfl, by simp [Piece.text]⟩
      | hit found value =>
          rw [ofPieces, List.mem_cons, ih]
          constructor
          · rintro (rfl | ⟨earlier, stretch, reference, later, rfl, rfl⟩)
            · exact ⟨[], found, value, pieces, rfl, by simp⟩
            · exact ⟨.hit found value :: earlier, stretch, reference, later, rfl,
                by simp [Piece.text]⟩
          · rintro ⟨earlier, stretch, reference, later, pieces_eq, rfl⟩
            rcases List.cons_eq_append_iff.1 pieces_eq with ⟨rfl, same⟩ | ⟨inner, rfl, rfl⟩
            · cases same
              exact .inl (by simp)
            · exact .inr ⟨inner, stretch, reference, later, rfl, by simp [Piece.text]⟩

theorem le_start_of_mem {before : Text} {pieces : List (Piece Reference)}
    {occurrence : Occurrence} (member : occurrence ∈ ofPieces before pieces) :
    before.length ≤ occurrence.start := by
  obtain ⟨earlier, stretch, reference, later, -, rfl⟩ := mem_ofPieces_iff.1 member
  simp [start]

/-! ## The hits of a text -/

theorem stretch_eq_text {occurrence : Occurrence} {reference : Reference}
    (name_eq : occurrence.name = reference.qualified) : occurrence.stretch = reference.text := by
  cases occurrence
  cases name_eq
  rfl

/-- An occurrence in a text is the placeholder text of a spelled reference. -/
theorem IsIn.exists_spelled {occurrence : Occurrence} {text : Text}
    (inText : occurrence.IsIn text) :
    ∃ reference : Reference, reference.Spelled ∧ occurrence.name = reference.qualified := by
  obtain ⟨package, typeName, name_eq, absent, package_ne, typeName_ne⟩ := inText.halves
  have dotted : ∀ char ∈ package ++ '.' :: typeName, isDotted char = true := by
    intro char member
    rw [← name_eq] at member
    simpa [isDotted] using inText.chars char member
  refine ⟨⟨package, typeName⟩, ((Reference.ofDotted?_eq_some_iff dotted).1 ?_).2, name_eq⟩
  simp [Reference.ofDotted?, splitLast?_append absent, package_ne, typeName_ne]

theorem isIn_of_spelled {reference : Reference} (spelled : reference.Spelled)
    (before after : Text) :
    IsIn ⟨before, reference.qualified, after⟩ (before ++ (reference.text ++ after)) := by
  constructor
  · rfl
  · intro char member
    simpa [isDotted] using spelled.qualified_dotted char member
  · exact ⟨reference.package, reference.typeName, rfl, spelled.dot_not_mem, spelled.package_ne,
      spelled.typeName_ne⟩

/-- The hits of a text are the occurrences in it. -/
theorem mem_ofPieces_pieces_iff {text : Text} {occurrence : Occurrence} :
    occurrence ∈ ofPieces [] (pieces Reference.recognise text) ↔ occurrence.IsIn text := by
  rw [mem_ofPieces_iff]
  constructor
  · rintro ⟨earlier, stretch, reference, later, pieces_eq, rfl⟩
    have member : .hit stretch reference ∈ pieces Reference.recognise text := by
      simp [pieces_eq]
    obtain ⟨spelled, rfl⟩ := Reference.spelled_of_hit_mem_pieces member
    have whole := flatMap_text_pieces Reference.recognise_isLocal text
    rw [pieces_eq, List.flatMap_append, List.flatMap_cons] at whole
    rw [← whole]
    exact isIn_of_spelled spelled _ _
  · intro inText
    obtain ⟨reference, spelled, name_eq⟩ := inText.exists_spelled
    have whole := inText.whole
    rw [stretch_eq_text name_eq] at whole
    -- Nothing around the occurrence keeps it from being hit.
    refine ⟨pieces Reference.recognise occurrence.before, reference.text, reference,
      pieces Reference.recognise occurrence.after, ?_, ?_⟩
    · rw [whole, spelled.pieces_around]
    · rw [flatMap_text_pieces Reference.recognise_isLocal,
        flatMap_text_pieces Reference.recognise_isLocal, List.nil_append, ← name_eq]

/-! ## Order -/

/-- Every hit among the pieces is the text of a spelled reference. -/
def Faithful (pieces : List (Piece Reference)) : Prop :=
  ∀ stretch reference, .hit stretch reference ∈ pieces →
    reference.Spelled ∧ stretch = reference.text

theorem faithful_pieces (text : Text) : Faithful (pieces Reference.recognise text) :=
  fun _ _ member => Reference.spelled_of_hit_mem_pieces member

theorem Faithful.tail {piece : Piece Reference} {pieces : List (Piece Reference)}
    (faithful : Faithful (piece :: pieces)) : Faithful pieces :=
  fun stretch reference member => faithful stretch reference (.tail piece member)

/-- Hits are listed from left to right, each behind the end of those before it. -/
theorem Faithful.pairwise_precedes {pieces : List (Piece Reference)} (faithful : Faithful pieces)
    (before : Text) : (ofPieces before pieces).Pairwise Precedes := by
  induction pieces generalizing before with
  | nil => exact .nil
  | cons piece pieces ih =>
      cases piece with
      | single char => exact ih faithful.tail (before ++ [char])
      | hit found value =>
          obtain ⟨-, rfl⟩ := faithful found value List.mem_cons_self
          apply List.Pairwise.cons _ (ih faithful.tail (before ++ value.text))
          intro later member
          have behind := le_start_of_mem member
          rw [List.length_append] at behind
          exact behind

/-- Two occurrences do not overlap. -/
def Apart (first second : Occurrence) : Prop :=
  first.Precedes second ∨ second.Precedes first

instance : Std.Symm Apart :=
  ⟨fun _ _ => Or.symm⟩

/-- Different occurrences in one text do not overlap. -/
theorem apart_of_ne {text : Text} {first second : Occurrence} (one : first.IsIn text)
    (other : second.IsIn text) (different : first ≠ second) : first.Apart second := by
  have inOrder := (faithful_pieces text).pairwise_precedes []
  have apart : (ofPieces [] (pieces Reference.recognise text)).Pairwise Apart :=
    inOrder.imp Or.inl
  exact apart.forall (mem_ofPieces_pieces_iff.2 one) (mem_ofPieces_pieces_iff.2 other) different

end Occurrence

/-! ## Reports -/

namespace Placeholder

open Occurrence

/-- A placeholder reports an occurrence: its text, the two sides of its last dot and its line. -/
structure Reports (placeholder : Placeholder) (occurrence : Occurrence) : Prop where
  text_eq : placeholder.text = occurrence.stretch
  name_eq : occurrence.name = placeholder.package ++ '.' :: placeholder.typeName
  dot_not_mem : '.' ∉ placeholder.typeName
  line_eq : placeholder.line = 1 + occurrence.before.count '\n'

/-- The placeholders among the pieces report the occurrences among them, one by one. -/
theorem located_reports {pieces : List (Piece Reference)} (faithful : Faithful pieces)
    (before : Text) :
    List.Forall₂ Reports (located (1 + before.count '\n') pieces) (ofPieces before pieces) := by
  induction pieces generalizing before with
  | nil => exact .nil
  | cons piece pieces ih =>
      cases piece with
      | single char =>
          have rest := ih faithful.tail (before ++ [char])
          by_cases feed : char = '\n'
          · simpa [located, ofPieces, feed, ← Nat.add_assoc] using rest
          · simpa [located, ofPieces, feed] using rest
      | hit found value =>
          -- The placeholder itself holds no line feed, so what follows it starts on its line.
          obtain ⟨spelled, rfl⟩ := faithful found value List.mem_cons_self
          have rest := ih faithful.tail (before ++ value.text)
          rw [List.count_append, List.count_eq_zero_of_not_mem spelled.feed_not_mem,
            Nat.add_zero] at rest
          exact .cons ⟨rfl, rfl, spelled.dot_not_mem, rfl⟩ rest

end Placeholder

namespace Scan

/-- The placeholders of a text are its occurrences, in the order in which they stand; each is
reported with its text, package, type name and line, and no two overlap. -/
theorem placeholders_are_occurrences (text : Text) :
    ∃ occurrences : List Occurrence,
      (∀ occurrence, occurrence ∈ occurrences ↔ occurrence.IsIn text) ∧
      occurrences.Pairwise Occurrence.Precedes ∧
      List.Forall₂ Placeholder.Reports (ofText text).placeholders occurrences ∧
      ∀ first second : Occurrence, first.IsIn text → second.IsIn text →
        first ≠ second → first.Apart second := by
  have faithful := Occurrence.faithful_pieces text
  refine ⟨Occurrence.ofPieces [] (pieces Reference.recognise text), ?_, ?_, ?_, ?_⟩
  · exact fun occurrence => Occurrence.mem_ofPieces_pieces_iff
  · exact faithful.pairwise_precedes []
  · rw [placeholders_eq]
    exact Placeholder.located_reports faithful []
  · exact fun first second one other different => Occurrence.apart_of_ne one other different

-- Near misses: a doubled dot, a name that opens, no package, a dot at the end, a nested opening.
example :
    (ofText
      "any /* a..B */any /* any.C */any /* .D */\nany /* e.F. */any /* any /* g.H */".toList
    ).placeholders = [⟨⟨"a.".toList, "B".toList⟩, 1⟩, ⟨⟨"any".toList, "C".toList⟩, 1⟩,
      ⟨⟨"g".toList, "H".toList⟩, 2⟩] := by
  decide +kernel

end Scan

end DeclLinker
