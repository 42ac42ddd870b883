import DeclLinker.Proofs.Text.Recogniser
import DeclLinker.Source.Reference
import Mathlib.Data.List.TakeWhile

/-!
# The grammar of placeholders

A reference is spelled when its package is a nonempty run of word characters and dots and its type
name a nonempty run of word characters.  The recogniser of placeholders reads exactly the texts of
spelled references.

Two placeholder texts never overlap: a blank directly before a slash stands in the opening of a
placeholder and nowhere else in it.  So every occurrence of a placeholder text, in any text, is a
hit, and a text can be cut on both sides of it.
-/

namespace DeclLinker

namespace Text

theorem isDotted_of_isWord {char : Char} (word : isWord char = true) : isDotted char = true := by
  simp [isDotted, word]

theorem isWord_of_isDotted {char : Char} (dotted : isDotted char = true) (notDot : char ≠ '.') :
    isWord char = true := by
  simpa [isDotted, notDot] using dotted

theorem splitLast?_eq_none_iff {separator : Char} {text : Text} :
    splitLast? separator text = none ↔ separator ∉ text := by
  induction text with
  | nil => simp [splitLast?]
  | cons char rest ih =>
      cases deeper : splitLast? separator rest with
      | some found =>
          have inside : separator ∈ rest := by
            by_contra absent
            rw [ih.2 absent] at deeper
            cases deeper
          simp [splitLast?, deeper, inside]
      | none =>
          have absent := ih.1 deeper
          by_cases same : char = separator
          · simp [splitLast?, deeper, same]
          · simp [splitLast?, deeper, same, absent, Ne.symm same]

/-- A text is cut at the separator behind which no other stands. -/
theorem splitLast?_append {separator : Char} {after : Text} (absent : separator ∉ after)
    (before : Text) :
    splitLast? separator (before ++ separator :: after) = some (before, after) := by
  induction before with
  | nil => simp [splitLast?, splitLast?_eq_none_iff.2 absent]
  | cons char before ih => simp [splitLast?, ih]

theorem splitLast?_eq_some_iff {separator : Char} {text before after : Text} :
    splitLast? separator text = some (before, after) ↔
      text = before ++ separator :: after ∧ separator ∉ after := by
  constructor
  · intro found
    induction text generalizing before with
    | nil => cases found
    | cons char rest ih =>
        cases deeper : splitLast? separator rest with
        | some inner =>
            simp only [splitLast?, deeper, Option.some.injEq, Prod.mk.injEq] at found
            obtain ⟨rfl, rfl⟩ := found
            obtain ⟨rest_eq, absent⟩ := ih deeper
            exact ⟨by rw [List.cons_append, ← rest_eq], absent⟩
        | none =>
            simp only [splitLast?, deeper] at found
            split at found
            · rename_i same
              simp only [Option.some.injEq, Prod.mk.injEq] at found
              obtain ⟨rfl, rfl⟩ := found
              exact ⟨by rw [same, List.nil_append], splitLast?_eq_none_iff.1 deeper⟩
            · cases found
  · rintro ⟨rfl, absent⟩
    exact splitLast?_append absent before

/-- Reading as long as a test holds stops at the first character that fails it. -/
theorem takeWhile_append_cons {test : Char → Bool} {run : Text} {stop : Char}
    (holds : ∀ char ∈ run, test char = true) (fails : test stop = false) (rest : Text) :
    (run ++ stop :: rest).takeWhile test = run := by
  rw [List.takeWhile_append_of_pos holds, List.takeWhile_cons_of_neg (by simp [fails]),
    List.append_nil]

theorem dropWhile_append_cons {test : Char → Bool} {run : Text} {stop : Char}
    (holds : ∀ char ∈ run, test char = true) (fails : test stop = false) (rest : Text) :
    (run ++ stop :: rest).dropWhile test = stop :: rest := by
  rw [List.dropWhile_append_of_pos holds, List.dropWhile_cons_of_neg (by simp [fails])]

end Text

namespace Reference

open Text

theorem opening_eq : opening = ['a', 'n', 'y', ' ', '/', '*', ' '] :=
  rfl

theorem closing_eq : closing = [' ', '*', '/'] :=
  rfl

/-- The names of a reference are ones a placeholder can be made of. -/
structure Spelled (reference : Reference) : Prop where
  package_ne : reference.package ≠ []
  package_dotted : ∀ char ∈ reference.package, isDotted char = true
  typeName_ne : reference.typeName ≠ []
  typeName_word : ∀ char ∈ reference.typeName, isWord char = true

theorem Spelled.dot_not_mem {reference : Reference} (spelled : reference.Spelled) :
    '.' ∉ reference.typeName := by
  intro member
  have word := spelled.typeName_word '.' member
  exact absurd word (by decide)

theorem Spelled.qualified_dotted {reference : Reference} (spelled : reference.Spelled) :
    ∀ char ∈ reference.qualified, isDotted char = true := by
  intro char member
  rcases List.mem_append.1 member with inPackage | behind
  · exact spelled.package_dotted char inPackage
  · rcases List.mem_cons.1 behind with rfl | inType
    · rfl
    · exact isDotted_of_isWord (spelled.typeName_word char inType)

/-- A dotted name denotes the reference it qualifies. -/
theorem ofDotted?_eq_some_iff {dotted : Text} (allDotted : ∀ char ∈ dotted, isDotted char = true)
    {reference : Reference} :
    ofDotted? dotted = some reference ↔ dotted = reference.qualified ∧ reference.Spelled := by
  constructor
  · intro found
    cases halves : dotted.splitLast? '.' with
    | none => simp [ofDotted?, halves] at found
    | some pair =>
        obtain ⟨package, typeName⟩ := pair
        obtain ⟨rfl, absent⟩ := splitLast?_eq_some_iff.1 halves
        simp only [ofDotted?, halves] at found
        split at found
        · cases found
        · rename_i nonempty
          simp only [Option.some.injEq] at found
          subst found
          simp only [Bool.or_eq_true, List.isEmpty_iff, not_or] at nonempty
          refine ⟨rfl, nonempty.1, ?_, nonempty.2, ?_⟩
          · exact fun char member => allDotted char (List.mem_append_left _ member)
          · intro char member
            refine isWord_of_isDotted (allDotted char ?_) fun isDot => absent (isDot ▸ member)
            exact List.mem_append_right _ (List.mem_cons_of_mem _ member)
  · rintro ⟨rfl, spelled⟩
    have halves : reference.qualified.splitLast? '.' =
        some (reference.package, reference.typeName) :=
      splitLast?_append spelled.dot_not_mem _
    simp [ofDotted?, halves, spelled.package_ne, spelled.typeName_ne]

/-- What is read at the start of a text is the text of a spelled reference. -/
theorem read?_eq_some_iff {source : Text} {reference : Reference} :
    read? source = some reference ↔
      reference.Spelled ∧ ∃ rest, source = reference.text ++ rest := by
  constructor
  · intro found
    cases opened : after? opening source with
    | none => simp [read?, opened] at found
    | some inner =>
        simp only [read?, opened] at found
        split at found
        · rename_i closes
          obtain ⟨rest, rest_eq⟩ := List.isPrefixOf_iff_prefix.1 closes
          have run : ∀ char ∈ inner.takeWhile isDotted, isDotted char = true :=
            fun char member => List.mem_takeWhile_imp member
          obtain ⟨qualified_eq, spelled⟩ := (ofDotted?_eq_some_iff run).1 found
          refine ⟨spelled, rest, ?_⟩
          calc
            source = opening ++ inner := after?_eq_some_iff.1 opened
            _ = opening ++ (inner.takeWhile isDotted ++ inner.dropWhile isDotted) := by
              rw [List.takeWhile_append_dropWhile]
            _ = reference.text ++ rest := by
              rw [qualified_eq, ← rest_eq, text, List.append_assoc, List.append_assoc]
        · cases found
  · rintro ⟨spelled, rest, rfl⟩
    have run := spelled.qualified_dotted
    have notBlank : isDotted ' ' = false := by decide
    have shape : reference.text ++ rest =
        opening ++ (reference.qualified ++ ' ' :: ('*' :: '/' :: rest)) := by
      simp [text, closing_eq]
    rw [read?, shape, after?_append]
    simp only [dropWhile_append_cons run notBlank, takeWhile_append_cons run notBlank]
    rw [if_pos (by simp [closing_eq]), ofDotted?_eq_some_iff run]
    exact ⟨rfl, spelled⟩

/-! ## The shape of a placeholder text -/

/-- What stands between the first slash of a placeholder text and its last one. -/
def core (reference : Reference) : Text :=
  '*' :: ' ' :: reference.qualified ++ [' ', '*']

theorem text_eq (reference : Reference) :
    reference.text = 'a' :: 'n' :: 'y' :: ' ' :: '/' :: (reference.core ++ ['/']) := by
  simp [text, opening_eq, closing_eq, core]

theorem text_ne_nil (reference : Reference) : reference.text ≠ [] := by
  simp [text_eq]

theorem mem_core {reference : Reference} {char : Char} :
    char ∈ reference.core ↔ char ∈ reference.qualified ∨ char = ' ' ∨ char = '*' := by
  simp only [core, List.cons_append, List.mem_cons, List.mem_append, List.not_mem_nil, or_false]
  grind

theorem core_getLast? (reference : Reference) : reference.core.getLast? = some '*' := by
  have shape : reference.core = ('*' :: ' ' :: reference.qualified ++ [' ']) ++ ['*'] := by
    simp [core]
  rw [shape, List.getLast?_concat]

/-- A placeholder text consists of word characters, dots, blanks, slashes and stars. -/
theorem Spelled.text_chars {reference : Reference} (spelled : reference.Spelled) {char : Char}
    (member : char ∈ reference.text) :
    isDotted char = true ∨ char = ' ' ∨ char = '/' ∨ char = '*' := by
  simp only [text_eq, List.mem_cons, List.mem_append, mem_core, List.not_mem_nil,
    or_false] at member
  rcases member with rfl | rfl | rfl | rfl | rfl | (inQualified | rfl | rfl) | rfl
  case inr.inr.inr.inr.inr.inl.inl => exact .inl (spelled.qualified_dotted char inQualified)
  all_goals decide

theorem Spelled.slash_not_mem_core {reference : Reference} (spelled : reference.Spelled) :
    '/' ∉ reference.core := by
  intro member
  rcases mem_core.1 member with inQualified | blank | star
  · exact absurd (spelled.qualified_dotted '/' inQualified) (by decide)
  · exact absurd blank (by decide)
  · exact absurd star (by decide)

/-- The text of a spelled reference determines it. -/
theorem Spelled.eq_of_text_eq {first second : Reference} (one : first.Spelled)
    (other : second.Spelled) (same : first.text = second.text) : first = second := by
  have qualified_eq : first.qualified = second.qualified := by
    simpa [text] using same
  have read := (ofDotted?_eq_some_iff one.qualified_dotted).2 ⟨rfl, one⟩
  have again := (ofDotted?_eq_some_iff other.qualified_dotted).2 ⟨rfl, other⟩
  rw [qualified_eq, again] at read
  exact (Option.some.inj read).symm

/-! ## Reading -/

theorem recognise_eq_some_iff {source : Text} {reference : Reference} {covered : Nat} :
    recognise source = some (reference, covered) ↔
      reference.Spelled ∧ covered = reference.text.length ∧
        ∃ rest, source = reference.text ++ rest := by
  simp only [recognise, Option.map_eq_some_iff, Prod.mk.injEq]
  constructor
  · rintro ⟨found, read, rfl, rfl⟩
    obtain ⟨spelled, follows⟩ := read?_eq_some_iff.1 read
    exact ⟨spelled, rfl, follows⟩
  · rintro ⟨spelled, rfl, follows⟩
    exact ⟨reference, read?_eq_some_iff.2 ⟨spelled, follows⟩, rfl, rfl⟩

/-- A stretch is read exactly when it is the text of the spelled reference it is read as. -/
theorem reads_iff {stretch : Text} {reference : Reference} :
    Recogniser.Reads recognise stretch reference ↔
      reference.Spelled ∧ stretch = reference.text := by
  constructor
  · intro reads
    obtain ⟨spelled, length_eq, rest, whole⟩ := recognise_eq_some_iff.1 (reads.2 [])
    have same := List.append_inj whole length_eq
    exact ⟨spelled, same.1⟩
  · rintro ⟨spelled, rfl⟩
    exact ⟨reference.text_ne_nil, fun rest => recognise_eq_some_iff.2 ⟨spelled, rfl, rest, rfl⟩⟩

theorem recognise_isLocal : Recogniser.IsLocal recognise := by
  intro source reference covered found
  obtain ⟨spelled, covered_eq, rest, source_eq⟩ := recognise_eq_some_iff.1 found
  exact ⟨reference.text, rest, source_eq, covered_eq, reads_iff.2 ⟨spelled, rfl⟩⟩

/-! ## Placeholder texts do not overlap -/

/-- A slash behind a blank ends the opening of a placeholder text and nothing else in it. -/
theorem Spelled.eq_of_blank_slash {reference : Reference} (spelled : reference.Spelled)
    {before after : Text} (text_split : reference.text = before ++ ' ' :: '/' :: after) :
    before = ['a', 'n', 'y'] ∧ after ≠ [] := by
  have coreFree := spelled.slash_not_mem_core
  rw [text_eq] at text_split
  match before, text_split with
  | [], split => simp at split
  | [_], split => simp at split
  | [_, _], split => simp at split
  | [_, _, _], split =>
      simp only [List.cons_append, List.nil_append, List.cons.injEq] at split
      obtain ⟨rfl, rfl, rfl, -, -, rfl⟩ := split
      exact ⟨rfl, by simp⟩
  | [_, _, _, _], split => simp at split
  | _ :: _ :: _ :: _ :: _ :: before, split =>
      -- A later slash is the last character, and a star stands before it.
      simp only [List.cons_append, List.cons.injEq] at split
      have tail_eq : reference.core ++ '/' :: [] = (before ++ [' ']) ++ '/' :: after := by
        simpa using split.2.2.2.2.2
      have core_eq := ((List.append_cons_inj_of_notMem coreFree List.not_mem_nil).1 tail_eq).1
      have last_eq := congrArg List.getLast? core_eq
      rw [List.getLast?_concat, core_getLast?] at last_eq
      exact absurd last_eq (by decide)

/-- A slash with something behind it ends the opening of a placeholder text. -/
theorem Spelled.eq_of_slash {reference : Reference} (spelled : reference.Spelled)
    {before after : Text} (text_split : reference.text = before ++ '/' :: after)
    (after_ne : after ≠ []) : before = ['a', 'n', 'y', ' '] := by
  have coreFree := spelled.slash_not_mem_core
  rw [text_eq] at text_split
  match before, text_split with
  | [], split => simp at split
  | [_], split => simp at split
  | [_, _], split => simp at split
  | [_, _, _], split => simp at split
  | [_, _, _, _], split =>
      simp only [List.cons_append, List.nil_append, List.cons.injEq] at split
      obtain ⟨rfl, rfl, rfl, rfl, -, -⟩ := split
      rfl
  | _ :: _ :: _ :: _ :: _ :: before, split =>
      simp only [List.cons_append, List.cons.injEq] at split
      have tail_eq : reference.core ++ '/' :: [] = before ++ '/' :: after := split.2.2.2.2.2
      have rest_eq := ((List.append_cons_inj_of_notMem coreFree List.not_mem_nil).1 tail_eq).2.2
      exact absurd rest_eq.symm after_ne

/-- A nonempty ending of a placeholder text ends in a slash. -/
theorem exists_slash_of_suffix {reference : Reference} {first second : Text}
    (text_split : reference.text = first ++ second) (second_ne : second ≠ []) :
    ∃ front, second = front ++ ['/'] := by
  have last_eq := congrArg List.getLast? text_split
  rw [List.getLast?_append_of_ne_nil _ second_ne] at last_eq
  have last_slash : second.getLast? = some '/' := by
    rw [← last_eq, text_eq]
    simp [List.getLast?_cons]
  obtain ⟨front, rfl⟩ := List.getLast?_eq_some_iff.1 last_slash
  exact ⟨front, rfl⟩

/-- No placeholder text runs into another one from before it. -/
theorem apart_before (reference : Reference) (before rest : Text) :
    Recogniser.Apart recognise before (reference.text ++ rest) := by
  rintro first second other ends ⟨after, right_eq⟩ first_ne second_ne reads
  obtain ⟨otherSpelled, stretch_eq⟩ := reads_iff.1 reads
  obtain ⟨inner, rfl⟩ := exists_slash_of_suffix stretch_eq.symm second_ne
  -- The part inside the second text ends in a slash, so it holds the whole opening.
  have opened : ∃ tail, inner ++ ['/'] = 'a' :: 'n' :: 'y' :: ' ' :: '/' :: tail := by
    rw [text_eq] at right_eq
    match inner, right_eq with
    | [], right_eq => simp at right_eq
    | [_], right_eq => simp at right_eq
    | [_, _], right_eq => simp at right_eq
    | [_, _, _], right_eq => simp at right_eq
    | [_, _, _, _], right_eq =>
        simp only [List.cons_append, List.nil_append, List.cons.injEq] at right_eq
        obtain ⟨rfl, rfl, rfl, rfl, -⟩ := right_eq
        exact ⟨[], rfl⟩
    | _ :: _ :: _ :: _ :: _ :: inner, right_eq =>
        simp only [List.cons_append, List.cons.injEq] at right_eq
        obtain ⟨rfl, rfl, rfl, rfl, rfl, -⟩ := right_eq
        exact ⟨inner ++ ['/'], rfl⟩
  obtain ⟨tail, inner_eq⟩ := opened
  have text_split : other.text = (first ++ ['a', 'n', 'y']) ++ ' ' :: '/' :: tail := by
    rw [← stretch_eq, inner_eq]
    simp
  have front_eq := (otherSpelled.eq_of_blank_slash text_split).1
  exact first_ne (List.append_left_eq_self.1 front_eq)

/-- No placeholder text starts inside another one and runs on behind it. -/
theorem Spelled.apart_after {reference : Reference} (spelled : reference.Spelled)
    (rest : Text) : Recogniser.Apart recognise reference.text rest := by
  rintro first second other ⟨before, left_eq⟩ starts first_ne second_ne reads
  obtain ⟨otherSpelled, stretch_eq⟩ := reads_iff.1 reads
  obtain ⟨front, rfl⟩ := exists_slash_of_suffix left_eq.symm first_ne
  have other_split : other.text = front ++ '/' :: second := by
    rw [← stretch_eq, List.append_assoc, List.singleton_append]
  have front_eq := otherSpelled.eq_of_slash other_split second_ne
  have text_split : reference.text = (before ++ ['a', 'n', 'y']) ++ ' ' :: '/' :: [] := by
    rw [← left_eq, front_eq]
    simp
  exact (spelled.eq_of_blank_slash text_split).2 rfl

/-! ## Occurrences are hits -/

/-- An occurrence of a placeholder text is a hit, and the rest of the text is searched as if it
were not there. -/
theorem Spelled.pieces_around {reference : Reference} (spelled : reference.Spelled)
    (before after : Text) :
    pieces recognise (before ++ (reference.text ++ after)) =
      pieces recognise before ++ .hit reference.text reference :: pieces recognise after := by
  rw [pieces_append recognise_isLocal (reference.apart_before before after),
    pieces_of_reads (reads_iff.2 ⟨spelled, rfl⟩)]

theorem Spelled.findAll_around {reference : Reference} (spelled : reference.Spelled)
    (before after : Text) :
    findAll recognise (before ++ (reference.text ++ after)) =
      findAll recognise before ++ reference :: findAll recognise after := by
  simp [findAll, spelled.pieces_around, Piece.value?]

/-- Every hit of the recogniser is the text of a spelled reference. -/
theorem spelled_of_hit_mem_pieces {text stretch : Text} {reference : Reference}
    (member : .hit stretch reference ∈ pieces recognise text) :
    reference.Spelled ∧ stretch = reference.text :=
  reads_iff.1 (reads_of_hit_mem_pieces recognise_isLocal member)

/-- The recognised references are the spelled ones whose placeholder text occurs. -/
theorem mem_findAll_iff {text : Text} {reference : Reference} :
    reference ∈ findAll recognise text ↔
      reference.Spelled ∧ ∃ before after, text = before ++ (reference.text ++ after) := by
  constructor
  · intro member
    induction text using hits_induction recognise_isLocal with
    | clear text isClear =>
        rw [isClear.findAll_eq_nil] at member
        cases member
    | hit before stretch value rest isClear reads apart ih =>
        obtain ⟨spelled, rfl⟩ := reads_iff.1 reads
        rw [spelled.findAll_around, isClear.findAll_eq_nil, List.nil_append,
          List.mem_cons] at member
        rcases member with rfl | later
        · exact ⟨spelled, before, rest, rfl⟩
        · obtain ⟨otherSpelled, front, after, rfl⟩ := ih later
          exact ⟨otherSpelled, before ++ (value.text ++ front), after, by simp⟩
  · rintro ⟨spelled, before, after, rfl⟩
    rw [spelled.findAll_around]
    exact List.mem_append_right _ List.mem_cons_self

end Reference

end DeclLinker
