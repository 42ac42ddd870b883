import DeclLinker.Proofs.Source.Scan

/-!
# Isolated placeholders

A placeholder is isolated when the characters around it could not become part of a placeholder if
something else stood in its place.  A replacement is inert when it holds no slash, no star and no
line feed and has no blank at its ends.

Putting an inert text where an isolated placeholder stood makes no new placeholder: one that ran
into the replacement would need a word, a dot or the start of a comment right before it, and one
that ran out of it would need a word or the start of a comment right behind it.
-/

namespace DeclLinker

namespace Text

/-- A phrase that starts a text lies before a character that it does not hold. -/
theorem prefix_of_not_mem {phrase left right : Text} {char : Char} (absent : char ∉ phrase)
    (starts : phrase <+: left ++ char :: right) : phrase <+: left := by
  obtain ⟨rest, whole⟩ := starts
  rcases List.append_eq_append_iff.1 whole with ⟨middle, left_eq, -⟩ | ⟨middle, phrase_eq, tail_eq⟩
  · exact ⟨middle, left_eq.symm⟩
  · cases middle with
    | nil => exact ⟨[], by simpa using phrase_eq⟩
    | cons first middle =>
        rw [List.cons_append, List.cons.injEq] at tail_eq
        exact absurd (by simp [phrase_eq, tail_eq.1]) absent

/-- A phrase that ends a text lies behind a character that it does not hold. -/
theorem suffix_of_not_mem {phrase left right : Text} {char : Char} (absent : char ∉ phrase)
    (ends : phrase <:+ left ++ char :: right) : phrase <:+ right := by
  obtain ⟨before, whole⟩ := ends
  rcases List.append_eq_append_iff.1 whole with
    ⟨middle, -, phrase_eq⟩ | ⟨middle, before_eq, tail_eq⟩
  · exact absurd (by simp [phrase_eq]) absent
  · cases middle with
    | nil =>
        have whole : char :: right = phrase := tail_eq
        exact absurd (whole ▸ List.mem_cons_self) absent
    | cons first middle =>
        rw [List.cons_append, List.cons.injEq] at tail_eq
        exact ⟨middle, tail_eq.2.symm⟩

/-- A phrase in a text lies on one side of a character that it does not hold. -/
theorem infix_of_not_mem {phrase left right : Text} {char : Char} (absent : char ∉ phrase)
    (inside : phrase <:+: left ++ char :: right) : phrase <:+: left ∨ phrase <:+: right := by
  obtain ⟨before, after, whole⟩ := inside
  rcases List.append_eq_append_iff.1 whole with ⟨middle, left_eq, -⟩ | ⟨middle, front_eq, tail_eq⟩
  · exact .inl ⟨before, middle, left_eq.symm⟩
  · cases middle with
    | nil => exact .inl ⟨before, [], by simpa using front_eq⟩
    | cons first middle =>
        rw [List.cons_append, List.cons.injEq] at tail_eq
        obtain ⟨rfl, right_eq⟩ := tail_eq
        rcases List.append_eq_append_iff.1 front_eq with ⟨gap, -, phrase_eq⟩ |
          ⟨gap, before_eq, cons_eq⟩
        · exact absurd (by simp [phrase_eq]) absent
        · cases gap with
          | nil =>
              have phrase_eq : char :: middle = phrase := cons_eq
              exact absurd (phrase_eq ▸ List.mem_cons_self) absent
          | cons head gap =>
              rw [List.cons_append, List.cons.injEq] at cons_eq
              exact .inr ⟨gap, after, by rw [right_eq, cons_eq.2]⟩

end Text

namespace Reference

open Text

/-- The end of a text that no placeholder could run over: no word character, no dot and no start of
a comment. -/
def clearBefore (before : Text) : Bool :=
  (before.getLast?.all fun char => !isDotted char) && !(['/', '*', ' '].isSuffixOf before)

/-- The start of a text that no placeholder could run over: no word character, no slash and no start
of a comment behind a blank. -/
def clearAfter (after : Text) : Bool :=
  (after.head?.all fun char => !isWord char && char != '/') && !([' ', '/', '*'].isPrefixOf after)

/-- Whether a placeholder between the two texts, if there is one, stands apart from them. -/
def isolatedAt (before rest : Text) : Bool :=
  match recognise rest with
  | none => true
  | some (_, covered) => clearBefore before && clearAfter (rest.drop covered)

/-- Every placeholder of a text stands apart from what surrounds it. -/
def Isolated (text : Text) : Prop :=
  ∀ position ≤ text.length, isolatedAt (text.take position) (text.drop position) = true

instance (text : Text) : Decidable (Isolated text) :=
  inferInstanceAs (Decidable (∀ position ≤ text.length, _ = true))

theorem isolated_iff {text : Text} :
    Isolated text ↔ ∀ reference : Reference, reference.Spelled → ∀ before after,
      text = before ++ (reference.text ++ after) →
        clearBefore before = true ∧ clearAfter after = true := by
  constructor
  · rintro isolated reference spelled before after rfl
    have here := isolated before.length (by simp)
    have found : recognise (reference.text ++ after) =
        some (reference, reference.text.length) := (reads_iff.2 ⟨spelled, rfl⟩).2 after
    rw [List.take_left, List.drop_left, isolatedAt, found] at here
    simpa using here
  · intro apart position _
    unfold isolatedAt
    split
    · rfl
    · rename_i reference covered found
      obtain ⟨spelled, rfl, after, rest_eq⟩ := recognise_eq_some_iff.1 found
      have whole : text = text.take position ++ (reference.text ++ after) := by
        rw [← rest_eq, List.take_append_drop]
      obtain ⟨before, behind⟩ := apart reference spelled _ after whole
      rw [rest_eq, List.drop_left, before, behind]
      rfl

theorem clearBefore_iff {before : Text} :
    clearBefore before = true ↔
      (∀ char, before.getLast? = some char → isDotted char = false) ∧
        ¬['/', '*', ' '] <:+ before := by
  simp only [clearBefore, Bool.and_eq_true, Option.all_eq_true, Bool.not_eq_true',
    ← Bool.not_eq_true, List.isSuffixOf_iff_suffix]

theorem clearAfter_iff {after : Text} :
    clearAfter after = true ↔
      (∀ char, after.head? = some char → isWord char = false ∧ char ≠ '/') ∧
        ¬[' ', '/', '*'] <+: after := by
  simp only [clearAfter, Bool.and_eq_true, Option.all_eq_true, Bool.not_eq_true',
    ← Bool.not_eq_true, List.isPrefixOf_iff_prefix, bne_iff_ne, ne_eq]

/-- What ends where a placeholder may start ends in no dotted character. -/
theorem not_dotted_of_suffix {before part : Text} {char : Char}
    (isClear : clearBefore before = true) (ends : part <:+ before)
    (last : part.getLast? = some char) : isDotted char = false := by
  obtain ⟨front, rfl⟩ := ends
  have part_ne : part ≠ [] := by
    rintro rfl
    cases last
  exact (clearBefore_iff.1 isClear).1 char (by rw [List.getLast?_append_of_ne_nil _ part_ne, last])

theorem not_word_of_suffix {before part : Text} {char : Char}
    (isClear : clearBefore before = true) (ends : part <:+ before)
    (last : part.getLast? = some char) : isWord char = false := by
  by_contra word
  rw [Bool.not_eq_false] at word
  have notDotted := not_dotted_of_suffix isClear ends last
  rw [isDotted_of_isWord word] at notDotted
  cases notDotted

/-- What starts where a placeholder may end starts with no word character. -/
theorem not_word_of_prefix {after part : Text} {char : Char}
    (isClear : clearAfter after = true) (starts : part <+: after)
    (first : part.head? = some char) : isWord char = false := by
  obtain ⟨rest, rfl⟩ := starts
  exact ((clearAfter_iff.1 isClear).1 char (by rw [List.head?_append, first]; rfl)).1

/-- Two placeholders do not touch. -/
theorem not_clearAfter_text (reference : Reference) (after : Text) :
    ¬clearAfter (reference.text ++ after) = true := by
  intro isClear
  have notWord : isWord 'a' = false :=
    not_word_of_prefix isClear (List.prefix_append reference.text after) (by simp [text_eq])
  exact absurd notWord (by decide)

/-- Before a character that belongs to no comment mark, a placeholder has read a part that ends in a
dotted character or in the start of the comment. -/
theorem Spelled.cut_cases {reference : Reference} (spelled : reference.Spelled)
    {first rest : Text} {head : Char} (split : reference.text = first ++ head :: rest)
    (first_ne : first ≠ []) (foreign : head ∉ [' ', '/', '*']) :
    (∃ char, first.getLast? = some char ∧ isDotted char = true) ∨ ['/', '*', ' '] <:+ first := by
  simp only [List.mem_cons, List.not_mem_nil, or_false, not_or] at foreign
  obtain ⟨notBlank, notSlash, notStar⟩ := foreign
  rw [text, opening_eq, closing_eq] at split
  rcases first with _ | ⟨one, _ | ⟨two, _ | ⟨three, _ | ⟨four, _ | ⟨five, _ | ⟨six, _ |
    ⟨seven, name⟩⟩⟩⟩⟩⟩⟩
  · exact absurd rfl first_ne
  · simp only [List.cons_append, List.nil_append, List.cons.injEq] at split
    exact .inl ⟨'a', by simp [← split.1], by decide⟩
  · simp only [List.cons_append, List.nil_append, List.cons.injEq] at split
    exact .inl ⟨'n', by simp [← split.2.1], by decide⟩
  · simp only [List.cons_append, List.nil_append, List.cons.injEq] at split
    exact absurd split.2.2.2.1.symm notBlank
  · simp only [List.cons_append, List.nil_append, List.cons.injEq] at split
    exact absurd split.2.2.2.2.1.symm notSlash
  · simp only [List.cons_append, List.nil_append, List.cons.injEq] at split
    exact absurd split.2.2.2.2.2.1.symm notStar
  · simp only [List.cons_append, List.nil_append, List.cons.injEq] at split
    exact absurd split.2.2.2.2.2.2.1.symm notBlank
  · simp only [List.cons_append, List.nil_append, List.cons.injEq] at split
    obtain ⟨rfl, rfl, rfl, rfl, rfl, rfl, rfl, name_eq⟩ := split
    rcases List.append_eq_append_iff.1 name_eq with ⟨gap, name_split, closing_split⟩ |
      ⟨gap, qualified_split, -⟩
    · -- The character would stand in the closing.
      have member : head ∈ [' ', '*', '/'] := by simp [closing_split]
      simp [notBlank, notSlash, notStar] at member
    · by_cases name_nil : name = []
      · exact .inr ⟨['a', 'n', 'y', ' '], by simp [name_nil]⟩
      · obtain ⟨char, last⟩ : ∃ char, name.getLast? = some char :=
          ⟨_, List.getLast?_eq_some_getLast name_nil⟩
        have member : char ∈ reference.qualified := by
          rw [qualified_split]
          exact List.mem_append_left _ (List.mem_of_getLast? last)
        exact .inl ⟨char, by simp [List.getLast?_cons, last],
          spelled.qualified_dotted char member⟩

/-- A text that can stand in the place of a placeholder without becoming part of another. -/
structure Inert (replacement : Text) : Prop where
  head : ∃ first rest, replacement = first :: rest ∧ first ≠ ' '
  last : ∃ front final, replacement = front ++ [final] ∧ final ≠ ' '
  slash : '/' ∉ replacement
  star : '*' ∉ replacement
  feed : '\n' ∉ replacement

namespace Inert

variable {replacement : Text}

/-- The first character of an inert text is none of a comment start. -/
theorem exists_head (inert : Inert replacement) :
    ∃ first rest, replacement = first :: rest ∧ first ∉ [' ', '/', '*'] := by
  obtain ⟨first, rest, rfl, notBlank⟩ := inert.head
  have notSlash : first ≠ '/' := fun same => inert.slash (by simp [same])
  have notStar : first ≠ '*' := fun same => inert.star (by simp [same])
  exact ⟨first, rest, rfl, by simp [notBlank, notSlash, notStar]⟩

theorem exists_last (inert : Inert replacement) :
    ∃ front final, replacement = front ++ [final] ∧ final ∉ ['/', '*', ' '] := by
  obtain ⟨front, final, rfl, notBlank⟩ := inert.last
  have notSlash : final ≠ '/' := fun same => inert.slash (by simp [same])
  have notStar : final ≠ '*' := fun same => inert.star (by simp [same])
  exact ⟨front, final, rfl, by simp [notBlank, notSlash, notStar]⟩

/-- No placeholder runs into an inert text whose left side is clear. -/
theorem apart_left (inert : Inert replacement) {before : Text}
    (isClear : clearBefore before = true) (rest : Text) :
    Recogniser.Apart recognise before (replacement ++ rest) := by
  rintro first second reference ends ⟨after, right_eq⟩ first_ne second_ne reads
  obtain ⟨spelled, stretch_eq⟩ := reads_iff.1 reads
  obtain ⟨head, tail, replacement_eq, foreign⟩ := inert.exists_head
  -- The part behind the boundary ends in a slash, so it holds the whole replacement.
  obtain ⟨spill, second_eq⟩ : ∃ spill, second = replacement ++ spill := by
    obtain ⟨front, rfl⟩ := exists_slash_of_suffix stretch_eq.symm second_ne
    rcases List.append_eq_append_iff.1 right_eq with ⟨gap, replacement_split, -⟩ |
      ⟨spill, second_split, -⟩
    · exact absurd (by simp [replacement_split]) inert.slash
    · exact ⟨spill, second_split⟩
  have split : reference.text = first ++ head :: (tail ++ spill) := by
    rw [← stretch_eq, second_eq, replacement_eq, List.cons_append]
  rcases spelled.cut_cases split first_ne foreign with ⟨char, last, dotted⟩ | comment
  · rw [not_dotted_of_suffix isClear ends last] at dotted
    cases dotted
  · exact (clearBefore_iff.1 isClear).2 (comment.trans ends)

/-- No placeholder runs out of an inert text whose right side is clear. -/
theorem apart_right (inert : Inert replacement) {after : Text}
    (isClear : clearAfter after = true) :
    Recogniser.Apart recognise replacement after := by
  rintro first second reference ⟨before, left_eq⟩ ⟨rest, right_eq⟩ first_ne second_ne reads
  obtain ⟨spelled, split⟩ := reads_iff.1 reads
  obtain ⟨noWord, noComment⟩ := clearAfter_iff.1 isClear
  have noSlash : '/' ∉ first := fun member => inert.slash (by simp [← left_eq, member])
  obtain ⟨front, final, replacement_eq, notBlank⟩ := inert.last
  rw [text, opening_eq, closing_eq] at split
  rcases first with _ | ⟨one, _ | ⟨two, _ | ⟨three, _ | ⟨four, _ | ⟨five, tail⟩⟩⟩⟩⟩
  · exact absurd rfl first_ne
  · obtain ⟨next, tail, rfl⟩ := List.exists_cons_of_ne_nil second_ne
    simp only [List.cons_append, List.nil_append, List.cons.injEq] at split
    obtain ⟨-, rfl, -⟩ := split
    exact absurd (noWord 'n' (by simp [← right_eq])).1 (by decide)
  · obtain ⟨next, tail, rfl⟩ := List.exists_cons_of_ne_nil second_ne
    simp only [List.cons_append, List.nil_append, List.cons.injEq] at split
    obtain ⟨-, -, rfl, -⟩ := split
    exact absurd (noWord 'y' (by simp [← right_eq])).1 (by decide)
  · simp only [List.cons_append, List.nil_append, List.cons.injEq] at split
    refine noComment ⟨' ' :: (reference.qualified ++ [' ', '*', '/']) ++ rest, ?_⟩
    rw [← right_eq, split.2.2.2]
    simp
  · -- The replacement would end in a blank.
    simp only [List.cons_append, List.nil_append, List.cons.injEq] at split
    obtain ⟨-, -, -, rfl, -⟩ := split
    have final_eq := congrArg List.getLast? (left_eq.trans replacement_eq)
    rw [List.getLast?_append_of_ne_nil _ (by simp), List.getLast?_concat] at final_eq
    exact notBlank (Option.some.inj final_eq).symm
  · simp only [List.cons_append, List.cons.injEq] at split
    exact noSlash (by simp [split.2.2.2.2.1])

/-- What is clear of a placeholder behind a gap is clear of an inert text in its place. -/
theorem clearAfter_gap (inert : Inert replacement) {reference : Reference} {gap after : Text}
    (isClear : clearAfter (gap ++ (reference.text ++ after)) = true) :
    clearAfter (gap ++ (replacement ++ after)) = true := by
  obtain ⟨noWord, noComment⟩ := clearAfter_iff.1 isClear
  obtain ⟨first, tail, replacement_eq, foreign⟩ := inert.exists_head
  rw [clearAfter_iff]
  constructor
  · cases gap with
    | nil => exact absurd isClear (not_clearAfter_text reference after)
    | cons char gap => simpa using noWord
  · intro starts
    rw [replacement_eq, List.cons_append] at starts
    have inGap := prefix_of_not_mem foreign starts
    exact noComment (inGap.trans (List.prefix_append _ _))

theorem clearBefore_gap (inert : Inert replacement) {reference : Reference} {before gap : Text}
    (gap_ne : gap ≠ []) (isClear : clearBefore (before ++ (reference.text ++ gap)) = true) :
    clearBefore (before ++ (replacement ++ gap)) = true := by
  obtain ⟨noDotted, noComment⟩ := clearBefore_iff.1 isClear
  obtain ⟨init, final, replacement_eq, foreign⟩ := inert.exists_last
  rw [clearBefore_iff]
  constructor
  · rw [← List.append_assoc, List.getLast?_append_of_ne_nil _ gap_ne] at noDotted ⊢
    exact noDotted
  · intro ends
    have shape : before ++ (replacement ++ gap) = (before ++ init) ++ final :: gap := by
      simp [replacement_eq]
    rw [shape] at ends
    have inGap := suffix_of_not_mem foreign ends
    exact noComment (inGap.trans ⟨before ++ reference.text, by simp⟩)

end Inert

/-- An inert text in the place of an isolated placeholder leaves the other placeholders as they
are. -/
theorem Isolated.pieces_replace {reference : Reference} (spelled : reference.Spelled)
    {before after replacement : Text} (isolated : Isolated (before ++ (reference.text ++ after)))
    (inert : Inert replacement) :
    pieces recognise (before ++ (replacement ++ after)) =
      pieces recognise before ++ (replacement.map .single ++ pieces recognise after) := by
  obtain ⟨left, right⟩ := isolated_iff.1 isolated reference spelled before after rfl
  have nothing : Recogniser.Clear recognise replacement := by
    refine Recogniser.clear_of_not_infix recognise_isLocal fun stretch other reads inside => ?_
    obtain ⟨-, rfl⟩ := reads_iff.1 reads
    exact inert.slash (inside.subset (by simp [text_eq]))
  rw [pieces_append recognise_isLocal (inert.apart_left left after),
    pieces_append recognise_isLocal (inert.apart_right right), nothing]

/-- An inert text in the place of an isolated placeholder leaves the others isolated. -/
theorem Isolated.replace {reference : Reference} (spelled : reference.Spelled)
    {before after replacement : Text} (isolated : Isolated (before ++ (reference.text ++ after)))
    (inert : Inert replacement) : Isolated (before ++ (replacement ++ after)) := by
  obtain ⟨left, right⟩ := isolated_iff.1 isolated reference spelled before after rfl
  rw [isolated_iff] at isolated ⊢
  intro other otherSpelled front rest whole
  have reads := reads_iff.2 ⟨otherSpelled, rfl⟩
  rcases split_of_apart (inert.apart_left left after) reads whole with
    ⟨gap, before_eq, rest_eq⟩ | ⟨gap, front_eq, tail_eq⟩
  · -- The other placeholder stands before the replacement.
    have old := isolated other otherSpelled front (gap ++ (reference.text ++ after))
      (by simp [before_eq])
    rw [rest_eq]
    exact ⟨old.1, inert.clearAfter_gap old.2⟩
  · rcases split_of_apart (inert.apart_right right) reads tail_eq with
      ⟨inside, replacement_eq, -⟩ | ⟨behind, gap_eq, after_eq⟩
    · exact absurd (by simp [replacement_eq, text_eq]) inert.slash
    · -- The other placeholder stands behind the replacement.
      have old := isolated other otherSpelled (before ++ (reference.text ++ behind)) rest
        (by simp [after_eq])
      have behind_ne : behind ≠ [] := by
        rintro rfl
        exact not_clearAfter_text other rest (after_eq ▸ right)
      rw [front_eq, gap_eq]
      exact ⟨inert.clearBefore_gap behind_ne old.1, old.2⟩

/-! ## Line comments -/

/-- No isolated placeholder runs into a line comment. -/
theorem Isolated.apart_comment {before rest : Text}
    (isolated : Isolated (before ++ '/' :: '/' :: rest)) :
    Recogniser.Apart recognise before ('/' :: '/' :: rest) := by
  rintro first second reference ⟨front, before_eq⟩ ⟨after, right_eq⟩ - second_ne reads
  obtain ⟨spelled, stretch_eq⟩ := reads_iff.1 reads
  obtain ⟨inner, rfl⟩ := exists_slash_of_suffix stretch_eq.symm second_ne
  cases inner with
  | nil =>
      -- The placeholder ends in the first slash of the comment, and the second one follows it.
      have whole : before ++ '/' :: '/' :: rest = front ++ (reference.text ++ '/' :: rest) := by
        rw [← before_eq, ← stretch_eq]
        simp
      have right := (isolated_iff.1 isolated reference spelled front _ whole).2
      exact ((clearAfter_iff.1 right).1 '/' rfl).2 rfl
  | cons slash inner =>
      -- Behind the first slash of a placeholder stands a star.
      have inner_eq : inner ++ ['/'] ++ after = '/' :: rest := by
        simpa using (List.cons.inj right_eq).2
      obtain rfl : slash = '/' := (List.cons.inj right_eq).1
      have opened := spelled.eq_of_slash stretch_eq.symm (by simp)
      have core_eq : reference.core ++ ['/'] = inner ++ ['/'] := by
        simpa [text_eq, opened] using stretch_eq.symm
      rw [← core_eq, core] at inner_eq
      exact absurd (List.cons.inj inner_eq).1 (by decide)

/-- A phrase without the letter that placeholders start with holds none and starts none. -/
theorem pieces_of_letter_not_mem {phrase : Text} (noLetter : 'a' ∉ phrase) (rest : Text) :
    pieces recognise (phrase ++ rest) = phrase.map .single ++ pieces recognise rest := by
  have nothing : Recogniser.Clear recognise phrase := by
    refine Recogniser.clear_of_not_infix recognise_isLocal fun stretch reference reads inside => ?_
    obtain ⟨-, rfl⟩ := reads_iff.1 reads
    exact noLetter (inside.subset (by simp [text_eq]))
  have out : Recogniser.Apart recognise phrase rest := by
    rintro first second reference ends - first_ne - reads
    obtain ⟨letter, more, rfl⟩ := List.exists_cons_of_ne_nil first_ne
    obtain ⟨-, stretch_eq⟩ := reads_iff.1 reads
    rw [text_eq, List.cons_append, List.cons.injEq] at stretch_eq
    exact noLetter (ends.subset (by simp [stretch_eq.1]))
  rw [pieces_append recognise_isLocal out, nothing]

/-- A line comment without that letter is cut out of the search for isolated placeholders. -/
theorem Isolated.pieces_comment {comment before after : Text} (opens : ['/', '/'] <+: comment)
    (noLetter : 'a' ∉ comment) (isolated : Isolated (before ++ (comment ++ after))) :
    pieces recognise (before ++ (comment ++ after)) =
      pieces recognise before ++ (comment.map .single ++ pieces recognise after) := by
  obtain ⟨words, rfl⟩ := opens
  have into : Recogniser.Apart recognise before ((['/', '/'] ++ words) ++ after) :=
    isolated.apart_comment
  rw [pieces_append recognise_isLocal into, pieces_of_letter_not_mem noLetter]

/-! ## Phrases before placeholders -/

/-- No placeholder of a text stands directly behind the phrase. -/
def NeverBehind (phrase text : Text) : Prop :=
  ∀ position ≤ text.length, phrase <:+ text.take position →
    recognise (text.drop position) = none

instance (phrase text : Text) : Decidable (NeverBehind phrase text) :=
  inferInstanceAs (Decidable (∀ position ≤ text.length, _ → _))

theorem neverBehind_iff {phrase text : Text} :
    NeverBehind phrase text ↔ ∀ reference : Reference, reference.Spelled → ∀ before after,
      text = before ++ (reference.text ++ after) → ¬phrase <:+ before := by
  constructor
  · rintro never reference spelled before after rfl ends
    have here := never before.length (by simp)
    rw [List.take_left, List.drop_left, (reads_iff.2 ⟨spelled, rfl⟩).2 after] at here
    cases here ends
  · intro apart position _ ends
    cases found : recognise (text.drop position) with
    | none => rfl
    | some answer =>
        obtain ⟨reference, covered⟩ := answer
        obtain ⟨spelled, rfl, after, rest_eq⟩ := recognise_eq_some_iff.1 found
        have whole : text = text.take position ++ (reference.text ++ after) := by
          rw [← rest_eq, List.take_append_drop]
        exact absurd ends (apart reference spelled _ after whole)

/-- What stands behind no phrase stands behind none that the phrase ends. -/
theorem NeverBehind.of_suffix {phrase longer text : Text} (never : NeverBehind phrase text)
    (ends : phrase <:+ longer) : NeverBehind longer text :=
  fun position bound inside => never position bound (ends.trans inside)

end Reference

end DeclLinker
