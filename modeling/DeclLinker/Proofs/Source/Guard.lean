import DeclLinker.Proofs.Source.Collect

/-!
# Placeholders behind the headings of their lines

A placeholder in the heading of a line may be part of a declaration or of an import statement, and
replacing it changes what the line announces.  A text is guarded when every placeholder stands
behind a guard character of its line: behind the colon of a field, or behind the sign of equality of
a type.  Replacing a placeholder of a guarded text changes no heading, so it keeps all that is read
off headings, and the text stays guarded.
-/

namespace DeclLinker

open Text

namespace Reference

/-- The placeholders in the heading of a line. -/
def misplaced (line : Text) : List Reference :=
  findAll recognise (heading line)

/-- Every placeholder of a text stands behind a guard character of its line. -/
def Guarded (text : Text) : Prop :=
  collect misplaced text = []

instance (text : Text) : Decidable (Guarded text) :=
  inferInstanceAs (Decidable (_ = _))

/-- No placeholder ends in a blank. -/
theorem apart_blank (line : Text) : Recogniser.Apart recognise line [' '] := by
  intro first second reference ends starts first_ne second_ne reads
  obtain ⟨-, whole⟩ := reads_iff.1 reads
  obtain ⟨char, rest, rfl⟩ := List.exists_cons_of_ne_nil second_ne
  obtain ⟨rfl, rest_nil⟩ := List.cons_prefix_cons.1 starts
  rw [List.prefix_nil.1 rest_nil] at whole
  have last := congrArg List.getLast? whole
  rw [List.getLast?_concat, text, closing_eq] at last
  simp at last

theorem readsHeading_misplaced : ReadsHeading misplaced where
  guard guard line rest := by
    rw [misplaced, heading_append_guard guard, misplaced]
  blank line := by
    have blankFree : findAll recognise [' '] = [] := rfl
    unfold misplaced heading
    rw [List.takeWhile_append]
    split
    · rename_i whole
      have line_eq := (List.takeWhile_prefix (fun char => !isGuard char)).eq_of_length whole
      have kept : [' '].takeWhile (fun char => !isGuard char) = [' '] := by decide
      rw [line_eq, kept, findAll_append recognise_isLocal (apart_blank line), blankFree,
        List.append_nil]
    · rfl

/-- No guard character is part of a placeholder. -/
theorem Spelled.guard_not_mem {reference : Reference} (spelled : reference.Spelled) :
    ∀ char ∈ reference.text, isGuard char = false := by
  have marks : ∀ char ∈ [' ', '/', '*', '.'], isGuard char = false := by decide
  intro char member
  by_contra guard
  rw [Bool.not_eq_false] at guard
  have notMark : char ∉ [' ', '/', '*', '.'] := fun mark =>
    absurd (marks char mark) (by simp [guard])
  simp only [List.mem_cons, List.not_mem_nil, or_false, not_or] at notMark
  rcases spelled.text_chars member with dotted | blank | slash | star
  · have word := isWord_of_isDotted dotted notMark.2.2.2
    rw [isWord_of_isGuard guard] at word
    cases word
  · exact notMark.1 blank
  · exact notMark.2.1 slash
  · exact notMark.2.2.1 star

/-- In a guarded text a guard character stands before every placeholder on its line. -/
theorem Guarded.exists_guard {before after : Text} {reference : Reference}
    (guarded : Guarded (before ++ (reference.text ++ after))) (spelled : reference.Spelled) :
    ∃ char ∈ before.lastSegment '\n', isGuard char = true := by
  by_contra unguarded
  simp only [not_exists, not_and, Bool.not_eq_true] at unguarded
  obtain ⟨closed, cut⟩ := exists_collect_append misplaced before
  rw [Guarded, cut, firstSegment_append_of_not_mem spelled.feed_not_mem] at guarded
  have nothing := (List.append_eq_nil_iff.1 (List.append_eq_nil_iff.1 guarded).2).1
  -- The whole placeholder lies in the heading of the line.
  have heading_eq : heading (before.lastSegment '\n' ++
      (reference.text ++ after.firstSegment '\n')) =
      before.lastSegment '\n' ++ (reference.text ++ heading (after.firstSegment '\n')) := by
    unfold heading
    rw [List.takeWhile_append_of_pos fun char member => by simp [unguarded char member],
      List.takeWhile_append_of_pos fun char member => by simp [spelled.guard_not_mem char member]]
  have found : reference ∈ misplaced (before.lastSegment '\n' ++
      (reference.text ++ after.firstSegment '\n')) := by
    rw [misplaced, heading_eq]
    exact mem_findAll_iff.2 ⟨spelled, _, _, rfl⟩
  rw [nothing] at found
  cases found

/-- Replacing a placeholder of a guarded text, on its line, keeps what headings tell. -/
theorem Guarded.collect_replace {α : Type} {read : Text → List α} (reader : ReadsHeading read)
    {before after replacement : Text} {reference : Reference}
    (guarded : Guarded (before ++ (reference.text ++ after))) (spelled : reference.Spelled)
    (flat : '\n' ∉ replacement) :
    collect read (before ++ (replacement ++ after)) =
      collect read (before ++ (reference.text ++ after)) :=
  reader.collect_exchange (guarded.exists_guard spelled) spelled.feed_not_mem flat after

end Reference

end DeclLinker
