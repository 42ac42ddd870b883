import DeclLinker.Proofs.Source.Grammar

/-!
# Occurrences of a phrase

Cutting a text at a phrase finds its first occurrence, so replacing the first occurrence changes a
text exactly when the phrase occurs in it.  How often a phrase occurs is counted from left to right
without overlaps; for a placeholder text this is how often its reference is recognised, because
placeholder texts do not overlap.
-/

namespace DeclLinker

namespace Text

theorem cut?_eq_none_iff {phrase text : Text} : cut? phrase text = none ↔ ¬phrase <:+: text := by
  induction text with
  | nil => by_cases empty : phrase = [] <;> simp [cut?, empty]
  | cons char text ih =>
      cases here : after? phrase (char :: text) with
      | some tail =>
          have whole := after?_eq_some_iff.1 here
          simp only [cut?, here, reduceCtorEq, false_iff, not_not]
          exact ⟨[], tail, whole.symm⟩
      | none =>
          have notHere : ¬phrase <+: char :: text := by
            rintro ⟨tail, whole⟩
            rw [after?_eq_some_iff.2 whole.symm] at here
            cases here
          simp only [cut?, here, Option.map_eq_none_iff, ih, List.infix_cons_iff, notHere,
            false_or]

/-- A text is cut behind a part in which no occurrence starts. -/
theorem cut?_append {phrase front rest : Text}
    (skipped : ∀ before back, front = before ++ back → back ≠ [] → ¬phrase <+: back ++ rest) :
    cut? phrase (front ++ rest) =
      (cut? phrase rest).map fun halves => (front ++ halves.1, halves.2) := by
  induction front with
  | nil => simp
  | cons char front ih =>
      have notHere : after? phrase (char :: (front ++ rest)) = none := by
        refine Option.eq_none_iff_forall_ne_some.2 fun tail found => ?_
        exact skipped [] (char :: front) rfl (List.cons_ne_nil _ _)
          ⟨tail, (after?_eq_some_iff.1 found).symm⟩
      have later := ih fun before back front_eq =>
        skipped (char :: before) back (by rw [front_eq, List.cons_append])
      simp only [List.cons_append, cut?, notHere, later, Option.map_map, Function.comp_def]

theorem cut?_phrase (phrase rest : Text) : cut? phrase (phrase ++ rest) = some ([], rest) := by
  cases phrase with
  | nil => cases rest <;> simp [cut?, after?]
  | cons char phrase =>
      have here := after?_append (char :: phrase) rest
      rw [List.cons_append] at here ⊢
      simp [cut?, here]

/-- A text is cut at the occurrence that no other one precedes. -/
theorem cut?_of_first {phrase before rest : Text}
    (first : ∀ front after, before ++ (phrase ++ rest) = front ++ (phrase ++ after) →
      before.length ≤ front.length) :
    cut? phrase (before ++ (phrase ++ rest)) = some (before, rest) := by
  have skipped : ∀ front back, before = front ++ back → back ≠ [] →
      ¬phrase <+: back ++ (phrase ++ rest) := by
    rintro front back rfl back_ne ⟨after, whole⟩
    have short := first front after (by rw [List.append_assoc, ← whole])
    have long := List.length_pos_iff.2 back_ne
    rw [List.length_append] at short
    omega
  rw [cut?_append skipped, cut?_phrase, Option.map_some, List.append_nil]

theorem replaceFirst_append {phrase front rest : Text} (replacement : Text)
    (skipped : ∀ before back, front = before ++ back → back ≠ [] → ¬phrase <+: back ++ rest) :
    replaceFirst phrase replacement (front ++ rest) =
      front ++ replaceFirst phrase replacement rest := by
  rw [replaceFirst, cut?_append skipped, replaceFirst]
  cases cut? phrase rest with
  | none => rfl
  | some halves => simp

theorem occursIn_iff {phrase text : Text} : phrase.occursIn text = true ↔ phrase <:+: text := by
  cases found : cut? phrase text with
  | none => simpa [occursIn, found] using cut?_eq_none_iff.1 found
  | some halves =>
      obtain ⟨before, rest⟩ := halves
      simp only [occursIn, found, Option.isSome_some, true_iff]
      exact ⟨before, rest, (eq_append_of_cut? found).symm⟩

/-- Replacing the first occurrence of a phrase either finds none or replaces one. -/
theorem replaceFirst_cases (phrase replacement text : Text) :
    (¬phrase <:+: text ∧ replaceFirst phrase replacement text = text) ∨
      ∃ before rest, text = before ++ (phrase ++ rest) ∧
        replaceFirst phrase replacement text = before ++ (replacement ++ rest) := by
  cases found : cut? phrase text with
  | none => exact .inl ⟨cut?_eq_none_iff.1 found, by simp [replaceFirst, found]⟩
  | some halves =>
      obtain ⟨before, rest⟩ := halves
      refine .inr ⟨before, rest, ?_, by simp [replaceFirst, found]⟩
      rw [eq_append_of_cut? found, List.append_assoc]

/-- How often a phrase occurs in a text, from left to right and without overlaps. -/
def timesIn (wanted text : Text) : Nat :=
  (findAll (phrase wanted) text).length

theorem phrase_reads_iff {wanted stretch : Text} (wanted_ne : wanted ≠ []) :
    Recogniser.Reads (phrase wanted) stretch () ↔ stretch = wanted := by
  constructor
  · intro reads
    obtain ⟨rest, after, length_eq⟩ := Option.map_eq_some_iff.1 (reads.2 [])
    have whole := after?_eq_some_iff.1 after
    simp only [Prod.mk.injEq, true_and] at length_eq
    exact (List.append_inj whole length_eq.symm).1
  · rintro rfl
    exact ⟨wanted_ne, fun rest => by simp [phrase]⟩

theorem phrase_isLocal {wanted : Text} (wanted_ne : wanted ≠ []) :
    Recogniser.IsLocal (phrase wanted) := by
  intro text value covered found
  obtain ⟨rest, after, answer⟩ := Option.map_eq_some_iff.1 found
  simp only [Prod.mk.injEq] at answer
  exact ⟨wanted, rest, after?_eq_some_iff.1 after, answer.2.symm,
    (phrase_reads_iff wanted_ne).2 rfl⟩

end Text

namespace Reference

open Text

/-- Where no placeholder runs over a boundary, neither does the text of a given one. -/
theorem Spelled.phrase_apart {reference : Reference} (spelled : reference.Spelled)
    {left right : Text} (apart : Recogniser.Apart recognise left right) :
    Recogniser.Apart (phrase reference.text) left right := by
  intro first second value ends starts first_ne second_ne reads
  have stretch_eq := (phrase_reads_iff reference.text_ne_nil).1 reads
  exact apart ends starts first_ne second_ne (reads_iff.2 ⟨spelled, stretch_eq⟩)

/-- A placeholder text does not occur where its reference is not recognised. -/
theorem Spelled.phrase_clear {reference : Reference} (spelled : reference.Spelled) {text : Text}
    (absent : reference ∉ findAll recognise text) :
    Recogniser.Clear (phrase reference.text) text := by
  refine Recogniser.clear_of_not_infix (phrase_isLocal reference.text_ne_nil) ?_
  rintro stretch _ reads ⟨before, after, whole⟩
  rw [(phrase_reads_iff reference.text_ne_nil).1 reads, List.append_assoc] at whole
  exact absent (mem_findAll_iff.2 ⟨spelled, before, after, whole.symm⟩)

/-- The first occurrence of a placeholder text is the one before which its reference is not
recognised. -/
theorem Spelled.replaceFirst_of_absent {reference : Reference} (spelled : reference.Spelled)
    {before : Text} (absent : reference ∉ findAll recognise before) (replacement after : Text) :
    replaceFirst reference.text replacement (before ++ (reference.text ++ after)) =
      before ++ (replacement ++ after) := by
  have cut : cut? reference.text (before ++ (reference.text ++ after)) = some (before, after) := by
    refine cut?_of_first fun front rest whole => ?_
    have reads := reads_iff.2 ⟨spelled, rfl⟩
    rcases split_of_apart (reference.apart_before before after) reads whole with
      ⟨gap, before_eq, -⟩ | ⟨gap, front_eq, -⟩
    · exact absurd (mem_findAll_iff.2 ⟨spelled, front, gap, before_eq⟩) absent
    · simp [front_eq]
  simp [replaceFirst, cut]

/-- In a single placeholder text only that text occurs, and once. -/
theorem Spelled.timesIn_text {reference other : Reference} (spelled : reference.Spelled)
    (otherSpelled : other.Spelled) :
    reference.text.timesIn other.text = [other].count reference := by
  by_cases same : reference = other
  · subst same
    have reads := (phrase_reads_iff reference.text_ne_nil).2 rfl
    have once := findAll_of_reads reads []
    rw [List.append_nil] at once
    simp [timesIn, once]
  · have alone : findAll recognise other.text = [other] := by
      simpa using findAll_of_reads (reads_iff.2 ⟨otherSpelled, rfl⟩) []
    have absent : reference ∉ findAll recognise other.text := by simp [alone, same]
    simp [timesIn, (spelled.phrase_clear absent).findAll_eq_nil, Ne.symm same]

/-- A placeholder text occurs as often as its reference is recognised. -/
theorem Spelled.timesIn_eq_count {reference : Reference} (spelled : reference.Spelled)
    (text : Text) : reference.text.timesIn text = (findAll recognise text).count reference := by
  have isLocal := phrase_isLocal reference.text_ne_nil
  induction text using hits_induction recognise_isLocal with
  | clear text isClear =>
      have absent : reference ∉ findAll recognise text := by simp [isClear.findAll_eq_nil]
      simp [timesIn, (spelled.phrase_clear absent).findAll_eq_nil, isClear.findAll_eq_nil]
  | hit before stretch value rest isClear reads apart ih =>
      obtain ⟨valueSpelled, rfl⟩ := reads_iff.1 reads
      have absent : reference ∉ findAll recognise before := by simp [isClear.findAll_eq_nil]
      have beforeClear := spelled.phrase_clear absent
      have behind := spelled.phrase_apart (valueSpelled.apart_after rest)
      calc
        reference.text.timesIn (before ++ (value.text ++ rest))
          = reference.text.timesIn value.text + reference.text.timesIn rest := by
            simp only [timesIn, findAll_append isLocal (spelled.phrase_apart apart),
              findAll_append isLocal behind, beforeClear.findAll_eq_nil, List.nil_append,
              List.length_append]
        _ = [value].count reference + (findAll recognise rest).count reference := by
            rw [spelled.timesIn_text valueSpelled, ih]
        _ = (findAll recognise (before ++ (value.text ++ rest))).count reference := by
            rw [valueSpelled.findAll_around, isClear.findAll_eq_nil, List.nil_append,
              List.count_cons (l := findAll recognise rest), List.count_singleton, Nat.add_comm]

end Reference

end DeclLinker
