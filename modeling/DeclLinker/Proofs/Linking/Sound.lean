import DeclLinker.Proofs.Resolution.Harmless
import DeclLinker.Proofs.Resolution.Simultaneous

/-!
# What every stage of linking keeps

A text is sound for a list of exports when its placeholders are isolated and none is the name of a
constant, every match of a rule in it is its own repair, and it exports exactly that list.
Repairing a text makes it sound; replacing one of its placeholders by a harmless text keeps it
sound, and so do all the edits of a file together.
-/

namespace DeclLinker

open Text

/-- A phrase that ends two texts ends the second, or runs over from the first. -/
theorem Text.suffix_append_cases {phrase left right : Text} (ends : phrase <:+ left ++ right) :
    phrase <:+ right ∨ ∃ front, front ≠ [] ∧ phrase = front ++ right ∧ front <:+ left := by
  obtain ⟨lead, whole⟩ := ends
  rcases List.append_eq_append_iff.1 whole with ⟨front, left_eq, phrase_eq⟩ | ⟨gap, -, right_eq⟩
  · by_cases front_nil : front = []
    · rw [front_nil, List.nil_append] at phrase_eq
      exact .inl (phrase_eq ▸ List.suffix_rfl)
    · exact .inr ⟨front, front_nil, phrase_eq, lead, left_eq.symm⟩
  · exact .inl ⟨gap, right_eq.symm⟩

namespace Reference

variable {reference : Reference} {before after : Text}

/-- A placeholder behind the header of an export is the export of `any`. -/
theorem Spelled.any_mem_exports (spelled : reference.Spelled) {keyword : Text}
    (member : keyword ∈ Scan.keywords)
    (header : before.lastSegment '\n' = Scan.exporting ++ keyword) :
    "any".toList ∈ (Scan.ofText (before ++ (reference.text ++ after))).exports := by
  have opening_eq : opening = "any".toList ++ " /* ".toList := rfl
  have exported : Scan.exportName? (before.lastSegment '\n' ++
      (reference.text ++ after).firstSegment '\n') = some "any".toList := by
    rw [Scan.exportName?_eq_some_iff]
    refine ⟨keyword, member, " /* ".toList ++ (reference.qualified ++ (closing ++
      after.firstSegment '\n')), ?_, by decide, by decide, fun char first => ?_⟩
    · rw [header, firstSegment_append_of_not_mem spelled.feed_not_mem, text, opening_eq]
      simp only [List.append_assoc]
    · have blank : ' ' = char := Option.some.inj first
      rw [← blank]
      decide
  obtain ⟨closed, cut⟩ := exists_collect_append Scan.exported before
  rw [Scan.exports_eq, cut, Scan.exported, exported]
  simp

/-- A placeholder does not start like the header of an export. -/
theorem lead_not_prefix_text {lead : Text} (member : lead ∈ Scan.leads) :
    ¬lead <+: reference.text ++ after := by
  have table : ∀ lead ∈ Scan.leads, diverge lead opening = true := by decide
  rintro ⟨rest, whole⟩
  refine diverge_ne (table lead member) rest (reference.qualified ++ (closing ++ after)) ?_
  rw [whole, text]
  simp

end Reference

namespace Harmless

variable {replacement before after : Text} {reference : Reference}

/-- Behind a clear end, a harmless replacement does not end in the word `const`. -/
theorem not_const_end (harmless : Harmless replacement)
    (isClear : Reference.clearBefore before = true) :
    ¬" const".toList <:+ before ++ replacement := by
  intro ends
  obtain ⟨first, more, replacement_eq, -⟩ := harmless.head
  have replacement_ne : replacement ≠ [] := by simp [replacement_eq]
  rcases harmless.quiet with naming | ⟨-, notLast⟩
  · rcases suffix_append_cases ends with inside | ⟨front, front_ne, phrase_eq, frontEnds⟩
    · have blank := naming ' ' (inside.subset (by decide))
      exact absurd blank (by decide)
    · -- What the replacement leaves of the phrase ends in no word character.
      have table : ∀ length ≤ " const".toList.length, " const".toList.take length ≠ [] →
          " const".toList.drop length ≠ [] →
          (" const".toList.take length).getLast?.any isDotted = true ∨
            " const".toList.drop length = "const".toList := by decide
      have cut := cut_of_table (motive := fun front back => front ≠ [] → back ≠ [] →
        front.getLast?.any isDotted = true ∨ back = "const".toList) table phrase_eq front_ne
        replacement_ne
      rcases cut with dotted | same
      · obtain ⟨char, last, dotted⟩ := (Option.any_eq_true _ _).1 dotted
        rw [Reference.not_dotted_of_suffix isClear frontEnds last] at dotted
        cases dotted
      · have run_eq : nameRun replacement = "const".toList := by
          rw [same]
          decide
        exact harmless.run (run_eq ▸ by decide)
  · obtain ⟨lead, whole⟩ := ends
    have last_eq := congrArg List.getLast? whole
    rw [List.getLast?_append_of_ne_nil _ (by decide),
      List.getLast?_append_of_ne_nil _ replacement_ne] at last_eq
    exact notLast last_eq.symm

/-- Behind a harmless replacement no placeholder comes to stand in the place of a constant's
name. -/
theorem neverBehind (harmless : Harmless replacement) (spelled : reference.Spelled)
    (isolated : Reference.Isolated (before ++ (reference.text ++ after)))
    (never : Reference.NeverBehind " const ".toList (before ++ (reference.text ++ after))) :
    Reference.NeverBehind " const ".toList (before ++ (replacement ++ after)) := by
  obtain ⟨left, right⟩ := Reference.isolated_iff.1 isolated reference spelled before after rfl
  rw [Reference.neverBehind_iff] at never ⊢
  intro other otherSpelled front rest whole ends
  have reads := Reference.reads_iff.2 ⟨otherSpelled, rfl⟩
  have inert := harmless.inert
  rcases split_of_apart (inert.apart_left left after) reads whole with
    ⟨gap, before_eq, -⟩ | ⟨gap, front_eq, tail_eq⟩
  · exact never other otherSpelled front (gap ++ (reference.text ++ after)) (by simp [before_eq])
      ends
  · rcases split_of_apart (inert.apart_right right) reads tail_eq with
      ⟨gap, replacement_eq, -⟩ | ⟨inner, gap_eq, after_eq⟩
    · exact inert.slash (by simp [replacement_eq, Reference.text_eq])
    · have inner_ne : inner ≠ [] := by
        rintro rfl
        exact Reference.not_clearAfter_text other rest (after_eq ▸ right)
      rw [front_eq, gap_eq, ← List.append_assoc] at ends
      rcases suffix_append_cases ends with inside | ⟨lead, lead_ne, phrase_eq, leadEnds⟩
      · refine never other otherSpelled (before ++ (reference.text ++ inner)) rest
          (by simp [after_eq]) ?_
        rw [← List.append_assoc]
        exact List.suffix_append_of_suffix inside
      · -- The phrase can only be cut before its last blank.
        have table : ∀ length ≤ " const ".toList.length, " const ".toList.take length ≠ [] →
            " const ".toList.drop length ≠ [] →
            (" const ".toList.drop length).head?.any isWord = true ∨
              " const ".toList.take length = " const".toList := by decide
        have cut := cut_of_table (motive := fun front back => front ≠ [] → back ≠ [] →
          back.head?.any isWord = true ∨ front = " const".toList) table phrase_eq lead_ne inner_ne
        rcases cut with starts | same
        · obtain ⟨char, first, word⟩ := (Option.any_eq_true _ _).1 starts
          rw [Reference.not_word_of_prefix right ⟨_, after_eq.symm⟩ first] at word
          cases word
        · exact harmless.not_const_end left (same ▸ leadEnds)

/-- Before a clear start, no word of a header stands at the start of a harmless replacement. -/
theorem not_lead (harmless : Harmless replacement)
    (stop : ∀ char, after.head? = some char → isWord char = false) :
    ∀ lead ∈ Scan.leads, ¬lead <+: replacement ++ after := by
  have table : ∀ lead ∈ Scan.leads, ' ' ∈ lead ∧ nameRun lead ∈ reservedWords := by decide
  rintro lead member ⟨rest, whole⟩
  obtain ⟨blank, reserved⟩ := table lead member
  rw [← nameRun_append_of_mem blank (by decide) rest, whole] at reserved
  exact nameRun_append_not_reserved harmless.run stop reserved

/-- A harmless replacement of an isolated placeholder keeps the exports of a text that exports
nothing under the name `any`. -/
theorem exports_eq (harmless : Harmless replacement) (spelled : reference.Spelled)
    (isolated : Reference.Isolated (before ++ (reference.text ++ after)))
    (noAny : "any".toList ∉ (Scan.ofText (before ++ (reference.text ++ after))).exports) :
    (Scan.ofText (before ++ (replacement ++ after))).exports =
      (Scan.ofText (before ++ (reference.text ++ after))).exports := by
  obtain ⟨left, right⟩ := Reference.isolated_iff.1 isolated reference spelled before after rfl
  have flat := spelled.feed_not_mem
  have replacementFlat := harmless.inert.feed
  have lineStop : ∀ char, (before.lastSegment '\n').getLast? = some char → isWord char = false :=
    fun _ last => Reference.not_word_of_suffix left (lastSegment_suffix before) last
  have segmentStop : ∀ char, (after.firstSegment '\n').head? = some char → isWord char = false :=
    fun _ first => Reference.not_word_of_prefix right (List.takeWhile_prefix _) first
  have noHeader : ∀ keyword ∈ Scan.keywords, before.lastSegment '\n' ≠ Scan.exporting ++ keyword :=
    fun _ member header => noAny (spelled.any_mem_exports member header)
  rw [Scan.exports_eq, Scan.exports_eq]
  refine collect_append_congr Scan.exported ?_ ?_
  · rw [firstSegment_append_of_not_mem flat, firstSegment_append_of_not_mem replacementFlat,
      Scan.exported, Scan.exported,
      Scan.exportName?_append_lead lineStop noHeader (harmless.not_lead segmentStop),
      Scan.exportName?_append_lead lineStop noHeader fun _ => Reference.lead_not_prefix_text]
  · rw [collectLater_append_of_flat _ flat, collectLater_append_of_flat _ replacementFlat]

end Harmless

/-- A text that the stages of linking do not disturb, with what it exports. -/
structure Sound (exports : List Text) (text : Text) : Prop where
  isolated : Reference.Isolated text
  unnamed : Reference.NeverBehind " const ".toList text
  steady : ∀ rule ∈ Rule.builtin, rule.Steady text
  exports_eq : (Scan.ofText text).exports = exports

namespace Sound

variable {exports : List Text}

/-- Repairing a text makes it sound. -/
theorem ofRules {text : Text} (isolated : Reference.Isolated text)
    (unnamed : Reference.NeverBehind " const ".toList text) :
    Sound (Scan.ofText text).exports (Repaired.ofRules Rule.builtin text).text := by
  have unclosed : ∀ char ∈ " const ".toList, char ∉ Rule.closers := by decide
  obtain ⟨keptIsolated, keptUnnamed⟩ := Repaired.ofRules_keeps isolated unclosed unnamed
  exact ⟨keptIsolated, keptUnnamed, fun rule known => Repaired.steady_ofRules known text,
    Repaired.exports_ofRules text⟩

/-- A harmless text in the place of a placeholder keeps a text sound, unless it completes a
constant with the value `any`. -/
theorem replace (noAny : "any".toList ∉ exports) {reference : Reference}
    (spelled : reference.Spelled) {before after replacement : Text}
    (sound : Sound exports (before ++ (reference.text ++ after))) (harmless : Harmless replacement)
    (noSlip : "export".toList <:+ replacement → ¬Rule.Unexported after) :
    Sound exports (before ++ (replacement ++ after)) := by
  obtain ⟨left, right⟩ :=
    Reference.isolated_iff.1 sound.isolated reference spelled before after rfl
  have unnamed := Reference.neverBehind_iff.1 sound.unnamed reference spelled before after rfl
  have stop : ∀ char, after.head? = some char → isWord char = false :=
    fun _ first => Reference.not_word_of_prefix right List.prefix_rfl first
  refine ⟨sound.isolated.replace spelled harmless.inert,
    harmless.neverBehind spelled sound.isolated sound.unnamed, fun rule known => ?_, ?_⟩
  · have steady := sound.steady rule known
    exact harmless.steady left unnamed stop noSlip known
      (steady.of_infix (List.prefix_append _ _).isInfix)
      (steady.of_infix ⟨before ++ reference.text, [], by simp⟩)
  · rw [← sound.exports_eq] at noAny
    rw [harmless.exports_eq spelled sound.isolated noAny, sound.exports_eq]

/-- The edits of a text, all at once, keep it sound. -/
theorem settled (noAny : "any".toList ∉ exports) {steps : List Step} {done todo : Text}
    (sound : Sound exports (done ++ todo))
    (inOrder : steps.map Step.reference = findAll Reference.recognise todo)
    (harmless : ∀ step ∈ steps, ∀ replacement, step.decision.replacement? = some replacement →
      Harmless replacement)
    (noSlip : ∀ step ∈ steps, ∀ replacement, step.decision.replacement? = some replacement →
      "export".toList <:+ replacement → ∀ before after,
        todo = before ++ (step.reference.text ++ after) → ¬Rule.Unexported after) :
    Sound exports
      (done ++ (Step.settled steps (pieces Reference.recognise todo)).flatMap Piece.text) := by
  induction todo using hits_induction Reference.recognise_isLocal generalizing done steps with
  | clear todo isClear =>
      rw [isClear.findAll_eq_nil, List.map_eq_nil_iff] at inOrder
      subst inOrder
      have kept := Step.settled_singles [] todo []
      simp only [List.append_nil, Step.settled] at kept
      rwa [isClear, kept, Piece.flatMap_singles]
  | hit gap stretch found rest isClear reads apart ih =>
      obtain ⟨spelled, rfl⟩ := Reference.reads_iff.1 reads
      rw [spelled.findAll_around, isClear.findAll_eq_nil, List.nil_append] at inOrder
      obtain ⟨step, later, rfl, rfl, laterInOrder⟩ := List.map_eq_cons_iff.1 inOrder
      have laterHarmless := fun other member => harmless other (.tail step member)
      have laterNoSlip : ∀ other ∈ later, ∀ replacement,
          other.decision.replacement? = some replacement → "export".toList <:+ replacement →
            ∀ before after, rest = before ++ (other.reference.text ++ after) →
              ¬Rule.Unexported after := by
        intro other member replacement replaced ends before after rest_eq
        exact noSlip other (.tail step member) replacement replaced ends
          (gap ++ (step.reference.text ++ before)) after (by simp [rest_eq])
      have regroup : ∀ middle tail : Text, done ++ (gap ++ (middle ++ tail)) =
          (done ++ (gap ++ middle)) ++ tail := by simp
      rw [spelled.pieces_around, isClear, Step.settled_singles, List.flatMap_append,
        Piece.flatMap_singles]
      cases replaced : step.decision.replacement? with
      | none =>
          have kept : Sound exports ((done ++ (gap ++ step.reference.text)) ++ rest) := by
            rwa [← regroup]
          have next := ih kept laterInOrder laterHarmless laterNoSlip
          simp only [Step.settled, replaced, List.flatMap_cons, Piece.text]
          rwa [regroup]
      | some replacement =>
          have once : Sound exports ((done ++ gap) ++ (replacement ++ rest)) := by
            refine replace noAny spelled (by simpa using sound)
              (harmless step List.mem_cons_self replacement replaced) fun ends => ?_
            exact noSlip step List.mem_cons_self replacement replaced ends gap rest rfl
          have kept : Sound exports ((done ++ (gap ++ replacement)) ++ rest) := by simpa using once
          have next := ih kept laterInOrder laterHarmless laterNoSlip
          simp only [Step.settled, replaced, List.flatMap_append, Piece.flatMap_singles]
          rwa [regroup]

end Sound

end DeclLinker
