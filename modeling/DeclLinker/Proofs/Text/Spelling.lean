import DeclLinker.Proofs.Text.Recogniser

/-!
# How recognised stretches are spelled

A recogniser that answers exactly for the stretches of a certain spelling is local, so all that is
known of local recognisers holds of it.  A text is clear when its parts are and no stretch runs over
their boundary.  When no replacement has more characters of a kind than the stretch it is for, the
whole text has no more of them afterwards, and fewer by the stretches that lose one.
-/

namespace DeclLinker

namespace Text

universe u

variable {α : Type u} {recognise : Recogniser α}

namespace Recogniser

/-- The recogniser answers exactly for the stretches that are spelled in a certain way, whatever
follows them. -/
structure Spells (recognise : Recogniser α) (Spelled : Text → α → Prop) : Prop where
  sound : ∀ ⦃text value covered⦄, recognise text = some (value, covered) →
    ∃ stretch rest, text = stretch ++ rest ∧ covered = stretch.length ∧ Spelled stretch value
  reads : ∀ ⦃stretch value⦄, Spelled stretch value → recognise.Reads stretch value

namespace Spells

variable {Spelled : Text → α → Prop}

theorem isLocal (spells : recognise.Spells Spelled) : recognise.IsLocal := by
  intro text value covered found
  obtain ⟨stretch, rest, text_eq, covered_eq, spelled⟩ := spells.sound found
  exact ⟨stretch, rest, text_eq, covered_eq, spells.reads spelled⟩

theorem reads_iff (spells : recognise.Spells Spelled) {stretch : Text} {value : α} :
    recognise.Reads stretch value ↔ Spelled stretch value := by
  refine ⟨fun reads => ?_, fun spelled => spells.reads spelled⟩
  have found := reads.2 []
  obtain ⟨other, rest, whole, covered, spelled⟩ := spells.sound found
  rw [List.append_nil] at whole
  have lengths := congrArg List.length whole
  rw [List.length_append] at lengths
  have rest_nil : rest = [] := List.length_eq_zero_iff.mp (by omega)
  rwa [whole, rest_nil, List.append_nil]

end Spells

/-- A text is clear when its two parts are, and no recognised stretch runs over their boundary. -/
theorem clear_append_iff (isLocal : recognise.IsLocal) {left right : Text}
    (apart : recognise.Apart left right) :
    recognise.Clear (left ++ right) ↔ recognise.Clear left ∧ recognise.Clear right := by
  constructor
  · intro clear
    constructor
    · refine clear_of_not_infix isLocal fun _ _ reads inside => ?_
      exact clear.not_infix isLocal reads (inside.trans (List.prefix_append left right).isInfix)
    · refine clear_of_not_infix isLocal fun _ _ reads inside => ?_
      exact clear.not_infix isLocal reads (inside.trans (List.suffix_append left right).isInfix)
  · rintro ⟨leftClear, rightClear⟩
    rw [Clear, pieces_append isLocal apart, leftClear, rightClear, List.map_append]

end Recogniser

/-- Replacing adds no character of a kind when no replacement does, and every stretch that loses one
counts. -/
theorem countP_replaceAll_le (isLocal : recognise.IsLocal) {test : Char → Bool}
    {replace : α → Text} {loses : α → Bool}
    (lighter : ∀ stretch value, recognise.Reads stretch value →
      (replace value).countP test + (if loses value then 1 else 0) ≤ stretch.countP test)
    (text : Text) :
    (replaceAll recognise replace text).countP test + (findAll recognise text).countP loses ≤
      text.countP test := by
  induction text using hits_induction isLocal with
  | clear text isClear =>
      rw [isClear.replaceAll_eq_self, isClear.findAll_eq_nil]
      exact Nat.le_refl _
  | hit before stretch value rest isClear reads apart ih =>
      have here := lighter stretch value reads
      rw [replaceAll_append isLocal apart, findAll_append isLocal apart,
        isClear.replaceAll_eq_self, isClear.findAll_eq_nil, replaceAll_of_reads reads,
        findAll_of_reads reads, List.nil_append, List.countP_cons]
      simp only [List.countP_append]
      omega

end Text

end DeclLinker
