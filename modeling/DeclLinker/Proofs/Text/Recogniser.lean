import DeclLinker.Text.Pieces
import Mathlib.Data.List.Basic

/-!
# Recognisers that answer locally

A recogniser is local when its answer depends only on the characters it covers.  The pieces of such
a recogniser can be computed stretch by stretch: a text may be cut at any boundary that no
recognised stretch runs over, and the pieces of the whole are the pieces of the two parts.

Finding, counting and replacing all follow the pieces, so each of them splits at such a boundary.
The last section turns the left-to-right search into an induction: a text is clear, or it is a clear
text followed by a recognised stretch and a rest.
-/

namespace DeclLinker.Text

universe u

variable {α : Type u}

namespace Recogniser

/-- The recogniser answers with the value and covers exactly the stretch, whatever follows it. -/
def Reads (recognise : Recogniser α) (stretch : Text) (value : α) : Prop :=
  stretch ≠ [] ∧ ∀ rest, recognise (stretch ++ rest) = some (value, stretch.length)

/-- Every answer is given by the covered characters alone. -/
def IsLocal (recognise : Recogniser α) : Prop :=
  ∀ ⦃text value covered⦄, recognise text = some (value, covered) →
    ∃ stretch rest, text = stretch ++ rest ∧ covered = stretch.length ∧
      recognise.Reads stretch value

/-- No recognised stretch runs over the boundary between two texts. -/
def Apart (recognise : Recogniser α) (left right : Text) : Prop :=
  ∀ ⦃first second value⦄, first <:+ left → second <+: right → first ≠ [] → second ≠ [] →
    ¬recognise.Reads (first ++ second) value

/-- Nothing is recognised anywhere in the text. -/
def Clear (recognise : Recogniser α) (text : Text) : Prop :=
  pieces recognise text = text.map .single

variable {recognise : Recogniser α}

theorem Apart.nil_left (right : Text) : recognise.Apart [] right := by
  intro first second value ends _ first_ne
  exact absurd (List.suffix_nil.1 ends) first_ne

/-- A boundary behind two texts is free when both the text at it and the one before are. -/
theorem Apart.append_left {first second right : Text}
    (outer : recognise.Apart first (second ++ right)) (inner : recognise.Apart second right) :
    recognise.Apart (first ++ second) right := by
  rintro head tail value ⟨before, left_eq⟩ starts head_ne tail_ne reads
  rcases List.append_eq_append_iff.1 left_eq with ⟨middle, first_eq, head_eq⟩ |
    ⟨middle, before_eq, second_eq⟩
  · by_cases middle_nil : middle = []
    · subst middle_nil
      exact inner (head_eq ▸ List.suffix_rfl) starts head_ne tail_ne reads
    · subst head_eq
      rw [List.append_assoc] at reads
      exact outer ⟨before, first_eq.symm⟩ ((List.prefix_append_right_inj second).2 starts)
        middle_nil (by simp [tail_ne]) reads
  · exact inner ⟨middle, second_eq.symm⟩ starts head_ne tail_ne reads

theorem Apart.mono_left {left ending right : Text} (apart : recognise.Apart left right)
    (ends : ending <:+ left) : recognise.Apart ending right := by
  intro first second value inner
  exact apart (inner.trans ends)

theorem Apart.mono_right {left right start : Text} (apart : recognise.Apart left right)
    (starts : start <+: right) : recognise.Apart left start := by
  intro first second value ends inner
  exact apart ends (inner.trans starts)

end Recogniser

open Recogniser

variable {recognise : Recogniser α}

/-- A stretch that is read is the next piece. -/
theorem pieces_of_reads {stretch : Text} {value : α} (reads : recognise.Reads stretch value)
    (rest : Text) :
    pieces recognise (stretch ++ rest) = .hit stretch value :: pieces recognise rest := by
  obtain ⟨stretch_ne, found⟩ := reads
  cases stretch with
  | nil => exact absurd rfl stretch_ne
  | cons char stretch =>
      have next := pieces_cons_of_some (found rest)
      simpa using next

theorem pieces_eq_singleton {stretch : Text} {value : α}
    (reads : recognise.Reads stretch value) :
    pieces recognise stretch = [.hit stretch value] := by
  have alone := pieces_of_reads reads []
  simpa using alone

/-- Nothing is recognised at the start of a text that a local recogniser rejects at the start of a
longer one. -/
theorem IsLocal.none_of_append (isLocal : recognise.IsLocal) {text rest : Text}
    (miss : recognise (text ++ rest) = none) : recognise text = none := by
  cases answer : recognise text with
  | none => rfl
  | some found =>
      obtain ⟨value, covered⟩ := found
      obtain ⟨stretch, tail, rfl, -, reads⟩ := isLocal answer
      rw [List.append_assoc, reads.2] at miss
      cases miss

/-- The pieces of a text cut at a free boundary are those of its two parts. -/
theorem pieces_append (isLocal : recognise.IsLocal) {left right : Text}
    (apart : recognise.Apart left right) :
    pieces recognise (left ++ right) = pieces recognise left ++ pieces recognise right := by
  match left with
  | [] => simp
  | char :: left =>
      cases answer : recognise (char :: left ++ right) with
      | none =>
          have miss : recognise (char :: left) = none := IsLocal.none_of_append isLocal answer
          have tailApart : recognise.Apart left right :=
            apart.mono_left (List.suffix_cons char left)
          rw [List.cons_append] at answer ⊢
          rw [pieces_cons_of_none answer, pieces_cons_of_none miss,
            pieces_append isLocal tailApart, List.cons_append]
      | some found =>
          obtain ⟨value, covered⟩ := found
          obtain ⟨stretch, tail, text_eq, -, reads⟩ := isLocal answer
          rcases List.append_eq_append_iff.1 text_eq with ⟨second, stretch_eq, right_eq⟩ |
            ⟨rest, left_eq, tail_eq⟩
          · -- The stretch would reach into the right text.
            by_cases second_ne : second = []
            · subst second_ne
              rw [List.append_nil] at stretch_eq
              subst stretch_eq
              rw [pieces_of_reads reads, pieces_eq_singleton reads, List.singleton_append]
            · rw [stretch_eq] at reads
              exact absurd reads
                (apart List.suffix_rfl ⟨tail, right_eq.symm⟩ (by simp) second_ne)
          · have shorter : rest.length < (char :: left).length := by
              have positive := List.length_pos_iff.2 reads.1
              have lengths := congrArg List.length left_eq
              simp only [List.length_append] at lengths
              omega
            have restApart : recognise.Apart rest right :=
              apart.mono_left ⟨stretch, left_eq.symm⟩
            rw [left_eq, List.append_assoc, pieces_of_reads reads, pieces_of_reads reads,
              pieces_append isLocal restApart, List.cons_append]
termination_by left.length
decreasing_by
  · exact Nat.lt_succ_self _
  · exact shorter

/-- The pieces of a text hold all its characters in order. -/
theorem flatMap_text_pieces (isLocal : recognise.IsLocal) (text : Text) :
    (pieces recognise text).flatMap Piece.text = text := by
  match text with
  | [] => rfl
  | char :: rest =>
      cases answer : recognise (char :: rest) with
      | none =>
          rw [pieces_cons_of_none answer, List.flatMap_cons, flatMap_text_pieces isLocal rest]
          rfl
      | some found =>
          obtain ⟨value, covered⟩ := found
          obtain ⟨stretch, tail, text_eq, -, reads⟩ := isLocal answer
          have shorter : tail.length < (char :: rest).length := by
            have positive := List.length_pos_iff.2 reads.1
            rw [text_eq, List.length_append]
            omega
          rw [text_eq, pieces_of_reads reads, List.flatMap_cons, flatMap_text_pieces isLocal tail]
          rfl
termination_by text.length
decreasing_by
  · exact Nat.lt_succ_self _
  · exact shorter

/-- Single characters make up their text. -/
theorem Piece.flatMap_singles (text : Text) :
    (text.map (Piece.single (α := α))).flatMap Piece.text = text := by
  rw [List.flatMap_map]
  exact List.flatMap_singleton' text

theorem Piece.value_singles (text : Text) :
    (text.map (Piece.single (α := α))).filterMap Piece.value? = [] := by
  rw [List.filterMap_map]
  exact List.filterMap_eq_nil_iff.2 fun _ _ => rfl

theorem Piece.replaced_singles (replace : α → Text) (text : Text) :
    (text.map Piece.single).flatMap (Piece.replaced replace) = text := by
  rw [List.flatMap_map]
  exact List.flatMap_singleton' text

theorem Piece.changes_singles (replace : α → Text) (text : Text) :
    (text.map Piece.single).countP (Piece.changes replace) = 0 := by
  rw [List.countP_map]
  exact List.countP_eq_zero.2 fun _ _ => by simp [Piece.changes]

/-- A recognised stretch that occurs in a text lies on one side of a boundary that none runs over.
-/
theorem split_of_apart {left right : Text}
    (apart : recognise.Apart left right) {stretch : Text} {value : α}
    (reads : recognise.Reads stretch value) {before after : Text}
    (whole : left ++ right = before ++ (stretch ++ after)) :
    (∃ gap, left = before ++ (stretch ++ gap) ∧ after = gap ++ right) ∨
      ∃ gap, before = left ++ gap ∧ right = gap ++ (stretch ++ after) := by
  rcases List.append_eq_append_iff.1 whole with
    ⟨gap, before_eq, right_eq⟩ | ⟨first, left_eq, tail_eq⟩
  · exact .inr ⟨gap, before_eq, right_eq⟩
  · rcases List.append_eq_append_iff.1 tail_eq with ⟨gap, first_eq, after_eq⟩ |
      ⟨second, stretch_eq, right_eq⟩
    · exact .inl ⟨gap, by rw [left_eq, first_eq], after_eq⟩
    · by_cases first_nil : first = []
      · subst first_nil
        simp only [List.append_nil, List.nil_append] at left_eq stretch_eq
        exact .inr ⟨[], by simp [left_eq], by simp [right_eq, stretch_eq]⟩
      · by_cases second_nil : second = []
        · subst second_nil
          simp only [List.append_nil, List.nil_append] at stretch_eq right_eq
          exact .inl ⟨[], by simp [left_eq, stretch_eq], by simp [right_eq]⟩
        · rw [stretch_eq] at reads
          exact absurd reads (apart ⟨before, left_eq.symm⟩ ⟨after, right_eq.symm⟩ first_nil
            second_nil)

/-! ## Finding, replacing and counting at a free boundary -/

@[simp]
theorem findAll_nil (recognise : Recogniser α) : findAll recognise [] = [] :=
  rfl

theorem findAll_append (isLocal : recognise.IsLocal) {left right : Text}
    (apart : recognise.Apart left right) :
    findAll recognise (left ++ right) = findAll recognise left ++ findAll recognise right := by
  simp only [findAll, pieces_append isLocal apart, List.filterMap_append]

theorem replaceAll_append (isLocal : recognise.IsLocal) {left right : Text}
    (apart : recognise.Apart left right) (replace : α → Text) :
    replaceAll recognise replace (left ++ right) =
      replaceAll recognise replace left ++ replaceAll recognise replace right := by
  simp only [replaceAll, pieces_append isLocal apart, List.flatMap_append]

theorem countChanges_append (isLocal : recognise.IsLocal) {left right : Text}
    (apart : recognise.Apart left right) (replace : α → Text) :
    countChanges recognise replace (left ++ right) =
      countChanges recognise replace left + countChanges recognise replace right := by
  simp only [countChanges, pieces_append isLocal apart, List.countP_append]

theorem findAll_of_reads {stretch : Text} {value : α} (reads : recognise.Reads stretch value)
    (rest : Text) : findAll recognise (stretch ++ rest) = value :: findAll recognise rest := by
  simp [findAll, pieces_of_reads reads, Piece.value?]

theorem replaceAll_of_reads {stretch : Text} {value : α} (reads : recognise.Reads stretch value)
    (replace : α → Text) (rest : Text) :
    replaceAll recognise replace (stretch ++ rest) =
      replace value ++ replaceAll recognise replace rest := by
  simp [replaceAll, pieces_of_reads reads, Piece.replaced]

/-- A replacement that changes no hit changes nothing. -/
theorem replaceAll_eq_self_of_countChanges (isLocal : recognise.IsLocal) {replace : α → Text}
    {text : Text} (unchanged : countChanges recognise replace text = 0) :
    replaceAll recognise replace text = text := by
  have same : ∀ piece ∈ pieces recognise text, piece.replaced replace = piece.text := by
    intro piece member
    have still := List.countP_eq_zero.1 unchanged piece member
    cases piece with
    | single char => rfl
    | hit stretch value => simpa [Piece.changes, Piece.replaced, Piece.text] using still
  calc
    replaceAll recognise replace text = (pieces recognise text).flatMap Piece.text :=
      List.flatMap_congr same
    _ = text := flatMap_text_pieces isLocal text

/-! ## Clear texts -/

namespace Recogniser

theorem Clear.findAll_eq_nil {text : Text} (clear : recognise.Clear text) :
    findAll recognise text = [] := by
  rw [findAll, clear, Piece.value_singles]

theorem Clear.replaceAll_eq_self {text : Text} (clear : recognise.Clear text)
    (replace : α → Text) : replaceAll recognise replace text = text := by
  rw [replaceAll, clear, Piece.replaced_singles]

theorem Clear.countChanges_eq_zero {text : Text} (clear : recognise.Clear text)
    (replace : α → Text) : countChanges recognise replace text = 0 := by
  rw [countChanges, clear, Piece.changes_singles]

/-- A text is clear when no recognised stretch occurs in it. -/
theorem clear_of_not_infix (isLocal : recognise.IsLocal) {text : Text}
    (absent : ∀ stretch value, recognise.Reads stretch value → ¬stretch <:+: text) :
    recognise.Clear text := by
  induction text with
  | nil => rfl
  | cons char rest ih =>
      cases answer : recognise (char :: rest) with
      | none =>
          have restClear : recognise.Clear rest :=
            ih fun stretch value reads inside =>
              absent stretch value reads (List.infix_cons inside)
          rw [Clear, pieces_cons_of_none answer, restClear, List.map_cons]
      | some found =>
          obtain ⟨value, covered⟩ := found
          obtain ⟨stretch, tail, text_eq, -, reads⟩ := isLocal answer
          exact absurd ⟨[], tail, text_eq.symm⟩ (absent stretch value reads)

/-- No recognised stretch occurs in a clear text. -/
theorem Clear.not_infix (isLocal : recognise.IsLocal) {text : Text} (clear : recognise.Clear text)
    {stretch : Text} {value : α} (reads : recognise.Reads stretch value) :
    ¬stretch <:+: text := by
  induction text with
  | nil => simpa using reads.1
  | cons char rest ih =>
      cases answer : recognise (char :: rest) with
      | none =>
          rw [Clear, pieces_cons_of_none answer, List.map_cons, List.cons.injEq] at clear
          rw [List.infix_cons_iff]
          rintro (⟨after, whole⟩ | inside)
          · rw [← whole, reads.2] at answer
            cases answer
          · exact ih clear.2 inside
      | some found =>
          obtain ⟨other, covered⟩ := found
          obtain ⟨front, tail, text_eq, -, otherReads⟩ := isLocal answer
          rw [Clear, text_eq, pieces_of_reads otherReads] at clear
          obtain ⟨first, more, front_eq⟩ := List.exists_cons_of_ne_nil otherReads.1
          rw [front_eq, List.cons_append, List.map_cons, List.cons.injEq] at clear
          cases clear.1

end Recogniser

/-! ## Induction along the hits -/

/-- A text without hits, or the stretch before the first hit, the hit and the rest. -/
theorem clear_or_first_hit (isLocal : recognise.IsLocal) (text : Text) :
    recognise.Clear text ∨
      ∃ before stretch value rest, text = before ++ (stretch ++ rest) ∧
        recognise.Clear before ∧ recognise.Reads stretch value ∧
        recognise.Apart before (stretch ++ rest) := by
  induction text with
  | nil => exact .inl rfl
  | cons char text ih =>
      cases answer : recognise (char :: text) with
      | some found =>
          obtain ⟨value, covered⟩ := found
          obtain ⟨stretch, rest, text_eq, -, reads⟩ := isLocal answer
          exact .inr ⟨[], stretch, value, rest, text_eq, rfl, reads, Apart.nil_left _⟩
      | none =>
          rcases ih with clear | ⟨before, stretch, value, rest, rfl, clear, reads, apart⟩
          · left
            rw [Recogniser.Clear, pieces_cons_of_none answer, clear, List.map_cons]
          · refine .inr ⟨char :: before, stretch, value, rest, rfl, ?_, reads, ?_⟩
            · have miss : recognise (char :: before) = none :=
                IsLocal.none_of_append isLocal answer
              rw [Recogniser.Clear, pieces_cons_of_none miss, clear, List.map_cons]
            · -- A stretch from `char` on would have been recognised there.
              have atChar : recognise.Apart [char] (before ++ (stretch ++ rest)) := by
                rintro first second other ends ⟨after, right_eq⟩ first_ne _ otherReads
                have first_eq : first = [char] := by
                  rcases List.suffix_cons_iff.1 ends with whole | inside
                  · exact whole
                  · exact absurd (List.suffix_nil.1 inside) first_ne
                have whole : char :: (before ++ (stretch ++ rest)) = first ++ second ++ after := by
                  rw [first_eq, List.append_assoc, right_eq, List.singleton_append]
                rw [whole, otherReads.2] at answer
                cases answer
              exact atChar.append_left apart

/-- A text in which nothing is found is clear. -/
theorem clear_of_findAll_eq_nil (isLocal : recognise.IsLocal) {text : Text}
    (nothing : findAll recognise text = []) : recognise.Clear text := by
  rcases clear_or_first_hit isLocal text with isClear |
    ⟨before, stretch, value, rest, rfl, -, reads, apart⟩
  · exact isClear
  · rw [findAll_append isLocal apart, findAll_of_reads reads] at nothing
    simp at nothing

/-- Induction along the hits of a local recogniser. -/
theorem hits_induction (isLocal : recognise.IsLocal) {motive : Text → Prop}
    (clear : ∀ text, recognise.Clear text → motive text)
    (hit : ∀ before stretch value rest, recognise.Clear before → recognise.Reads stretch value →
      recognise.Apart before (stretch ++ rest) → motive rest →
      motive (before ++ (stretch ++ rest)))
    (text : Text) : motive text := by
  rcases clear_or_first_hit isLocal text with isClear |
    ⟨before, stretch, value, rest, text_eq, isClear, reads, apart⟩
  · exact clear text isClear
  · have shorter : rest.length < text.length := by
      have positive := List.length_pos_iff.2 reads.1
      rw [text_eq, List.length_append, List.length_append]
      omega
    rw [text_eq]
    exact hit before stretch value rest isClear reads apart
      (hits_induction isLocal clear hit rest)
termination_by text.length

/-- Every hit of a local recogniser is a stretch that it reads. -/
theorem reads_of_hit_mem_pieces (isLocal : recognise.IsLocal) {text stretch : Text} {value : α}
    (member : .hit stretch value ∈ pieces recognise text) : recognise.Reads stretch value := by
  induction text using hits_induction isLocal with
  | clear text isClear =>
      rw [isClear] at member
      obtain ⟨char, -, same⟩ := List.mem_map.1 member
      cases same
  | hit before found other rest isClear reads apart ih =>
      rw [pieces_append isLocal apart, isClear, pieces_of_reads reads] at member
      rcases List.mem_append.1 member with inGap | here
      · obtain ⟨char, -, same⟩ := List.mem_map.1 inGap
        cases same
      · rcases List.mem_cons.1 here with same | later
        · cases same
          exact reads
        · exact ih later

end DeclLinker.Text
