import DeclLinker.Proofs.Console.Markup

/-!
# Styles over what they cover

A styled text is laid out in parts, which end at line feeds and at tabs, and a span is laid out in
every part that it meets.  So a style that cannot be read does no harm where it covers nothing but
line feeds, if the text has several parts.  A text can be laid out exactly when each of its styles
can be over what it covers.
-/

namespace DeclLinker

namespace Console

open Text

/-! ## The parts of a text -/

/-- Among the rest of a text a character other than a line feed is its first one, or stands
behind it. -/
theorem exists_getElem?_sub_iff {place position : Nat} {char : Char} {rest : Text} :
    (position ≤ place ∧ ∃ other, (char :: rest)[place - position]? = some other ∧ other ≠ '\n') ↔
      place = position ∧ char ≠ '\n' ∨ position + 1 ≤ place ∧
        ∃ other, rest[place - (position + 1)]? = some other ∧ other ≠ '\n' := by
  rcases lt_trichotomy place position with before | here | behind
  · omega
  · have later : ¬position + 1 ≤ position := Nat.not_succ_le_self position
    simp [here, later]
  · have index : place - position = place - (position + 1) + 1 := by omega
    rw [index, List.getElem?_cons_succ]
    constructor
    · rintro ⟨-, other⟩
      exact .inr ⟨behind, other⟩
    · rintro (⟨here, -⟩ | ⟨-, other⟩)
      · omega
      · exact ⟨behind.le, other⟩

/-- The parts of a text hold every character but the line feeds. -/
theorem exists_mem_partsFrom_iff {place start position : Nat} (started : start ≤ position)
    (text : Text) :
    (∃ part ∈ partsFrom start position text, part.1 ≤ place ∧ place < part.2) ↔
      (start ≤ place ∧ place < position) ∨
        position ≤ place ∧ ∃ char, text[place - position]? = some char ∧ char ≠ '\n' := by
  induction text generalizing start position with
  | nil => simp [partsFrom]
  | cons char rest ih =>
      have nothing : ¬(position + 1 ≤ place ∧ place < position + 1) := by omega
      have longer : (start ≤ place ∧ place < position + 1) ↔
          (start ≤ place ∧ place < position) ∨ place = position := by omega
      rw [exists_getElem?_sub_iff, partsFrom]
      by_cases feed : char = '\n'
      · simp only [if_pos feed, List.mem_cons, exists_eq_or_imp, ih le_rfl, nothing, false_or]
        simp [feed]
      · by_cases tab : char = '\t'
        · rw [if_neg feed, if_pos tab]
          simp only [List.mem_cons, exists_eq_or_imp, ih le_rfl, nothing, false_or, longer,
            or_assoc, ne_eq, feed, not_false_eq_true, and_true]
        · rw [if_neg feed, if_neg tab, ih (by omega)]
          simp only [longer, or_assoc, ne_eq, feed, not_false_eq_true, and_true]

theorem length_partsFrom (start position : Nat) (text : Text) :
    (partsFrom start position text).length =
      text.countP (fun char => char == '\n' || char == '\t') + 1 := by
  induction text generalizing start position with
  | nil => rfl
  | cons char rest ih =>
      by_cases feed : char = '\n'
      · simp [partsFrom, feed, ih]
      · by_cases tab : char = '\t'
        · simp [partsFrom, tab, ih]
        · simp [partsFrom, feed, tab, ih]

/-- A text has several parts exactly when it has a line feed or a tab. -/
theorem exists_partsFrom_eq_singleton_iff (text : Text) :
    (∃ part, partsFrom 0 0 text = [part]) ↔ ¬('\n' ∈ text ∨ '\t' ∈ text) := by
  rw [← List.length_eq_one_iff, length_partsFrom, Nat.add_eq_right, List.countP_eq_zero]
  constructor
  · rintro none (feed | tab)
    · exact none _ feed rfl
    · exact none _ tab rfl
  · rintro none char member
    simp only [Bool.or_eq_true, beq_iff_eq]
    rintro (rfl | rfl)
    · exact none (.inl member)
    · exact none (.inr member)

/-! ## What a span covers -/

variable {span : Span} {text : Text}

theorem Span.meets_iff {part : Nat × Nat} :
    span.meets part = true ↔
      ∃ place, (span.start ≤ place ∧ place < span.stop) ∧ part.1 ≤ place ∧ place < part.2 := by
  simp only [meets, Bool.and_eq_true, decide_eq_true_eq]
  constructor
  · intro meeting
    exact ⟨max span.start part.1, by omega, by omega⟩
  · rintro ⟨place, inSpan, inPart⟩
    omega

/-- What a span covers of a text. -/
def Span.covered (text : Text) (span : Span) : Text :=
  (text.take span.stop).drop span.start

theorem Span.mem_covered_iff {char : Char} :
    char ∈ span.covered text ↔
      ∃ place, (span.start ≤ place ∧ place < span.stop) ∧ text[place]? = some char := by
  simp only [covered, List.mem_iff_getElem?, List.getElem?_drop, List.getElem?_take,
    Option.ite_none_right_eq_some]
  constructor
  · rintro ⟨index, below, found⟩
    exact ⟨span.start + index, ⟨Nat.le_add_right _ _, below⟩, found⟩
  · rintro ⟨place, ⟨above, below⟩, found⟩
    refine ⟨place - span.start, ?_⟩
    rw [Nat.add_sub_cancel' above]
    exact ⟨below, found⟩

/-- A span meets a part of a text exactly when it covers more than line feeds. -/
theorem Span.exists_meets_iff :
    (∃ part ∈ partsFrom 0 0 text, span.meets part = true) ↔
      ¬∀ char ∈ span.covered text, char = '\n' := by
  have inPart : ∀ place, (∃ part ∈ partsFrom 0 0 text, part.1 ≤ place ∧ place < part.2) ↔
      ∃ char, text[place]? = some char ∧ char ≠ '\n' := by
    intro place
    rw [exists_mem_partsFrom_iff le_rfl]
    simp
  simp only [meets_iff, mem_covered_iff, not_forall, exists_prop]
  constructor
  · rintro ⟨part, listed, place, covered, within⟩
    obtain ⟨char, found, other⟩ := (inPart place).mp ⟨part, listed, within⟩
    exact ⟨char, ⟨place, covered, found⟩, other⟩
  · rintro ⟨char, ⟨place, covered, found⟩, other⟩
    obtain ⟨part, listed, within⟩ := (inPart place).mpr ⟨char, found, other⟩
    exact ⟨part, listed, place, covered, within⟩

/-! ## Styles that can be laid out -/

/-- A style can be laid out over what it covers: its words can be read, or they are left unread, as
it covers at most line feeds of a text that has several parts. -/
def Markup.Legible (shown : Text) (styled : Text × Text) : Prop :=
  (∃ style?, Style.ofText? styled.1 = .ok style?) ∨
    ('\n' ∈ shown ∨ '\t' ∈ shown) ∧ ∀ char ∈ styled.2, char = '\n'

theorem Span.fault?_eq_none_iff :
    span.fault? = none ↔ ∃ style?, Style.ofText? span.style = .ok style? := by
  unfold fault?
  cases Style.ofText? span.style with
  | error fault => simp
  | ok style? => simp

/-- A text can be laid out exactly when each of its styles can be over what it covers. -/
theorem Styled.fault?_eq_none_iff {styled : Styled} :
    styled.fault? = none ↔ ∀ span ∈ styled.spans,
      Markup.Legible styled.text (span.style, span.covered styled.text) := by
  have several := exists_partsFrom_eq_singleton_iff styled.text
  simp only [Markup.Legible, ← Span.fault?_eq_none_iff]
  unfold fault?
  split
  · rename_i none_faulty
    rw [List.filter_eq_nil_iff] at none_faulty
    simp only [Option.not_isSome_iff_eq_none] at none_faulty
    simp +contextual [none_faulty]
  · split
    · rename_i part single
      have whole := several.mp ⟨part, single⟩
      simp only [List.findSome?_eq_none_iff, List.mem_filter, and_imp, whole, false_and, or_false]
      refine forall₂_congr fun span _ => ?_
      cases span.fault? <;> simp
    · rename_i parts_ne
      have breaks : '\n' ∈ styled.text ∨ '\t' ∈ styled.text :=
        not_not.mp fun whole => (several.mpr whole).elim parts_ne
      simp only [List.findSome?_eq_none_iff, List.mem_filter, and_imp, breaks, true_and]
      constructor
      · intro unmet span listed
        cases fault : span.fault? with
        | none => exact .inl rfl
        | some numeral =>
            refine .inr (not_not.mp fun more => ?_)
            obtain ⟨part, inText, meeting⟩ := Span.exists_meets_iff.mpr more
            cases fault.symm.trans (unmet part inText span listed (by simp [fault]) meeting)
      · intro legible part inText span listed faulty meeting
        refine (legible span listed).resolve_right fun feeds => ?_
        exact Span.exists_meets_iff.mp ⟨part, inText, meeting⟩ feeds

end Console

end DeclLinker
