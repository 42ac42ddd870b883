import DeclLinker.Proofs.Repair.Shape
import DeclLinker.Proofs.Source.Scan

/-!
# Repairs and placeholders do not meet

A match of a structural rule holds no slash and ends in a character that no placeholder holds, and
so does the text that replaces it.  No placeholder can run over either of them, so repairing a text
keeps the references recognised in it, and every placeholder of the repaired text stands between
parts that are repairs of what stood around it before.
-/

namespace DeclLinker

namespace Reference

open Text

/-- No placeholder runs from before into a stretch without slashes that a foreign character ends. -/
theorem apart_of_fence {fence : Text} {close : Char} (noSlash : '/' ∉ fence)
    (foreign : ∀ reference : Reference, reference.Spelled → close ∉ reference.text)
    (left right : Text) : Recogniser.Apart recognise left (fence ++ close :: right) := by
  rintro first second reference - ⟨after, right_eq⟩ - second_ne reads
  obtain ⟨spelled, stretch_eq⟩ := reads_iff.1 reads
  obtain ⟨front, rfl⟩ := exists_slash_of_suffix stretch_eq.symm second_ne
  rcases List.append_eq_append_iff.1 right_eq with
    ⟨middle, fence_eq, -⟩ | ⟨middle, second_eq, tail_eq⟩
  · exact noSlash (by simp [fence_eq])
  · cases middle with
    | nil =>
        rw [List.append_nil] at second_eq
        exact noSlash (by simp [← second_eq])
    | cons char middle =>
        rw [List.cons_append, List.cons.injEq] at tail_eq
        refine foreign reference spelled ?_
        rw [← stretch_eq, second_eq, tail_eq.1]
        simp

theorem clear_of_slash_not_mem {text : Text} (noSlash : '/' ∉ text) :
    Recogniser.Clear recognise text := by
  refine Recogniser.clear_of_not_infix recognise_isLocal ?_
  intro stretch reference reads inside
  obtain ⟨-, rfl⟩ := reads_iff.1 reads
  exact noSlash (inside.subset (by simp [text_eq]))

/-- Nothing is recognised in a stretch without slashes that a foreign character ends. -/
theorem pieces_fence {fence : Text} {close : Char} (noSlash : '/' ∉ fence)
    (foreign : ∀ reference : Reference, reference.Spelled → close ∉ reference.text)
    (left right : Text) :
    pieces recognise (left ++ (fence ++ close :: right)) =
      pieces recognise left ++ ((fence ++ [close]).map .single ++ pieces recognise right) := by
  have before := apart_of_fence noSlash foreign left right
  have behind := apart_of_foreign_before foreign fence right
  have notSlash : '/' ≠ close := by
    rintro rfl
    exact foreign ⟨['a'], ['a']⟩ ⟨by decide, by decide, by decide, by decide⟩ (by decide)
  have nothing : Recogniser.Clear recognise (fence ++ [close]) :=
    clear_of_slash_not_mem (by simp [noSlash, notSlash])
  rw [pieces_append recognise_isLocal before, List.append_cons fence close right,
    pieces_append recognise_isLocal behind, nothing]

/-- A stretch without slashes that a foreign character ends can be cut out of the search. -/
theorem findAll_fence {fence : Text} {close : Char} (noSlash : '/' ∉ fence)
    (foreign : ∀ reference : Reference, reference.Spelled → close ∉ reference.text)
    (left right : Text) :
    findAll recognise (left ++ (fence ++ close :: right)) =
      findAll recognise left ++ findAll recognise right := by
  simp only [findAll, pieces_fence noSlash foreign, List.filterMap_append, Piece.value_singles,
    List.nil_append]

end Reference

namespace Rule

open Text

theorem foreign_of_mem_closers {close : Char} (member : close ∈ closers) :
    ∀ reference : Reference, reference.Spelled → close ∉ reference.text := by
  intro reference spelled inside
  have chars := spelled.text_chars inside
  simp only [closers, List.mem_cons, List.not_mem_nil, or_false] at member
  rcases member with rfl | rfl | rfl <;> exact absurd chars (by decide)

/-- A stretch between a first and a closing character, without slashes. -/
def Framed (head close : Char) (stretch : Text) : Prop :=
  ∃ middle, '/' ∉ middle ∧ stretch = head :: (middle ++ [close])

theorem slash_not_mem_of_inner {text : Text} (inner : ∀ char ∈ text, isInner char = true) :
    '/' ∉ text := by
  intro member
  exact absurd (inner '/' member) (by decide)

theorem slash_not_mem_of_blank {text : Text} (allBlank : ∀ char ∈ text, isBlank char = true) :
    '/' ∉ text := by
  intro member
  exact absurd (allBlank '/' member) (by decide)

theorem slash_not_mem_of_word {text : Text} (allWord : ∀ char ∈ text, isWord char = true) :
    '/' ∉ text := by
  intro member
  exact absurd (allWord '/' member) (by decide)

theorem constantOpening_eq :
    constantOpening = ['e', 'x', 'p', 'o', 'r', 't', ' ', 'c', 'o', 'n', 's', 't', ' '] :=
  rfl

theorem constantValue_eq : constantValue = [' ', '=', ' ', 'a', 'n', 'y', ';'] :=
  rfl

theorem constantRepair_eq :
    constantRepair = [':', ' ', 'u', 'n', 'k', 'n', 'o', 'w', 'n', ' ', '=', ' ', 'n', 'u', 'l',
      'l', ';'] :=
  rfl

/-- A match and its repair start and end alike, and neither holds a slash. -/
theorem Matches.framed {rule : Rule} (regular : rule.isRegular = true) {stretch repair : Text}
    (matched : rule.Matches stretch repair) :
    ∃ head close, (head = ':' ∨ head = 'e') ∧ close ∈ closers ∧ Framed head close stretch ∧
      Framed head close repair := by
  cases matched with
  | @field written close repaired lead trail leadBlank trailBlank =>
      have shape := regularField_of_isRegular regular
      obtain ⟨middle, repair_eq, middleInner⟩ := shape.repaired_eq
      refine ⟨':', close, .inl rfl, shape.close_mem,
        ⟨lead ++ (written ++ trail), ?_, by simp⟩,
        ⟨middle, slash_not_mem_of_inner middleInner, repair_eq⟩⟩
      simp [slash_not_mem_of_blank leadBlank, slash_not_mem_of_blank trailBlank,
        slash_not_mem_of_inner shape.written_inner]
  | @constant name name_ne nameWord =>
      have nameFree := slash_not_mem_of_word nameWord
      refine ⟨'e', ';', .inr rfl, by decide,
        ⟨"xport const ".toList ++ (name ++ " = any".toList), ?_, ?_⟩,
        ⟨"xport const ".toList ++ (name ++ ": unknown = null".toList), ?_, ?_⟩⟩
      · simp [nameFree]
      · simp [constantOpening_eq, constantValue_eq]
      · simp [nameFree]
      · simp [constantOpening_eq, constantRepair_eq]

theorem Framed.pieces_around {head close : Char} {stretch : Text}
    (framed : Framed head close stretch) (notSlash : head ≠ '/') (close_mem : close ∈ closers)
    (left right : Text) :
    pieces Reference.recognise (left ++ (stretch ++ right)) =
      pieces Reference.recognise left ++
        (stretch.map .single ++ pieces Reference.recognise right) := by
  obtain ⟨middle, noSlash, rfl⟩ := framed
  have fence : '/' ∉ head :: middle := by simp [noSlash, Ne.symm notSlash]
  have cut := Reference.pieces_fence fence (foreign_of_mem_closers close_mem) left right
  simpa using cut

theorem Framed.findAll_around {head close : Char} {stretch : Text}
    (framed : Framed head close stretch) (notSlash : head ≠ '/') (close_mem : close ∈ closers)
    (left right : Text) :
    findAll Reference.recognise (left ++ (stretch ++ right)) =
      findAll Reference.recognise left ++ findAll Reference.recognise right := by
  simp only [findAll, framed.pieces_around notSlash close_mem, List.filterMap_append,
    Piece.value_singles, List.nil_append]

/-- One text is the other with some matches of a rule repaired. -/
inductive Mended (rule : Rule) : (text mended : Text) → Prop where
  | same (text : Text) : Mended rule text text
  | next (before : Text) {stretch repair rest mended : Text}
      (matched : rule.Matches stretch repair) (later : Mended rule rest mended) :
      Mended rule (before ++ (stretch ++ rest)) (before ++ (repair ++ mended))

theorem apply_of_hit {rule : Rule} (regular : rule.isRegular = true) {before stretch repair : Text}
    (isClear : Recogniser.Clear rule.recognise before)
    (reads : Recogniser.Reads rule.recognise stretch repair) {rest : Text}
    (apart : Recogniser.Apart rule.recognise before (stretch ++ rest)) :
    rule.apply (before ++ (stretch ++ rest)) = before ++ (repair ++ rule.apply rest) := by
  rw [apply, replaceAll_append (recognise_isLocal regular) apart, isClear.replaceAll_eq_self,
    replaceAll_of_reads reads, apply, id]

theorem mended_apply {rule : Rule} (regular : rule.isRegular = true) (text : Text) :
    rule.Mended text (rule.apply text) := by
  induction text using hits_induction (recognise_isLocal regular) with
  | clear text isClear =>
      rw [apply, isClear.replaceAll_eq_self]
      exact .same text
  | hit before stretch repair rest isClear reads apart ih =>
      rw [apply_of_hit regular isClear reads apart]
      exact .next before ((reads_iff regular).1 reads) ih

theorem apply_eq_self_of_count {rule : Rule} (regular : rule.isRegular = true) {text : Text}
    (unchanged : rule.count text = 0) : rule.apply text = text :=
  replaceAll_eq_self_of_countChanges (recognise_isLocal regular) unchanged

/-- Repairs keep the references recognised in a text. -/
theorem Mended.findAll_eq {rule : Rule} (regular : rule.isRegular = true) {text mended : Text}
    (repairs : rule.Mended text mended) :
    findAll Reference.recognise mended = findAll Reference.recognise text := by
  induction repairs with
  | same text => rfl
  | next before matched later ih =>
      obtain ⟨head, close, heads, close_mem, old, new⟩ := matched.framed regular
      have notSlash : head ≠ '/' := by rcases heads with rfl | rfl <;> decide
      rw [old.findAll_around notSlash close_mem, new.findAll_around notSlash close_mem, ih]

end Rule

namespace Repaired

open Text

theorem text_ofRules (rules : List Rule) (text : Text) :
    (ofRules rules text).text = rules.foldl (fun text rule => rule.apply text) text :=
  (List.foldl_hom Repaired.text fun _ _ => rfl).symm

/-- A property that every rule of a list keeps is kept by applying the list. -/
theorem ofRules_induction {motive : Text → Prop} {rules : List Rule}
    (step : ∀ rule ∈ rules, ∀ text, motive text → motive (rule.apply text)) {text : Text}
    (start : motive text) : motive (ofRules rules text).text := by
  rw [text_ofRules]
  exact List.foldlRecOn rules _ start fun text holds rule member => step rule member text holds

/-- Rules that change nothing one by one change nothing together. -/
theorem count_ofRules_eq_zero_iff {rules : List Rule}
    (regular : ∀ rule ∈ rules, rule.isRegular = true) (text : Text) :
    (ofRules rules text).count = 0 ↔ ∀ rule ∈ rules, rule.count text = 0 := by
  have general : ∀ (rules : List Rule) (repaired : Repaired),
      (∀ rule ∈ rules, rule.isRegular = true) →
        ((rules.foldl step repaired).count = 0 ↔
          repaired.count = 0 ∧ ∀ rule ∈ rules, rule.count repaired.text = 0) := by
    intro rules
    induction rules with
    | nil => simp
    | cons rule rules ih =>
        intro repaired regular
        have ruleRegular := regular rule List.mem_cons_self
        rw [List.foldl_cons, ih _ fun other member => regular other (.tail rule member)]
        simp only [step, List.forall_mem_cons, Nat.add_eq_zero_iff]
        constructor
        · rintro ⟨⟨counted, unchanged⟩, later⟩
          rw [Rule.apply_eq_self_of_count ruleRegular unchanged] at later
          exact ⟨counted, unchanged, later⟩
        · rintro ⟨counted, unchanged, later⟩
          rw [Rule.apply_eq_self_of_count ruleRegular unchanged]
          exact ⟨⟨counted, unchanged⟩, later⟩
  have whole := general rules ⟨text, 0⟩ regular
  simpa [ofRules] using whole

theorem ofRules_eq_self {rules : List Rule} (regular : ∀ rule ∈ rules, rule.isRegular = true)
    {text : Text} (unchanged : ∀ rule ∈ rules, rule.count text = 0) :
    ofRules rules text = ⟨text, 0⟩ := by
  induction rules with
  | nil => rfl
  | cons rule rules ih =>
      have here := unchanged rule List.mem_cons_self
      have same : step ⟨text, 0⟩ rule = ⟨text, 0⟩ := by
        rw [step, here, Rule.apply_eq_self_of_count (regular rule List.mem_cons_self) here]
      rw [ofRules, List.foldl_cons, same]
      exact ih (fun other member => regular other (.tail rule member))
        fun other member => unchanged other (.tail rule member)

/-- The built-in rules keep the references recognised in a text. -/
theorem findAll_ofRules (text : Text) :
    findAll Reference.recognise (ofRules Rule.builtin text).text =
      findAll Reference.recognise text := by
  refine ofRules_induction (motive := fun repaired =>
    findAll Reference.recognise repaired = findAll Reference.recognise text) ?_ rfl
  intro rule member repaired same
  have regular := Rule.isRegular_of_mem_builtin member
  rw [(Rule.mended_apply regular repaired).findAll_eq regular, same]

end Repaired

end DeclLinker
