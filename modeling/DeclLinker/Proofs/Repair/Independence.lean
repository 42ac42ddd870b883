import DeclLinker.Proofs.Repair.Steady
import Mathlib.Data.List.Perm.Basic

/-!
# The built-in rules are independent

Two different built-in rules never meet: no match of the one starts inside a match or a repair of
the other, and none runs into it from before.  So a rule finds the same stretches before and after
the other one was applied, the two can be applied in either order, and each changes as many
stretches as it would change alone.

What the table has to show for this is one comparison for every two rules.  Blanks may stand on both
sides of a written type, so the comparison leaves all blanks out: behind the colon, what the one
rule looks for and what the other one matches or writes differ from the start on.
-/

namespace DeclLinker

namespace Text

/-- The characters of a text that are no blanks. -/
def solid (text : Text) : Text :=
  text.filter fun char => !isBlank char

theorem solid_append (first second : Text) :
    solid (first ++ second) = solid first ++ solid second :=
  List.filter_append _ _

theorem solid_of_blank {text : Text} (allBlank : ∀ char ∈ text, isBlank char = true) :
    solid text = [] :=
  List.filter_eq_nil_iff.2 fun char member => by simp [allBlank char member]

theorem solid_colon (text : Text) : solid (':' :: text) = ':' :: solid text :=
  List.filter_cons_of_pos (by decide)

end Text

namespace Rule

open Text

variable {rule other : Rule} {stretch repair : Text}

/-! ## Where no match starts -/

theorem Misses.tail {char : Char} {core : Text} (misses : rule.Misses (char :: core)) :
    rule.Misses core := by
  intro front back rest stretch repair core_eq
  exact misses (char :: front) back rest stretch repair (by rw [core_eq, List.cons_append])

/-- A rule cuts a text that it misses into single characters. -/
theorem Misses.pieces_append (regular : rule.isRegular = true) {core : Text}
    (misses : rule.Misses core) (rest : Text) :
    pieces rule.recognise (core ++ rest) = core.map .single ++ pieces rule.recognise rest := by
  induction core with
  | nil => rfl
  | cons char core ih =>
      have miss : rule.recognise (char :: (core ++ rest)) = none := by
        cases answer : rule.recognise (char :: (core ++ rest)) with
        | none => rfl
        | some found =>
            obtain ⟨repair, covered⟩ := found
            obtain ⟨stretch, after, text_eq, -, reads⟩ := recognise_isLocal regular answer
            exact absurd ⟨after, text_eq.symm⟩ (misses [] (char :: core) rest stretch repair rfl
              (List.cons_ne_nil _ _) ((reads_iff regular).1 reads))
      rw [List.cons_append, pieces_cons_of_none miss, ih misses.tail, List.map_cons,
        List.cons_append]

/-- Without its blanks, a match for a field type is a colon, the type and the closing character. -/
theorem solid_eq_of_matches {written repaired : Text} {close : Char}
    (matched : (field written close repaired).Matches stretch repair) :
    solid stretch = ':' :: solid (written ++ [close]) := by
  cases matched with
  | field leadBlank trailBlank =>
      simp [solid_colon, solid_append, solid_of_blank leadBlank, solid_of_blank trailBlank]

/-- A rule for a field type misses a text whose only colon is followed by something else. -/
theorem misses_of_diverge {written repaired lead tail : Text} {close : Char}
    (leadColon : ':' ∉ lead) (tailColon : ':' ∉ tail)
    (apart : diverge (solid (written ++ [close])) (solid tail) = true) :
    (field written close repaired).Misses (lead ++ ':' :: tail) := by
  intro front back rest stretch repair core_eq back_ne matched starts
  obtain ⟨other, rfl⟩ := colon_of_prefix matched back_ne starts
  obtain ⟨rfl, -, rfl⟩ := (List.append_cons_inj_of_notMem leadColon tailColon).1 core_eq
  obtain ⟨after, whole⟩ := starts
  have solid_eq := congrArg solid whole
  rw [List.cons_append, solid_append stretch, solid_eq_of_matches matched, solid_colon,
    solid_append tail, List.cons_append, List.cons.injEq] at solid_eq
  exact diverge_ne apart (solid after) (solid rest) solid_eq.2

theorem misses_of_colon_not_mem {written repaired core : Text} {close : Char}
    (noColon : ':' ∉ core) : (field written close repaired).Misses core := by
  rintro front back rest stretch repair rfl back_ne matched starts
  obtain ⟨tail, rfl⟩ := colon_of_prefix matched back_ne starts
  exact noColon (by simp)

/-- A rule misses lines without colons and equals signs. -/
theorem misses_of_unmarked {core : Text} (noColon : ':' ∉ core) (noSign : '=' ∉ core)
    (closed : core.getLast? = some '\n') (rule : Rule) : rule.Misses core := by
  cases rule with
  | field written close repaired => exact misses_of_colon_not_mem noColon
  | constant => exact constant_misses (show isStop '\n' = true by decide) closed noSign

/-! ## Two rules -/

/-- A match for a field type holds no equals sign. -/
theorem sign_not_mem {written repaired : Text} {close : Char}
    (shape : RegularField written close repaired)
    (matched : (field written close repaired).Matches stretch repair) : '=' ∉ stretch := by
  cases matched with
  | @field _ _ _ lead trail leadBlank trailBlank =>
      have inLead : '=' ∉ lead := fun member => absurd (leadBlank '=' member) (by decide)
      have inTrail : '=' ∉ trail := fun member => absurd (trailBlank '=' member) (by decide)
      have inWritten : '=' ∉ written :=
        fun member => absurd (shape.written_inner '=' member) (by decide)
      have notClose : '=' ≠ close := by
        rintro rfl
        exact absurd shape.close_mem (by decide)
      simp [inLead, inTrail, inWritten, notClose]

/-- A match for constants does not end inside another one. -/
theorem constant_overlap {name otherName first rest : Text}
    (nameWord : ∀ char ∈ name, isWord char = true)
    (otherWord : ∀ char ∈ otherName, isWord char = true)
    (whole : constantOpening ++ (name ++ constantValue) =
      first ++ (constantOpening ++ (otherName ++ (" = any".toList ++ rest)))) : first = [] := by
  have noSign : '=' ∉ name := fun member => absurd (nameWord '=' member) (by decide)
  have blankFree : ∀ run : Text, (∀ char ∈ run, isWord char = true) → ' ' ∉ run :=
    fun run allWord member => absurd (allWord ' ' member) (by decide)
  -- Both texts hold one equals sign, so they agree up to it.
  have leads : constantOpening ++ (name ++ [' ']) =
      first ++ (constantOpening ++ (otherName ++ [' '])) := by
    have cut : (constantOpening ++ (name ++ [' '])) ++ '=' :: " any;".toList =
        (first ++ (constantOpening ++ (otherName ++ [' ']))) ++ '=' :: (" any".toList ++ rest) := by
      simpa [constantValue_eq] using whole
    refine ((List.append_cons_inj_of_notMem ?_ (by decide)).1 cut).1
    simp [constantOpening_eq, noSign]
  -- And behind the last blank before it stands the name.
  have names : "export const".toList ++ ' ' :: name =
      (first ++ "export const".toList) ++ ' ' :: otherName := by
    refine (List.append_left_inj [' ']).1 ?_
    simpa [constantOpening_eq] using leads
  have cut := congrArg (splitLast? ' ') names
  rw [splitLast?_append (blankFree name nameWord),
    splitLast?_append (blankFree otherName otherWord)] at cut
  exact List.append_left_eq_self.1 (Prod.mk.inj (Option.some.inj cut)).1.symm

/-- No match of a rule runs into a match of the same or another rule from before. -/
theorem Matches.apart_match (regular : rule.isRegular = true)
    (matched : other.Matches stretch repair) (before rest : Text) :
    Recogniser.Apart rule.recognise before (stretch ++ rest) := by
  rintro first second value - ⟨after, right_eq⟩ first_ne second_ne reads
  have crossing := (reads_iff regular).1 reads
  obtain ⟨⟨head, tail, whole, noColon⟩, front, close, ends, close_mem⟩ := crossing.edges regular
  cases matched with
  | field leadBlank trailBlank =>
      obtain ⟨char, first, rfl⟩ := List.exists_cons_of_ne_nil first_ne
      obtain ⟨start, second, rfl⟩ := List.exists_cons_of_ne_nil second_ne
      rw [List.cons_append, List.cons_append, List.cons.injEq] at right_eq
      rw [List.cons_append, List.cons.injEq] at whole
      exact noColon (by simp [← whole.2, right_eq.1])
  | @constant name name_ne nameWord =>
      have closes : close ∈ second := by
        have last_eq := congrArg List.getLast? ends
        rw [List.getLast?_append_of_ne_nil _ second_ne, List.getLast?_concat] at last_eq
        exact List.mem_of_getLast? last_eq
      obtain ⟨inner, stretch_eq, sign, unstopped⟩ :=
        constant_front (.constant name_ne nameWord)
      have inner_eq : inner = constantOpening ++ (name ++ " = any".toList) := by
        refine (List.append_left_inj [';']).1 ?_
        rw [← stretch_eq]
        simp [constantValue_eq]
      rw [stretch_eq, List.append_assoc] at right_eq
      rcases List.append_eq_append_iff.1 right_eq with ⟨gap, short, -⟩ | ⟨gap, second_eq, -⟩
      · exact absurd (unstopped close (by simp [short, closes]))
          (by simp [isStop_of_mem_closers close_mem])
      · -- The part behind the boundary reaches the equals sign.
        cases rule with
        | field written ruleClose repaired =>
            exact sign_not_mem (regularField_of_isRegular regular) crossing
              (by simp [second_eq, sign])
        | constant =>
            generalize crossing_eq : first ++ second = found at crossing
            cases crossing with
            | @constant otherName otherName_ne otherWord =>
                have whole : constantOpening ++ (otherName ++ constantValue) =
                    first ++ (constantOpening ++ (name ++ (" = any".toList ++ gap))) := by
                  rw [← crossing_eq, second_eq, inner_eq]
                  simp
                exact first_ne (constant_overlap otherWord nameWord whole)

/-- Whether, without blanks, what a rule for a field type looks for differs from the start on from
all that another rule matches or writes behind a colon. -/
def differs : (rule other : Rule) → Bool
  | .field written close _, .field otherWritten otherClose otherRepaired =>
      diverge (solid (written ++ [close])) (solid (otherWritten ++ [otherClose])) &&
        diverge (solid (written ++ [close])) (solid otherRepaired.tail)
  | .field written close _, .constant =>
      diverge (solid (written ++ [close])) (solid constantRepair.tail)
  | .constant, _ => true

theorem differs_of_ne (one : rule ∈ builtin) (two : other ∈ builtin) (distinct : rule ≠ other) :
    rule.differs other = true := by
  have table : ∀ rule ∈ builtin, ∀ other ∈ builtin, rule ≠ other → rule.differs other = true := by
    decide +kernel
  exact table rule one other two distinct

/-- No match of a rule starts in a match of another rule, or in what replaces it. -/
theorem Matches.misses (one : rule ∈ builtin) (two : other ∈ builtin) (distinct : rule ≠ other)
    (matched : other.Matches stretch repair) : rule.Misses stretch ∧ rule.Misses repair := by
  have apart := differs_of_ne one two distinct
  have otherRegular := isRegular_of_mem_builtin two
  cases matched with
  | @field written close _ lead trail leadBlank trailBlank =>
      have shape := regularField_of_isRegular otherRegular
      have again : (Rule.field written close repair).Matches _ repair := .field leadBlank trailBlank
      obtain ⟨⟨head, tail, stretch_eq, noColon⟩, front, last, ends, last_mem⟩ :=
        again.edges otherRegular
      obtain ⟨middle, repaired_eq, -⟩ := shape.repaired_eq
      obtain ⟨repairColon, repairSign⟩ := shape.marks_not_mem
      cases rule with
      | field ruleWritten ruleClose ruleRepaired =>
          simp only [differs, Bool.and_eq_true] at apart
          obtain ⟨rfl, rfl⟩ := List.cons.inj stretch_eq
          have tail_eq : solid (lead ++ (written ++ (trail ++ [close]))) =
              solid (written ++ [close]) := by
            simp [solid_append, solid_of_blank leadBlank, solid_of_blank trailBlank]
          rw [← tail_eq] at apart
          rw [repaired_eq] at repairColon apart ⊢
          have nothing : ':' ∉ ([] : Text) := List.not_mem_nil
          exact ⟨misses_of_diverge nothing noColon apart.1,
            misses_of_diverge nothing repairColon apart.2⟩
      | constant =>
          refine ⟨constant_misses (isStop_of_mem_closers last_mem) ?_ (sign_not_mem shape again),
            constant_misses (isStop_of_mem_closers shape.close_mem) ?_ repairSign⟩
          · rw [ends, List.getLast?_concat]
          · rw [repaired_eq, ← List.cons_append, List.getLast?_concat]
  | @constant name name_ne nameWord =>
      have nameColon : ':' ∉ name := fun member => absurd (nameWord ':' member) (by decide)
      have leadColon : ':' ∉ constantOpening ++ name := by simp [constantOpening_eq, nameColon]
      have repair_eq : constantOpening ++ (name ++ constantRepair) =
          (constantOpening ++ name) ++ ':' :: constantRepair.tail := by
        rw [List.append_assoc]
        rfl
      cases rule with
      | field written close repaired =>
          refine ⟨misses_of_colon_not_mem ?_, ?_⟩
          · simp [constantOpening_eq, constantValue_eq, nameColon]
          · rw [repair_eq]
            exact misses_of_diverge leadColon (by decide) apart
      | constant => exact absurd rfl distinct

/-! ## Applying two rules -/

/-- A rule finds nothing new around a text that it misses. -/
theorem pieces_around (regular : rule.isRegular = true) {before core rest : Text}
    (into : Recogniser.Apart rule.recognise before (core ++ rest)) (misses : rule.Misses core) :
    pieces rule.recognise (before ++ (core ++ rest)) =
      pieces rule.recognise before ++ (core.map .single ++ pieces rule.recognise rest) := by
  rw [Text.pieces_append (recognise_isLocal regular) into, misses.pieces_append regular]

theorem apply_around (regular : rule.isRegular = true) {before core rest : Text}
    (into : Recogniser.Apart rule.recognise before (core ++ rest)) (misses : rule.Misses core) :
    rule.apply (before ++ (core ++ rest)) = rule.apply before ++ (core ++ rule.apply rest) := by
  simp only [apply, replaceAll, pieces_around regular into misses, List.flatMap_append,
    Piece.replaced_singles]

/-- Repairs by one rule leave alone what another rule finds in a text. -/
theorem Mended.found_eq (one : rule ∈ builtin) (two : other ∈ builtin) (distinct : rule ≠ other)
    {text mended : Text} (repairs : other.Mended text mended) :
    findAll rule.recognise mended = findAll rule.recognise text ∧
      rule.count mended = rule.count text := by
  have regular := isRegular_of_mem_builtin one
  have otherRegular := isRegular_of_mem_builtin two
  induction repairs with
  | same text => exact ⟨rfl, rfl⟩
  | @next before stretch repair rest mended matched later ih =>
      obtain ⟨missed, missedRepair⟩ := matched.misses one two distinct
      have old := pieces_around regular (matched.apart_match regular before rest) missed
      have new := pieces_around regular (matched.apart_repair regular otherRegular before mended)
        missedRepair
      simp only [findAll, count, countChanges] at ih ⊢
      simp only [old, new, List.filterMap_append, List.countP_append, Piece.value_singles,
        Piece.changes_singles, ih, and_self]

/-- Two different rules can be applied in either order. -/
theorem apply_comm (one : rule ∈ builtin) (two : other ∈ builtin) (distinct : rule ≠ other)
    (text : Text) : rule.apply (other.apply text) = other.apply (rule.apply text) := by
  have regular := isRegular_of_mem_builtin one
  have otherRegular := isRegular_of_mem_builtin two
  have isLocal := recognise_isLocal otherRegular
  have stays : ∀ text, Recogniser.Clear other.recognise text →
      Recogniser.Clear other.recognise (rule.apply text) := by
    intro text isClear
    refine clear_of_findAll_eq_nil isLocal ?_
    rw [((mended_apply regular text).found_eq two one distinct.symm).1, isClear.findAll_eq_nil]
  induction text using hits_induction isLocal with
  | clear text isClear =>
      have same : ∀ clearText, Recogniser.Clear other.recognise clearText →
          other.apply clearText = clearText :=
        fun clearText nothing => nothing.replaceAll_eq_self id
      rw [same text isClear, same _ (stays text isClear)]
  | hit before stretch repair rest isClear reads apart ih =>
      have matched := (reads_iff otherRegular).1 reads
      obtain ⟨missed, missedRepair⟩ := matched.misses one two distinct
      calc
        rule.apply (other.apply (before ++ (stretch ++ rest)))
          = rule.apply (before ++ (repair ++ other.apply rest)) := by
            rw [apply_of_hit otherRegular isClear reads apart]
        _ = rule.apply before ++ (repair ++ rule.apply (other.apply rest)) :=
            apply_around regular (matched.apart_repair regular otherRegular before _) missedRepair
        _ = rule.apply before ++ (repair ++ other.apply (rule.apply rest)) := by rw [ih]
        _ = other.apply (rule.apply before ++ (stretch ++ rule.apply rest)) :=
            (apply_of_hit otherRegular (stays before isClear) reads
              (matched.apart_match otherRegular _ _)).symm
        _ = other.apply (rule.apply (before ++ (stretch ++ rest))) := by
            rw [apply_around regular (matched.apart_match regular before rest) missed]

end Rule

namespace Repaired

open Rule

/-- Two built-in rules can be applied to a repaired text in either order, with the same count. -/
theorem step_comm {rule other : Rule} (one : rule ∈ builtin) (two : other ∈ builtin)
    (repaired : Repaired) : (repaired.step rule).step other = (repaired.step other).step rule := by
  by_cases same : rule = other
  · rw [same]
  · have regular := isRegular_of_mem_builtin one
    have otherRegular := isRegular_of_mem_builtin two
    have ruleCount := ((mended_apply otherRegular repaired.text).found_eq one two same).2
    have otherCount := ((mended_apply regular repaired.text).found_eq two one (Ne.symm same)).2
    simp only [step, apply_comm one two same, ruleCount, otherCount, Repaired.mk.injEq, true_and]
    omega

/-- The built-in rules leave the same text and the same count in whatever order they are applied. -/
theorem ofRules_eq_of_perm {rules : List Rule} (reordered : rules.Perm builtin) (text : Text) :
    ofRules rules text = ofRules builtin text := by
  have comm : ∀ rule ∈ rules, ∀ other ∈ rules, ∀ repaired : Repaired,
      (repaired.step rule).step other = (repaired.step other).step rule :=
    fun rule one other two => step_comm (reordered.mem_iff.1 one) (reordered.mem_iff.1 two)
  exact reordered.foldl_eq' comm ⟨text, 0⟩

/-- The rules from the last to the first, on a text with types that start alike. -/
theorem ofRules_reverse_of_fields :
    let text := "export const key = any; a:\nerror ; b: error|null; c: bigInt ; d: bigInt[];".toList
    builtin.reverse.Perm builtin ∧ builtin.reverse ≠ builtin ∧
      ofRules builtin.reverse text =
        ⟨("export const key: unknown = null; a: Error; b: Error |null; c: string; " ++
          "d: string[];").toList, 5⟩ := by
  intro text
  have reordered : builtin.reverse.Perm builtin := List.reverse_perm builtin
  refine ⟨reordered, by decide, ?_⟩
  rw [ofRules_eq_of_perm reordered text]
  decide +kernel

end Repaired

end DeclLinker
