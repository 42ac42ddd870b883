import DeclLinker.Proofs.Repair.Mending
import DeclLinker.Proofs.Source.Isolation

/-!
# Repaired texts stay repaired

A text is steady under a rule when every match in it, wherever it stands, is its own repair.  The
text that a rule leaves is steady under it, and the later rules keep it so: a match cannot run over
the edge of another rule's repair, and inside a repair there is no match but the repair itself.

What the proof needs of the built-in rules is one comparison for every two of them: the written type
of the one and the repaired type of the other differ from the start on, or are the same, and then
the two rules repair alike.
-/

namespace DeclLinker

namespace Text

/-- Neither of two texts starts the other. -/
def diverge (first second : Text) : Bool :=
  !first.isPrefixOf second && !second.isPrefixOf first

theorem diverge_ne {first second : Text} (apart : diverge first second = true)
    (one two : Text) : first ++ one ≠ second ++ two := by
  intro same
  simp only [diverge, Bool.and_eq_true, Bool.not_eq_true', ← Bool.not_eq_true,
    List.isPrefixOf_iff_prefix] at apart
  rcases List.append_eq_append_iff.1 same with ⟨middle, second_eq, -⟩ | ⟨middle, first_eq, -⟩
  · exact apart.1 ⟨middle, second_eq.symm⟩
  · exact apart.2 ⟨middle, first_eq.symm⟩

theorem trimStart_append_of_not_blank {char : Char} (notBlank : isBlank char = false)
    (text rest : Text) : trimStart (text ++ char :: rest) = trimStart text ++ char :: rest := by
  induction text with
  | nil => simp [trimStart, notBlank]
  | cons first text ih =>
      by_cases blank : isBlank first = true
      · simpa [trimStart, blank] using ih
      · simp [trimStart, blank]

end Text

namespace Rule

open Text

/-- Every match of the rule in the text, wherever it stands, is its own repair. -/
def Steady (rule : Rule) (text : Text) : Prop :=
  ∀ stretch repair, rule.Matches stretch repair → stretch <:+: text → repair = stretch

theorem Steady.of_infix {rule : Rule} {text part : Text} (steady : rule.Steady text)
    (inside : part <:+: text) : rule.Steady part :=
  fun stretch repair matched within => steady stretch repair matched (within.trans inside)

/-- A steady text has nothing to repair. -/
theorem Steady.count_eq_zero {rule : Rule} (regular : rule.isRegular = true) {text : Text}
    (steady : rule.Steady text) : rule.count text = 0 := by
  have isLocal := recognise_isLocal regular
  induction text using hits_induction (recognise_isLocal regular) with
  | clear text isClear => exact isClear.countChanges_eq_zero id
  | hit before stretch repair rest isClear reads apart ih =>
      have same := steady stretch repair ((reads_iff regular).1 reads)
        ⟨before, rest, by simp⟩
      have later := ih (steady.of_infix ⟨before ++ stretch, [], by simp⟩)
      rw [count] at later ⊢
      rw [countChanges_append isLocal apart, isClear.countChanges_eq_zero, countChanges,
        pieces_of_reads reads, List.countP_cons, ← countChanges, later]
      simp [Piece.changes, same]

/-! ## What matches and repairs look like at their edges -/

variable {rule other : Rule} {stretch repair : Text}

/-- Behind its first character a match holds no colon, and it ends in a closing character. -/
theorem Matches.edges (regular : rule.isRegular = true) (matched : rule.Matches stretch repair) :
    (∃ head tail, stretch = head :: tail ∧ ':' ∉ tail) ∧
      ∃ front close, stretch = front ++ [close] ∧ close ∈ closers := by
  have blankColon : ∀ text : Text, (∀ char ∈ text, isBlank char = true) → ':' ∉ text :=
    fun text allBlank member => absurd (allBlank ':' member) (by decide)
  cases matched with
  | @field written close repaired lead trail leadBlank trailBlank =>
      have shape := regularField_of_isRegular regular
      have writtenColon : ':' ∉ written :=
        fun member => absurd (shape.written_inner ':' member) (by decide)
      have closeColon : ':' ≠ close := by
        rintro rfl
        exact absurd shape.close_mem (by decide)
      refine ⟨⟨':', _, rfl, ?_⟩, ⟨':' :: (lead ++ (written ++ trail)), close, by simp,
        shape.close_mem⟩⟩
      simp [blankColon lead leadBlank, blankColon trail trailBlank, writtenColon, closeColon]
  | @constant name name_ne nameWord =>
      have nameColon : ':' ∉ name := fun member => absurd (nameWord ':' member) (by decide)
      refine ⟨⟨'e', "xport const ".toList ++ (name ++ constantValue), by simp [constantOpening_eq],
        ?_⟩, ⟨constantOpening ++ (name ++ " = any".toList), ';', by simp [constantValue_eq],
        by decide⟩⟩
      simp [nameColon, constantValue_eq]

/-- Behind its colon a repaired field type holds no colon, and it holds no equals sign. -/
theorem RegularField.marks_not_mem {written repaired : Text} {close : Char}
    (shape : RegularField written close repaired) : ':' ∉ repaired.tail ∧ '=' ∉ repaired := by
  obtain ⟨middle, rfl, middleInner⟩ := shape.repaired_eq
  have closerMarks : ∀ close ∈ closers, ':' ≠ close ∧ '=' ≠ close := by decide
  obtain ⟨notColon, notSign⟩ := closerMarks close shape.close_mem
  have colon : ':' ∉ middle := fun member => absurd (middleInner ':' member) (by decide)
  have sign : '=' ∉ middle := fun member => absurd (middleInner '=' member) (by decide)
  simp [colon, sign, notColon, notSign]

/-- A repair holds a colon, and no closing character before it. -/
theorem Matches.repair_edge (regular : rule.isRegular = true)
    (matched : rule.Matches stretch repair) :
    ∃ front back, repair = front ++ ':' :: back ∧ ∀ char ∈ front, char ∉ closers := by
  cases matched with
  | field leadBlank trailBlank =>
      obtain ⟨middle, repair_eq, -⟩ := (regularField_of_isRegular regular).repaired_eq
      exact ⟨[], _, repair_eq, by simp⟩
  | @constant name name_ne nameWord =>
      refine ⟨constantOpening ++ name, constantRepair.tail, by simp [constantRepair_eq], ?_⟩
      intro char member
      rcases List.mem_append.1 member with inOpening | inName
      · have table : ∀ char ∈ constantOpening, char ∉ closers := by decide
        exact table char inOpening
      · intro isCloser
        have table : ∀ char ∈ closers, isWord char = false := by decide
        have notWord := table char isCloser
        rw [nameWord char inName] at notWord
        cases notWord

/-- No match runs into a repair from before. -/
theorem Matches.apart_repair (regular : rule.isRegular = true)
    (otherRegular : other.isRegular = true) (matched : other.Matches stretch repair)
    (before rest : Text) :
    Recogniser.Apart rule.recognise before (repair ++ rest) := by
  rintro first second value - ⟨after, right_eq⟩ first_ne second_ne reads
  have crossing := (reads_iff regular).1 reads
  obtain ⟨⟨head, tail, whole, noColon⟩, front, close, ends, close_mem⟩ := crossing.edges regular
  obtain ⟨lead, back, repair_eq, noCloser⟩ := matched.repair_edge otherRegular
  obtain ⟨char, first, rfl⟩ := List.exists_cons_of_ne_nil first_ne
  rw [List.cons_append, List.cons.injEq] at whole
  have secondColon : ':' ∉ second := fun member => noColon (by simp [← whole.2, member])
  -- Without a colon the part inside the repair lies before its colon, so it cannot close.
  have starts : second <+: lead := by
    have inside : second <+: lead ++ ':' :: (back ++ rest) := by
      refine ⟨after, ?_⟩
      rw [right_eq, repair_eq]
      simp
    exact prefix_of_not_mem secondColon inside
  have closes : close ∈ second := by
    have last_eq := congrArg List.getLast? ends
    rw [List.getLast?_append_of_ne_nil _ second_ne, List.getLast?_concat] at last_eq
    exact List.mem_of_getLast? last_eq
  exact noCloser close (starts.subset closes) close_mem

/-! ## One rule in the repair of another -/

/-- Whether the type a rule looks for and the type another one writes differ from the start on, or
are the same and the two rules repair alike. -/
def keeps : (rule other : Rule) → Bool
  | .field written _ repaired, .field _ _ otherRepaired =>
      let core := trimStart otherRepaired.tail
      diverge written core || (core.dropLast == written && repaired == otherRepaired)
  | .field written _ _, .constant => diverge written (trimStart constantRepair.tail)
  | .constant, _ => true

theorem keeps_of_mem_builtin (one : rule ∈ builtin) (two : other ∈ builtin) :
    rule.keeps other = true := by
  have table : ∀ rule ∈ builtin, ∀ other ∈ builtin, rule.keeps other = true := by decide +kernel
  exact table rule one other two

/-- A match and another rule's repaired text that start one text are the same. -/
theorem eq_of_keeps {written otherWritten repaired otherRepaired : Text} {close otherClose : Char}
    (shape : RegularField written close repaired)
    (otherShape : RegularField otherWritten otherClose otherRepaired)
    (kept : (field written close repaired).keeps
      (field otherWritten otherClose otherRepaired) = true)
    {match_ match_repair one two : Text}
    (matched : (field written close repaired).Matches match_ match_repair)
    (same : match_ ++ one = otherRepaired ++ two) :
    match_ = otherRepaired ∧ match_repair = otherRepaired := by
  cases matched with
  | @field _ _ _ lead trail leadBlank trailBlank =>
      obtain ⟨middle, repaired_eq, -⟩ := otherShape.repaired_eq
      obtain ⟨head, tail, written_eq, headNotBlank⟩ := shape.written_head
      have otherNotBlank := isBlank_of_mem_closers otherShape.close_mem
      -- Behind the colon and the blanks the two texts go on alike.
      have rest_eq : lead ++ (written ++ (trail ++ close :: one)) =
          middle ++ otherClose :: two := by
        rw [repaired_eq] at same
        simpa using same
      have core_eq : written ++ (trail ++ close :: one) =
          trimStart middle ++ otherClose :: two := by
        have trimmed := congrArg trimStart rest_eq
        rw [written_eq, List.cons_append, trimStart_append_cons leadBlank headNotBlank,
          trimStart_append_of_not_blank otherNotBlank] at trimmed
        rw [written_eq]
        exact trimmed
      have core : trimStart otherRepaired.tail = trimStart middle ++ [otherClose] := by
        rw [repaired_eq, List.tail_cons, trimStart_append_of_not_blank otherNotBlank]
      simp only [keeps, core, List.dropLast_concat, Bool.or_eq_true, Bool.and_eq_true,
        beq_iff_eq] at kept
      rcases kept with apart | ⟨sameType, sameRepair⟩
      · refine absurd ?_ (diverge_ne apart (trail ++ close :: one) two)
        rw [core_eq]
        simp
      · rw [sameType] at core_eq
        have tail_eq := List.append_cancel_left core_eq
        cases trail with
        | nil =>
            rw [List.nil_append, List.cons.injEq] at tail_eq
            obtain ⟨rfl, rfl⟩ := tail_eq
            exact ⟨List.append_cancel_right same, sameRepair⟩
        | cons blank trail =>
            rw [List.cons_append, List.cons.injEq] at tail_eq
            have blankTrue := trailBlank blank List.mem_cons_self
            rw [tail_eq.1, otherNotBlank] at blankTrue
            cases blankTrue

/-- Characters that a match for constants does not run over: it is made of words, blanks and an
equals sign. -/
def isStop (char : Char) : Bool :=
  !isWord char && char != ' ' && char != '='

theorem isStop_of_mem_closers {close : Char} (member : close ∈ closers) : isStop close = true := by
  have table : ∀ close ∈ closers, isStop close = true := by decide
  exact table close member

/-- A match for constants holds an equals sign, and only its last character stops one. -/
theorem constant_front {match_ match_repair : Text}
    (matched : constant.Matches match_ match_repair) :
    ∃ front, match_ = front ++ [';'] ∧ '=' ∈ front ∧ ∀ char ∈ front, isStop char = false := by
  cases matched with
  | @constant name name_ne nameWord =>
      have openings : ∀ char ∈ constantOpening, isStop char = false := by decide
      have values : ∀ char ∈ " = any".toList, isStop char = false := by decide
      have names : ∀ char ∈ name, isStop char = false :=
        fun char inName => by simp [isStop, nameWord char inName]
      refine ⟨constantOpening ++ (name ++ " = any".toList), by simp [constantValue_eq], by simp, ?_⟩
      intro char member
      rcases List.mem_append.1 member with inOpening | inRest
      · exact openings char inOpening
      · exact (List.mem_append.1 inRest).elim (names char) (values char)

/-- No match of the rule starts in the text, whatever follows it. -/
def Misses (rule : Rule) (core : Text) : Prop :=
  ∀ front back rest stretch repair, core = front ++ back → back ≠ [] →
    rule.Matches stretch repair → ¬stretch <+: back ++ rest

/-- The rule for constants misses a text without equals signs that ends where a match would stop. -/
theorem constant_misses {core : Text} {stop : Char} (stops : isStop stop = true)
    (last : core.getLast? = some stop) (noSign : '=' ∉ core) : constant.Misses core := by
  intro front back rest stretch repair core_eq back_ne matched ⟨after, whole⟩
  obtain ⟨inner, stretch_eq, sign, unstopped⟩ := constant_front matched
  have backSign : '=' ∉ back := fun member => noSign (by simp [core_eq, member])
  have inBack : stop ∈ back := by
    rw [core_eq, List.getLast?_append_of_ne_nil _ back_ne] at last
    exact List.mem_of_getLast? last
  -- The text would hold the equals sign of the match, or the match would go on behind the text.
  rw [stretch_eq, List.append_assoc] at whole
  rcases List.append_eq_append_iff.1 whole with ⟨gap, back_eq, -⟩ | ⟨gap, inner_eq, -⟩
  · exact backSign (by simp [back_eq, sign])
  · exact absurd (unstopped stop (by simp [inner_eq, inBack])) (by simp [stops])

/-- A match that starts inside a repair is its own repair. -/
def Settles (rule : Rule) (repair : Text) : Prop :=
  ∀ front back rest stretch stretchRepair, repair = front ++ back → back ≠ [] →
    rule.Matches stretch stretchRepair → stretch <+: back ++ rest → stretchRepair = stretch

/-- A match of a rule for a field type starts with a colon. -/
theorem colon_of_prefix {written : Text} {close : Char} {repaired match_ match_repair back : Text}
    (matched : (field written close repaired).Matches match_ match_repair) {rest : Text}
    (back_ne : back ≠ []) (starts : match_ <+: back ++ rest) : ∃ tail, back = ':' :: tail := by
  obtain ⟨first, tail, rfl⟩ := List.exists_cons_of_ne_nil back_ne
  obtain ⟨after, whole⟩ := starts
  cases matched with
  | field leadBlank trailBlank =>
      rw [List.cons_append, List.cons_append, List.cons.injEq] at whole
      exact ⟨tail, by rw [whole.1]⟩

theorem settles_field_field {written otherWritten repaired otherRepaired : Text}
    {close otherClose : Char} (shape : RegularField written close repaired)
    (otherShape : RegularField otherWritten otherClose otherRepaired)
    (kept : (field written close repaired).keeps
      (field otherWritten otherClose otherRepaired) = true) :
    (field written close repaired).Settles otherRepaired := by
  intro front back rest stretch stretchRepair repair_eq back_ne matched starts
  obtain ⟨tail, rfl⟩ := colon_of_prefix matched back_ne starts
  cases front with
  | nil =>
      obtain ⟨after, whole⟩ := starts
      rw [List.nil_append] at repair_eq
      rw [← repair_eq] at whole
      obtain ⟨stretch_eq, stretchRepair_eq⟩ := eq_of_keeps shape otherShape kept matched whole
      rw [stretch_eq, stretchRepair_eq]
  | cons first front =>
      exact absurd (by simp [repair_eq]) otherShape.marks_not_mem.1

theorem settles_constant_field {otherWritten otherRepaired : Text} {otherClose : Char}
    (otherShape : RegularField otherWritten otherClose otherRepaired) :
    constant.Settles otherRepaired := by
  intro front back rest stretch stretchRepair repair_eq back_ne matched starts
  obtain ⟨middle, shape_eq, -⟩ := otherShape.repaired_eq
  have last : otherRepaired.getLast? = some otherClose := by
    rw [shape_eq, ← List.cons_append, List.getLast?_concat]
  have misses := constant_misses (isStop_of_mem_closers otherShape.close_mem) last
    otherShape.marks_not_mem.2
  exact absurd starts (misses front back rest stretch stretchRepair repair_eq back_ne matched)

theorem settles_field_constant {written repaired name : Text} {close : Char}
    (shape : RegularField written close repaired)
    (kept : (field written close repaired).keeps constant = true)
    (nameWord : ∀ char ∈ name, isWord char = true) :
    (field written close repaired).Settles (constantOpening ++ (name ++ constantRepair)) := by
  intro front back rest stretch stretchRepair repair_eq back_ne matched starts
  obtain ⟨tail, rfl⟩ := colon_of_prefix matched back_ne starts
  obtain ⟨head, more, written_eq, headNotBlank⟩ := shape.written_head
  have nameColon : ':' ∉ name := fun member => absurd (nameWord ':' member) (by decide)
  have leadColon : ':' ∉ constantOpening ++ name := by simp [constantOpening_eq, nameColon]
  -- The only colon of the repair is the one behind the name.
  have tail_eq : tail = constantRepair.tail := by
    have cut : (constantOpening ++ name) ++ ':' :: constantRepair.tail = front ++ ':' :: tail := by
      rw [← repair_eq, List.append_assoc]
      rfl
    have back : ':' ∉ constantRepair.tail := by decide
    exact ((List.append_cons_inj_of_notMem leadColon back).1 cut).2.2.symm
  obtain ⟨after, whole⟩ := starts
  cases matched with
  | @field _ _ _ lead trail leadBlank trailBlank =>
      have rest_eq :
          lead ++ (written ++ (trail ++ close :: after)) = constantRepair.tail ++ rest := by
        rw [tail_eq] at whole
        simpa using whole
      have core_eq : written ++ (trail ++ close :: after) =
          trimStart constantRepair.tail ++ rest := by
        have trimmed := congrArg trimStart rest_eq
        rw [written_eq, List.cons_append, trimStart_append_cons leadBlank headNotBlank] at trimmed
        rw [written_eq]
        exact trimmed
      exact absurd core_eq (diverge_ne kept _ rest)

theorem settles_constant_constant {name : Text} (nameWord : ∀ char ∈ name, isWord char = true) :
    constant.Settles (constantOpening ++ (name ++ constantRepair)) := by
  intro front back rest stretch stretchRepair repair_eq back_ne matched ⟨after, whole⟩
  obtain ⟨before, stretch_eq, -, unstopped⟩ := constant_front matched
  have noColon : ':' ∉ before := fun member => absurd (unstopped ':' member) (by decide)
  have whole_eq : front ++ back = (constantOpening ++ name) ++ constantRepair := by
    rw [← repair_eq, List.append_assoc]
  rcases List.append_eq_append_iff.1 whole_eq with ⟨gap, lead_eq, back_eq⟩ | ⟨gap, -, tail_eq⟩
  · -- Without a colon the match would lie before the one of the repair, where nothing closes.
    have stretchColon : ':' ∉ stretch := by simp [stretch_eq, noColon]
    have inside : stretch <+: gap ++ ':' :: (constantRepair.tail ++ rest) := by
      refine ⟨after, ?_⟩
      rw [whole, back_eq, List.append_assoc]
      rfl
    have closes : ';' ∈ gap :=
      (prefix_of_not_mem stretchColon inside).subset (by simp [stretch_eq])
    have nameClose : ';' ∉ name := fun member => absurd (nameWord ';' member) (by decide)
    have leadClose : ';' ∉ constantOpening ++ name := by simp [constantOpening_eq, nameClose]
    exact absurd (by simp [lead_eq, closes]) leadClose
  · obtain ⟨first, tail, rfl⟩ := List.exists_cons_of_ne_nil back_ne
    have starts : first = 'e' := by
      cases matched with
      | constant name_ne nameWord =>
          have heads := congrArg List.head? whole
          simpa [constantOpening_eq] using heads.symm
    have absent : 'e' ∉ constantRepair := by decide
    exact absurd (by simp [tail_eq, starts]) absent

theorem settles_of_keeps (regular : rule.isRegular = true) (otherRegular : other.isRegular = true)
    (kept : rule.keeps other = true) (matched : other.Matches stretch repair) :
    rule.Settles repair := by
  cases matched with
  | field leadBlank trailBlank =>
      have otherShape := regularField_of_isRegular otherRegular
      cases rule with
      | field written close repaired =>
          exact settles_field_field (regularField_of_isRegular regular) otherShape kept
      | constant => exact settles_constant_field otherShape
  | constant name_ne nameWord =>
      cases rule with
      | field written close repaired =>
          exact settles_field_constant (regularField_of_isRegular regular) kept nameWord
      | constant => exact settles_constant_constant nameWord

/-! ## Repairing a text -/

/-- Steady texts around a repair make a steady text. -/
theorem Steady.around_repair (regular : rule.isRegular = true)
    (otherRegular : other.isRegular = true) (kept : rule.keeps other = true)
    (matched : other.Matches stretch repair) {before rest : Text} (front : rule.Steady before)
    (back : rule.Steady rest) : rule.Steady (before ++ (repair ++ rest)) := by
  rintro found foundRepair foundMatch ⟨left, right, whole⟩
  have settles := settles_of_keeps regular otherRegular kept matched
  have apart := Matches.apart_repair regular otherRegular matched before rest
  rw [List.append_assoc] at whole
  rcases split_of_apart apart ((reads_iff regular).2 foundMatch) whole.symm with
    ⟨gap, before_eq, -⟩ | ⟨gap, -, tail_eq⟩
  · exact front found foundRepair foundMatch ⟨left, gap, by simp [before_eq]⟩
  · rcases List.append_eq_append_iff.1 tail_eq with ⟨inner, gap_eq, rest_eq⟩ |
      ⟨inner, repair_eq, found_eq⟩
    · exact back found foundRepair foundMatch ⟨inner, right, by simp [rest_eq]⟩
    · by_cases inner_nil : inner = []
      · rw [inner_nil, List.nil_append] at found_eq
        exact back found foundRepair foundMatch ⟨[], right, by simp [found_eq]⟩
      · exact settles gap inner rest found foundRepair repair_eq inner_nil foundMatch
          ⟨right, found_eq⟩

/-- Applying a rule leaves a text steady under it, and under every rule it was steady under. -/
theorem steady_apply (one : rule ∈ builtin) (two : other ∈ builtin) {text : Text}
    (before : rule = other ∨ rule.Steady text) : rule.Steady (other.apply text) := by
  have regular := isRegular_of_mem_builtin one
  have otherRegular := isRegular_of_mem_builtin two
  have steady_of_clear : ∀ part, Recogniser.Clear other.recognise part →
      rule = other ∨ rule.Steady part → rule.Steady part := by
    rintro part isClear (rfl | steady)
    · intro stretch repair matched inside
      exact absurd inside (isClear.not_infix (recognise_isLocal regular)
        ((reads_iff regular).2 matched))
    · exact steady
  induction text using hits_induction (recognise_isLocal otherRegular) with
  | clear text isClear =>
      rw [apply, isClear.replaceAll_eq_self]
      exact steady_of_clear text isClear before
  | hit gap stretch repair rest isClear reads apart ih =>
      rw [apply_of_hit otherRegular isClear reads apart]
      refine Steady.around_repair regular otherRegular (keeps_of_mem_builtin one two)
        ((reads_iff otherRegular).1 reads) ?_ ?_
      · exact steady_of_clear gap isClear
          (before.imp_right fun steady => steady.of_infix (List.prefix_append _ _).isInfix)
      · exact ih (before.imp_right fun steady =>
          steady.of_infix ⟨gap ++ stretch, [], by simp⟩)

end Rule

namespace Repaired

open Rule

/-- A repaired text is steady under every built-in rule. -/
theorem steady_ofRules {rule : Rule} (member : rule ∈ builtin) (text : Text) :
    rule.Steady (ofRules builtin text).text := by
  have general : ∀ (rules : List Rule) (repaired : Repaired),
      (∀ other ∈ rules, other ∈ builtin) → rule ∈ rules ∨ rule.Steady repaired.text →
        rule.Steady (rules.foldl step repaired).text := by
    intro rules
    induction rules with
    | nil =>
        rintro repaired - (absent | steady)
        · cases absent
        · exact steady
    | cons other rules ih =>
        intro repaired known start
        have otherKnown := known other List.mem_cons_self
        refine ih (repaired.step other) (fun next inside => known next (.tail other inside)) ?_
        rcases start with listed | steady
        · rcases List.mem_cons.1 listed with same | later
          · exact .inr (steady_apply member otherKnown (.inl same))
          · exact .inl later
        · exact .inr (steady_apply member otherKnown (.inr steady))
  exact general builtin ⟨text, 0⟩ (fun _ inside => inside) (.inl member)

/-- The built-in rules change nothing in a text they have repaired, and they count no change exactly
when they leave a text as it was. -/
theorem ofRules_idempotent (text : Text) :
    let repaired := ofRules builtin text
    ofRules builtin repaired.text = ⟨repaired.text, 0⟩ ∧
      (repaired.count = 0 ↔ repaired.text = text) := by
  intro repaired
  have regular : ∀ rule ∈ builtin, rule.isRegular = true := fun _ => isRegular_of_mem_builtin
  have unchanged : ∀ rule ∈ builtin, rule.count repaired.text = 0 := fun rule member =>
    (steady_ofRules member text).count_eq_zero (regular rule member)
  have again := ofRules_eq_self regular unchanged
  refine ⟨again, fun nothing => ?_, fun same => ?_⟩
  · have still := (count_ofRules_eq_zero_iff regular text).1 nothing
    exact congrArg Repaired.text (ofRules_eq_self regular still)
  · rw [same] at again
    exact congrArg Repaired.count again

end Repaired

end DeclLinker
