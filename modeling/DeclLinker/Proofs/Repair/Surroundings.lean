import DeclLinker.Proofs.Repair.Mending
import DeclLinker.Proofs.Source.Exports
import DeclLinker.Proofs.Source.Isolation
import Mathlib.Data.List.Induction

/-!
# What repairs leave as it is

Every placeholder of a repaired text stood in the text before, between parts of which those of the
repaired text are repairs.  A match and its repair start with the same character and end with the
same closing character, so the ends that face a placeholder look alike: isolated placeholders stay
isolated, and none comes to stand behind a phrase it did not stand behind before.

Nor do repairs touch what is announced in the headings of a text, such as its exports: a line is
decided before a match in it shows a difference, and no line that starts inside a match announces
anything.  So scanning a repaired text finds what scanning the text found, but for the lines: a
match may run over several, and its repair stands on one.
-/

namespace DeclLinker

namespace Rule

open Text

variable {rule : Rule}

/-- A placeholder of a repaired text stood in the text before. -/
theorem Mended.split (regular : rule.isRegular = true) {text mended : Text}
    (repairs : rule.Mended text mended) {reference : Reference} (spelled : reference.Spelled)
    {before after : Text} (whole : mended = before ++ (reference.text ++ after)) :
    ∃ front back, text = front ++ (reference.text ++ back) ∧ rule.Mended front before ∧
      rule.Mended back after := by
  have reads := Reference.reads_iff.2 ⟨spelled, rfl⟩
  induction repairs generalizing before after with
  | same text => exact ⟨before, after, whole, .same before, .same after⟩
  | @next lead stretch repair rest mended matched later ih =>
      obtain ⟨head, close, heads, close_mem, -, middle, noSlash, repair_eq⟩ :=
        matched.framed regular
      have foreign := foreign_of_mem_closers close_mem
      have notSlash : '/' ≠ head := by rcases heads with rfl | rfl <;> decide
      have fence : '/' ∉ head :: middle := by simp [notSlash, noSlash]
      have intoRepair := Reference.apart_of_fence fence foreign lead mended
      have outOfRepair := Reference.apart_of_foreign_before foreign (head :: middle) mended
      rw [List.cons_append, ← repair_eq] at outOfRepair
      have repair_append : (head :: middle) ++ close :: mended = repair ++ mended := by
        simp [repair_eq]
      rw [repair_append] at intoRepair
      rcases split_of_apart intoRepair reads whole with ⟨gap, lead_eq, after_eq⟩ |
        ⟨gap, before_eq, tail_eq⟩
      · refine ⟨before, gap ++ (stretch ++ rest), by simp [lead_eq], .same before, ?_⟩
        rw [after_eq]
        exact .next gap matched later
      · rcases split_of_apart outOfRepair reads tail_eq with ⟨inner, inside, -⟩ |
          ⟨inner, gap_eq, mended_eq⟩
        · -- A repair holds no slash, so no placeholder stands in it.
          have slash : '/' ∈ repair := by simp [inside, Reference.text_eq]
          have closeSlash : '/' ≠ close := by
            rintro rfl
            exact absurd close_mem (by decide)
          exact absurd slash (by simp [repair_eq, notSlash, noSlash, closeSlash])
        · obtain ⟨front, back, rest_eq, frontMended, backMended⟩ := ih mended_eq
          refine ⟨lead ++ (stretch ++ front), back, by simp [rest_eq], ?_, backMended⟩
          rw [before_eq, gap_eq]
          exact .next lead matched frontMended

/-- A phrase without closing characters ends a repaired text exactly when it ended the text
before. -/
theorem Mended.suffix_iff (regular : rule.isRegular = true) {text mended : Text}
    (repairs : rule.Mended text mended) {phrase : Text}
    (unclosed : ∀ char ∈ phrase, char ∉ closers) : phrase <:+ mended ↔ phrase <:+ text := by
  induction repairs with
  | same text => rfl
  | @next lead stretch repair rest mended matched later ih =>
      obtain ⟨head, close, -, close_mem, ⟨middle, -, rfl⟩, inner, -, rfl⟩ := matched.framed regular
      have absent : close ∉ phrase := fun member => unclosed close member close_mem
      have cut : ∀ core tail : Text, phrase <:+ lead ++ ((head :: (core ++ [close])) ++ tail) ↔
          phrase <:+ tail := by
        intro core tail
        have shape : lead ++ ((head :: (core ++ [close])) ++ tail) =
            (lead ++ head :: core) ++ close :: tail := by simp
        rw [shape]
        exact ⟨suffix_of_not_mem absent, fun ends => ends.trans ⟨_, List.append_cons .. |>.symm⟩⟩
      rw [cut, cut, ih]

/-- A phrase without the characters that a match starts with starts a repaired text exactly when it
started the text before. -/
theorem Mended.prefix_iff (regular : rule.isRegular = true) {text mended : Text}
    (repairs : rule.Mended text mended) {phrase : Text} (colon : ':' ∉ phrase)
    (letter : 'e' ∉ phrase) :
    phrase <+: mended ↔ phrase <+: text := by
  cases repairs with
  | same text => rfl
  | @next lead stretch repair rest mended matched later =>
      obtain ⟨head, close, heads, -, ⟨middle, -, rfl⟩, inner, -, rfl⟩ := matched.framed regular
      have absent : head ∉ phrase := by rcases heads with rfl | rfl <;> assumption
      have cut : ∀ tail : Text, phrase <+: lead ++ head :: tail ↔ phrase <+: lead :=
        fun tail => ⟨prefix_of_not_mem absent, fun starts => starts.trans (List.prefix_append _ _)⟩
      rw [List.cons_append, List.cons_append, cut, cut]

/-- A repaired text starts with the character that the text before started with. -/
theorem Mended.head?_eq (regular : rule.isRegular = true) {text mended : Text}
    (repairs : rule.Mended text mended) : mended.head? = text.head? := by
  cases repairs with
  | same text => rfl
  | @next lead stretch repair rest mended matched later =>
      obtain ⟨head, close, -, -, ⟨middle, -, rfl⟩, inner, -, rfl⟩ := matched.framed regular
      cases lead with
      | nil => rfl
      | cons first lead => rfl

theorem Mended.clearBefore (regular : rule.isRegular = true) {text mended : Text}
    (repairs : rule.Mended text mended) (isClear : Reference.clearBefore text = true) :
    Reference.clearBefore mended = true := by
  obtain ⟨noDotted, noComment⟩ := Reference.clearBefore_iff.1 isClear
  have table : ∀ char ∈ closers, isDotted char = false := by decide
  have openComment : ∀ char ∈ ['/', '*', ' '], char ∉ closers := by decide
  refine Reference.clearBefore_iff.2 ⟨fun char last => ?_, fun ends => ?_⟩
  · by_contra dotted
    rw [Bool.not_eq_false] at dotted
    have openChar : ∀ other ∈ [char], other ∉ closers := by
      rintro other member isCloser
      rw [List.mem_singleton.1 member] at isCloser
      rw [table char isCloser] at dotted
      cases dotted
    obtain ⟨front, mended_eq⟩ := List.getLast?_eq_some_iff.1 last
    obtain ⟨old, text_eq⟩ := (repairs.suffix_iff regular openChar).1 ⟨front, mended_eq.symm⟩
    have stays := noDotted char (by rw [← text_eq, List.getLast?_concat])
    rw [dotted] at stays
    cases stays
  · exact noComment ((repairs.suffix_iff regular openComment).1 ends)

theorem Mended.clearAfter (regular : rule.isRegular = true) {text mended : Text}
    (repairs : rule.Mended text mended) (isClear : Reference.clearAfter text = true) :
    Reference.clearAfter mended = true := by
  rw [Reference.clearAfter_iff] at isClear ⊢
  rwa [repairs.head?_eq regular, repairs.prefix_iff regular (by decide) (by decide)]

/-- Isolated placeholders stay isolated. -/
theorem Mended.isolated (regular : rule.isRegular = true) {text mended : Text}
    (repairs : rule.Mended text mended) (isolated : Reference.Isolated text) :
    Reference.Isolated mended := by
  rw [Reference.isolated_iff] at isolated ⊢
  intro reference spelled before after whole
  obtain ⟨front, back, text_eq, frontMended, backMended⟩ := repairs.split regular spelled whole
  obtain ⟨left, right⟩ := isolated reference spelled front back text_eq
  exact ⟨frontMended.clearBefore regular left, backMended.clearAfter regular right⟩

/-- No placeholder comes to stand behind a phrase without closing characters. -/
theorem Mended.neverBehind (regular : rule.isRegular = true) {text mended : Text}
    (repairs : rule.Mended text mended) {phrase : Text} (unclosed : ∀ char ∈ phrase, char ∉ closers)
    (never : Reference.NeverBehind phrase text) : Reference.NeverBehind phrase mended := by
  rw [Reference.neverBehind_iff] at never ⊢
  intro reference spelled before after whole ends
  obtain ⟨front, back, text_eq, frontMended, -⟩ := repairs.split regular spelled whole
  exact never reference spelled front back text_eq
    ((frontMended.suffix_iff regular unclosed).1 ends)

/-! ## Headings -/

/-- A phrase without blanks lies inside what blanks surround. -/
theorem infix_of_blanks {lead core trail phrase : Text}
    (leadBlank : ∀ char ∈ lead, isBlank char = true)
    (trailBlank : ∀ char ∈ trail, isBlank char = true)
    (solid : ∀ char ∈ phrase, isBlank char = false) (inside : phrase <:+: lead ++ (core ++ trail)) :
    phrase <:+: core := by
  have absent : ∀ char, isBlank char = true → char ∉ phrase := by
    intro char blank member
    rw [solid char member] at blank
    cases blank
  have shorter : phrase <:+: core ++ trail := by
    induction lead with
    | nil => exact inside
    | cons char lead ih =>
        have away := absent char (leadBlank char List.mem_cons_self)
        have cut : phrase <:+: [] ++ char :: (lead ++ (core ++ trail)) := inside
        rcases infix_of_not_mem away cut with nothing | later
        · rw [List.infix_nil.1 nothing]
          exact List.nil_infix
        · exact ih (fun other member => leadBlank other (.tail char member)) later
  clear inside
  induction trail using List.reverseRecOn with
  | nil => simpa using shorter
  | append_singleton trail char ih =>
      have away := absent char (trailBlank char (by simp))
      have cut : phrase <:+: (core ++ trail) ++ char :: [] := by simpa using shorter
      rcases infix_of_not_mem away cut with earlier | nothing
      · exact ih (fun other member => trailBlank other (by simp [member])) earlier
      · rw [List.infix_nil.1 nothing]
        exact List.nil_infix

/-- The type that a rule looks for. -/
def writtenType : Rule → Text
  | .field written _ _ => written
  | .constant => []

theorem not_announced (known : rule ∈ builtin) :
    ∀ word ∈ announcers, ¬word <:+: rule.writtenType := by
  have table : ∀ rule ∈ builtin, ∀ word ∈ announcers, ¬word <:+: rule.writtenType := by
    decide +kernel
  exact table rule known

/-- A repaired field type stands on one line. -/
theorem RegularField.feed_not_mem {written repaired : Text} {close : Char}
    (shape : RegularField written close repaired) : '\n' ∉ repaired := by
  obtain ⟨middle, rfl, middleInner⟩ := shape.repaired_eq
  have closeFlat : ∀ close ∈ closers, '\n' ≠ close := by decide
  have inMiddle : '\n' ∉ middle := fun member => absurd (middleInner '\n' member) (by decide)
  simp [inMiddle, closeFlat close shape.close_mem]

theorem Matches.feed_not_mem (regular : rule.isRegular = true) {stretch repair : Text}
    (matched : rule.Matches stretch repair) : '\n' ∉ repair := by
  cases matched with
  | field leadBlank trailBlank => exact (regularField_of_isRegular regular).feed_not_mem
  | @constant name name_ne nameWord =>
      have inName : '\n' ∉ name := fun member => absurd (nameWord '\n' member) (by decide)
      simp [constantOpening_eq, constantRepair_eq, inName]

variable {α : Type} {read : Text → List α}

/-- What headings tell around a match and around its repair: the same, or all but what the lines
inside the match tell. -/
theorem Matches.collect_cases (reader : ReadsHeading read) (regular : rule.isRegular = true)
    {stretch repair : Text} (matched : rule.Matches stretch repair) (front rest : Text) :
    collect read (front ++ (repair ++ rest)) = collect read (front ++ (stretch ++ rest)) ∨
      ∃ lead trail close, (∀ char ∈ lead, isBlank char = true) ∧
        (∀ char ∈ trail, isBlank char = true) ∧ close ∈ closers ∧
        collect read (front ++ (repair ++ rest)) =
          collect read front ++ collectLater read rest ∧
        collect read (front ++ (stretch ++ rest)) = collect read front ++
          collectLater read ((lead ++ (rule.writtenType ++ trail)) ++ close :: rest) := by
  have colon : isGuard ':' = true := by decide
  cases matched with
  | @field written close repaired lead trail leadBlank trailBlank =>
      have shape := regularField_of_isRegular regular
      obtain ⟨middle, repaired_eq, -⟩ := shape.repaired_eq
      have flat : '\n' ∉ middle ++ [close] := by
        have whole := shape.feed_not_mem
        rw [repaired_eq] at whole
        exact fun member => whole (.tail ':' member)
      refine .inr ⟨lead, trail, close, leadBlank, trailBlank, shape.close_mem, ?_, ?_⟩
      · rw [repaired_eq, List.cons_append, reader.collect_append_guard colon,
          collectLater_append_of_flat read flat]
      · have stretch_eq : (':' :: (lead ++ (written ++ (trail ++ [close])))) ++ rest =
            ':' :: ((lead ++ (written ++ trail)) ++ close :: rest) := by simp
        rw [stretch_eq, reader.collect_append_guard colon]
        rfl
  | @constant name name_ne nameWord =>
      have valueFlat : '\n' ∉ constantValue := by decide
      have repairFlat : '\n' ∉ constantRepair := by decide
      have regroup : ∀ tail : Text, front ++ ((constantOpening ++ (name ++ tail)) ++ rest) =
          (front ++ (constantOpening ++ name)) ++ (tail ++ rest) := by simp
      refine .inl ?_
      rw [regroup, regroup]
      refine collect_append_congr read ?_ ?_
      · rw [firstSegment_append_of_not_mem repairFlat, firstSegment_append_of_not_mem valueFlat,
          constantRepair_eq, constantValue_eq, List.cons_append, reader.guard colon,
          List.cons_append, List.cons_append, reader.blank_guard (by decide)]
      · rw [collectLater_append_of_flat read repairFlat, collectLater_append_of_flat read valueFlat]

/-- Repairs bring nothing new into the headings of a text. -/
theorem Mended.collect_sublist (reader : ReadsHeading read) (regular : rule.isRegular = true)
    {text mended : Text} (repairs : rule.Mended text mended) :
    (collect read mended).Sublist (collect read text) := by
  have general : ∀ front, (collect read (front ++ mended)).Sublist
      (collect read (front ++ text)) := by
    induction repairs with
    | same text => exact fun _ => List.Sublist.refl _
    | @next lead stretch repair rest mended matched later ih =>
        intro front
        have inner := ih (front ++ (lead ++ repair))
        simp only [List.append_assoc] at inner
        refine inner.trans ?_
        rcases matched.collect_cases reader regular (front ++ lead) rest with
          same | ⟨before, behind, close, -, -, -, new, old⟩
        · simp only [List.append_assoc] at same
          rw [same]
        · simp only [List.append_assoc] at new old
          rw [new, old]
          refine (List.append_sublist_append_left _).2 ?_
          have later := collectLater_sublist read
            (before ++ (rule.writtenType ++ (behind ++ [close]))) rest
          simpa only [List.append_assoc, List.singleton_append] using later
  exact general []

/-- Repairs keep what is announced in a text. -/
theorem Mended.collect_eq (reader : ReadsAnnounced read) (known : rule ∈ builtin)
    {text mended : Text} (repairs : rule.Mended text mended) :
    collect read mended = collect read text := by
  have closeFree : ∀ close ∈ closers, (∀ word ∈ announcers, close ∉ word) ∧ close ≠ '\n' := by
    decide
  have solid : ∀ word ∈ announcers, ∀ char ∈ word, isBlank char = false := by decide
  have general : ∀ front, collect read (front ++ mended) = collect read (front ++ text) := by
    induction repairs with
    | same text => exact fun _ => rfl
    | @next lead stretch repair rest mended matched later ih =>
        intro front
        have inner := ih (front ++ (lead ++ repair))
        simp only [List.append_assoc] at inner
        rw [inner]
        rcases matched.collect_cases reader.toReadsHeading (isRegular_of_mem_builtin known)
            (front ++ lead) rest with
          same | ⟨before, behind, close, beforeBlank, behindBlank, close_mem, new, old⟩
        · simpa only [List.append_assoc] using same
        · -- No line that starts inside the match announces anything.
          have absent : ∀ word ∈ announcers,
              ¬word <:+: before ++ (rule.writtenType ++ behind) := fun word listed inside =>
            not_announced known word listed
              (infix_of_blanks beforeBlank behindBlank (solid word listed) inside)
          obtain ⟨foreign, notFeed⟩ := closeFree close close_mem
          rw [reader.collectLater_core absent foreign notFeed, ← new] at old
          simpa only [List.append_assoc] using old.symm
  exact general []

/-! ## Remarks -/

/-- A phrase lies on one side of a stretch between two characters that it does not hold, if it holds
a slash and the stretch holds none. -/
theorem infix_around_iff {phrase middle : Text} {head close : Char} (headFree : head ∉ phrase)
    (closeFree : close ∉ phrase) (slash : '/' ∈ phrase) (noSlash : '/' ∉ middle)
    (left right : Text) :
    phrase <:+: left ++ head :: (middle ++ close :: right) ↔
      phrase <:+: left ∨ phrase <:+: right := by
  constructor
  · intro inside
    rcases infix_of_not_mem headFree inside with earlier | later
    · exact .inl earlier
    · rcases infix_of_not_mem closeFree later with within | behind
      · exact absurd (within.subset slash) noSlash
      · exact .inr behind
  · rintro (earlier | later)
    · exact earlier.trans (List.prefix_append _ _).isInfix
    · exact later.trans ⟨left ++ head :: (middle ++ [close]), [], by simp⟩

/-- A phrase that repairs cannot touch: it holds a slash and none of the characters around and
inside a match that a repair moves, and it does not end in a blank. -/
structure Remark (phrase : Text) : Prop where
  slash : '/' ∈ phrase
  unmarked : ∀ mark ∈ ':' :: '=' :: closers, mark ∉ phrase
  ending : phrase.getLast? ≠ some ' '

/-- A remark stands around a match where it stands around its repair: before the part that both
start with has ended, or behind them. -/
theorem Matches.exists_lead (regular : rule.isRegular = true) {stretch repair phrase : Text}
    (matched : rule.Matches stretch repair) (remark : Remark phrase) :
    ∃ lead, ∀ before rest,
      (phrase <:+: before ++ (stretch ++ rest) ↔ phrase <:+: before ++ lead ∨ phrase <:+: rest) ∧
        (phrase <:+: before ++ (repair ++ rest) ↔
          phrase <:+: before ++ lead ∨ phrase <:+: rest) := by
  have colon := remark.unmarked ':' (by decide)
  have sign := remark.unmarked '=' (by decide)
  have semicolon := remark.unmarked ';' (by decide)
  obtain ⟨head, close, -, close_mem, ⟨middle, noSlash, stretch_eq⟩, inner, innerFree, repair_eq⟩ :=
    matched.framed regular
  have closeFree := remark.unmarked close (.tail _ (.tail _ close_mem))
  cases matched with
  | field leadBlank trailBlank =>
      obtain rfl := (List.cons.inj stretch_eq).1
      refine ⟨[], fun before rest => ?_⟩
      have stretchCut := infix_around_iff colon closeFree remark.slash noSlash before rest
      have repairCut := infix_around_iff colon closeFree remark.slash innerFree before rest
      rw [stretch_eq, repair_eq, List.append_nil]
      simpa using ⟨stretchCut, repairCut⟩
  | @constant name name_ne nameWord =>
      refine ⟨constantOpening ++ name, fun before rest => ⟨?_, ?_⟩⟩
      · have cut : before ++ ((constantOpening ++ (name ++ constantValue)) ++ rest) =
            (before ++ (constantOpening ++ name) ++ [' ']) ++
              '=' :: (" any".toList ++ ';' :: rest) := by
          simp [constantValue_eq]
        rw [cut, infix_around_iff sign semicolon remark.slash (by decide), List.infix_concat_iff]
        refine or_congr_left (or_iff_right fun ends => ?_)
        obtain ⟨front, last_eq⟩ := ends
        have phrase_ne : phrase ≠ [] := List.ne_nil_of_mem remark.slash
        have last := congrArg List.getLast? last_eq
        rw [List.getLast?_append_of_ne_nil _ phrase_ne, List.getLast?_concat] at last
        exact remark.ending last
      · have cut : before ++ ((constantOpening ++ (name ++ constantRepair)) ++ rest) =
            (before ++ (constantOpening ++ name)) ++
              ':' :: (" unknown = null".toList ++ ';' :: rest) := by
          simp [constantRepair_eq]
        rw [cut, infix_around_iff colon semicolon remark.slash (by decide)]

/-- A remark stands in a repaired text exactly when it stood in the text before. -/
theorem Mended.infix_iff (regular : rule.isRegular = true) {text mended phrase : Text}
    (repairs : rule.Mended text mended) (remark : Remark phrase) :
    phrase <:+: mended ↔ phrase <:+: text := by
  induction repairs with
  | same text => rfl
  | @next before stretch repair rest mended matched later ih =>
      obtain ⟨lead, around⟩ := matched.exists_lead regular remark
      rw [(around before mended).2, (around before rest).1, ih]

/-- Repairs bring no carriage return into a text. -/
theorem Mended.return_not_mem (known : rule ∈ builtin) {text mended : Text}
    (repairs : rule.Mended text mended) (absent : '\r' ∉ text) : '\r' ∉ mended := by
  have templates : ∀ rule ∈ builtin, '\r' ∉ rule.template := by decide
  induction repairs with
  | same text => exact absent
  | @next lead stretch repair rest mended matched later ih =>
      simp only [List.mem_append, not_or] at absent ⊢
      refine ⟨absent.1, ?_, ih absent.2.2⟩
      cases matched with
      | field leadBlank trailBlank => exact templates _ known
      | constant name_ne nameWord =>
          have openingFree : '\r' ∉ constantOpening := by decide
          have repairFree : '\r' ∉ constantRepair := by decide
          have nameFree := absent.2.1
          simp only [List.mem_append, not_or] at nameFree ⊢
          exact ⟨openingFree, nameFree.2.1, repairFree⟩

end Rule

/-! ## Lines -/

namespace Placeholder

open Text

/-- The placeholders among the first pieces stand on no later lines than those among the second, if
the first pieces start on no later line. -/
def NoLater (first second : List (Piece Reference)) : Prop :=
  ∀ one two, one ≤ two →
    List.Forall₂ (· ≤ ·) ((located one first).map line) ((located two second).map line)

theorem NoLater.append {first second : List (Piece Reference)} (noLater : NoLater first second)
    (common : List (Piece Reference)) : NoLater (common ++ first) (common ++ second) := by
  induction common with
  | nil => exact noLater
  | cons piece common ih =>
      intro one two earlier
      cases piece with
      | single char =>
          refine ih _ _ ?_
          split
          · exact Nat.succ_le_succ earlier
          · exact earlier
      | hit text reference => exact .cons earlier (ih one two earlier)

theorem NoLater.refl (pieces : List (Piece Reference)) : NoLater pieces pieces := by
  have nothing : NoLater [] [] := fun _ _ _ => .nil
  simpa using nothing.append pieces

theorem NoLater.trans {first second third : List (Piece Reference)}
    (one : NoLater first second) (other : NoLater second third) : NoLater first third := by
  have compose : ∀ {low middle high : List Nat}, List.Forall₂ (· ≤ ·) low middle →
      List.Forall₂ (· ≤ ·) middle high → List.Forall₂ (· ≤ ·) low high := by
    intro low middle high below above
    induction below generalizing high with
    | nil => exact above
    | cons le rest ih =>
        cases above with
        | cons le' rest' => exact .cons (le.trans le') (ih rest')
  exact fun low high earlier => compose (one low low le_rfl) (other low high earlier)

end Placeholder

namespace Rule

open Text

variable {rule : Rule}

/-- No repair brings a line feed into a text, so the placeholders behind it can only move up. -/
theorem Mended.noLater (regular : rule.isRegular = true) {text mended : Text}
    (repairs : rule.Mended text mended) :
    Placeholder.NoLater (pieces Reference.recognise mended) (pieces Reference.recognise text) := by
  induction repairs with
  | same text => exact .refl _
  | @next before stretch repair rest mended matched later ih =>
      obtain ⟨head, close, heads, close_mem, old, new⟩ := matched.framed regular
      have notSlash : head ≠ '/' := by rcases heads with rfl | rfl <;> decide
      rw [old.pieces_around notSlash close_mem, new.pieces_around notSlash close_mem]
      refine Placeholder.NoLater.append (fun one two earlier => ?_) _
      rw [Placeholder.located_singles, Placeholder.located_singles]
      refine ih _ _ ?_
      have flat := List.count_eq_zero.2 (matched.feed_not_mem regular)
      omega

end Rule

namespace Repaired

open Text Rule

/-- The built-in rules leave placeholders isolated, and bring none behind a phrase without closing
characters. -/
theorem ofRules_keeps {text : Text} (isolated : Reference.Isolated text) {phrase : Text}
    (unclosed : ∀ char ∈ phrase, char ∉ closers) (never : Reference.NeverBehind phrase text) :
    let repaired := (ofRules builtin text).text
    Reference.Isolated repaired ∧ Reference.NeverBehind phrase repaired := by
  refine ofRules_induction (motive := fun repaired =>
    Reference.Isolated repaired ∧ Reference.NeverBehind phrase repaired) ?_ ⟨isolated, never⟩
  rintro rule known repaired ⟨isolated, never⟩
  have regular := isRegular_of_mem_builtin known
  have repairs := mended_apply regular repaired
  exact ⟨repairs.isolated regular isolated, repairs.neverBehind regular unclosed never⟩

/-- Repairs keep what is announced in a text. -/
theorem collect_ofRules {α : Type} {read : Text → List α} (reader : ReadsAnnounced read)
    (text : Text) : collect read (ofRules builtin text).text = collect read text := by
  refine ofRules_induction (motive := fun repaired => collect read repaired = collect read text)
    ?_ rfl
  intro rule known repaired same
  rw [(mended_apply (isRegular_of_mem_builtin known) repaired).collect_eq reader known, same]

/-- Repairs keep what a text exports. -/
theorem exports_ofRules (text : Text) :
    (Scan.ofText (ofRules builtin text).text).exports = (Scan.ofText text).exports := by
  rw [Scan.exports_eq, Scan.exports_eq, collect_ofRules Scan.readsAnnounced_exported]

/-- Repairs bring nothing new into the headings of a text. -/
theorem collect_ofRules_sublist {α : Type} {read : Text → List α} (reader : ReadsHeading read)
    (text : Text) : (collect read (ofRules builtin text).text).Sublist (collect read text) := by
  refine ofRules_induction
    (motive := fun repaired => (collect read repaired).Sublist (collect read text)) ?_ (.refl _)
  intro rule known repaired kept
  have regular := isRegular_of_mem_builtin known
  exact ((mended_apply regular repaired).collect_sublist reader regular).trans kept

/-- Repairs keep what a scan finds, with all exports and all references in their order.  Only the
lines of the placeholders may differ, and they can only become smaller, for a match may hold line
feeds and its repair holds none. -/
theorem scan_ofRules (text : Text) :
    let before := Scan.ofText text
    let after := Scan.ofText (ofRules builtin text).text
    after.exports = before.exports ∧
      after.placeholders.map Placeholder.toReference =
        before.placeholders.map Placeholder.toReference ∧
      List.Forall₂ (· ≤ ·) (after.placeholders.map Placeholder.line)
        (before.placeholders.map Placeholder.line) := by
  intro before after
  refine ⟨exports_ofRules text, ?_, ?_⟩
  · rw [Scan.placeholders_map_toReference, Scan.placeholders_map_toReference, findAll_ofRules]
  · have noLater : Placeholder.NoLater (pieces Reference.recognise (ofRules builtin text).text)
        (pieces Reference.recognise text) := by
      refine ofRules_induction (motive := fun repaired => Placeholder.NoLater
        (pieces Reference.recognise repaired) (pieces Reference.recognise text)) ?_ (.refl _)
      intro rule known repaired kept
      have regular := isRegular_of_mem_builtin known
      exact ((mended_apply regular repaired).noLater regular).trans kept
    rw [Scan.placeholders_eq, Scan.placeholders_eq]
    exact noLater 1 1 le_rfl

/-- A repair that swallows a line feed moves the placeholder behind it up by a line. -/
example :
    let text := "a:\nerror; b: any /* tls.Cert */;".toList
    (Scan.ofText text).placeholders.map Placeholder.line = [2] ∧
      (Scan.ofText (ofRules builtin text).text).placeholders.map Placeholder.line = [1] := by
  decide +kernel

/-- Repairs neither write nor break a remark. -/
theorem infix_ofRules_iff {phrase : Text} (remark : Remark phrase) (text : Text) :
    phrase <:+: (ofRules builtin text).text ↔ phrase <:+: text := by
  refine ofRules_induction (motive := fun repaired => phrase <:+: repaired ↔ phrase <:+: text) ?_
    Iff.rfl
  intro rule known repaired kept
  have regular := isRegular_of_mem_builtin known
  exact ((mended_apply regular repaired).infix_iff regular remark).trans kept

theorem return_not_mem_ofRules {text : Text} (absent : '\r' ∉ text) :
    '\r' ∉ (ofRules builtin text).text := by
  refine ofRules_induction (motive := fun repaired => '\r' ∉ repaired) ?_ absent
  intro rule known repaired absent
  exact (mended_apply (isRegular_of_mem_builtin known) repaired).return_not_mem known absent

end Repaired

end DeclLinker
