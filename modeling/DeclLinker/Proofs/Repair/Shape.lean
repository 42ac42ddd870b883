import DeclLinker.Proofs.Source.Grammar
import DeclLinker.Repair.Table

/-!
# What the structural rules match

A rule for a field type matches a colon, blanks, the written type, blanks and the closing character;
the rule for constants matches an exported constant with the value `any`.  `Rule.Matches` says this
without the recogniser, and the built-in rules read exactly what they match.

All built-in rules are regular: their written types hold none of the characters that delimit a
match, and the repaired text starts and ends like the match it replaces.
-/

namespace DeclLinker.Rule

open Text

/-- The characters a match may end with. -/
def closers : List Char := [';', '|', '\x7d']

/-- Characters that may stand inside a written type or a repaired text. -/
def isInner (char : Char) : Bool :=
  !([':', '=', '/', '.', '\n'].contains char)

/-- A rule whose matches are delimited: the written type starts with no blank and holds no
delimiter, and the repaired text keeps the colon and the closing character. -/
def isRegular : Rule → Bool
  | .field written close repaired =>
      (written.head?.any fun char => !isBlank char) && written.all isInner &&
        closers.contains close && repaired.head? == some ':' &&
        repaired.tail.all isInner && repaired.getLast? == some close
  | .constant => true

theorem isRegular_of_mem_builtin {rule : Rule} (member : rule ∈ builtin) :
    rule.isRegular = true := by
  have all : ∀ rule ∈ builtin, rule.isRegular = true := by decide
  exact all rule member

/-- A rule matches a stretch, which it repairs to a text. -/
inductive Matches : Rule → (stretch repair : Text) → Prop where
  | field {written : Text} {close : Char} {repaired lead trail : Text}
      (leadBlank : ∀ char ∈ lead, isBlank char = true)
      (trailBlank : ∀ char ∈ trail, isBlank char = true) :
      Matches (.field written close repaired)
        (':' :: (lead ++ (written ++ (trail ++ [close])))) repaired
  | constant {name : Text} (name_ne : name ≠ []) (nameWord : ∀ char ∈ name, isWord char = true) :
      Matches .constant (constantOpening ++ (name ++ constantValue))
        (constantOpening ++ (name ++ constantRepair))

theorem isBlank_of_mem_closers {close : Char} (member : close ∈ closers) :
    isBlank close = false := by
  simp only [closers, List.mem_cons, List.not_mem_nil, or_false] at member
  rcases member with rfl | rfl | rfl <;> decide

/-- Blanks before a character that is none are skipped up to it. -/
theorem trimStart_append_cons {blanks : Text} {char : Char}
    (allBlank : ∀ blank ∈ blanks, isBlank blank = true) (notBlank : isBlank char = false)
    (rest : Text) : trimStart (blanks ++ char :: rest) = char :: rest :=
  dropWhile_append_cons allBlank notBlank rest

theorem exists_blanks (text : Text) :
    ∃ blanks, (∀ blank ∈ blanks, isBlank blank = true) ∧ text = blanks ++ trimStart text :=
  ⟨text.takeWhile isBlank, fun _ member => List.mem_takeWhile_imp member,
    List.takeWhile_append_dropWhile.symm⟩

theorem fieldRest?_eq_some {written : Text} {close : Char} {source rest : Text}
    (found : fieldRest? written close source = some rest) :
    ∃ lead trail, (∀ char ∈ lead, isBlank char = true) ∧ (∀ char ∈ trail, isBlank char = true) ∧
      source = ':' :: (lead ++ (written ++ (trail ++ close :: rest))) := by
  cases colon : after? [':'] source with
  | none => simp [fieldRest?, colon] at found
  | some first =>
      cases spelled : after? written (trimStart first) with
      | none => simp [fieldRest?, colon, spelled] at found
      | some second =>
          simp only [fieldRest?, colon, spelled] at found
          obtain ⟨lead, leadBlank, first_eq⟩ := exists_blanks first
          obtain ⟨trail, trailBlank, second_eq⟩ := exists_blanks second
          refine ⟨lead, trail, leadBlank, trailBlank, ?_⟩
          rw [after?_eq_some_iff.1 colon, List.singleton_append, first_eq,
            after?_eq_some_iff.1 spelled, second_eq, after?_eq_some_iff.1 found,
            List.singleton_append]

theorem fieldRest?_append {written : Text} {close : Char}
    (headNotBlank : ∃ head tail, written = head :: tail ∧ isBlank head = false)
    (closeNotBlank : isBlank close = false) {lead trail : Text}
    (leadBlank : ∀ char ∈ lead, isBlank char = true)
    (trailBlank : ∀ char ∈ trail, isBlank char = true) (rest : Text) :
    fieldRest? written close (':' :: (lead ++ (written ++ (trail ++ close :: rest)))) =
      some rest := by
  obtain ⟨head, tail, rfl, notBlank⟩ := headNotBlank
  have colon : after? [':'] (':' :: (lead ++ ((head :: tail) ++ (trail ++ close :: rest)))) =
      some (lead ++ ((head :: tail) ++ (trail ++ close :: rest))) := after?_append [':'] _
  have skipped : trimStart (lead ++ ((head :: tail) ++ (trail ++ close :: rest))) =
      (head :: tail) ++ (trail ++ close :: rest) := trimStart_append_cons leadBlank notBlank _
  have closed : after? [close] (close :: rest) = some rest := after?_append [close] rest
  simp only [fieldRest?, colon, skipped, after?_append,
    trimStart_append_cons trailBlank closeNotBlank, closed]

theorem constantRest?_eq_some {source name rest : Text}
    (found : constantRest? source = some (name, rest)) :
    name ≠ [] ∧ (∀ char ∈ name, isWord char = true) ∧
      source = constantOpening ++ (name ++ (constantValue ++ rest)) := by
  cases opened : after? constantOpening source with
  | none => simp [constantRest?, opened] at found
  | some inner =>
      simp only [constantRest?, opened] at found
      split at found
      · cases found
      · rename_i nonempty
        obtain ⟨tail, value, same⟩ := Option.map_eq_some_iff.1 found
        simp only [Prod.mk.injEq] at same
        obtain ⟨rfl, rfl⟩ := same
        refine ⟨fun empty => nonempty (by simp [empty]),
          fun _ member => List.mem_takeWhile_imp member, ?_⟩
        rw [after?_eq_some_iff.1 opened, ← after?_eq_some_iff.1 value,
          List.takeWhile_append_dropWhile]

theorem constantRest?_append {name : Text} (name_ne : name ≠ [])
    (nameWord : ∀ char ∈ name, isWord char = true) (rest : Text) :
    constantRest? (constantOpening ++ (name ++ (constantValue ++ rest))) = some (name, rest) := by
  have value_eq : constantValue = ' ' :: "= any;".toList := rfl
  have notWord : isWord ' ' = false := by decide
  have taken := takeWhile_append_cons nameWord notWord ("= any;".toList ++ rest)
  have dropped := dropWhile_append_cons nameWord notWord ("= any;".toList ++ rest)
  rw [← List.cons_append, ← value_eq] at taken dropped
  simp only [constantRest?, after?_append, taken, dropped]
  simp [name_ne]

/-! ## Regular rules -/

/-- What regularity says of a rule for a field type. -/
structure RegularField (written : Text) (close : Char) (repaired : Text) : Prop where
  written_head : ∃ head tail, written = head :: tail ∧ isBlank head = false
  written_inner : ∀ char ∈ written, isInner char = true
  close_mem : close ∈ closers
  repaired_eq : ∃ middle, repaired = ':' :: (middle ++ [close]) ∧
    ∀ char ∈ middle, isInner char = true

theorem regularField_of_isRegular {written : Text} {close : Char} {repaired : Text} :
    (field written close repaired).isRegular = true → RegularField written close repaired := by
  intro regular
  simp only [isRegular, Bool.and_eq_true, List.all_eq_true, List.contains_iff_mem,
    beq_iff_eq] at regular
  obtain ⟨⟨⟨⟨⟨head, inner⟩, close_mem⟩, colon⟩, tailInner⟩, last⟩ := regular
  refine ⟨?_, inner, close_mem, ?_⟩
  · cases written with
    | nil => simp at head
    | cons first rest => exact ⟨first, rest, rfl, by simpa using head⟩
  · obtain ⟨front, rfl⟩ := List.getLast?_eq_some_iff.1 last
    cases front with
    | nil =>
        simp only [List.nil_append, List.head?_cons, Option.some.injEq] at colon
        subst colon
        exact absurd close_mem (by decide)
    | cons first middle =>
        simp only [List.cons_append, List.head?_cons, Option.some.injEq] at colon
        subst colon
        refine ⟨middle, rfl, fun char member => tailInner char ?_⟩
        exact List.mem_append_left _ member

/-- What a rule recognises starts with a match. -/
theorem exists_matches {rule : Rule} {source repair : Text} {covered : Nat}
    (found : rule.recognise source = some (repair, covered)) :
    ∃ stretch rest, source = stretch ++ rest ∧ covered = stretch.length ∧
      rule.Matches stretch repair := by
  cases rule with
  | field written close repaired =>
      obtain ⟨rest, matched, answer⟩ := Option.map_eq_some_iff.1 found
      simp only [Prod.mk.injEq] at answer
      obtain ⟨rfl, rfl⟩ := answer
      obtain ⟨lead, trail, leadBlank, trailBlank, rfl⟩ := fieldRest?_eq_some matched
      refine ⟨_, rest, ?_, ?_, .field leadBlank trailBlank⟩
      · simp
      · simp
        omega
  | constant =>
      obtain ⟨⟨name, rest⟩, matched, answer⟩ := Option.map_eq_some_iff.1 found
      simp only [Prod.mk.injEq] at answer
      obtain ⟨rfl, rfl⟩ := answer
      obtain ⟨name_ne, nameWord, rfl⟩ := constantRest?_eq_some matched
      rw [List.append_assoc constantOpening name constantRepair]
      refine ⟨_, rest, ?_, ?_, .constant name_ne nameWord⟩
      · simp
      · simp
        omega

/-- A regular rule recognises a match, whatever follows it. -/
theorem Matches.recognise_append {rule : Rule} (regular : rule.isRegular = true)
    {stretch repair : Text} (matched : rule.Matches stretch repair) (rest : Text) :
    rule.recognise (stretch ++ rest) = some (repair, stretch.length) := by
  cases matched with
  | @field written close repaired lead trail leadBlank trailBlank =>
      have shape := regularField_of_isRegular regular
      have found := fieldRest?_append shape.written_head (isBlank_of_mem_closers shape.close_mem)
        leadBlank trailBlank rest
      have source_eq : (':' :: (lead ++ (written ++ (trail ++ [close])))) ++ rest =
          ':' :: (lead ++ (written ++ (trail ++ close :: rest))) := by simp
      simp only [recognise, source_eq, found, Option.map_some]
      simp
      omega
  | @constant name name_ne nameWord =>
      have found := constantRest?_append name_ne nameWord rest
      have source_eq : (constantOpening ++ (name ++ constantValue)) ++ rest =
          constantOpening ++ (name ++ (constantValue ++ rest)) := by simp
      simp only [recognise, source_eq, found, Option.map_some]
      simp
      omega

/-- A regular rule reads exactly what it matches, and answers with the repaired text. -/
theorem reads_iff {rule : Rule} (regular : rule.isRegular = true) {stretch repair : Text} :
    Recogniser.Reads rule.recognise stretch repair ↔ rule.Matches stretch repair := by
  constructor
  · rintro ⟨-, found⟩
    obtain ⟨other, rest, whole, length_eq, matched⟩ := exists_matches (found [])
    exact (List.append_inj whole length_eq).1 ▸ matched
  · intro matched
    refine ⟨?_, matched.recognise_append regular⟩
    cases matched with
    | field => exact List.cons_ne_nil _ _
    | constant name_ne => simp [name_ne]

theorem recognise_isLocal {rule : Rule} (regular : rule.isRegular = true) :
    Recogniser.IsLocal rule.recognise := by
  intro source repair covered found
  obtain ⟨stretch, rest, source_eq, covered_eq, matched⟩ := exists_matches found
  exact ⟨stretch, rest, source_eq, covered_eq, (reads_iff regular).2 matched⟩

end DeclLinker.Rule
