import DeclLinker.Proofs.Repair.Steady
import DeclLinker.Proofs.Repair.Surroundings
import DeclLinker.Proofs.Resolution.Replacement
import DeclLinker.Proofs.Tables
import Mathlib.Data.List.Infix

/-!
# Replacements that bring nothing new

The structural rules and the scan for exports look for certain words.  A replacement that does not
start with one of these words, put where an isolated placeholder stood, makes no new match: a match
that ran into it would need such a word there, and one that ran out of it would have to start with
a colon or with `export` in it.  There is one exception, a replacement that ends in `export` before
the rest of a constant with the value `any`.
-/

namespace DeclLinker

open Text

/-- The words that the rules and the headers of exports look for. -/
def reservedWords : List Text :=
  ["any".toList, "error".toList, "bigInt".toList, "undefined".toList, "substrReplacer".toList,
    "regexReplacer".toList, "queryOps".toList, "export".toList, "interface".toList, "type".toList,
    "const".toList]

namespace Text

/-- The run of naming characters that a text starts with. -/
def nameRun (text : Text) : Text :=
  text.takeWhile isNaming

theorem nameRun_append_of_mem {text : Text} {stop : Char} (member : stop ∈ text)
    (notNaming : isNaming stop = false) (rest : Text) : nameRun (text ++ rest) = nameRun text := by
  obtain ⟨front, back, rfl⟩ := List.append_of_mem member
  have cut : ∀ tail : Text, nameRun (front ++ stop :: tail) = nameRun front := by
    intro tail
    induction front with
    | nil => simp [nameRun, notNaming]
    | cons first front ih =>
        by_cases naming : isNaming first = true
        · simpa [nameRun, naming] using ih
        · simp [nameRun, naming]
  rw [List.append_assoc, List.cons_append, cut, cut]

theorem nameRun_append_cons {stop : Char} (notNaming : isNaming stop = false) (text rest : Text) :
    nameRun (text ++ stop :: rest) = nameRun text := by
  have inside : stop ∈ text ++ [stop] := by simp
  have cut := nameRun_append_of_mem inside notNaming rest
  have alone : nameRun (text ++ [stop]) = nameRun text := by
    by_cases stops : ∀ char ∈ text, isNaming char = true
    · rw [nameRun, List.takeWhile_append_of_pos stops,
        List.takeWhile_cons_of_neg (by simp [notNaming]),
        List.append_nil, nameRun, List.takeWhile_eq_self_iff.2 stops]
    · push Not at stops
      obtain ⟨char, member, notName⟩ := stops
      exact nameRun_append_of_mem member (by simpa using notName) [stop]
  rw [List.append_cons, cut, alone]

theorem isBlank_of_isNaming {char : Char} (naming : isNaming char = true) :
    isBlank char = false := by
  by_cases low : char.toNat < 0x80
  · exact isBlank_of_isWord (isWord_of_isNaming naming low)
  · rw [isNaming, if_neg low] at naming
    simpa using naming

theorem isNaming_of_mem_closers {close : Char} (member : close ∈ Rule.closers) :
    isNaming close = false := by
  have table : ∀ char ∈ Rule.closers, isNaming char = false := by decide
  exact table close member

/-- A run that is not reserved stays so before a text that starts with no word character. -/
theorem nameRun_append_not_reserved {text rest : Text} (free : nameRun text ∉ reservedWords)
    (stop : ∀ char, rest.head? = some char → isWord char = false) :
    nameRun (text ++ rest) ∉ reservedWords := by
  by_cases naming : ∀ char ∈ text, isNaming char = true
  · have whole : nameRun text = text := List.takeWhile_eq_self_iff.2 naming
    have run_eq : nameRun (text ++ rest) = text ++ nameRun rest :=
      List.takeWhile_append_of_pos naming
    rw [whole] at free
    rw [run_eq]
    intro member
    cases rest with
    | nil => exact free (by simpa [nameRun] using member)
    | cons first rest =>
        by_cases firstNaming : isNaming first = true
        · -- All characters of a reserved word are word characters.
          have table : ∀ word ∈ reservedWords, ∀ char ∈ word, isWord char = true := by decide
          have word := table _ member first (by simp [nameRun, firstNaming])
          rw [stop first rfl] at word
          cases word
        · exact free (by simpa [nameRun, firstNaming] using member)
  · push Not at naming
    obtain ⟨char, member, notName⟩ := naming
    rwa [nameRun_append_of_mem member (by simpa using notName)]

end Text

/-- A property of all ways to cut a text in two, one by one. -/
theorem Text.cut_of_table {motive : Text → Text → Prop} {text front back : Text}
    (table : ∀ length ≤ text.length, motive (text.take length) (text.drop length))
    (cut : text = front ++ back) : motive front back := by
  subst cut
  simpa using table front.length (by simp)

/-- A run ends before the blanks and the closing character of a field. -/
theorem nameRun_append_close {trail : Text} {close : Char}
    (trailBlank : ∀ char ∈ trail, isBlank char = true) (isCloser : close ∈ Rule.closers)
    (back rest : Text) : nameRun (back ++ (trail ++ close :: rest)) = nameRun back := by
  cases trail with
  | nil => exact nameRun_append_cons (isNaming_of_mem_closers isCloser) back rest
  | cons blank trail =>
      refine nameRun_append_cons ?_ back _
      by_contra naming
      rw [Bool.not_eq_false] at naming
      have blankTrue := trailBlank blank List.mem_cons_self
      rw [isBlank_of_isNaming naming] at blankTrue
      cases blankTrue

/-! ## Where a match can be entered -/

/-- Whether no replacement of an isolated placeholder can start at a place in a match: a word
character or a dot stands before it, a reserved word behind it, or a character that no replacement
starts with. -/
def Rule.bars (front back : Text) : Bool :=
  front.getLast?.any isDotted || reservedWords.contains (nameRun back) ||
    back.head?.any fun char => !isNaming char && char != '\x7b'

/-- A field that is cut before a character that is neither blank nor its closing one is cut in its
written type. -/
theorem Rule.exists_cut_of_written {lead written trail inner second more : Text}
    {close start : Char} (leadBlank : ∀ char ∈ lead, isBlank char = true)
    (trailBlank : ∀ char ∈ trail, isBlank char = true) (written_ne : written ≠ [])
    (second_eq : second = start :: more) (notBlank : isBlank start = false)
    (notClose : start ≠ close)
    (split : inner ++ second = lead ++ (written ++ (trail ++ [close]))) :
    ∃ front back, written = front ++ back ∧ inner = lead ++ front ∧ back ≠ [] ∧
      second = back ++ (trail ++ [close]) := by
  rcases List.append_eq_append_iff.1 split with ⟨gap, lead_eq, second_split⟩ |
    ⟨front, inner_eq, tail_split⟩
  · cases gap with
    | nil =>
        exact ⟨[], written, rfl, by simpa using lead_eq.symm, written_ne,
          by simpa using second_split⟩
    | cons blank gap =>
        rw [second_eq, List.cons_append, List.cons.injEq] at second_split
        have blankTrue := leadBlank blank (by simp [lead_eq])
        rw [← second_split.1, notBlank] at blankTrue
        cases blankTrue
  · have foreign : start ∉ trail ++ [close] := by
      intro member
      rcases List.mem_append.1 member with inTrail | isClose
      · rw [trailBlank start inTrail] at notBlank
        cases notBlank
      · exact notClose (List.mem_singleton.1 isClose)
    rcases List.append_eq_append_iff.1 tail_split with ⟨gap, front_eq, trail_eq⟩ |
      ⟨back, written_eq, second_split⟩
    · exact absurd (by simp [trail_eq, second_eq]) foreign
    · refine ⟨front, back, written_eq, inner_eq, ?_, second_split⟩
      rintro rfl
      rw [List.nil_append, second_eq] at second_split
      exact foreign (by rw [← second_split]; exact List.mem_cons_self)

theorem Rule.bars_written {rule : Rule} (known : rule ∈ Rule.builtin) {front back : Text}
    (cut : rule.writtenType = front ++ back) (back_ne : back ≠ []) :
    Rule.bars front back = true := by
  have table : ∀ rule ∈ Rule.builtin, ∀ length ≤ rule.writtenType.length,
      rule.writtenType.drop length ≠ [] →
        Rule.bars (rule.writtenType.take length) (rule.writtenType.drop length) = true := by
    decide +kernel
  exact cut_of_table (motive := fun front back => back ≠ [] → Rule.bars front back = true)
    (table rule known) cut back_ne

theorem Rule.bars_opening {front back : Text} (cut : Rule.constantOpening = front ++ back)
    (front_ne : front ≠ []) (back_ne : back ≠ []) : Rule.bars front back = true := by
  have table : ∀ length ≤ Rule.constantOpening.length,
      Rule.constantOpening.take length ≠ [] → Rule.constantOpening.drop length ≠ [] →
        Rule.bars (Rule.constantOpening.take length) (Rule.constantOpening.drop length) = true := by
    decide +kernel
  exact cut_of_table
    (motive := fun front back => front ≠ [] → back ≠ [] → Rule.bars front back = true)
    table cut front_ne back_ne

theorem Rule.bars_value {front back : Text} (cut : Rule.constantValue = front ++ back)
    (front_ne : front ≠ []) (back_ne : back ≠ []) : Rule.bars front back = true := by
  have table : ∀ length ≤ Rule.constantValue.length,
      Rule.constantValue.take length ≠ [] → Rule.constantValue.drop length ≠ [] →
        Rule.bars (Rule.constantValue.take length) (Rule.constantValue.drop length) = true := by
    decide +kernel
  exact cut_of_table
    (motive := fun front back => front ≠ [] → back ≠ [] → Rule.bars front back = true)
    table cut front_ne back_ne

/-- Whether no match of a rule can start with the given text. -/
def Rule.deaf (rule : Rule) (text : Text) : Bool :=
  match rule with
  | .field written _ _ => text.head? != some ':' || diverge written (trimStart text.tail)
  | .constant => diverge constantOpening text

/-- A replacement that the rules and the scan for exports do not take for something else. -/
structure Harmless (replacement : Text) : Prop where
  inert : Reference.Inert replacement
  head : ∃ first rest, replacement = first :: rest ∧ (isNaming first = true ∨ first = '\x7b')
  run : nameRun replacement ∉ reservedWords
  carriage : '\r' ∉ replacement
  quiet : (∀ char ∈ replacement, isNaming char = true) ∨
    ((∀ ending, ending <:+ replacement → ending ≠ [] → ∀ rule ∈ Rule.builtin,
      rule.deaf ending = true) ∧ replacement.getLast? ≠ some 't')

namespace Harmless

variable {replacement before after : Text}

/-- A replacement does not start at a barred place. -/
theorem not_barred (harmless : Harmless replacement)
    (isClear : Reference.clearBefore before = true)
    (stop : ∀ char, after.head? = some char → isWord char = false) {front back rest : Text}
    (barred : Rule.bars front back = true) (ends : front <:+ before) (back_ne : back ≠ [])
    (runs : nameRun (back ++ rest) = nameRun back)
    (whole : replacement ++ after = back ++ rest) : False := by
  simp only [Rule.bars, Bool.or_eq_true, Option.any_eq_true, List.contains_iff_mem] at barred
  obtain ⟨first, more, back_eq⟩ := List.exists_cons_of_ne_nil back_ne
  rcases barred with (⟨char, last, dotted⟩ | reserved) | ⟨char, head_eq, foreign⟩
  · rw [Reference.not_dotted_of_suffix isClear ends last] at dotted
    cases dotted
  · rw [← runs, ← whole] at reserved
    exact nameRun_append_not_reserved harmless.run stop reserved
  · obtain ⟨start, tail, replacement_eq, fits⟩ := harmless.head
    rw [replacement_eq, back_eq, List.cons_append, List.cons_append, List.cons.injEq] at whole
    rw [back_eq, List.head?_cons, Option.some.injEq] at head_eq
    rw [← head_eq, ← whole.1] at foreign
    rcases fits with naming | brace
    · simp [naming] at foreign
    · simp [brace] at foreign

/-- The first character of a replacement is no blank and no closing character. -/
theorem head_foreign (harmless : Harmless replacement) {second : Text} (second_ne : second ≠ [])
    (starts : second <+: replacement ++ after) :
    ∃ first rest, second = first :: rest ∧ isBlank first = false ∧ first ∉ Rule.closers := by
  obtain ⟨first, rest, rfl⟩ := List.exists_cons_of_ne_nil second_ne
  obtain ⟨start, tail, replacement_eq, fits⟩ := harmless.head
  obtain ⟨more, whole⟩ := starts
  rw [replacement_eq, List.cons_append, List.cons_append, List.cons.injEq] at whole
  refine ⟨first, rest, rfl, ?_⟩
  rw [whole.1]
  rcases fits with naming | rfl
  · refine ⟨isBlank_of_isNaming naming, fun isCloser => ?_⟩
    rw [isNaming_of_mem_closers isCloser] at naming
    cases naming
  · decide

/-- No field type runs into a harmless replacement. -/
theorem apart_field (harmless : Harmless replacement)
    (isClear : Reference.clearBefore before = true)
    (stop : ∀ char, after.head? = some char → isWord char = false) {written repaired : Text}
    {close : Char} (known : Rule.field written close repaired ∈ Rule.builtin) :
    Recogniser.Apart (Rule.field written close repaired).recognise before
      (replacement ++ after) := by
  rintro first second value ends starts first_ne second_ne reads
  have regular := Rule.isRegular_of_mem_builtin known
  have shape := Rule.regularField_of_isRegular regular
  obtain ⟨start, more, second_eq, notBlank, notCloser⟩ := harmless.head_foreign second_ne starts
  have matched := (Rule.reads_iff regular).1 reads
  generalize stretch_eq : first ++ second = stretch at matched
  cases matched with
  | @field _ _ _ lead trail leadBlank trailBlank =>
      obtain ⟨colon, inner, rfl⟩ := List.exists_cons_of_ne_nil first_ne
      rw [List.cons_append, List.cons.injEq] at stretch_eq
      have notClose : start ≠ close := by
        rintro rfl
        exact notCloser shape.close_mem
      have written_ne : written ≠ [] := by
        obtain ⟨head, tail, written_eq, -⟩ := shape.written_head
        simp [written_eq]
      -- The replacement starts inside the written type.
      obtain ⟨front, back, written_eq, inner_eq, back_ne, tail_eq⟩ := Rule.exists_cut_of_written
        leadBlank trailBlank written_ne second_eq notBlank notClose stretch_eq.2
      obtain ⟨rest, whole⟩ := starts
      refine harmless.not_barred isClear stop (Rule.bars_written known written_eq back_ne) ?_
        back_ne (nameRun_append_close trailBlank shape.close_mem back rest) ?_
      · refine List.IsSuffix.trans ⟨colon :: lead, ?_⟩ ends
        simp [inner_eq]
      · rw [← whole, tail_eq]
        simp

/-- Nor does a constant with the value `any`, where no constant is being named. -/
theorem apart_constant (harmless : Harmless replacement)
    (isClear : Reference.clearBefore before = true) (unnamed : ¬" const ".toList <:+ before)
    (stop : ∀ char, after.head? = some char → isWord char = false) :
    Recogniser.Apart Rule.constant.recognise before (replacement ++ after) := by
  rintro first second value ends ⟨rest, starts⟩ first_ne second_ne reads
  have matched := (Rule.reads_iff rfl).1 reads
  have noWord : ∀ front part, first = front ++ part → part ≠ [] →
      ¬∀ char ∈ part, isWord char = true := by
    intro front part first_eq part_ne word
    obtain ⟨init, char, rfl⟩ := (List.eq_nil_or_concat' part).resolve_left part_ne
    have partEnds : init ++ [char] <:+ before := List.IsSuffix.trans ⟨front, first_eq.symm⟩ ends
    have notWord := Reference.not_word_of_suffix isClear partEnds List.getLast?_concat
    rw [word char (by simp)] at notWord
    cases notWord
  have lastOf : ∀ {text front back : Text} {char : Char}, text = front ++ back → back ≠ [] →
      text.getLast? = some char → char ∈ back := by
    intro text front back char cut back_ne last
    rw [cut, List.getLast?_append_of_ne_nil _ back_ne] at last
    exact List.mem_of_getLast? last
  have notOpening : first ≠ Rule.constantOpening := by
    rintro rfl
    exact unnamed (List.IsSuffix.trans ⟨"export".toList, rfl⟩ ends)
  generalize stretch_eq : first ++ second = stretch at matched
  cases matched with
  | @constant name name_ne nameWord =>
      rcases List.append_eq_append_iff.1 stretch_eq with ⟨gap, opening_eq, second_eq⟩ |
        ⟨inner, first_eq, tail_eq⟩
      · have gap_ne : gap ≠ [] := by
          rintro rfl
          exact notOpening (by simpa using opening_eq.symm)
        have blank : ' ' ∈ gap := lastOf opening_eq gap_ne rfl
        refine harmless.not_barred isClear stop (Rule.bars_opening opening_eq first_ne gap_ne) ends
          gap_ne (nameRun_append_of_mem blank (by decide) (name ++ (Rule.constantValue ++ rest))) ?_
        rw [← starts, second_eq]
        simp
      · rcases List.append_eq_append_iff.1 tail_eq with ⟨front, inner_eq, value_eq⟩ |
          ⟨part, name_eq, -⟩
        · by_cases front_nil : front = []
          · rw [front_nil, List.append_nil] at inner_eq
            exact noWord Rule.constantOpening name (by rw [first_eq, inner_eq]) name_ne nameWord
          · have close : ';' ∈ second := lastOf value_eq second_ne rfl
            refine harmless.not_barred isClear stop
              (Rule.bars_value value_eq front_nil second_ne) ?_ second_ne
              (nameRun_append_of_mem close (by decide) rest) starts.symm
            refine List.IsSuffix.trans ⟨Rule.constantOpening ++ name, ?_⟩ ends
            rw [first_eq, inner_eq, List.append_assoc]
        · refine noWord Rule.constantOpening inner first_eq ?_ fun char member =>
            nameWord char (by simp [name_eq, member])
          rintro rfl
          exact notOpening (by simpa using first_eq)

theorem apart_rule (harmless : Harmless replacement)
    (isClear : Reference.clearBefore before = true) (unnamed : ¬" const ".toList <:+ before)
    (stop : ∀ char, after.head? = some char → isWord char = false) {rule : Rule}
    (known : rule ∈ Rule.builtin) :
    Recogniser.Apart rule.recognise before (replacement ++ after) := by
  cases rule with
  | field written close repaired => exact harmless.apart_field isClear stop known
  | constant => exact harmless.apart_constant isClear unnamed stop

end Harmless

/-! ## Matches that start in a replacement -/

namespace Rule

/-- The rest of a constant with the value `any`, behind the word `export`. -/
def Unexported (text : Text) : Prop :=
  ∃ name rest, name ≠ [] ∧ (∀ char ∈ name, isWord char = true) ∧
    text = " const ".toList ++ (name ++ (constantValue ++ rest))

theorem constantOpening_split : constantOpening = "export".toList ++ " const ".toList :=
  rfl

/-- A rule that is deaf to a text has no match that starts with it. -/
theorem not_starts_of_deaf {rule : Rule} (regular : rule.isRegular = true) {ending : Text}
    (isDeaf : rule.deaf ending = true) (ending_ne : ending ≠ []) {stretch repair : Text}
    (matched : rule.Matches stretch repair) (rest : Text) : ¬stretch <+: ending ++ rest := by
  rintro ⟨more, whole⟩
  cases matched with
  | @field written close repaired lead trail leadBlank trailBlank =>
      obtain ⟨first, tail, rfl⟩ := List.exists_cons_of_ne_nil ending_ne
      rw [List.cons_append, List.cons_append, List.cons.injEq] at whole
      obtain ⟨head, inner, written_eq, headNotBlank⟩ :=
        (regularField_of_isRegular regular).written_head
      have apart : diverge written (trimStart tail) = true := by
        simpa [deaf, ← whole.1] using isDeaf
      have tail_ne : trimStart tail ≠ [] := by
        intro empty
        simp [empty, diverge] at apart
      have skipped : trimStart (tail ++ rest) = trimStart tail ++ rest := by
        have kept : ¬(List.dropWhile isBlank tail).isEmpty = true :=
          fun empty => tail_ne (List.isEmpty_iff.1 empty)
        rw [trimStart, List.dropWhile_append, if_neg kept]
        rfl
      have trimmed := congrArg trimStart whole.2
      rw [skipped, written_eq] at trimmed
      simp only [List.append_assoc, List.cons_append] at trimmed
      rw [trimStart_append_cons leadBlank headNotBlank] at trimmed
      refine diverge_ne apart (trail ++ ([close] ++ more)) rest ?_
      rw [written_eq, List.cons_append]
      exact trimmed
  | @constant name name_ne nameWord =>
      refine diverge_ne isDeaf (name ++ (constantValue ++ more)) rest ?_
      simpa using whole

/-- A rule that is deaf to every ending of a text misses it. -/
theorem misses_of_deaf {rule : Rule} (regular : rule.isRegular = true) {core : Text}
    (isDeaf : ∀ ending ∈ core.tails, ending ≠ [] → rule.deaf ending = true) : rule.Misses core := by
  intro front back rest stretch repair core_eq back_ne matched
  have ends : back ∈ core.tails := (List.mem_tails _ _).2 ⟨front, core_eq.symm⟩
  exact not_starts_of_deaf regular (isDeaf back ends back_ne) back_ne matched rest

end Rule

namespace Harmless

variable {replacement before after : Text}

/-- A match that starts in a replacement starts with the word `export` at its end. -/
theorem unexported_of_starts (harmless : Harmless replacement)
    (stop : ∀ char, after.head? = some char → isWord char = false) {rule : Rule}
    (known : rule ∈ Rule.builtin) {ending : Text} (ends : ending <:+ replacement)
    (ending_ne : ending ≠ []) {stretch repair : Text} (matched : rule.Matches stretch repair)
    (starts : stretch <+: ending ++ after) :
    "export".toList <:+ replacement ∧ Rule.Unexported after := by
  rcases harmless.quiet with naming | ⟨isDeaf, -⟩
  · have endingNaming : ∀ char, isNaming char = false → char ∉ ending := by
      intro char notNaming member
      rw [naming char (ends.subset member)] at notNaming
      cases notNaming
    obtain ⟨rest, whole⟩ := starts
    cases matched with
    | field leadBlank trailBlank =>
        obtain ⟨first, tail, rfl⟩ := List.exists_cons_of_ne_nil ending_ne
        rw [List.cons_append, List.cons_append, List.cons.injEq] at whole
        exact absurd (by simp [← whole.1]) (endingNaming ':' (by decide))
    | @constant name name_ne nameWord =>
        have whole_eq : ending ++ after = "export".toList ++
            (" const ".toList ++ (name ++ (Rule.constantValue ++ rest))) := by
          rw [← whole, Rule.constantOpening_split]
          simp only [List.append_assoc]
        rcases List.append_eq_append_iff.1 whole_eq with ⟨gap, export_eq, after_eq⟩ |
          ⟨gap, ending_eq, tail_eq⟩
        · cases gap with
          | nil =>
              rw [List.append_nil] at export_eq
              exact ⟨export_eq ▸ ends, name, rest, name_ne, nameWord, by simpa using after_eq⟩
          | cons first gap =>
              -- The word would go on behind the replacement.
              have letters : ∀ char ∈ "export".toList, isWord char = true := by decide
              have word := letters first (by rw [export_eq]; simp)
              rw [stop first (by simp [after_eq])] at word
              cases word
        · cases gap with
          | nil =>
              rw [List.append_nil] at ending_eq
              exact ⟨ending_eq ▸ ends, name, rest, name_ne, nameWord, by simpa using tail_eq.symm⟩
          | cons first gap =>
              have blank : first = ' ' := by
                have heads := congrArg List.head? tail_eq
                simpa using heads.symm
              exact absurd (by simp [ending_eq, blank]) (endingNaming ' ' (by decide))
  · exact absurd starts (Rule.not_starts_of_deaf (Rule.isRegular_of_mem_builtin known)
      (isDeaf ending ends ending_ne rule known) ending_ne matched after)

/-- A harmless replacement between steady texts makes a steady text. -/
theorem steady (harmless : Harmless replacement)
    (isClear : Reference.clearBefore before = true) (unnamed : ¬" const ".toList <:+ before)
    (stop : ∀ char, after.head? = some char → isWord char = false)
    (noSlip : "export".toList <:+ replacement → ¬Rule.Unexported after) {rule : Rule}
    (known : rule ∈ Rule.builtin) (front : rule.Steady before) (back : rule.Steady after) :
    rule.Steady (before ++ (replacement ++ after)) := by
  rintro stretch repair matched ⟨left, right, whole⟩
  have reads := (Rule.reads_iff (Rule.isRegular_of_mem_builtin known)).2 matched
  rw [List.append_assoc] at whole
  rcases split_of_apart (harmless.apart_rule isClear unnamed stop known) reads whole.symm with
    ⟨gap, before_eq, -⟩ | ⟨gap, -, tail_eq⟩
  · exact front stretch repair matched ⟨left, gap, by simp [before_eq]⟩
  · rcases List.append_eq_append_iff.1 tail_eq with ⟨inner, gap_eq, after_eq⟩ |
      ⟨ending, replacement_eq, stretch_eq⟩
    · exact back stretch repair matched ⟨inner, right, by simp [after_eq]⟩
    · by_cases ending_nil : ending = []
      · rw [ending_nil, List.nil_append] at stretch_eq
        exact back stretch repair matched ⟨[], right, by simp [stretch_eq]⟩
      · have slip := harmless.unexported_of_starts stop known ⟨gap, replacement_eq.symm⟩ ending_nil
          matched ⟨right, stretch_eq⟩
        exact absurd slip.2 (noSlip slip.1)

end Harmless

/-! ## What is harmless -/

/-- A name that is not reserved is harmless. -/
theorem harmless_of_naming {name : Text} (name_ne : name ≠ [])
    (naming : ∀ char ∈ name, isNaming char = true) (free : name ∉ reservedWords) :
    Harmless name where
  inert := Reference.inert_of_naming name_ne naming
  head := by
    obtain ⟨first, rest, rfl⟩ := List.exists_cons_of_ne_nil name_ne
    exact ⟨first, rest, rfl, .inl (naming first List.mem_cons_self)⟩
  run := by
    have whole : nameRun name = name := List.takeWhile_eq_self_iff.2 naming
    rwa [whole]
  carriage member := absurd (naming '\r' member) (by decide)
  quiet := .inl naming

/-- Whether an expression is harmless although it is no name. -/
def isHarmless (expression : Text) : Bool :=
  Reference.isPlain expression &&
    (expression.head?.any fun char => isNaming char || char == '\x7b') &&
    !reservedWords.contains (nameRun expression) && !expression.contains '\r' &&
    (expression.tails.all fun ending =>
      ending.isEmpty || Rule.builtin.all fun rule => rule.deaf ending) &&
    expression.getLast? != some 't'

theorem harmless_of_isHarmless {expression : Text} (checked : isHarmless expression = true) :
    Harmless expression := by
  simp only [isHarmless, Bool.and_eq_true, Bool.not_eq_true', Option.any_eq_true, List.all_eq_true,
    List.mem_tails, Bool.or_eq_true, List.isEmpty_iff, beq_iff_eq, bne_iff_ne, ← Bool.not_eq_true,
    List.contains_iff_mem] at checked
  obtain ⟨⟨⟨⟨⟨plain, first, head, fits⟩, free⟩, carriage⟩, endings⟩, last⟩ := checked
  obtain ⟨rest, rfl⟩ := List.head?_eq_some_iff.1 head
  exact ⟨Reference.inert_of_isPlain (by simp) plain, ⟨first, rest, rfl, fits⟩, free, carriage,
    .inr ⟨fun ending ends ending_ne => (endings ending ends).resolve_left ending_ne, last⟩⟩

theorem harmless_of_mem_builtins {key expression : Text}
    (member : (key, expression) ∈ Tables.default.builtins) : Harmless expression := by
  have table : ∀ pair ∈ Tables.default.builtins, isHarmless pair.2 = true := by
    rw [Tables.default_eq_decoded]
    decide +kernel
  exact harmless_of_isHarmless (table (key, expression) member)

/-- An alias of a name that is not reserved is not reserved. -/
theorem Alias.mint_not_reserved {entry : Entry} (named : entry.Named)
    (free : entry.exportName ∉ reservedWords) (taken : List Text) :
    mint (base entry.tag entry.exportName) taken ∉ reservedWords := by
  have small : ∀ word ∈ reservedWords, word.head?.all isSmall = true := by decide
  have noDigit : ∀ word ∈ reservedWords, (word.getLast?.all fun char => !char.isDigit) = true := by
    decide
  rcases mint_cases (base entry.tag entry.exportName) taken with same | ⟨number, numbered⟩
  · rw [same, base]
    intro member
    cases lead_eq : lead entry.tag with
    | nil =>
        rw [lead_eq, List.nil_append] at member
        exact free member
    | cons first rest =>
        have capital := capitalize_head (segment_word named) lead_eq
        have head := small _ member
        simp [lead_eq, capital] at head
  · rw [numbered]
    intro member
    have digits_ne : Text.ofNat (number + 2) ≠ [] := Nat.toDigits_ne_nil
    have last := noDigit _ member
    rw [List.getLast?_append_of_ne_nil _ digits_ne, List.getLast?_eq_some_getLast digits_ne] at last
    have digit := Nat.isDigit_of_mem_toDigits (by decide) (by decide) (List.getLast_mem digits_ne)
    simp only [Option.all_some, digit] at last
    cases last

/-- Named entries that are not reserved, with the built-in expressions, supply harmless
replacements. -/
theorem Supplies.harmless {index : Index}
    (named : ∀ key entry, (key, entry) ∈ index.entries →
      entry.Named ∧ entry.exportName ∉ reservedWords) :
    Supplies Tables.default index Harmless where
  builtin reference expression found := by
    obtain ⟨-, key, member⟩ := Tables.expression?_mem found
    exact harmless_of_mem_builtins member
  declared key entry member := by
    obtain ⟨known, free⟩ := named key entry member
    exact harmless_of_naming known.exportName_ne
      (fun char inside => isNaming_of_isWord (known.exportName_word char inside)) free
  aliased key entry member taken := by
    obtain ⟨known, free⟩ := named key entry member
    exact harmless_of_naming (Alias.mint_ne_nil known taken) (Alias.mint_naming known taken)
      (Alias.mint_not_reserved known free taken)

end DeclLinker
