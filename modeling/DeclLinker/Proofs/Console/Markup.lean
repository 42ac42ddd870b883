import DeclLinker.Console.Markup
import DeclLinker.Proofs.Source.Occurrence
import DeclLinker.Proofs.Source.Scan
import DeclLinker.Proofs.Text.Spelling

/-!
# Text that prints as it stands

A text is plain when it holds no tag, no backslash before an opening bracket, no code of a picture,
and no character that is not printed.  Each of the three is spelled in a certain way and has a
character of markup at both ends, so a text without such characters can stand before or behind any
other: the two together are plain exactly when each of them is.
-/

namespace DeclLinker

namespace Console

open Text

/-! ## Tags and codes -/

namespace Markup

/-- What a tag holds: a small letter or one of three signs, and then no brackets. -/
def IsBody (body : Text) : Prop :=
  ∃ first more, body = first :: more ∧ startsTag first = true ∧ ∀ char ∈ more, insideTag char = true

/-- A tag. -/
def tagOf (body : Text) : Text :=
  '[' :: body ++ [']']

/-- A recognised tag: its body in brackets, with backslashes before it. -/
def IsTagStretch (stretch : Text) (tag : Nat × Text) : Prop :=
  IsBody tag.2 ∧ stretch = List.replicate tag.1 '\\' ++ tagOf tag.2

theorem spells_tagAt : tagAt.Spells IsTagStretch where
  sound := by
    rintro text ⟨slashes, body⟩ covered found
    let run := text.takeWhile fun char => char == '\\'
    have run_eq : run = List.replicate run.length '\\' :=
      List.eq_replicate_iff.mpr ⟨rfl, fun char member => by
        simpa using List.mem_takeWhile_imp member⟩
    have text_eq : text = run ++ text.dropWhile fun char => char == '\\' :=
      List.takeWhile_append_dropWhile.symm
    have drop_eq : text.drop run.length = text.dropWhile fun char => char == '\\' := by
      conv_lhs => rw [text_eq]
      exact List.drop_left
    simp only [tagAt] at found
    split at found
    · rename_i first rest opened
      split at found
      · rename_i tail starts stopped
        cases found
        have whole : rest = rest.takeWhile insideTag ++ rest.dropWhile insideTag :=
          List.takeWhile_append_dropWhile.symm
        refine ⟨run ++ tagOf (first :: rest.takeWhile insideTag), tail, ?_, ?_, ?_, ?_⟩
        · rw [text_eq, ← drop_eq, opened]
          conv_lhs => rw [whole, stopped]
          simp [tagOf]
        · simp [tagOf, run]
          omega
        · exact ⟨first, _, rfl, starts, fun char member => List.mem_takeWhile_imp member⟩
        · rw [← run_eq]
      · cases found
    · cases found
  reads := by
    rintro stretch ⟨slashes, body⟩ ⟨⟨first, more, body_eq, starts, inside⟩, rfl⟩
    dsimp only at body_eq
    subst body_eq
    refine ⟨by simp [tagOf], fun rest => ?_⟩
    have notSlash : ('[' == '\\') = false := rfl
    have slash : ∀ char ∈ List.replicate slashes '\\', (char == '\\') = true := by
      intro char member
      simp [(List.mem_replicate.mp member).2]
    have taken := takeWhile_append_cons slash notSlash (first :: (more ++ ']' :: rest))
    have stopped := dropWhile_append_cons inside (by decide : insideTag ']' = false) rest
    have body := takeWhile_append_cons inside (by decide : insideTag ']' = false) rest
    have whole : List.replicate slashes '\\' ++ tagOf (first :: more) ++ rest =
        List.replicate slashes '\\' ++ '[' :: first :: (more ++ ']' :: rest) := by
      simp [tagOf]
    simp only [whole, tagAt, taken, List.length_replicate]
    rw [List.drop_left' List.length_replicate]
    simp only [starts, stopped, body]
    simp [tagOf]
    omega

/-- Tags and their backslashes. -/
theorem tagAt_isLocal : tagAt.IsLocal :=
  spells_tagAt.isLocal

theorem clear_tagAt_iff {text : Text} :
    tagAt.Clear text ↔ ∀ body, IsBody body → ¬tagOf body <:+: text := by
  constructor
  · intro clear body isBody
    exact clear.not_infix tagAt_isLocal
      (spells_tagAt.reads (⟨isBody, rfl⟩ : IsTagStretch (tagOf body) (0, body)))
  · intro absent
    refine Recogniser.clear_of_not_infix tagAt_isLocal fun stretch tag reads inside => ?_
    obtain ⟨isBody, rfl⟩ := spells_tagAt.reads_iff.mp reads
    exact absent tag.2 isBody ((List.suffix_append _ _).isInfix.trans inside)

end Markup

namespace Emoji

/-- A code: a name without blanks between two colons. -/
def IsCode (stretch name : Text) : Prop :=
  (∀ char ∈ name, insideCode char = true) ∧ stretch = ':' :: name ++ [':']

theorem spells_codeAt : codeAt.Spells IsCode where
  sound := by
    intro text name covered found
    unfold codeAt at found
    split at found
    · rename_i rest
      split at found
      · rename_i tail stopped
        cases found
        have whole : rest = rest.takeWhile insideCode ++ rest.dropWhile insideCode :=
          List.takeWhile_append_dropWhile.symm
        refine ⟨':' :: rest.takeWhile insideCode ++ [':'], tail, ?_, by simp, ?_, rfl⟩
        · conv_lhs => rw [whole, stopped]
          simp
        · exact fun char member => List.mem_takeWhile_imp member
      · cases found
    · cases found
  reads := by
    rintro stretch name ⟨inside, rfl⟩
    refine ⟨by simp, fun rest => ?_⟩
    have stopped := dropWhile_append_cons inside (by decide : insideCode ':' = false) rest
    have taken := takeWhile_append_cons inside (by decide : insideCode ':' = false) rest
    simp [codeAt, stopped, taken]

/-- Whether a picture goes by a name. -/
def isKnown (name : Text) : Bool :=
  (Dict.get? (Text.lower (splitForm name).1) pictures).isSome

end Emoji

/-! ## Plain texts -/

namespace Markup

/-- What is printed as it stands: nothing in it is a tag, a backslash before an opening bracket, or
a code of a picture, and it has no tab and no character that is not printed. -/
structure IsPlain (text : Text) : Prop where
  untagged : ∀ body, IsBody body → ¬tagOf body <:+: text
  unescaped : ¬['\\', '['] <:+: text
  uncoded : ∀ name ∈ findAll Emoji.codeAt text, Emoji.isKnown name = false
  printable : ∀ char ∈ text, Reading.isControl char = false ∧ char ≠ '\t'

/-- Recognises a backslash before an opening bracket. -/
abbrev escapedAt : Recogniser Unit :=
  phrase ['\\', '[']

theorem escapedAt_isLocal : escapedAt.IsLocal :=
  phrase_isLocal (List.cons_ne_nil _ _)

theorem escapedAt_reads_iff {stretch : Text} {value : Unit} :
    escapedAt.Reads stretch value ↔ stretch = ['\\', '['] :=
  phrase_reads_iff (List.cons_ne_nil _ _)

theorem clear_escapedAt_iff {text : Text} :
    escapedAt.Clear text ↔ ¬['\\', '['] <:+: text := by
  constructor
  · intro clear
    exact clear.not_infix escapedAt_isLocal (escapedAt_reads_iff.mpr rfl : escapedAt.Reads _ ())
  · intro absent
    refine Recogniser.clear_of_not_infix escapedAt_isLocal fun stretch value reads inside => ?_
    exact absent (escapedAt_reads_iff.mp reads ▸ inside)

/-! ## Characters of markup -/

/-- The characters that mean something in markup. -/
def isMark (char : Char) : Bool :=
  char == '[' || char == ']' || char == ':' || char == '\\'

/-- Every recognised stretch starts and ends with a character of markup. -/
def Framed {α : Type} (recognise : Recogniser α) : Prop :=
  ∀ ⦃stretch value⦄, recognise.Reads stretch value →
    (∃ first rest, stretch = first :: rest ∧ isMark first = true) ∧
      ∃ front last, stretch = front ++ [last] ∧ isMark last = true

theorem framed_tagAt : Framed tagAt := by
  intro stretch tag reads
  obtain ⟨-, rfl⟩ := spells_tagAt.reads_iff.mp reads
  constructor
  · cases tag.1 with
    | zero => exact ⟨'[', _, rfl, rfl⟩
    | succ slashes => exact ⟨'\\', _, rfl, rfl⟩
  · exact ⟨List.replicate tag.1 '\\' ++ '[' :: tag.2, ']', by simp [tagOf], rfl⟩

theorem framed_codeAt : Framed Emoji.codeAt := by
  intro stretch name reads
  obtain ⟨-, rfl⟩ := Emoji.spells_codeAt.reads_iff.mp reads
  exact ⟨⟨':', _, rfl, rfl⟩, ':' :: name, ':', rfl, rfl⟩

theorem framed_escapedAt : Framed escapedAt := by
  intro stretch value reads
  rw [escapedAt_reads_iff.mp reads]
  exact ⟨⟨'\\', _, rfl, rfl⟩, ['\\'], '[', rfl, rfl⟩

variable {α : Type} {recognise : Recogniser α} {left right text : Text}

/-- A text without characters of markup. -/
def IsQuiet (text : Text) : Prop :=
  ∀ char ∈ text, isMark char = false

instance (text : Text) : Decidable (IsQuiet text) :=
  inferInstanceAs (Decidable (∀ char ∈ text, isMark char = false))

theorem Framed.apart (framed : Framed recognise) (quiet : IsQuiet left ∨ IsQuiet right) :
    recognise.Apart left right := by
  intro first second value ends starts first_ne second_ne reads
  obtain ⟨⟨head, rest, head_eq, headMark⟩, front, last, last_eq, lastMark⟩ := framed reads
  rcases quiet with quiet | quiet
  · have inFirst : head ∈ first := by
      obtain ⟨char, more, rfl⟩ := List.exists_cons_of_ne_nil first_ne
      rw [List.cons_append, List.cons.injEq] at head_eq
      exact head_eq.1 ▸ List.mem_cons_self
    rw [quiet head (ends.subset inFirst)] at headMark
    cases headMark
  · have inSecond : last ∈ second := by
      have getLast_eq := congrArg List.getLast? last_eq
      rw [List.getLast?_append_of_ne_nil _ second_ne, List.getLast?_concat] at getLast_eq
      exact List.mem_of_getLast? getLast_eq
    rw [quiet last (starts.subset inSecond)] at lastMark
    cases lastMark

theorem Framed.clear (framed : Framed recognise) (isLocal : recognise.IsLocal)
    (quiet : IsQuiet text) : recognise.Clear text := by
  refine Recogniser.clear_of_not_infix isLocal fun stretch value reads inside => ?_
  obtain ⟨⟨head, rest, rfl, headMark⟩, -⟩ := framed reads
  rw [quiet head (inside.subset List.mem_cons_self)] at headMark
  cases headMark

/-- A text is plain when its two parts are, if one of them has no characters of markup. -/
theorem isPlain_append_iff (quiet : IsQuiet left ∨ IsQuiet right) :
    IsPlain (left ++ right) ↔ IsPlain left ∧ IsPlain right := by
  have codes := findAll_append Emoji.spells_codeAt.isLocal (framed_codeAt.apart quiet)
  have tags := Recogniser.clear_append_iff tagAt_isLocal (framed_tagAt.apart quiet)
  have escapes :=
    Recogniser.clear_append_iff escapedAt_isLocal (framed_escapedAt.apart quiet)
  simp only [clear_tagAt_iff] at tags
  simp only [clear_escapedAt_iff] at escapes
  constructor
  · rintro ⟨untagged, unescaped, uncoded, printable⟩
    simp only [codes, List.forall_mem_append] at uncoded
    rw [List.forall_mem_append] at printable
    exact ⟨⟨(tags.mp untagged).1, (escapes.mp unescaped).1, uncoded.1, printable.1⟩,
      ⟨(tags.mp untagged).2, (escapes.mp unescaped).2, uncoded.2, printable.2⟩⟩
  · rintro ⟨leftPlain, rightPlain⟩
    refine ⟨tags.mpr ⟨leftPlain.untagged, rightPlain.untagged⟩,
      escapes.mpr ⟨leftPlain.unescaped, rightPlain.unescaped⟩, ?_, ?_⟩
    · rw [codes, List.forall_mem_append]
      exact ⟨leftPlain.uncoded, rightPlain.uncoded⟩
    · rw [List.forall_mem_append]
      exact ⟨leftPlain.printable, rightPlain.printable⟩

/-- A text without characters of markup is plain when it has no others that are not printed. -/
theorem IsQuiet.isPlain (quiet : IsQuiet text)
    (printable : ∀ char ∈ text, Reading.isControl char = false ∧ char ≠ '\t') : IsPlain text where
  untagged := clear_tagAt_iff.mp (framed_tagAt.clear tagAt_isLocal quiet)
  unescaped := clear_escapedAt_iff.mp (framed_escapedAt.clear escapedAt_isLocal quiet)
  uncoded := by
    have clear := framed_codeAt.clear Emoji.spells_codeAt.isLocal quiet
    rw [clear.findAll_eq_nil]
    exact fun _ member => absurd member List.not_mem_nil
  printable := printable

/-- A text of characters that are printed and mean nothing in markup. -/
def IsMild (text : Text) : Prop :=
  ∀ char ∈ text, isMark char = false ∧ Reading.isControl char = false ∧ char ≠ '\t'

instance (text : Text) : Decidable (IsMild text) :=
  inferInstanceAs (Decidable (∀ char ∈ text,
    isMark char = false ∧ Reading.isControl char = false ∧ char ≠ '\t'))

@[simp]
theorem isMild_append : IsMild (left ++ right) ↔ IsMild left ∧ IsMild right :=
  List.forall_mem_append

theorem isMild_replicate {char : Char} (mild : IsMild [char]) (count : Nat) :
    IsMild (List.replicate count char) := fun _ member =>
  List.eq_of_mem_replicate member ▸ mild char List.mem_cons_self

theorem IsMild.isQuiet (mild : IsMild text) : IsQuiet text :=
  fun char member => (mild char member).1

theorem IsMild.isPlain (mild : IsMild text) : IsPlain text :=
  mild.isQuiet.isPlain fun char member => (mild char member).2

/-- A single colon means nothing in markup. -/
theorem isPlain_colon (leftMild : IsMild left) (rightMild : IsMild right) :
    IsPlain (left ++ ':' :: right) := by
  have foreign : ∀ char ∈ [':'], char ≠ '[' := by decide
  have colon : IsPlain [':'] :=
    { untagged := fun body _ inside => foreign '[' (inside.subset List.mem_cons_self) rfl
      unescaped := fun inside => foreign '[' (inside.subset (by simp)) rfl
      uncoded := fun name member => absurd member List.not_mem_nil
      printable := by decide }
  have behind : IsPlain ([':'] ++ right) :=
    (isPlain_append_iff (.inr rightMild.isQuiet)).mpr ⟨colon, rightMild.isPlain⟩
  exact (isPlain_append_iff (.inl leftMild.isQuiet)).mpr ⟨leftMild.isPlain, behind⟩

end Markup

end Console

end DeclLinker
