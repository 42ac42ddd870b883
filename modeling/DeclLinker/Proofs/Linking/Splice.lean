import DeclLinker.Layout
import DeclLinker.Proofs.Import.Block
import DeclLinker.Proofs.Linking.Sound
import DeclLinker.Proofs.Repair.Independence

/-!
# Blocks that keep a text sound

A block of lines is idle when no match of a rule starts in it and it holds no star.  It is put at
the top of a text or behind the banner line, which ends in a full stop.  No match holds a full stop,
so none runs over the place; everything else about a text is decided line by line.  So an idle block
adds what it exports and disturbs nothing.  Import blocks are idle and export nothing.
-/

namespace DeclLinker

open Text

namespace Reference

/-- What stands before a line feed decides whether a placeholder before it is isolated. -/
theorem clearAfter_append_feed (gap rest : Text) :
    clearAfter (gap ++ '\n' :: rest) = clearAfter gap := by
  have absent : '\n' ∉ [' ', '/', '*'] := by decide
  have cut : [' ', '/', '*'] <+: gap ++ '\n' :: rest ↔ [' ', '/', '*'] <+: gap :=
    ⟨prefix_of_not_mem absent, fun starts => starts.trans (List.prefix_append _ _)⟩
  rw [Bool.eq_iff_iff, clearAfter_iff, clearAfter_iff, cut]
  refine and_congr_left fun _ => ?_
  cases gap with
  | nil => simp; decide
  | cons first gap => rfl

theorem clearBefore_append_feed (front gap : Text) :
    clearBefore (front ++ '\n' :: gap) = clearBefore gap := by
  have absent : '\n' ∉ ['/', '*', ' '] := by decide
  have cut : ['/', '*', ' '] <:+ front ++ '\n' :: gap ↔ ['/', '*', ' '] <:+ gap :=
    ⟨suffix_of_not_mem absent, fun ends => ends.trans ⟨front ++ ['\n'], by simp⟩⟩
  rw [Bool.eq_iff_iff, clearBefore_iff, clearBefore_iff, cut]
  refine and_congr_left fun _ => ?_
  rcases List.eq_nil_or_concat' gap with rfl | ⟨init, last, rfl⟩
  · simp; decide
  · rw [← List.cons_append, ← List.append_assoc, List.getLast?_concat, List.getLast?_concat]

/-- A placeholder lies on one side of a line feed. -/
theorem Spelled.split_feed {reference : Reference} (spelled : reference.Spelled)
    {front rest before after : Text}
    (whole : front ++ '\n' :: rest = before ++ (reference.text ++ after)) :
    (∃ gap, front = before ++ (reference.text ++ gap) ∧ after = gap ++ '\n' :: rest) ∨
      ∃ gap, before = front ++ '\n' :: gap ∧ rest = gap ++ (reference.text ++ after) := by
  have reads := reads_iff.2 ⟨spelled, rfl⟩
  have outer := apart_of_foreign_after (fun _ => Spelled.feed_not_mem) front rest
  have inner := apart_of_foreign_before (fun _ => Spelled.feed_not_mem) [] rest
  rcases split_of_apart outer reads whole with left | ⟨gap, before_eq, tail_eq⟩
  · exact .inl left
  · rw [← List.singleton_append] at tail_eq
    rcases split_of_apart inner reads tail_eq with ⟨more, feed_eq, -⟩ | ⟨more, gap_eq, rest_eq⟩
    · have long := congrArg List.length feed_eq
      simp [text, opening_eq] at long
      omega
    · exact .inr ⟨more, by simp [before_eq, gap_eq], rest_eq⟩

theorem isolated_append_feed {front rest : Text} :
    Isolated (front ++ '\n' :: rest) ↔ Isolated front ∧ Isolated rest := by
  simp only [isolated_iff]
  constructor
  · intro isolated
    constructor
    · rintro reference spelled before after rfl
      have here := isolated reference spelled before (after ++ '\n' :: rest) (by simp)
      rwa [clearAfter_append_feed] at here
    · rintro reference spelled before after rfl
      have here := isolated reference spelled (front ++ '\n' :: before) after (by simp)
      rwa [clearBefore_append_feed] at here
  · rintro ⟨left, right⟩ reference spelled before after whole
    rcases spelled.split_feed whole with ⟨gap, front_eq, rfl⟩ | ⟨gap, rfl, rest_eq⟩
    · rw [clearAfter_append_feed]
      exact left reference spelled before gap front_eq
    · rw [clearBefore_append_feed]
      exact right reference spelled gap after rest_eq

theorem neverBehind_append_feed {phrase : Text} (absent : '\n' ∉ phrase) {front rest : Text} :
    NeverBehind phrase (front ++ '\n' :: rest) ↔
      NeverBehind phrase front ∧ NeverBehind phrase rest := by
  have cut : ∀ gap : Text, phrase <:+ front ++ '\n' :: gap ↔ phrase <:+ gap := fun gap =>
    ⟨suffix_of_not_mem absent, fun ends => ends.trans ⟨front ++ ['\n'], by simp⟩⟩
  simp only [neverBehind_iff]
  constructor
  · intro never
    constructor
    · rintro reference spelled before after rfl
      exact never reference spelled before (after ++ '\n' :: rest) (by simp)
    · rintro reference spelled before after rfl ends
      exact never reference spelled (front ++ '\n' :: before) after (by simp) ((cut before).2 ends)
  · rintro ⟨left, right⟩ reference spelled before after whole ends
    rcases spelled.split_feed whole with ⟨gap, front_eq, -⟩ | ⟨gap, rfl, rest_eq⟩
    · exact left reference spelled before gap front_eq ends
    · exact right reference spelled gap after rest_eq ((cut gap).1 ends)

theorem star_mem_text (reference : Reference) : '*' ∈ reference.text := by
  simp [text, opening_eq]

/-- A text without stars holds no placeholder. -/
theorem not_placeholder {text : Text} (noStar : '*' ∉ text) {reference : Reference}
    {before after : Text} : text ≠ before ++ (reference.text ++ after) := by
  rintro rfl
  exact noStar (by simp [star_mem_text])

theorem findAll_of_star_not_mem {text : Text} (noStar : '*' ∉ text) :
    findAll recognise text = [] := by
  refine List.eq_nil_iff_forall_not_mem.2 fun reference member => ?_
  obtain ⟨-, before, after, whole⟩ := mem_findAll_iff.1 member
  exact not_placeholder noStar whole

theorem findAll_append_feed (front rest : Text) :
    findAll recognise (front ++ '\n' :: rest) =
      findAll recognise front ++ findAll recognise rest := by
  have noSlash : '/' ∉ ([] : Text) := List.not_mem_nil
  exact findAll_fence noSlash (fun _ => Spelled.feed_not_mem) front rest

end Reference

namespace Rule

variable {rule : Rule} {stretch repair : Text}

/-- No match holds a full stop. -/
theorem Matches.dot_not_mem (regular : rule.isRegular = true)
    (matched : rule.Matches stretch repair) : '.' ∉ stretch := by
  cases matched with
  | @field written close repaired lead trail leadBlank trailBlank =>
      have shape := regularField_of_isRegular regular
      have inLead : '.' ∉ lead := fun member => absurd (leadBlank '.' member) (by decide)
      have inTrail : '.' ∉ trail := fun member => absurd (trailBlank '.' member) (by decide)
      have inWritten : '.' ∉ written :=
        fun member => absurd (shape.written_inner '.' member) (by decide)
      have notClose : '.' ≠ close := by
        rintro rfl
        exact absurd shape.close_mem (by decide)
      simp [inLead, inTrail, inWritten, notClose]
  | @constant name name_ne nameWord =>
      have inName : '.' ∉ name := fun member => absurd (nameWord '.' member) (by decide)
      simp [constantOpening_eq, constantValue_eq, inName]

/-- A match starts with a colon, or it holds an equals sign and no line feed. -/
theorem Matches.colon_or_sign (matched : rule.Matches stretch repair) :
    (∃ tail, stretch = ':' :: tail) ∨
      ((∃ tail, stretch = 'e' :: tail) ∧ '=' ∈ stretch ∧ '\n' ∉ stretch) := by
  cases matched with
  | field leadBlank trailBlank => exact .inl ⟨_, rfl⟩
  | @constant name name_ne nameWord =>
      have inName : '\n' ∉ name := fun member => absurd (nameWord '\n' member) (by decide)
      refine .inr ⟨⟨_, rfl⟩, by simp [constantValue_eq], ?_⟩
      simp [constantOpening_eq, constantValue_eq, inName]

end Rule

/-- A place at the top of a text or behind a line that ends in a full stop. -/
def Import.Place (before : Text) : Prop :=
  before = [] ∨ ∃ front, before = front ++ ['.', '\n']

namespace Import

variable {before body rest : Text}

/-- No match of a rule runs into an import block. -/
theorem Place.apart_match (place : Place before) {rule : Rule} (known : rule ∈ Rule.builtin)
    (block : Text) : Recogniser.Apart rule.recognise before ('\n' :: block) := by
  have regular := Rule.isRegular_of_mem_builtin known
  rcases place with rfl | ⟨front, rfl⟩
  · exact Recogniser.Apart.nil_left _
  · rintro first second repair ends - first_ne - reads
    have matched := (Rule.reads_iff regular).1 reads
    rw [List.append_cons] at ends
    rcases List.suffix_concat_iff.1 ends with nothing | ⟨line, rfl, lineEnds⟩
    · exact first_ne nothing
    · rcases List.suffix_concat_iff.1 lineEnds with rfl | ⟨part, rfl, -⟩
      · -- No match starts with a line feed.
        rcases matched.colon_or_sign with ⟨tail, same⟩ | ⟨⟨tail, same⟩, -⟩ <;> simp at same
      · exact matched.dot_not_mem regular (by simp)

/-- What is collected line by line around a block is that of the block among that of the text. -/
theorem Place.exists_collect (place : Place before) {β : Type} (value : Text → List β)
    (lines : ∀ front rest, value (front ++ '\n' :: rest) = value front ++ value rest)
    (empty : value [] = []) (body rest : Text) :
    ∃ above, value (before ++ rest) = above ++ value rest ∧
      value (before ++ (('\n' :: (body ++ ['\n'])) ++ rest)) =
        above ++ (value body ++ value rest) := by
  have shape : before ++ (('\n' :: (body ++ ['\n'])) ++ rest) =
      before ++ '\n' :: (body ++ '\n' :: rest) := by simp
  rw [shape, lines, lines]
  rcases place with rfl | ⟨front, rfl⟩
  · exact ⟨[], rfl, by rw [empty]⟩
  · refine ⟨value (front ++ ['.']), ?_, ?_⟩
    · rw [List.append_cons front '.' ['\n'], List.append_assoc (front ++ ['.']),
        List.singleton_append, lines]
    · rw [List.append_cons front '.' ['\n'], lines, empty, List.append_nil]

/-- What is collected line by line is collected around a block that holds nothing of it. -/
theorem Place.collect_eq (place : Place before) {β : Type} (value : Text → List β)
    (lines : ∀ front rest, value (front ++ '\n' :: rest) = value front ++ value rest)
    (empty : value [] = []) (nothing : value body = []) :
    value (before ++ (('\n' :: (body ++ ['\n'])) ++ rest)) = value (before ++ rest) := by
  obtain ⟨above, whole, spliced⟩ := place.exists_collect value lines empty body rest
  rw [whole, spliced, nothing, List.nil_append]

/-- What is collected line by line around a block is that of the block and that of the text. -/
theorem Place.collect_perm (place : Place before) {β : Type} (value : Text → List β)
    (lines : ∀ front rest, value (front ++ '\n' :: rest) = value front ++ value rest)
    (empty : value [] = []) :
    (value (before ++ (('\n' :: (body ++ ['\n'])) ++ rest))).Perm
      (value body ++ value (before ++ rest)) := by
  obtain ⟨above, whole, spliced⟩ := place.exists_collect value lines empty body rest
  rw [whole, spliced]
  exact List.perm_append_comm_assoc _ _ _

/-- What holds line by line holds around a block for which it holds. -/
theorem Place.hold (place : Place before) {motive : Text → Prop}
    (lines : ∀ front rest, motive (front ++ '\n' :: rest) ↔ motive front ∧ motive rest)
    (empty : motive []) (inner : motive body) (outer : motive (before ++ rest)) :
    motive (before ++ (('\n' :: (body ++ ['\n'])) ++ rest)) := by
  have shape : before ++ (('\n' :: (body ++ ['\n'])) ++ rest) =
      before ++ '\n' :: (body ++ '\n' :: rest) := by simp
  rw [shape, lines, lines]
  rcases place with rfl | ⟨front, rfl⟩
  · exact ⟨empty, inner, outer⟩
  · rw [List.append_cons front '.' ['\n']] at outer ⊢
    rw [List.append_assoc, List.singleton_append, lines] at outer
    rw [lines]
    exact ⟨⟨outer.1, empty⟩, inner, outer.2⟩

/-- A phrase of one line is still there around a block. -/
theorem Place.infix_spliced (place : Place before) {phrase : Text} (flat : '\n' ∉ phrase)
    (inside : phrase <:+: before ++ rest) :
    phrase <:+: before ++ (('\n' :: (body ++ ['\n'])) ++ rest) := by
  have behind : phrase <:+: rest → phrase <:+: before ++ (('\n' :: (body ++ ['\n'])) ++ rest) :=
    fun later => later.trans ⟨before ++ '\n' :: (body ++ ['\n']), [], by simp⟩
  rcases place with rfl | ⟨front, rfl⟩
  · exact behind inside
  · have cut : phrase <:+: (front ++ ['.']) ++ '\n' :: rest := by simpa using inside
    rcases infix_of_not_mem flat cut with earlier | later
    · exact earlier.trans ⟨[], '\n' :: (('\n' :: (body ++ ['\n'])) ++ rest), by simp⟩
    · exact behind later

/-- A phrase of one line that is not in a block is there around it where it was there without it. -/
theorem Place.infix_spliced_iff (place : Place before) {phrase : Text} (flat : '\n' ∉ phrase)
    (outside : ¬phrase <:+: body) :
    phrase <:+: before ++ (('\n' :: (body ++ ['\n'])) ++ rest) ↔ phrase <:+: before ++ rest := by
  have shape : before ++ (('\n' :: (body ++ ['\n'])) ++ rest) =
      before ++ '\n' :: (body ++ '\n' :: rest) := by simp
  constructor
  · intro inside
    rw [shape] at inside
    rcases infix_of_not_mem flat inside with earlier | behind
    · exact earlier.trans (List.prefix_append _ _).isInfix
    · rcases infix_of_not_mem flat behind with within | later
      · exact absurd within outside
      · exact later.trans (List.suffix_append _ _).isInfix
  · exact place.infix_spliced flat

/-- A block between line feeds that holds no star and in which no match of a rule starts. -/
structure Idle (body : Text) : Prop where
  star : '*' ∉ body
  misses : ∀ rule ∈ Rule.builtin, rule.Misses ('\n' :: (body ++ ['\n']))

/-- Import statements are idle. -/
theorem Plain.idle (plain : Plain body) : Idle body where
  star := plain.not_mem (by decide) (by decide)
  misses rule _ := by
    have colon : ':' ∉ body := plain.not_mem (by decide) (by decide)
    have sign : '=' ∉ body := plain.not_mem (by decide) (by decide)
    refine Rule.misses_of_unmarked (by simp [colon]) (by simp [sign]) ?_ rule
    rw [← List.cons_append, List.getLast?_concat]

/-- An idle block leaves the matches of a rule as they are. -/
theorem Idle.steady (idle : Idle body) (place : Place before) {rule : Rule}
    (known : rule ∈ Rule.builtin) (steady : rule.Steady (before ++ rest)) :
    rule.Steady (before ++ (('\n' :: (body ++ ['\n'])) ++ rest)) := by
  have into : Recogniser.Apart rule.recognise before (('\n' :: (body ++ ['\n'])) ++ rest) :=
    place.apart_match known _
  rintro stretch repair matched ⟨left, right, whole⟩
  have reads := (Rule.reads_iff (Rule.isRegular_of_mem_builtin known)).2 matched
  rw [List.append_assoc] at whole
  rcases split_of_apart into reads whole.symm with ⟨gap, before_eq, -⟩ | ⟨gap, -, tail_eq⟩
  · exact steady stretch repair matched ⟨left, gap ++ rest, by simp [before_eq]⟩
  · rcases List.append_eq_append_iff.1 tail_eq with ⟨inner, -, rest_eq⟩ |
      ⟨ending, block_eq, starts⟩
    · exact steady stretch repair matched ⟨before ++ inner, right, by simp [rest_eq]⟩
    · by_cases ending_nil : ending = []
      · rw [ending_nil, List.nil_append] at starts
        exact steady stretch repair matched ⟨before, right, by simp [starts]⟩
      · exact absurd ⟨right, starts⟩
          (idle.misses rule known gap ending rest stretch repair block_eq ending_nil matched)

/-- An idle block leaves the placeholders of a text as they are. -/
theorem Idle.findAll_eq (idle : Idle body) (place : Place before) :
    findAll Reference.recognise (before ++ (('\n' :: (body ++ ['\n'])) ++ rest)) =
      findAll Reference.recognise (before ++ rest) :=
  place.collect_eq (findAll Reference.recognise) Reference.findAll_append_feed rfl
    (Reference.findAll_of_star_not_mem idle.star)

/-- An idle block keeps a text sound. -/
theorem Idle.sound (idle : Idle body) (place : Place before) {exports : List Text}
    (sound : Sound exports (before ++ rest)) :
    let spliced := before ++ (('\n' :: (body ++ ['\n'])) ++ rest)
    Sound (Scan.ofText spliced).exports spliced := by
  refine ⟨?_, ?_, fun rule known => idle.steady place known (sound.steady rule known), rfl⟩
  · refine place.hold (fun _ _ => Reference.isolated_append_feed) (by decide) ?_ sound.isolated
    rw [Reference.isolated_iff]
    exact fun reference _ before after whole => absurd whole (Reference.not_placeholder idle.star)
  · refine place.hold (fun _ _ => Reference.neverBehind_append_feed (by decide)) (by decide) ?_
      sound.unnamed
    rw [Reference.neverBehind_iff]
    exact fun reference _ before after whole => absurd whole (Reference.not_placeholder idle.star)

/-- An import block keeps a text sound, with what it exports. -/
theorem Plain.sound (plain : Plain body) (place : Place before) {exports : List Text}
    (sound : Sound exports (before ++ rest)) :
    Sound exports (before ++ (('\n' :: (body ++ ['\n'])) ++ rest)) := by
  have kept := plain.idle.sound place sound
  have same : (Scan.ofText (before ++ (('\n' :: (body ++ ['\n'])) ++ rest))).exports =
      (Scan.ofText (before ++ rest)).exports :=
    place.collect_eq (fun text => (Scan.ofText text).exports) Scan.exports_append_feed rfl
      plain.exports
  dsimp only at kept
  rwa [same, sound.exports_eq] at kept

end Import

end DeclLinker
