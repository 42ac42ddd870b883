import DeclLinker.Proofs.Console.Pairing
import DeclLinker.Proofs.Dict
import DeclLinker.Proofs.Text.Order

/-!
# What a console prints

A console prints a text as it stands exactly when the text is plain.

That a plain text prints as it stands follows the stretches of the text: there is only one.  For the
other direction the characters of markup are counted.  Nothing that printing does adds one of them,
and tags, backslashes that go away and codes that are replaced each take at least one away; so where
the text comes out as it was, there were none of these.
-/

namespace DeclLinker

namespace Console

open Text

/-! ## Tabs -/

section Tabs

variable {test : Char → Bool}

theorem filter_joinTabs (blank : test ' ' = false) (column : Nat) (stretches : List Text) :
    (joinTabs column stretches).filter test = stretches.flatMap (List.filter test) := by
  match stretches with
  | [] => rfl
  | [last] => simp [joinTabs]
  | stretch :: next :: rest =>
      have later := fun column => filter_joinTabs blank column (next :: rest)
      simp [joinTabs, later, blank]

theorem flatMap_filter_splitOn {separator : Char} (passed : test separator = false)
    (text : Text) : (splitOn separator text).flatMap (List.filter test) = text.filter test := by
  induction text with
  | nil => rfl
  | cons char rest ih =>
      by_cases same : char = separator
      · subst same
        simp [splitOn, passed, ih]
      · obtain ⟨piece, pieces, split_eq⟩ :=
          List.exists_cons_of_ne_nil (splitOn_ne_nil separator rest)
        rw [split_eq] at ih
        cases kept : test char <;> simp [splitOn, same, split_eq, kept, ← ih]

theorem expandTabs_line {line : Text} (absent : '\n' ∉ line) :
    expandTabs line = joinTabs 0 (splitOn '\t' line) := by
  rw [expandTabs, splitOn_of_not_mem absent]
  exact List.intercalate_singleton

theorem expandTabs_lines {line : Text} (absent : '\n' ∉ line) (rest : Text) :
    expandTabs (line ++ '\n' :: rest) =
      joinTabs 0 (splitOn '\t' line) ++ '\n' :: expandTabs rest := by
  obtain ⟨piece, pieces, split_eq⟩ := List.exists_cons_of_ne_nil (splitOn_ne_nil '\n' rest)
  simp only [expandTabs, splitOn_append_cons absent, split_eq, List.map_cons,
    List.intercalate_cons_cons, List.append_assoc, List.singleton_append]

/-- Blanks take the place of tabs, and nothing else changes. -/
theorem filter_expandTabs (tab : test '\t' = false) (blank : test ' ' = false) (text : Text) :
    (expandTabs text).filter test = text.filter test := by
  have line_eq : ∀ line : Text,
      (joinTabs 0 (splitOn '\t' line)).filter test = line.filter test := fun line =>
    (filter_joinTabs blank 0 _).trans (flatMap_filter_splitOn tab line)
  induction text using lines_induction with
  | last line absent => rw [expandTabs_line absent, line_eq]
  | next line rest absent ih =>
      rw [expandTabs_lines absent, List.filter_append, List.filter_append, List.filter_cons,
        List.filter_cons, line_eq, ih]

theorem tab_not_mem_joinTabs (column : Nat) {stretches : List Text}
    (absent : ∀ stretch ∈ stretches, '\t' ∉ stretch) : '\t' ∉ joinTabs column stretches := by
  match stretches with
  | [] => exact List.not_mem_nil
  | [last] => exact absent last List.mem_cons_self
  | stretch :: next :: rest =>
      have later := fun column => tab_not_mem_joinTabs column fun other member =>
        absent other (.tail stretch member)
      simp [joinTabs, later, absent stretch List.mem_cons_self]

theorem tab_not_mem_expandTabs (text : Text) : '\t' ∉ expandTabs text := by
  have inLine : ∀ line : Text, '\t' ∉ joinTabs 0 (splitOn '\t' line) := fun line =>
    tab_not_mem_joinTabs 0 fun _ member => separator_not_mem_of_mem_splitOn member
  induction text using lines_induction with
  | last line absent => exact expandTabs_line absent ▸ inLine line
  | next line rest absent ih =>
      rw [expandTabs_lines absent]
      simp [inLine, ih]

theorem expandTabs_eq_self {text : Text} (absent : '\t' ∉ text) : expandTabs text = text := by
  induction text using lines_induction with
  | last line feedless => rw [expandTabs_line feedless, splitOn_of_not_mem absent, joinTabs]
  | next line rest feedless ih =>
      simp only [List.mem_append, List.mem_cons, not_or] at absent
      rw [expandTabs_lines feedless, splitOn_of_not_mem absent.1, joinTabs, ih absent.2.2]

end Tabs

/-! ## Pictures -/

namespace Emoji

open Markup

theorem isQuiet_of_mem_pictures {entry : Text × Text} (member : entry ∈ pictures) :
    IsQuiet entry.2 := by
  have rows : ∀ row ∈ pictureRows.flatten, IsQuiet row.2 := by decide +kernel
  obtain ⟨row, listed, rfl⟩ := List.mem_map.mp member
  exact rows row listed

theorem isQuiet_splitForm (name : Text) : IsQuiet (splitForm name).2 := by
  have marks : ∀ form ∈ forms, isMark form.2 = false := by decide
  unfold splitForm
  split
  · rename_i ending mark found
    have quiet := marks _ (List.mem_of_find?_eq_some found)
    simpa [IsQuiet] using quiet
  · exact fun _ member => absurd member List.not_mem_nil

/-- A name that is not known stays as it is. -/
theorem shown_of_unknown {name : Text} (unknown : isKnown name = false) :
    shown name = ':' :: name ++ [':'] := by
  have missing := Option.isSome_eq_false_iff.mp unknown
  rw [Option.isNone_iff_eq_none] at missing
  simp [shown, missing]

/-- A known name gives way to a picture, in which nothing means anything in markup. -/
theorem isQuiet_shown {name : Text} (known : isKnown name = true) : IsQuiet (shown name) := by
  obtain ⟨picture, found⟩ := Option.isSome_iff_exists.mp known
  have quiet := isQuiet_of_mem_pictures (Dict.mem_of_get? found)
  intro char member
  simp only [shown, found, List.mem_append] at member
  exact member.elim (quiet char) (isQuiet_splitForm name char)

end Emoji

namespace Markup

theorem IsQuiet.countP_eq_zero {text : Text} (quiet : IsQuiet text) : text.countP isMark = 0 :=
  List.countP_eq_zero.mpr fun char member => by simp [quiet char member]

/-- Replacing the codes adds no character of markup, and takes one away for every picture. -/
theorem countP_replaceCodes_le (text : Text) :
    (Emoji.replaceCodes text).countP isMark +
      (findAll Emoji.codeAt text).countP Emoji.isKnown ≤ text.countP isMark := by
  refine countP_replaceAll_le Emoji.spells_codeAt.isLocal (fun stretch name reads => ?_) text
  obtain ⟨-, rfl⟩ := Emoji.spells_codeAt.reads_iff.mp reads
  cases known : Emoji.isKnown name with
  | false => simp [Emoji.shown_of_unknown known]
  | true =>
      rw [(Emoji.isQuiet_shown known).countP_eq_zero]
      have colon : isMark ':' = true := rfl
      simp [colon]

theorem replaceCodes_eq_self {text : Text}
    (uncoded : ∀ name ∈ findAll Emoji.codeAt text, Emoji.isKnown name = false) :
    Emoji.replaceCodes text = text := by
  refine replaceAll_eq_self_of_countChanges Emoji.spells_codeAt.isLocal ?_
  refine List.countP_eq_zero.mpr fun piece member => ?_
  cases piece with
  | single char => simp [Piece.changes]
  | hit stretch name =>
      have reads := reads_of_hit_mem_pieces Emoji.spells_codeAt.isLocal member
      obtain ⟨-, rfl⟩ := Emoji.spells_codeAt.reads_iff.mp reads
      have found : name ∈ findAll Emoji.codeAt text := List.mem_filterMap.mpr ⟨_, member, rfl⟩
      simp [Piece.changes, Emoji.shown_of_unknown (uncoded name found)]

/-! ## Ordinary text -/

/-- Ordinary text as it is printed adds no character of markup, and has one less for every backslash
that goes away. -/
theorem countP_unescape_le (text : Text) :
    (unescape text).countP isMark + (findAll escapedAt text).length ≤ text.countP isMark := by
  have lighter : ∀ stretch value, escapedAt.Reads stretch value →
      List.countP isMark ['['] + (if true then 1 else 0) ≤ stretch.countP isMark := by
    intro stretch value reads
    rw [escapedAt_reads_iff.mp reads]
    decide
  have whole := countP_replaceAll_le escapedAt_isLocal lighter text
  rwa [List.countP_true] at whole

theorem countP_cleaned_le (text : Text) :
    (cleaned text).countP isMark + (findAll Emoji.codeAt text).countP Emoji.isKnown ≤
      text.countP isMark := by
  have fewer : (cleaned text).countP isMark ≤ (Emoji.replaceCodes text).countP isMark :=
    List.filter_sublist.countP_le
  exact (Nat.add_le_add_right fewer _).trans (countP_replaceCodes_le text)

/-! ## Stretches -/

/-- What a tag with its backslashes leaves to be printed. -/
def visible : Nat × Text → Text
  | (slashes, body) =>
      List.replicate (slashes / 2) '\\' ++ if slashes % 2 = 1 then tagOf body else []

/-- The text of a stretch; a tag has none. -/
def Stretch.text : Stretch → Text
  | .ordinary text | .verbatim text => text
  | .tag _ _ => []

theorem Stretch.countP_shown_le (stretch : Stretch) :
    stretch.shown.countP isMark ≤ stretch.text.countP isMark := by
  cases stretch with
  | ordinary text =>
      have cleaning := countP_cleaned_le (unescape text)
      have escaping := countP_unescape_le text
      exact (Nat.le_of_add_right_le cleaning).trans (Nat.le_of_add_right_le escaping)
  | verbatim text => exact Nat.le_of_add_right_le (countP_cleaned_le text)
  | tag position body => exact Nat.le_refl _

theorem countP_flatMap_shown_le (stretches : List Stretch) :
    (stretches.flatMap Stretch.shown).countP isMark ≤
      (stretches.flatMap Stretch.text).countP isMark := by
  induction stretches with
  | nil => exact Nat.le_refl _
  | cons stretch rest ih =>
      simp only [List.flatMap_cons, List.countP_append]
      exact Nat.add_le_add stretch.countP_shown_le ih

theorem flatMap_text_addChar (char : Char) (stretches : List Stretch) :
    (addChar char stretches).flatMap Stretch.text = char :: stretches.flatMap Stretch.text := by
  unfold addChar
  split <;> rfl

theorem flatMap_text_tagStretches (position slashes : Nat) (body : Text) :
    (tagStretches position slashes body).flatMap Stretch.text = visible (slashes, body) := by
  by_cases odd : slashes % 2 = 1 <;>
    simp [tagStretches, visible, Stretch.text, tagOf, odd]

/-- The stretches hold the text without its tags. -/
theorem flatMap_text_stretches (text : Text) :
    (stretches text).flatMap Stretch.text = replaceAll tagAt visible text := by
  suffices general : ∀ (pieces : List (Piece (Nat × Text))) (position : Nat),
      (stretchesFrom position pieces).flatMap Stretch.text =
        pieces.flatMap (Piece.replaced visible) from general _ 0
  intro pieces
  induction pieces with
  | nil => exact fun _ => rfl
  | cons piece pieces ih =>
      intro position
      cases piece with
      | single char =>
          rw [stretchesFrom, flatMap_text_addChar, ih]
          rfl
      | hit text tag =>
          rw [stretchesFrom, List.flatMap_append, flatMap_text_tagStretches, ih]
          rfl

/-- Every tag takes a character of markup away. -/
theorem countP_stretches_le (text : Text) :
    ((stretches text).flatMap Stretch.text).countP isMark + (findAll tagAt text).length ≤
      text.countP isMark := by
  have lighter : ∀ stretch tag, tagAt.Reads stretch tag →
      (visible tag).countP isMark + (if true then 1 else 0) ≤ stretch.countP isMark := by
    rintro stretch ⟨slashes, body⟩ reads
    obtain ⟨-, rfl⟩ := spells_tagAt.reads_iff.mp reads
    have opening : isMark '[' = true := rfl
    have closing : isMark ']' = true := rfl
    have slash : isMark '\\' = true := rfl
    by_cases odd : slashes % 2 = 1
    · simp [visible, tagOf, odd, opening, closing, slash, List.countP_replicate]
      omega
    · simp [visible, tagOf, odd, opening, closing, slash, List.countP_replicate]
      omega
  have whole := countP_replaceAll_le tagAt_isLocal lighter text
  rwa [List.countP_true, ← flatMap_text_stretches] at whole

/-- Ordinary text as stretches: one, if there is any text. -/
def gap (text : Text) : List Stretch :=
  if text = [] then [] else [.ordinary text]

/-- Characters in front of stretches that do not start with ordinary text are one stretch. -/
theorem foldr_addChar {stretches : List Stretch}
    (fresh : ∀ text rest, stretches ≠ .ordinary text :: rest) (text : Text) :
    text.foldr addChar stretches = gap text ++ stretches := by
  induction text with
  | nil => rfl
  | cons char text ih =>
      rw [List.foldr_cons, ih, gap, gap, if_neg (List.cons_ne_nil char text)]
      by_cases empty : text = []
      · subst empty
        rw [if_pos rfl, List.nil_append, addChar]
        · rfl
        · exact fresh
      · rw [if_neg empty]
        rfl

theorem stretchesFrom_singles (position : Nat) (text : Text)
    (pieces : List (Piece (Nat × Text))) :
    stretchesFrom position (text.map .single ++ pieces) =
      text.foldr addChar (stretchesFrom (position + text.length) pieces) := by
  induction text generalizing position with
  | nil => rfl
  | cons char text ih =>
      rw [List.map_cons, List.cons_append, stretchesFrom, ih, List.foldr_cons, List.length_cons,
        Nat.add_assoc, Nat.add_comm 1]

/-- A text without tags is one stretch. -/
theorem stretchesFrom_of_clear (position : Nat) {text : Text} (isClear : tagAt.Clear text) :
    stretchesFrom position (pieces tagAt text) = gap text := by
  have whole := stretchesFrom_singles position text []
  rw [List.append_nil] at whole
  rw [isClear, whole, foldr_addChar fun _ _ => by simp [stretchesFrom]]
  exact List.append_nil (gap text)

/-- The stretches of a text that starts with a tag behind ordinary text. -/
theorem stretchesFrom_tag (position : Nat) {text body : Text} (quiet : IsQuiet text)
    (isBody : IsBody body) (rest : Text) :
    stretchesFrom position (pieces tagAt (text ++ (tagOf body ++ rest))) =
      gap text ++ .verbatim [] :: .tag (position + text.length) body ::
        stretchesFrom (position + text.length + (tagOf body).length) (pieces tagAt rest) := by
  have reads : tagAt.Reads (tagOf body) (0, body) :=
    spells_tagAt.reads (⟨isBody, rfl⟩ : IsTagStretch (tagOf body) (0, body))
  rw [pieces_append tagAt_isLocal (framed_tagAt.apart (.inl quiet)),
    framed_tagAt.clear tagAt_isLocal quiet, pieces_of_reads reads, stretchesFrom_singles,
    foldr_addChar fun _ _ => by simp [stretchesFrom, tagStretches]]
  simp [stretchesFrom, tagStretches]

/-! ## Texts without tags -/

theorem flatMap_shown_gap (text : Text) :
    (gap text).flatMap Stretch.shown = cleaned (unescape text) := by
  by_cases empty : text = []
  · subst empty
    rfl
  · simp [gap, empty, Stretch.shown]

theorem pairs_gap_iff {text : Text} {opened : List Opened} {rest : List Stretch}
    {styled : List (Text × Text)} :
    Pairs opened (gap text ++ rest) styled ↔
      Pairs (opened.map (Opened.cover (cleaned (unescape text)))) rest styled := by
  by_cases empty : text = []
  · have same : opened.map (Opened.cover (cleaned (unescape []))) = opened :=
      List.map_id'' (fun tag => by rw [Opened.cover, show cleaned (unescape []) = [] from rfl,
        List.append_nil]) opened
    rw [empty, gap, if_pos rfl, List.nil_append, same]
  · rw [gap, if_neg empty]
    exact pairs_ordinary_iff

theorem shown_of_clear {text : Text} (isClear : tagAt.Clear text) :
    shown text = cleaned (unescape text) := by
  rw [shown, stretches, stretchesFrom_of_clear 0 isClear, flatMap_shown_gap]

/-- A text without tags can be printed. -/
theorem printable_of_clear {text : Text} (isClear : tagAt.Clear text) : Printable text := by
  have pairs : Pairs [] (stretches text) [] := by
    have alone : Pairs [] (gap text ++ []) [] := pairs_gap_iff.mpr .done
    rwa [List.append_nil, ← stretchesFrom_of_clear 0 isClear] at alone
  exact ⟨[], pairs, fun part member => by cases member⟩

theorem IsPlain.cleaned_unescape {text : Text} (plain : IsPlain text) :
    cleaned (unescape text) = text := by
  rw [unescape, (clear_escapedAt_iff.mpr plain.unescaped).replaceAll_eq_self, cleaned,
    replaceCodes_eq_self plain.uncoded]
  exact List.filter_eq_self.mpr fun char member => by simp [(plain.printable char member).1]

theorem printable_of_isPlain {text : Text} (plain : IsPlain text) : Printable text :=
  printable_of_clear (clear_tagAt_iff.mpr plain.untagged)

/-- A console prints a text as it stands exactly when the text is plain. -/
theorem print_eq_self_iff {text : Text} :
    print text = .ok (text ++ ['\n']) ↔ IsPlain text := by
  constructor
  · intro printed
    have marks_eq : ∀ other : Text,
        (expandTabs other).countP isMark = other.countP isMark := fun other => by
      rw [List.countP_eq_length_filter, filter_expandTabs rfl rfl,
        ← List.countP_eq_length_filter]
    have isClear : tagAt.Clear text := by
      have same : text = expandTabs (shown text) :=
        List.append_cancel_right (print_eq_ok_iff.mp printed).2
      have marks := marks_eq (shown text)
      rw [← same] at marks
      have fewer : (shown text).countP isMark ≤ _ := countP_flatMap_shown_le (stretches text)
      have tags := countP_stretches_le text
      exact clear_of_findAll_eq_nil tagAt_isLocal (List.length_eq_zero_iff.mp (by omega))
    have same : expandTabs (cleaned (unescape text)) = text := by
      rw [← shown_of_clear isClear]
      exact (List.append_cancel_right (print_eq_ok_iff.mp printed).2).symm
    have marks := marks_eq (cleaned (unescape text))
    rw [same] at marks
    have escapes := countP_unescape_le text
    have codes := countP_cleaned_le (unescape text)
    have escapeClear : escapedAt.Clear text :=
      clear_of_findAll_eq_nil escapedAt_isLocal (List.length_eq_zero_iff.mp (by omega))
    have unescape_eq : unescape text = text := escapeClear.replaceAll_eq_self _
    rw [unescape_eq] at same codes marks
    have uncoded : ∀ name ∈ findAll Emoji.codeAt text, Emoji.isKnown name = false := by
      have none := List.countP_eq_zero.mp
        (show (findAll Emoji.codeAt text).countP Emoji.isKnown = 0 by omega)
      simpa using none
    have tabless : '\t' ∉ text := same ▸ tab_not_mem_expandTabs _
    rw [cleaned, replaceCodes_eq_self uncoded] at same
    rw [expandTabs_eq_self fun member => tabless (List.mem_of_mem_filter member),
      List.filter_eq_self] at same
    exact ⟨clear_tagAt_iff.mp isClear, clear_escapedAt_iff.mp escapeClear, uncoded,
      fun char member => ⟨by simpa using same char member, fun tab => tabless (tab ▸ member)⟩⟩
  · intro plain
    have isClear := clear_tagAt_iff.mpr plain.untagged
    refine print_eq_ok_iff.mpr ⟨printable_of_isPlain plain, ?_⟩
    rw [shown_of_clear isClear, plain.cleaned_unescape,
      expandTabs_eq_self fun member => (plain.printable '\t' member).2 rfl]

/-! ## Text before other text -/

/-- A stretch without its place. -/
def Stretch.unplaced : Stretch → Stretch
  | .tag _ body => .tag 0 body
  | stretch => stretch

/-- The places of tags do not matter to how they pair. -/
theorem pairs_unplaced_iff {stretches : List Stretch} {opened : List Opened}
    {styled : List (Text × Text)} :
    Pairs opened (stretches.map Stretch.unplaced) styled ↔ Pairs opened stretches styled := by
  induction stretches generalizing opened styled with
  | nil => rfl
  | cons stretch rest ih =>
      cases stretch with
      | ordinary text => simp only [List.map_cons, Stretch.unplaced, pairs_ordinary_iff, ih]
      | verbatim text => simp only [List.map_cons, Stretch.unplaced, pairs_verbatim_iff, ih]
      | tag position body =>
          by_cases closing : ∃ name, tagName body = '/' :: name
          · obtain ⟨name, closing⟩ := closing
            simp only [List.map_cons, Stretch.unplaced, pairs_closing_iff closing, ih]
          · simp only [List.map_cons, Stretch.unplaced,
              pairs_opening_iff (not_exists.mp closing), ih]

theorem shown_unplaced (stretch : Stretch) : stretch.unplaced.shown = stretch.shown := by
  cases stretch <;> rfl

theorem map_unplaced_addChar (char : Char) (stretches : List Stretch) :
    (addChar char stretches).map Stretch.unplaced =
      addChar char (stretches.map Stretch.unplaced) := by
  cases stretches with
  | nil => rfl
  | cons stretch rest => cases stretch <;> rfl

/-- Only the places of the stretches come from the place of the first piece. -/
theorem map_unplaced_stretchesFrom (first second : Nat) (pieces : List (Piece (Nat × Text))) :
    (stretchesFrom first pieces).map Stretch.unplaced =
      (stretchesFrom second pieces).map Stretch.unplaced := by
  induction pieces generalizing first second with
  | nil => rfl
  | cons piece pieces ih =>
      cases piece with
      | single char =>
          rw [stretchesFrom, stretchesFrom, map_unplaced_addChar, map_unplaced_addChar,
            ih (first + 1) (second + 1)]
      | hit text tag =>
          have tags : ∀ position : Nat, (tagStretches position tag.1 tag.2).map Stretch.unplaced =
              (tagStretches 0 tag.1 tag.2).map Stretch.unplaced := by
            intro position
            by_cases odd : tag.1 % 2 = 1 <;> simp [tagStretches, odd, Stretch.unplaced]
          rw [stretchesFrom, stretchesFrom, List.map_append, List.map_append, tags first,
            tags second, ih (first + text.length) (second + text.length)]

theorem pairs_stretchesFrom_iff {position : Nat} {text : Text} {opened : List Opened}
    {styled : List (Text × Text)} :
    Pairs opened (stretchesFrom position (pieces tagAt text)) styled ↔
      Pairs opened (stretches text) styled := by
  rw [← pairs_unplaced_iff, map_unplaced_stretchesFrom position 0, pairs_unplaced_iff, stretches]

theorem flatMap_shown_stretchesFrom (position : Nat) (text : Text) :
    (stretchesFrom position (pieces tagAt text)).flatMap Stretch.shown = shown text := by
  have same := congrArg (List.flatMap Stretch.shown)
    (map_unplaced_stretchesFrom position 0 (pieces tagAt text))
  simp only [List.flatMap_map, shown_unplaced] at same
  exact same

/-- A character that means nothing in markup is shown before whatever follows. -/
theorem cleaned_unescape_cons {char : Char} (mild : IsMild [char]) (text : Text) :
    cleaned (unescape (char :: text)) = char :: cleaned (unescape text) := by
  have unescape_eq : unescape [char] = [char] :=
    (framed_escapedAt.clear escapedAt_isLocal mild.isQuiet).replaceAll_eq_self _
  have cleaned_eq : cleaned [char] = [char] := by
    rw [← unescape_eq, mild.isPlain.cleaned_unescape, unescape_eq]
  calc
    cleaned (unescape ([char] ++ text))
      = cleaned ([char] ++ unescape text) := by
        rw [unescape, replaceAll_append escapedAt_isLocal
          (framed_escapedAt.apart (.inl mild.isQuiet)), ← unescape, unescape_eq]
        rfl
    _ = cleaned [char] ++ cleaned (unescape text) := by
        rw [cleaned, Emoji.replaceCodes, replaceAll_append Emoji.spells_codeAt.isLocal
          (framed_codeAt.apart (.inl mild.isQuiet)), List.filter_append]
        rfl
    _ = char :: cleaned (unescape text) := by rw [cleaned_eq, List.singleton_append]

theorem flatMap_shown_addChar {char : Char} (mild : IsMild [char]) (stretches : List Stretch) :
    (addChar char stretches).flatMap Stretch.shown = char :: stretches.flatMap Stretch.shown := by
  have alone : cleaned (unescape [char]) = [char] := mild.isPlain.cleaned_unescape
  unfold addChar
  split
  · simp only [List.flatMap_cons, Stretch.shown, cleaned_unescape_cons mild, List.cons_append]
  · simp only [List.flatMap_cons, Stretch.shown, alone, List.singleton_append]

/-- Text where no tag is open is in no style. -/
theorem pairs_addChar_iff {char : Char} {stretches : List Stretch} {styled : List (Text × Text)} :
    Pairs [] (addChar char stretches) styled ↔ Pairs [] stretches styled := by
  unfold addChar
  split
  · rw [pairs_ordinary_iff, pairs_ordinary_iff]
    rfl
  · exact pairs_ordinary_iff

theorem flatMap_shown_foldr_addChar {lead : Text} (mild : IsMild lead)
    (stretches : List Stretch) :
    (lead.foldr addChar stretches).flatMap Stretch.shown =
      lead ++ stretches.flatMap Stretch.shown := by
  induction lead with
  | nil => rfl
  | cons char lead ih =>
      obtain ⟨first, later⟩ := isMild_append.mp (show IsMild ([char] ++ lead) from mild)
      rw [List.foldr_cons, flatMap_shown_addChar first, ih later, List.cons_append]

theorem pairs_foldr_addChar_iff {lead : Text} {stretches : List Stretch}
    {styled : List (Text × Text)} :
    Pairs [] (lead.foldr addChar stretches) styled ↔ Pairs [] stretches styled := by
  induction lead with
  | nil => rfl
  | cons char lead ih => rw [List.foldr_cons, pairs_addChar_iff, ih]

theorem legible_append_iff {front rest : Text} {styled : Text × Text} (feedless : '\n' ∉ front)
    (tabless : '\t' ∉ front) : Legible (front ++ rest) styled ↔ Legible rest styled := by
  simp [Legible, feedless, tabless]

theorem IsMild.tab_not_mem {text : Text} (mild : IsMild text) : '\t' ∉ text :=
  fun member => (mild '\t' member).2.2 rfl

/-- Behind text that means nothing in markup a text can be printed exactly when it can be alone. -/
theorem printable_append_iff {lead text : Text} (mild : IsMild lead) (feedless : '\n' ∉ lead) :
    Printable (lead ++ text) ↔ Printable text := by
  have stretches_eq : stretches (lead ++ text) =
      lead.foldr addChar (stretchesFrom lead.length (pieces tagAt text)) := by
    rw [stretches, pieces_append tagAt_isLocal (framed_tagAt.apart (.inl mild.isQuiet)),
      framed_tagAt.clear tagAt_isLocal mild.isQuiet, stretchesFrom_singles, Nat.zero_add]
  have shown_eq : shown (lead ++ text) = lead ++ shown text := by
    rw [shown, stretches_eq, flatMap_shown_foldr_addChar mild, flatMap_shown_stretchesFrom]
  simp only [Printable, stretches_eq, shown_eq, pairs_foldr_addChar_iff, pairs_stretchesFrom_iff,
    legible_append_iff feedless mild.tab_not_mem]

/-! ## A text in a style -/

/-- A word that opens a style as a tag and closes it behind a slash. -/
structure IsTint (colour : Text) : Prop where
  starts : colour.head?.any startsTag = true
  inside : ∀ char ∈ colour, insideTag char = true ∧ char ≠ '=' ∧ char ≠ '/'
  trimmed : trim colour = colour
  normal : styleName colour = .ok colour
  inactive : Action.isName colour = false
  legible : (Style.ofText? colour).isOk = true

/-- A sign in the style of a colour, and the text around it. -/
def tinted (colour before sign rest : Text) : Text :=
  before ++ (tagOf colour ++ (sign ++ (tagOf ('/' :: colour) ++ rest)))

namespace IsTint

variable {colour : Text}

theorem exists_cons (tint : IsTint colour) :
    ∃ first more, colour = first :: more ∧ startsTag first = true := by
  have starts := tint.starts
  cases colour with
  | nil => cases starts
  | cons first more => exact ⟨first, more, rfl, starts⟩

theorem isBody (tint : IsTint colour) : IsBody colour := by
  obtain ⟨first, more, rfl, starts⟩ := tint.exists_cons
  exact ⟨first, more, rfl, starts, fun char member => (tint.inside char (.tail _ member)).1⟩

theorem isBody_closing (tint : IsTint colour) : IsBody ('/' :: colour) :=
  ⟨'/', colour, rfl, rfl, fun char member => (tint.inside char member).1⟩

theorem argless (tint : IsTint colour) : ∀ char ∈ colour, (char != '=') = true :=
  fun char member => bne_iff_ne.mpr (tint.inside char member).2.1

theorem tagName_open (tint : IsTint colour) : tagName colour = colour :=
  List.takeWhile_eq_self_iff.mpr tint.argless

theorem tagName_close (tint : IsTint colour) : tagName ('/' :: colour) = '/' :: colour :=
  List.takeWhile_eq_self_iff.mpr (List.forall_mem_cons.mpr ⟨rfl, tint.argless⟩)

theorem tagArgument?_eq (tint : IsTint colour) : tagArgument? colour = none := by
  rw [tagArgument?, List.dropWhile_eq_nil_iff.mpr tint.argless]

variable {before sign rest : Text}

theorem ends_iff (tint : IsTint colour) {tag : Opened} {others : List Opened} :
    Ends colour [⟨colour, none, sign⟩] tag others ↔ tag = ⟨colour, none, sign⟩ ∧ others = [] := by
  constructor
  · intro ends
    generalize opened_eq : [(⟨colour, none, sign⟩ : Opened)] = opened at ends
    cases ends with
    | last =>
        cases opened_eq
        exact ⟨rfl, rfl⟩
    | @named newer older tag =>
        cases newer with
        | nil =>
            cases opened_eq
            exact ⟨rfl, rfl⟩
        | cons first newer =>
            obtain ⟨-, nothing⟩ := List.cons.inj opened_eq
            exact absurd nothing.symm (by simp)
  · rintro ⟨rfl, rfl⟩
    have given : trim colour ≠ [] := by
      obtain ⟨first, more, colour_eq, -⟩ := tint.exists_cons
      rw [tint.trimmed, colour_eq]
      exact List.cons_ne_nil first more
    have read : Style.normalForm (trim colour) = .ok colour := by
      rw [tint.trimmed, ← styleName_eq_ok_iff, tint.normal]
    have ends : Ends colour ([] ++ [⟨colour, none, sign⟩]) ⟨colour, none, sign⟩ ([] ++ []) :=
      .named given read fun other member => by cases member
    exact ends

theorem stretches_eq (tint : IsTint colour) (beforeMild : IsMild before) (signMild : IsMild sign)
    (rest : Text) :
    ∃ first second position, stretches (tinted colour before sign rest) =
      gap before ++ (.verbatim [] :: .tag first colour :: (gap sign ++
        (.verbatim [] :: .tag second ('/' :: colour) ::
          stretchesFrom position (pieces tagAt rest)))) := by
  have opened := stretchesFrom_tag 0 beforeMild.isQuiet tint.isBody
    (sign ++ (tagOf ('/' :: colour) ++ rest))
  rw [stretchesFrom_tag _ signMild.isQuiet tint.isBody_closing] at opened
  exact ⟨_, _, _, opened⟩

/-- What is shown of a sign in a style and of the text around it. -/
theorem shown_eq (tint : IsTint colour) (beforeMild : IsMild before) (signMild : IsMild sign) :
    shown (tinted colour before sign rest) = before ++ (sign ++ shown rest) := by
  obtain ⟨first, second, position, same⟩ := tint.stretches_eq beforeMild signMild rest
  have nothing : cleaned [] = [] := rfl
  simp only [shown, same, List.flatMap_append, List.flatMap_cons, flatMap_shown_gap,
    beforeMild.isPlain.cleaned_unescape, signMild.isPlain.cleaned_unescape,
    flatMap_shown_stretchesFrom, Stretch.shown, nothing, List.nil_append]

/-- The style covers its sign, and what follows is in no style. -/
theorem pairs_iff (tint : IsTint colour) (beforeMild : IsMild before) (signMild : IsMild sign)
    {styled : List (Text × Text)} :
    Pairs [] (stretches (tinted colour before sign rest)) styled ↔
      ∃ later, styled = (colour, sign) :: later ∧ Pairs [] (stretches rest) later := by
  obtain ⟨first, second, position, same⟩ := tint.stretches_eq beforeMild signMild rest
  have nothing : cleaned [] = [] := rfl
  have opening : ∀ name, tagName colour ≠ '/' :: name := by
    intro name slash
    rw [tint.tagName_open] at slash
    exact (tint.inside '/' (slash ▸ List.mem_cons_self)).2.2 rfl
  have read : ∀ normal, Style.normalForm colour = .ok normal ↔ normal = colour := by
    intro normal
    rw [styleName_eq_ok_iff.mp tint.normal, Except.ok.injEq, eq_comm]
  simp only [same, pairs_gap_iff, pairs_verbatim_iff, pairs_opening_iff opening,
    pairs_closing_iff tint.tagName_close, tint.tagName_open, tint.tagArgument?_eq, read,
    exists_eq_left, List.map_cons, List.map_nil, Opened.cover,
    signMild.isPlain.cleaned_unescape, nothing, List.nil_append, List.append_nil, tint.ends_iff]
  constructor
  · rintro ⟨tag, others, ⟨rfl, rfl⟩, ⟨-, later, rfl, pairs⟩ | ⟨action, -⟩⟩
    · exact ⟨later, rfl, pairs_stretchesFrom_iff.mp pairs⟩
    · cases tint.inactive.symm.trans action
  · rintro ⟨later, rfl, pairs⟩
    exact ⟨_, _, ⟨rfl, rfl⟩,
      .inl ⟨tint.inactive, later, rfl, pairs_stretchesFrom_iff.mpr pairs⟩⟩

/-- Behind a sign in a style a text can be printed exactly when it can be alone. -/
theorem printable_iff (tint : IsTint colour) (beforeMild : IsMild before) (signMild : IsMild sign)
    (feedless : '\n' ∉ before ++ sign) :
    Printable (tinted colour before sign rest) ↔ Printable rest := by
  have tabless : '\t' ∉ before ++ sign := (isMild_append.mpr ⟨beforeMild, signMild⟩).tab_not_mem
  have readable : Legible (shown rest) (colour, sign) := by
    have legible := tint.legible
    cases read : Style.ofText? colour with
    | ok style? => exact .inl ⟨style?, read⟩
    | error fault =>
        rw [read] at legible
        cases legible
  simp only [Printable, tint.pairs_iff beforeMild signMild, tint.shown_eq beforeMild signMild,
    ← List.append_assoc, legible_append_iff feedless tabless]
  constructor
  · rintro ⟨_, ⟨later, rfl, pairs⟩, legible⟩
    exact ⟨later, pairs, (List.forall_mem_cons.mp legible).2⟩
  · rintro ⟨later, pairs, legible⟩
    exact ⟨_, ⟨later, rfl, pairs⟩, List.forall_mem_cons.mpr ⟨readable, legible⟩⟩

/-- A sign in a style between plain texts is printed without its tags. -/
theorem print (tint : IsTint colour) (beforeMild : IsMild before) (signMild : IsMild sign)
    (feedless : '\n' ∉ before ++ sign) (restPlain : IsPlain rest) :
    Markup.print (tinted colour before sign rest) = .ok (before ++ (sign ++ rest) ++ ['\n']) := by
  have isClear := clear_tagAt_iff.mpr restPlain.untagged
  refine print_eq_ok_iff.mpr
    ⟨(tint.printable_iff beforeMild signMild feedless).mpr (printable_of_isPlain restPlain), ?_⟩
  have tabless : '\t' ∉ before ++ (sign ++ rest) := by
    simp only [List.mem_append, not_or]
    exact ⟨beforeMild.tab_not_mem, signMild.tab_not_mem,
      fun tab => (restPlain.printable _ tab).2 rfl⟩
  rw [tint.shown_eq beforeMild signMild, shown_of_clear isClear, restPlain.cleaned_unescape,
    expandTabs_eq_self tabless]

end IsTint

end Markup

end Console

end DeclLinker
