import DeclLinker.Proofs.Console.Spans

/-!
# Texts that can be printed

A text cannot be printed when a tag has a name that cannot be read, when a closing tag has nothing
to close, when an action ends whose argument cannot be read, or when something is shown in a style
that cannot be read.  `Pairs` tells how the tags of a text go together: what each of them does to
the tags that are open, and what every style covers.  A text can be printed exactly when its tags
pair and its styles can be read wherever they show; what is printed is its stretches without their
tags.
-/

namespace DeclLinker

namespace Console

open Text

/-! ## What is shown of a text -/

namespace Markup

/-- What is printed of a text between tags, before its tabs are blanks. -/
def cleaned (text : Text) : Text :=
  (Emoji.replaceCodes text).filter fun char => !Reading.isControl char

/-- What is printed of a stretch, before its tabs are blanks. -/
def Stretch.shown : Stretch → Text
  | .ordinary text => cleaned (unescape text)
  | .verbatim text => cleaned text
  | .tag _ _ => []

/-- What is printed of a text, before its tabs are blanks. -/
def shown (text : Text) : Text :=
  (stretches text).flatMap Stretch.shown

/-! ## Tags that pair -/

/-- A tag that is open: the normal form of its name, its argument, and what has been shown since. -/
structure Opened where
  name : Text
  argument? : Option Text
  covered : Text

/-- The words of the style that a tag stands for. -/
def Opened.words (tag : Opened) : Text :=
  match tag.argument? with
  | some argument => tag.name ++ ' ' :: argument
  | none => tag.name

/-- The tag when more has been shown. -/
def Opened.cover (more : Text) (tag : Opened) : Opened :=
  { tag with covered := tag.covered ++ more }

/-- The words of the style of an open tag, and what they cover. -/
def Opened.styled (tag : Opened) : Text × Text :=
  (tag.words, tag.covered)

/-- Which of the open tags, the last one first, is closed by a name, and which tags stay open: the
last tag of that name is closed, and without a name the last one of all. -/
inductive Ends (name : Text) : List Opened → Opened → List Opened → Prop
  | last {tag : Opened} {others : List Opened} (nameless : Text.trim name = []) :
      Ends name (tag :: others) tag others
  | named {newer older : List Opened} {tag : Opened} (given : Text.trim name ≠ [])
      (read : Style.normalForm (Text.trim name) = .ok tag.name)
      (newest : ∀ other ∈ newer, other.name ≠ tag.name) :
      Ends name (newer ++ tag :: older) tag (newer ++ older)

/-- The argument of an action, if it has one, can be read. -/
def Opened.Answerable (tag : Opened) : Prop :=
  ∀ argument, tag.argument? = some argument → argument ≠ [] → Action.fault? argument = none

/-- How the tags of stretches pair behind open tags: the words of each style, and what they cover.
A tag that is never closed covers all the rest; an action has no style. -/
inductive Pairs : List Opened → List Stretch → List (Text × Text) → Prop
  | done {opened : List Opened} : Pairs opened [] (opened.map Opened.styled)
  | ordinary {opened : List Opened} {text : Text} {rest : List Stretch}
      {styled : List (Text × Text)}
      (later : Pairs (opened.map (Opened.cover (cleaned (unescape text)))) rest styled) :
      Pairs opened (.ordinary text :: rest) styled
  | verbatim {opened : List Opened} {text : Text} {rest : List Stretch}
      {styled : List (Text × Text)}
      (later : Pairs (opened.map (Opened.cover (cleaned text))) rest styled) :
      Pairs opened (.verbatim text :: rest) styled
  | opens {opened : List Opened} {position : Nat} {body normal : Text} {rest : List Stretch}
      {styled : List (Text × Text)} (opening : ∀ name, tagName body ≠ '/' :: name)
      (read : Style.normalForm (tagName body) = .ok normal)
      (later : Pairs (⟨normal, tagArgument? body, []⟩ :: opened) rest styled) :
      Pairs opened (.tag position body :: rest) styled
  | closes {opened others : List Opened} {tag : Opened} {position : Nat} {body name : Text}
      {rest : List Stretch} {styled : List (Text × Text)} (closing : tagName body = '/' :: name)
      (ends : Ends name opened tag others) (style : Action.isName tag.name = false)
      (later : Pairs others rest styled) :
      Pairs opened (.tag position body :: rest) (tag.styled :: styled)
  | acts {opened others : List Opened} {tag : Opened} {position : Nat} {body name : Text}
      {rest : List Stretch} {styled : List (Text × Text)} (closing : tagName body = '/' :: name)
      (ends : Ends name opened tag others) (action : Action.isName tag.name = true)
      (answerable : tag.Answerable) (later : Pairs others rest styled) :
      Pairs opened (.tag position body :: rest) styled

/-- What can be printed: the tags pair, and every style can be laid out. -/
def Printable (text : Text) : Prop :=
  ∃ styled, Pairs [] (stretches text) styled ∧ ∀ part ∈ styled, Legible (shown text) part

end Markup

/-! ## Reading the stretches -/

theorem bind_eq_ok_iff {ε α β : Type} {first : Except ε α} {rest : α → Except ε β} {result : β} :
    (first >>= rest) = .ok result ↔ ∃ value, first = .ok value ∧ rest value = .ok result := by
  cases first with
  | error fault => simp [bind, Except.bind]
  | ok value => simp [bind, Except.bind]

namespace Markup

/-- An open tag with what has been shown since. -/
def OpenTag.behind (shown : Text) (tag : OpenTag) : Opened :=
  ⟨tag.name, tag.argument?, shown.drop tag.start⟩

/-- The style of a span can be laid out over what it covers. -/
def LegibleSpan (shown : Text) (span : Span) : Prop :=
  Legible shown (span.style, span.covered shown)

namespace Reading

/-- What is shown of the text that has been read. -/
def text (reading : Reading) : Text :=
  reading.shown.reverse.flatten

/-- Places are counted in what is shown, and every open tag has its place there. -/
structure Measured (reading : Reading) : Prop where
  length_eq : reading.length = reading.text.length
  started : ∀ tag ∈ reading.openTags, tag.start ≤ reading.length

end Reading

variable {reading next last : Reading} {whole more : Text}

theorem text_addText (text : Text) :
    (reading.addText text).text = reading.text ++ cleaned text := by
  simp [Reading.addText, Reading.text, cleaned]

theorem Reading.Measured.addText (measured : reading.Measured) (text : Text) :
    (reading.addText text).Measured where
  length_eq := by
    rw [text_addText, List.length_append, ← measured.length_eq]
    rfl
  started tag member := (measured.started tag member).trans (Nat.le_add_right _ _)

/-- The open tags cover the text that follows. -/
theorem Reading.Measured.map_behind_addText (measured : reading.Measured) (text : Text) :
    (reading.addText text).openTags.map (OpenTag.behind (reading.addText text).text) =
      (reading.openTags.map (OpenTag.behind reading.text)).map (Opened.cover (cleaned text)) := by
  rw [List.map_map]
  refine List.map_congr_left fun tag member => ?_
  have started := measured.length_eq ▸ measured.started tag member
  simp only [OpenTag.behind, Function.comp_apply, Opened.cover, text_addText,
    List.drop_append_of_le_length started]

theorem close?_append {newer older : List OpenTag} {tag : OpenTag}
    (newest : ∀ other ∈ newer, other.name ≠ tag.name) :
    close? tag.name (newer ++ tag :: older) = some (tag, newer ++ older) := by
  induction newer with
  | nil => simp [close?]
  | cons first newer ih =>
      obtain ⟨different, newest⟩ := List.forall_mem_cons.mp newest
      rw [List.cons_append, close?, if_neg different, ih newest]
      rfl

theorem exists_of_close? {name : Text} {tags others : List OpenTag} {tag : OpenTag}
    (found : close? name tags = some (tag, others)) :
    tag.name = name ∧ ∃ newer older, tags = newer ++ tag :: older ∧ others = newer ++ older ∧
      ∀ other ∈ newer, other.name ≠ name := by
  induction tags generalizing others with
  | nil => cases found
  | cons first rest ih =>
      rw [close?] at found
      split at found
      · rename_i same
        cases found
        exact ⟨same, [], rest, rfl, rfl, by simp⟩
      · rename_i different
        obtain ⟨⟨later, kept⟩, foundLater, pair_eq⟩ := Option.map_eq_some_iff.mp found
        cases pair_eq
        obtain ⟨named, newer, older, rfl, rfl, newest⟩ := ih foundLater
        exact ⟨named, first :: newer, older, rfl, rfl,
          List.forall_mem_cons.mpr ⟨different, newest⟩⟩

theorem styleName_eq_ok_iff {name normal : Text} :
    styleName name = .ok normal ↔ Style.normalForm name = .ok normal := by
  unfold styleName
  cases Style.normalForm name <;> simp [Except.mapError]

/-- A closing tag closes the last open tag, or with a name the last one of that name. -/
theorem closed_eq_ok_iff {name body : Text} {position : Nat} {tag : OpenTag}
    {others : List OpenTag} :
    reading.closed position body name = .ok (tag, others) ↔
      (name = [] ∧ reading.openTags = tag :: others) ∨
        (name ≠ [] ∧ Style.normalForm name = .ok tag.name ∧ ∃ newer older,
          reading.openTags = newer ++ tag :: older ∧ others = newer ++ older ∧
            ∀ other ∈ newer, other.name ≠ tag.name) := by
  unfold Reading.closed
  by_cases nameless : name = []
  · rw [if_pos (List.isEmpty_iff.mpr nameless)]
    cases reading.openTags <;> simp [nameless]
  · rw [if_neg fun empty => nameless (List.isEmpty_iff.mp empty)]
    simp only [nameless, false_and, false_or, ne_eq, not_false_eq_true, true_and, bind_eq_ok_iff,
      styleName_eq_ok_iff]
    constructor
    · rintro ⟨normal, read, closed⟩
      split at closed
      · cases closed
      · rename_i found
        cases closed
        obtain ⟨rfl, opened⟩ := exists_of_close? found
        exact ⟨read, opened⟩
    · rintro ⟨read, newer, older, tags_eq, rfl, newest⟩
      exact ⟨tag.name, read, by rw [tags_eq, close?_append newest]⟩

/-- The tag that a closing tag closes is the one that its name ends. -/
theorem ends_iff {name body shown : Text} {position : Nat} {tag : Opened} {others : List Opened} :
    Ends name (reading.openTags.map (OpenTag.behind shown)) tag others ↔
      ∃ first rest, reading.closed position body (Text.trim name) = .ok (first, rest) ∧
        first.behind shown = tag ∧ rest.map (OpenTag.behind shown) = others := by
  constructor
  · intro ends
    generalize opened_eq : reading.openTags.map (OpenTag.behind shown) = opened at ends
    cases ends with
    | last nameless =>
        obtain ⟨first, rest, tags_eq, rfl, rfl⟩ := List.map_eq_cons_iff.mp opened_eq
        exact ⟨first, rest, closed_eq_ok_iff.mpr (.inl ⟨nameless, tags_eq⟩), rfl, rfl⟩
    | named given read newest =>
        obtain ⟨newer, behind, tags_eq, rfl, behind_eq⟩ := List.map_eq_append_iff.mp opened_eq
        obtain ⟨first, older, rfl, rfl, rfl⟩ := List.map_eq_cons_iff.mp behind_eq
        have closed : reading.closed position body (Text.trim name) = .ok (first, newer ++ older) :=
          closed_eq_ok_iff.mpr (.inr ⟨given, read, newer, older, tags_eq, rfl,
            fun other member => newest _ (List.mem_map_of_mem member)⟩)
        exact ⟨first, newer ++ older, closed, rfl, List.map_append⟩
  · rintro ⟨first, rest, closed, rfl, rfl⟩
    rcases closed_eq_ok_iff.mp closed with ⟨nameless, tags_eq⟩ |
      ⟨given, read, newer, older, tags_eq, rfl, newest⟩
    · rw [tags_eq]
      exact .last nameless
    · rw [tags_eq, List.map_append, List.map_append]
      exact .named given read (List.forall_mem_map.mpr newest)

theorem closedAt_eq_ok_iff (shown : Text) {tag : OpenTag} {stop : Nat} {span : Span} :
    tag.closedAt stop = .ok span ↔
      (Action.isName tag.name = false ∧ tag.upTo stop = span) ∨
        (Action.isName tag.name = true ∧ (tag.behind shown).Answerable ∧
          ⟨tag.start, stop, []⟩ = span) := by
  unfold OpenTag.closedAt
  cases Action.isName tag.name with
  | false => simp
  | true =>
      simp only [if_true, Opened.Answerable, OpenTag.behind]
      cases tag.argument? with
      | none => simp
      | some argument =>
          by_cases empty : argument = []
          · simp [Option.filter, empty]
          · cases fault : Action.fault? argument with
            | none => simp [Option.filter, empty, fault]
            | some fault => simp [Option.filter, empty, fault]

/-! ## One stretch more -/

/-- The spans that are complete can be laid out, and so can the styles of the stretches that
follow, whose tags pair with the open ones. -/
def Reading.Fits (whole : Text) (stretches : List Stretch) (reading : Reading) : Prop :=
  (∀ span ∈ reading.spans, LegibleSpan whole span) ∧
    ∃ styled, Pairs (reading.openTags.map (OpenTag.behind reading.text)) stretches styled ∧
      ∀ part ∈ styled, Legible whole part

section Step

variable {body name : Text} {position : Nat} {stretch : Stretch} {rest : List Stretch}
  {opened : List Opened} {styled : List (Text × Text)}

theorem pairs_nil_iff : Pairs opened [] styled ↔ styled = opened.map Opened.styled := by
  constructor
  · intro pairs
    cases pairs
    rfl
  · rintro rfl
    exact .done

theorem pairs_ordinary_iff {text : Text} :
    Pairs opened (.ordinary text :: rest) styled ↔
      Pairs (opened.map (Opened.cover (cleaned (unescape text)))) rest styled := by
  constructor
  · intro pairs
    cases pairs with
    | ordinary later => exact later
  · exact .ordinary

theorem pairs_verbatim_iff {text : Text} :
    Pairs opened (.verbatim text :: rest) styled ↔
      Pairs (opened.map (Opened.cover (cleaned text))) rest styled := by
  constructor
  · intro pairs
    cases pairs with
    | verbatim later => exact later
  · exact .verbatim

theorem pairs_opening_iff (opening : ∀ name, tagName body ≠ '/' :: name) :
    Pairs opened (.tag position body :: rest) styled ↔ ∃ normal,
      Style.normalForm (tagName body) = .ok normal ∧
        Pairs (⟨normal, tagArgument? body, []⟩ :: opened) rest styled := by
  constructor
  · intro pairs
    cases pairs with
    | opens _ read later => exact ⟨_, read, later⟩
    | closes closing => exact absurd closing (opening _)
    | acts closing => exact absurd closing (opening _)
  · rintro ⟨normal, read, later⟩
    exact .opens opening read later

theorem pairs_closing_iff (closing : tagName body = '/' :: name) :
    Pairs opened (.tag position body :: rest) styled ↔ ∃ tag others,
      Ends name opened tag others ∧
        ((Action.isName tag.name = false ∧
          ∃ later, styled = tag.styled :: later ∧ Pairs others rest later) ∨
        (Action.isName tag.name = true ∧ tag.Answerable ∧ Pairs others rest styled)) := by
  constructor
  · intro pairs
    cases pairs with
    | opens opening => exact absurd closing (opening _)
    | closes other ends style later =>
        cases other.symm.trans closing
        exact ⟨_, _, ends, .inl ⟨style, _, rfl, later⟩⟩
    | acts other ends action answerable later =>
        cases other.symm.trans closing
        exact ⟨_, _, ends, .inr ⟨action, answerable, later⟩⟩
  · rintro ⟨tag, others, ends, ⟨style, later, rfl, pairs⟩ | ⟨action, answerable, pairs⟩⟩
    · exact .closes closing ends style pairs
    · exact .acts closing ends action answerable pairs

theorem addTag_of_opening (opening : ∀ name, tagName body ≠ '/' :: name) :
    reading.addTag position body = .ok next ↔ ∃ normal,
      Style.normalForm (tagName body) = .ok normal ∧ { reading with
        openTags := ⟨reading.length, normal, tagArgument? body⟩ :: reading.openTags } = next := by
  unfold Reading.addTag
  split
  · rename_i closing
    exact absurd closing (opening _)
  · simp only [bind_eq_ok_iff, styleName_eq_ok_iff, pure, Except.pure, Except.ok.injEq]

theorem addTag_of_closing (closing : tagName body = '/' :: name) :
    reading.addTag position body = .ok next ↔ ∃ tag others,
      reading.closed position body (Text.trim name) = .ok (tag, others) ∧
        ∃ span, tag.closedAt reading.length = .ok span ∧
          { reading with openTags := others, spans := span :: reading.spans } = next := by
  rw [Reading.addTag, closing]
  simp only [bind_eq_ok_iff, pure, Except.pure, Except.ok.injEq, Prod.exists]

theorem text_add (added : add reading stretch = .ok next) :
    next.text = reading.text ++ stretch.shown := by
  cases stretch with
  | ordinary text =>
      cases added
      exact text_addText _
  | verbatim text =>
      cases added
      exact text_addText text
  | tag position body =>
      suffices same : next.text = reading.text by rw [same, Stretch.shown, List.append_nil]
      change reading.addTag position body = .ok next at added
      by_cases closing : ∃ name, tagName body = '/' :: name
      · obtain ⟨name, closing⟩ := closing
        obtain ⟨tag, others, -, span, -, rfl⟩ := (addTag_of_closing closing).mp added
        rfl
      · obtain ⟨normal, -, rfl⟩ := (addTag_of_opening (not_exists.mp closing)).mp added
        rfl

theorem Reading.Measured.add (measured : reading.Measured)
    (added : Markup.add reading stretch = .ok next) : next.Measured := by
  cases stretch with
  | ordinary text =>
      cases added
      exact measured.addText _
  | verbatim text =>
      cases added
      exact measured.addText text
  | tag position body =>
      change reading.addTag position body = .ok next at added
      by_cases closing : ∃ name, tagName body = '/' :: name
      · obtain ⟨name, closing⟩ := closing
        obtain ⟨tag, others, closed, span, -, rfl⟩ := (addTag_of_closing closing).mp added
        have kept : others ⊆ reading.openTags := by
          rcases closed_eq_ok_iff.mp closed with
            ⟨-, tags_eq⟩ | ⟨-, -, newer, older, tags_eq, rfl, -⟩
          · exact tags_eq ▸ List.subset_cons_self tag others
          · rw [tags_eq]
            exact (List.sublist_cons_self tag older).append_left newer |>.subset
        exact ⟨measured.length_eq, fun other member => measured.started other (kept member)⟩
      · obtain ⟨normal, -, rfl⟩ := (addTag_of_opening (not_exists.mp closing)).mp added
        exact ⟨measured.length_eq, List.forall_mem_cons.mpr ⟨le_rfl, measured.started⟩⟩

/-- A span that an open tag gets covers what has been shown since the tag was opened. -/
theorem Reading.Measured.legible_upTo_iff (measured : reading.Measured)
    (whole_eq : whole = reading.text ++ more) (tag : OpenTag) :
    LegibleSpan whole (tag.upTo reading.length) ↔
      Legible whole (tag.behind reading.text).styled := by
  have covered : (tag.upTo reading.length).covered whole = reading.text.drop tag.start := by
    rw [Span.covered, whole_eq, OpenTag.upTo, measured.length_eq, List.take_left]
  rw [LegibleSpan, covered]
  rfl

theorem legible_empty (start stop : Nat) : LegibleSpan whole ⟨start, stop, []⟩ :=
  .inl ⟨_, rfl⟩

theorem exists_closing_fits_iff (measured : reading.Measured)
    (whole_eq : whole = reading.text ++ more) (closing : tagName body = '/' :: name) :
    (∃ next, reading.addTag position body = .ok next ∧ next.Fits whole rest) ↔
      reading.Fits whole (.tag position body :: rest) := by
  have spanned := measured.legible_upTo_iff whole_eq
  simp only [addTag_of_closing closing, Reading.Fits, pairs_closing_iff closing]
  constructor
  · rintro ⟨next, ⟨tag, others, closed, span, closedAt, rfl⟩, legible, styled, pairs, parts⟩
    obtain ⟨here, before⟩ := List.forall_mem_cons.mp legible
    have ends : Ends name (reading.openTags.map (OpenTag.behind reading.text))
        (tag.behind reading.text) (others.map (OpenTag.behind reading.text)) :=
      ends_iff.mpr ⟨tag, others, closed, rfl, rfl⟩
    refine ⟨before, ?_⟩
    rcases (closedAt_eq_ok_iff reading.text).mp closedAt with
      ⟨style, rfl⟩ | ⟨action, answerable, rfl⟩
    · exact ⟨_ :: styled, ⟨_, _, ends, .inl ⟨style, styled, rfl, pairs⟩⟩,
        List.forall_mem_cons.mpr ⟨(spanned tag).mp here, parts⟩⟩
    · exact ⟨styled, ⟨_, _, ends, .inr ⟨action, answerable, pairs⟩⟩, parts⟩
  · rintro ⟨before, styled, ⟨tag, others, ends, kind⟩, parts⟩
    obtain ⟨tag, others, closed, rfl, rfl⟩ :
        ∃ first kept, reading.closed position body (Text.trim name) = .ok (first, kept) ∧ _ :=
      ends_iff.mp ends
    rcases kind with ⟨style, later, rfl, pairs⟩ | ⟨action, answerable, pairs⟩
    · obtain ⟨here, parts⟩ := List.forall_mem_cons.mp parts
      have closedAt : tag.closedAt reading.length = .ok (tag.upTo reading.length) :=
        (closedAt_eq_ok_iff reading.text).mpr (.inl ⟨style, rfl⟩)
      exact ⟨_, ⟨tag, others, closed, _, closedAt, rfl⟩,
        List.forall_mem_cons.mpr ⟨(spanned tag).mpr here, before⟩, later, pairs, parts⟩
    · have closedAt : tag.closedAt reading.length = .ok ⟨tag.start, reading.length, []⟩ :=
        (closedAt_eq_ok_iff reading.text).mpr (.inr ⟨action, answerable, rfl⟩)
      exact ⟨_, ⟨tag, others, closed, _, closedAt, rfl⟩,
        List.forall_mem_cons.mpr ⟨legible_empty _ _, before⟩, styled, pairs, parts⟩

theorem exists_opening_fits_iff (measured : reading.Measured)
    (opening : ∀ name, tagName body ≠ '/' :: name) :
    (∃ next, reading.addTag position body = .ok next ∧ next.Fits whole rest) ↔
      reading.Fits whole (.tag position body :: rest) := by
  have fresh : ∀ normal,
      (OpenTag.mk reading.length normal (tagArgument? body)).behind reading.text =
        ⟨normal, tagArgument? body, []⟩ := fun normal => by
    rw [OpenTag.behind, List.drop_eq_nil_of_le measured.length_eq.ge]
  simp only [addTag_of_opening opening, Reading.Fits, pairs_opening_iff opening, ← fresh]
  constructor
  · rintro ⟨next, ⟨normal, read, rfl⟩, before, styled, pairs, parts⟩
    exact ⟨before, styled, ⟨normal, read, pairs⟩, parts⟩
  · rintro ⟨before, styled, ⟨normal, read, pairs⟩, parts⟩
    exact ⟨_, ⟨normal, read, rfl⟩, before, styled, pairs, parts⟩

/-- One stretch more can be read, and what follows fits behind it, exactly when all of it fits
before. -/
theorem exists_add_fits_iff (measured : reading.Measured)
    (whole_eq : whole = reading.text ++ more) :
    (∃ next, add reading stretch = .ok next ∧ next.Fits whole rest) ↔
      reading.Fits whole (stretch :: rest) := by
  cases stretch with
  | ordinary text =>
      simp only [add, Except.ok.injEq, exists_eq_left', Reading.Fits, pairs_ordinary_iff,
        measured.map_behind_addText]
      rfl
  | verbatim text =>
      simp only [add, Except.ok.injEq, exists_eq_left', Reading.Fits, pairs_verbatim_iff,
        measured.map_behind_addText]
      rfl
  | tag position body =>
      by_cases closing : ∃ name, tagName body = '/' :: name
      · obtain ⟨name, closing⟩ := closing
        exact exists_closing_fits_iff measured whole_eq closing
      · exact exists_opening_fits_iff measured (not_exists.mp closing)

end Step

/-! ## The whole text -/

theorem mem_finish_spans_iff {span : Span} :
    span ∈ reading.finish.spans ↔
      (∃ tag ∈ reading.openTags, tag.upTo reading.length = span) ∨ span ∈ reading.spans := by
  simp [Reading.finish, List.mem_mergeSort]

/-- The stretches behind what has been read can be read on, and all spans laid out, exactly when
they fit. -/
theorem exists_foldlM_iff {stretches : List Stretch} (measured : reading.Measured)
    (whole_eq : whole = reading.text ++ stretches.flatMap Stretch.shown) :
    (∃ last, stretches.foldlM add reading = .ok last ∧
        ∀ span ∈ last.finish.spans, LegibleSpan whole span) ↔
      reading.Fits whole stretches := by
  induction stretches generalizing reading with
  | nil =>
      simp only [List.foldlM_nil, pure, Except.pure, Except.ok.injEq, exists_eq_left',
        mem_finish_spans_iff, Reading.Fits, pairs_nil_iff, exists_eq_left, List.forall_mem_map,
        ← measured.legible_upTo_iff whole_eq]
      simp only [or_imp, forall_and, forall_exists_index, and_imp, forall_apply_eq_imp_iff₂]
      exact and_comm
  | cons stretch rest ih =>
      rw [List.flatMap_cons] at whole_eq
      have next_iff : ∀ next, add reading stretch = .ok next →
          ((∃ last, rest.foldlM add next = .ok last ∧
            ∀ span ∈ last.finish.spans, LegibleSpan whole span) ↔ next.Fits whole rest) :=
        fun next added => ih (measured.add added)
          (by rw [whole_eq, text_add added, List.append_assoc])
      rw [← exists_add_fits_iff measured whole_eq]
      simp only [List.foldlM_cons, bind_eq_ok_iff]
      constructor
      · rintro ⟨last, ⟨next, added, read⟩, legible⟩
        exact ⟨next, added, (next_iff next added).mp ⟨last, read, legible⟩⟩
      · rintro ⟨next, added, fits⟩
        obtain ⟨last, read, legible⟩ := (next_iff next added).mpr fits
        exact ⟨last, ⟨next, added, read⟩, legible⟩

theorem text_foldlM {stretches : List Stretch} (read : stretches.foldlM add reading = .ok last) :
    last.text = reading.text ++ stretches.flatMap Stretch.shown := by
  induction stretches generalizing reading with
  | nil =>
      cases read
      simp
  | cons stretch rest ih =>
      rw [List.foldlM_cons] at read
      obtain ⟨next, added, read⟩ := bind_eq_ok_iff.mp read
      rw [ih read, text_add added, List.flatMap_cons, List.append_assoc]

/-- A text is printed exactly when it can be, and then as what is shown of it. -/
theorem print_eq_ok_iff {text out : Text} :
    print text = .ok out ↔ Printable text ∧ out = expandTabs (shown text) ++ ['\n'] := by
  have measured : Reading.start.Measured := ⟨rfl, fun tag member => by cases member⟩
  have readable := exists_foldlM_iff measured (show shown text = Reading.start.text ++ _ from rfl)
  have fits : Reading.start.Fits (shown text) (stretches text) ↔ Printable text :=
    and_iff_right fun span member => by cases member
  have styled_iff : ∀ result, styled text = .ok result ↔
      ∃ last, (stretches text).foldlM add Reading.start = .ok last ∧ last.finish = result := by
    intro result
    unfold styled
    cases (stretches text).foldlM add Reading.start <;> simp [Except.map]
  rw [← fits, ← readable, print, bind_eq_ok_iff]
  simp only [styled_iff]
  constructor
  · rintro ⟨result, ⟨last, read, rfl⟩, printed⟩
    have text_eq : last.finish.text = shown text := text_foldlM read
    split at printed
    · cases printed
    · rename_i faultless
      cases printed
      exact ⟨⟨last, read, text_eq ▸ Styled.fault?_eq_none_iff.mp faultless⟩, by rw [text_eq]⟩
  · rintro ⟨⟨last, read, legible⟩, rfl⟩
    have text_eq : last.finish.text = shown text := text_foldlM read
    have faultless : last.finish.fault? = none :=
      Styled.fault?_eq_none_iff.mpr (text_eq.symm ▸ legible)
    refine ⟨_, ⟨last, read, rfl⟩, ?_⟩
    rw [faultless, text_eq]
    rfl

/-- A text can be printed exactly when its tags pair and its styles can be laid out. -/
theorem exists_print_iff {text : Text} : (∃ out, print text = .ok out) ↔ Printable text := by
  simp only [print_eq_ok_iff, exists_and_left, exists_eq, and_true]

end Markup

end Console

end DeclLinker
