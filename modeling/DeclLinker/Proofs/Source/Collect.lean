import DeclLinker.Proofs.Import.Naming
import DeclLinker.Proofs.Source.Isolation
import DeclLinker.Text.Utf8

/-!
# What is read off the lines of a text

Exports, import statements and misplaced placeholders are read line by line.  What a reader collects
from two texts put together comes from the complete lines of the first, from the line in which they
meet, and from the later lines of the second.

The readers here look at the heading of a line, the part before its first guard character.  So what
stands behind a guard character can change without a change to what is collected.
-/

namespace DeclLinker

namespace Text

variable {α : Type}

/-! ## Lines -/

theorem lines_of_not_mem {text : Text} (absent : '\n' ∉ text) : text.lines = [text] :=
  splitOn_of_not_mem absent

theorem lines_append_feed {line : Text} (absent : '\n' ∉ line) (rest : Text) :
    (line ++ '\n' :: rest).lines = line :: rest.lines :=
  splitOn_append_cons absent rest

/-- A text is one line, or it is cut at its last line feed. -/
theorem lastSegment_cases (text : Text) :
    ('\n' ∉ text ∧ text.lastSegment '\n' = text) ∨
      ∃ front, text = front ++ '\n' :: text.lastSegment '\n' := by
  unfold lastSegment
  split
  · rename_i before after found
    exact .inr ⟨before, (splitLast?_eq_some_iff.1 found).1⟩
  · rename_i nothing
    exact .inl ⟨splitLast?_eq_none_iff.1 nothing, rfl⟩

theorem lastSegment_suffix (text : Text) : text.lastSegment '\n' <:+ text := by
  rcases lastSegment_cases text with ⟨-, same⟩ | ⟨front, whole⟩
  · exact ⟨[], same⟩
  · exact ⟨front ++ ['\n'], by rw [List.append_assoc, List.singleton_append]; exact whole.symm⟩

theorem firstSegment_append_of_not_mem {line : Text} (absent : '\n' ∉ line) (rest : Text) :
    (line ++ rest).firstSegment '\n' = line ++ rest.firstSegment '\n' := by
  refine List.takeWhile_append_of_pos fun char member => ?_
  simpa using fun same : char = '\n' => absent (same ▸ member)

theorem firstSegment_append_feed {line : Text} (absent : '\n' ∉ line) (rest : Text) :
    (line ++ '\n' :: rest).firstSegment '\n' = line := by
  rw [firstSegment_append_of_not_mem absent]
  simp [firstSegment]

theorem infix_of_mem_lines {line text : Text} (member : line ∈ text.lines) : line <:+: text := by
  induction text using lines_induction with
  | last only flat =>
      rw [lines_of_not_mem flat] at member
      obtain rfl := List.mem_singleton.1 member
      exact List.infix_rfl
  | next first rest flat ih =>
      rw [lines_append_feed flat] at member
      rcases List.mem_cons.1 member with rfl | later
      · exact (List.prefix_append line _).isInfix
      · exact (ih later).trans ⟨first ++ ['\n'], [], by simp⟩

/-! ## Unified newlines -/

theorem return_not_mem_unifyNewlines (text : Text) : '\r' ∉ text.unifyNewlines := by
  fun_induction unifyNewlines text with
  | case1 rest ih => simpa using ih
  | case2 rest notFeed ih => simpa using ih
  | case3 char rest notPair notReturn ih =>
      have other : '\r' ≠ char := fun same => notReturn same.symm
      simp [other, ih]
  | case4 => simp

/-- A text without carriage returns is read as it is. -/
theorem unifyNewlines_of_not_mem {text : Text} (absent : '\r' ∉ text) :
    text.unifyNewlines = text := by
  fun_induction unifyNewlines text with
  | case1 rest ih => simp at absent
  | case2 rest notFeed ih => simp at absent
  | case3 char rest notPair notReturn ih =>
      rw [ih fun member => absent (.tail char member)]
  | case4 => rfl

/-! ## Collecting -/

/-- What a reader finds in the lines of a text, in order. -/
def collect (read : Text → List α) (text : Text) : List α :=
  text.lines.flatMap read

/-- What a reader finds behind the first line of a text. -/
def collectLater (read : Text → List α) (text : Text) : List α :=
  text.lines.tail.flatMap read

variable (read : Text → List α)

theorem collect_of_flat {line : Text} (absent : '\n' ∉ line) : collect read line = read line := by
  rw [collect, lines_of_not_mem absent, List.flatMap_singleton]

theorem collectLater_of_flat {line : Text} (absent : '\n' ∉ line) :
    collectLater read line = [] := by
  rw [collectLater, lines_of_not_mem absent]
  rfl

theorem collect_append_feed (front rest : Text) :
    collect read (front ++ '\n' :: rest) = collect read front ++ collect read rest := by
  induction front using lines_induction with
  | last line absent =>
      rw [collect_of_flat read absent, collect, lines_append_feed absent, List.flatMap_cons]
      rfl
  | next line front absent ih =>
      have inner : collect read (line ++ '\n' :: front) = read line ++ collect read front := by
        rw [collect, lines_append_feed absent, List.flatMap_cons]
        rfl
      have outer : collect read (line ++ '\n' :: (front ++ '\n' :: rest)) =
          read line ++ collect read (front ++ '\n' :: rest) := by
        rw [collect, lines_append_feed absent, List.flatMap_cons]
        rfl
      rw [List.append_assoc, List.cons_append, outer, inner, ih, List.append_assoc]

/-- What is collected from a text behind the start of a line. -/
theorem collect_line_append {line : Text} (absent : '\n' ∉ line) (text : Text) :
    collect read (line ++ text) =
      read (line ++ text.firstSegment '\n') ++ collectLater read text := by
  by_cases feed : '\n' ∈ text
  · obtain ⟨first, rest, rfl, firstAbsent⟩ := List.eq_append_cons_of_mem feed
    have whole : '\n' ∉ line ++ first := by simp [absent, firstAbsent]
    rw [firstSegment_append_feed firstAbsent, collectLater, lines_append_feed firstAbsent,
      ← List.append_assoc, collect, lines_append_feed whole, List.flatMap_cons, List.tail_cons]
  · have whole : '\n' ∉ line ++ text := by simp [absent, feed]
    have first_eq := firstSegment_append_of_not_mem feed []
    rw [List.append_nil] at first_eq
    rw [first_eq, collect_of_flat read whole, collectLater_of_flat read feed]
    simp [firstSegment]

/-- What is collected from two texts: from the complete lines of the first, from the line in which
they meet, and from the later lines of the second. -/
theorem exists_collect_append (front : Text) :
    ∃ closed, ∀ text, collect read (front ++ text) =
      closed ++ (read (front.lastSegment '\n' ++ text.firstSegment '\n') ++
        collectLater read text) := by
  have flat := separator_not_mem_lastSegment '\n' front
  rcases lastSegment_cases front with ⟨absent, last_eq⟩ | ⟨closed, front_eq⟩
  · refine ⟨[], fun text => ?_⟩
    rw [last_eq, collect_line_append read absent, List.nil_append]
  · refine ⟨collect read closed, fun text => ?_⟩
    have whole : front ++ text = closed ++ '\n' :: (front.lastSegment '\n' ++ text) := by
      conv_lhs => rw [front_eq]
      simp
    rw [whole, collect_append_feed, collect_line_append read flat]

/-- Texts whose first lines are read alike and whose later lines yield the same can stand for each
other. -/
theorem collect_append_congr {front text other : Text}
    (meet : read (front.lastSegment '\n' ++ text.firstSegment '\n') =
      read (front.lastSegment '\n' ++ other.firstSegment '\n'))
    (later : collectLater read text = collectLater read other) :
    collect read (front ++ text) = collect read (front ++ other) := by
  obtain ⟨closed, cut⟩ := exists_collect_append read front
  rw [cut, cut, meet, later]

theorem collectLater_append_feed {line : Text} (absent : '\n' ∉ line) (rest : Text) :
    collectLater read (line ++ '\n' :: rest) = collect read rest := by
  rw [collectLater, lines_append_feed absent]
  rfl

theorem collectLater_append_of_flat {line : Text} (absent : '\n' ∉ line) (text : Text) :
    collectLater read (line ++ text) = collectLater read text := by
  by_cases feed : '\n' ∈ text
  · obtain ⟨first, rest, rfl, firstAbsent⟩ := List.eq_append_cons_of_mem feed
    have whole : '\n' ∉ line ++ first := by simp [absent, firstAbsent]
    rw [← List.append_assoc, collectLater_append_feed read whole,
      collectLater_append_feed read firstAbsent]
  · have whole : '\n' ∉ line ++ text := by simp [absent, feed]
    rw [collectLater_of_flat read whole, collectLater_of_flat read feed]

/-- The later lines of a text are among those of the text behind another. -/
theorem collectLater_sublist (front text : Text) :
    (collectLater read text).Sublist (collectLater read (front ++ text)) := by
  by_cases feed : '\n' ∈ front
  · obtain ⟨first, rest, rfl, absent⟩ := List.eq_append_cons_of_mem feed
    obtain ⟨closed, cut⟩ := exists_collect_append read rest
    rw [List.append_assoc, List.cons_append, collectLater_append_feed read absent, cut,
      ← List.append_assoc]
    exact List.sublist_append_right _ _
  · rw [collectLater_append_of_flat read feed]

/-! ## Headings -/

/-- A character that is part of no name, of no placeholder, and of no import statement before its
specifier. -/
def isGuard (char : Char) : Bool :=
  !isNaming char && !" ,\x7b\x7d\x22/*.\n".toList.contains char

/-- The part of a line before its first guard character. -/
def heading (line : Text) : Text :=
  line.takeWhile fun char => !isGuard char

theorem isWord_of_isGuard {char : Char} (guard : isGuard char = true) : isWord char = false := by
  rw [isGuard, Bool.and_eq_true, Bool.not_eq_true'] at guard
  by_contra word
  rw [isNaming_of_isWord (Bool.not_eq_false _ ▸ word)] at guard
  cases guard.1

theorem ne_of_isGuard {char other : Char} (guard : isGuard char = true)
    (free : isGuard other = false) : char ≠ other := by
  rintro rfl
  rw [guard] at free
  cases free

theorem heading_append_guard {char : Char} (guard : isGuard char = true) (line rest : Text) :
    heading (line ++ char :: rest) = heading line := by
  unfold heading
  rw [List.takeWhile_append]
  split
  · rename_i whole
    have line_eq := (List.takeWhile_prefix (fun char => !isGuard char)).eq_of_length whole
    rw [line_eq, List.takeWhile_cons, guard]
    simp
  · rfl

/-- A reader that decides a line by its heading, and sees no blank at the end of a line. -/
structure ReadsHeading (read : Text → List α) : Prop where
  guard : ∀ {char : Char}, isGuard char = true → ∀ line rest,
    read (line ++ char :: rest) = read line
  blank : ∀ line, read (line ++ [' ']) = read line

namespace ReadsHeading

variable {read : Text → List α} (reader : ReadsHeading read)

include reader

theorem blank_guard {char : Char} (guard : isGuard char = true) (line rest : Text) :
    read (line ++ ' ' :: char :: rest) = read line := by
  have shape : line ++ ' ' :: char :: rest = (line ++ [' ']) ++ char :: rest := by simp
  rw [shape, reader.guard guard, reader.blank]

/-- A line is decided at a guard character. -/
theorem collect_append_guard {char : Char} (guard : isGuard char = true) (front rest : Text) :
    collect read (front ++ char :: rest) = collect read front ++ collectLater read rest := by
  have flat : '\n' ∉ [char] := by
    simpa using (ne_of_isGuard guard (show isGuard '\n' = false by decide)).symm
  have first_eq := firstSegment_append_of_not_mem flat rest
  have later_eq := collectLater_append_of_flat read flat rest
  rw [List.singleton_append] at first_eq later_eq
  obtain ⟨closed, cut⟩ := exists_collect_append read front
  have alone := cut []
  rw [List.append_nil] at alone
  rw [cut, alone, first_eq, later_eq, List.singleton_append, reader.guard guard]
  simp [firstSegment, collectLater, lines, splitOn]

/-- What stands behind a guard character on its line can be exchanged. -/
theorem collect_exchange {before old new : Text}
    (guarded : ∃ char ∈ before.lastSegment '\n', isGuard char = true)
    (oldFlat : '\n' ∉ old) (newFlat : '\n' ∉ new) (rest : Text) :
    collect read (before ++ (new ++ rest)) = collect read (before ++ (old ++ rest)) := by
  obtain ⟨char, member, guard⟩ := guarded
  obtain ⟨front, back, last_eq⟩ := List.append_of_mem member
  have decided : ∀ text, read (before.lastSegment '\n' ++ text) = read front := by
    intro text
    rw [last_eq, List.append_assoc, List.cons_append, reader.guard guard]
  refine collect_append_congr read ?_ ?_
  · rw [decided, decided]
  · rw [collectLater_append_of_flat read newFlat, collectLater_append_of_flat read oldFlat]

/-- What headings tell is still told when the newlines of a text are unified. -/
theorem subset_collect_unifyNewlines (text : Text) :
    collect read text ⊆ collect read text.unifyNewlines := by
  have isReturn : isGuard '\r' = true := by decide
  have general : ∀ front, collect read (front ++ text) ⊆
      collect read (front ++ text.unifyNewlines) := by
    fun_induction unifyNewlines text with
    | case1 rest ih =>
        intro front value member
        rw [List.append_cons, collect_append_feed, reader.collect_append_guard isReturn,
          List.mem_append] at member
        rw [collect_append_feed, List.mem_append]
        rcases member with before | behind
        · exact .inl (by simpa [collectLater, lines, splitOn] using before)
        · exact .inr (ih [] behind)
    | case2 rest notFeed ih =>
        intro front value member
        rw [reader.collect_append_guard isReturn, List.mem_append] at member
        rw [collect_append_feed, List.mem_append]
        refine member.imp_right fun behind => ih [] ?_
        have flat : '\n' ∉ ([] : Text) := List.not_mem_nil
        have whole := collect_line_append read flat rest
        rw [List.nil_append] at whole
        rw [List.nil_append, whole]
        exact List.mem_append_right _ behind
    | case3 char rest notPair notReturn ih =>
        intro front
        rw [List.append_cons, List.append_cons front char (unifyNewlines rest)]
        exact ih (front ++ [char])
    | case4 => exact fun front => List.Subset.refl _
  exact general []

end ReadsHeading

/-- The words that announce a declaration or an import at the start of a line. -/
def announcers : List Text := ["export".toList, "import".toList]

/-- A reader that reads headings, and nothing off a line that announces nothing. -/
structure ReadsAnnounced (read : Text → List α) : Prop extends ReadsHeading read where
  announced : ∀ line, read line ≠ [] → ∃ word ∈ announcers, word <+: line

namespace ReadsAnnounced

variable {read : Text → List α} (reader : ReadsAnnounced read)

include reader

/-- Nothing is collected from a text that announces nothing. -/
theorem collect_eq_nil {text : Text} (absent : ∀ word ∈ announcers, ¬word <:+: text) :
    collect read text = [] := by
  refine List.flatMap_eq_nil_iff.2 fun line member => ?_
  by_contra found
  obtain ⟨word, listed, starts⟩ := reader.announced line found
  exact absent word listed (starts.isInfix.trans (infix_of_mem_lines member))

/-- A core that announces nothing, up to a character of no announcing word, adds nothing. -/
theorem collectLater_core {core : Text} {close : Char}
    (absent : ∀ word ∈ announcers, ¬word <:+: core) (foreign : ∀ word ∈ announcers, close ∉ word)
    (notFeed : close ≠ '\n') (rest : Text) :
    collectLater read (core ++ close :: rest) = collectLater read rest := by
  have flatClose : '\n' ∉ [close] := by simpa using notFeed.symm
  have later_eq := collectLater_append_of_flat read flatClose rest
  rw [List.singleton_append] at later_eq
  by_cases feed : '\n' ∈ core
  · obtain ⟨first, inner, rfl, flat⟩ := List.eq_append_cons_of_mem feed
    have innerAbsent : ∀ word ∈ announcers, ¬word <:+: inner := fun word listed inside =>
      absent word listed (inside.trans ⟨first ++ ['\n'], [], by simp⟩)
    obtain ⟨closed, cut⟩ := exists_collect_append read inner
    have nothing : closed = [] := by
      have alone := cut []
      rw [List.append_nil, reader.collect_eq_nil innerAbsent] at alone
      exact (List.append_eq_nil_iff.1 alone.symm).1
    have last : read (lastSegment '\n' inner ++ firstSegment '\n' (close :: rest)) = [] := by
      have first_eq := firstSegment_append_of_not_mem flatClose rest
      rw [List.singleton_append] at first_eq
      by_contra found
      obtain ⟨word, listed, starts⟩ := reader.announced _ found
      rw [first_eq, List.singleton_append] at starts
      have early := prefix_of_not_mem (foreign word listed) starts
      exact innerAbsent word listed (early.isInfix.trans (lastSegment_suffix inner).isInfix)
    rw [List.append_assoc, List.cons_append, collectLater_append_feed read flat, cut, nothing, last,
      List.nil_append, List.nil_append, later_eq]
  · rw [collectLater_append_of_flat read feed, later_eq]

end ReadsAnnounced

end Text

end DeclLinker
