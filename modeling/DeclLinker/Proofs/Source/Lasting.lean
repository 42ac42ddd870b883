import DeclLinker.Proofs.Source.Exports

/-!
# Exports that edits cannot reach

A placeholder may start inside a word, and an exported name may end in `any`.  Such a name, right
before the start of a comment, is exposed: the end of the name and the comment may be a placeholder,
and an edit takes the end of the name away with it.  Every other exported name lasts.  An edit that
hits the line of a lasting name leaves the name alone, and puts nothing before it that could expose
it, unless the replacement is empty or starts with a slash.
-/

namespace DeclLinker

namespace Scan

open Text

/-- Whether a name ends in `any` and stands behind a header, right before the start of a comment. -/
def exposed (line name : Text) : Bool :=
  "any".toList.isSuffixOf name &&
    keywords.any fun keyword =>
      (exporting ++ (keyword ++ (name ++ " /".toList))).isPrefixOf line

/-- What a line exports under a name that is not exposed. -/
def lasting (line : Text) : List Text :=
  (exported line).filter fun name => !exposed line name

/-- No name that a text exports is exposed. -/
def Unexposed (text : Text) : Prop :=
  ∀ line ∈ text.lines, ∀ name ∈ exported line, exposed line name = false

instance (text : Text) : Decidable (Unexposed text) :=
  inferInstanceAs (Decidable (∀ line ∈ text.lines, ∀ name ∈ exported line, _))

theorem mem_exported_iff {line name : Text} : name ∈ exported line ↔ exportName? line = some name :=
  Option.mem_toList.trans Iff.rfl

theorem exposed_iff {line name : Text} :
    exposed line name = true ↔ "any".toList <:+ name ∧
      ∃ keyword ∈ keywords, exporting ++ (keyword ++ (name ++ " /".toList)) <+: line := by
  simp only [exposed, Bool.and_eq_true, List.isSuffixOf_iff_suffix, List.any_eq_true,
    List.isPrefixOf_iff_prefix]

/-- Different keywords part at once. -/
theorem keyword_eq_of_prefix {keyword other text rest : Text} (one : keyword ∈ keywords)
    (two : other ∈ keywords) (starts : other ++ rest <+: keyword ++ text) : other = keyword := by
  have heads : ∀ keyword ∈ keywords, ∀ other ∈ keywords,
      keyword.head? = other.head? → other = keyword := by decide
  have nonempty : ∀ keyword ∈ keywords, keyword ≠ [] := by decide
  obtain ⟨first, keyword', rfl⟩ := List.exists_cons_of_ne_nil (nonempty keyword one)
  obtain ⟨second, other', rfl⟩ := List.exists_cons_of_ne_nil (nonempty other two)
  rw [List.cons_append, List.cons_append, List.cons_prefix_cons] at starts
  exact heads _ one _ two (by simp [starts.1])

/-- A lasting name stands behind a header, and it does not end in `any` right before the start of a
comment. -/
theorem mem_lasting_iff {line name : Text} :
    name ∈ lasting line ↔ ∃ keyword ∈ keywords, ∃ rest,
      line = exporting ++ (keyword ++ (name ++ rest)) ∧ name ≠ [] ∧
        (∀ char ∈ name, isWord char = true) ∧
        (∀ char, rest.head? = some char → isWord char = false) ∧
        ¬("any".toList <:+ name ∧ " /".toList <+: rest) := by
  rw [lasting, List.mem_filter, mem_exported_iff, exportName?_eq_some_iff, Bool.not_eq_true',
    ← Bool.not_eq_true, exposed_iff]
  constructor
  · rintro ⟨⟨keyword, member, rest, rfl, name_ne, nameWord, stop⟩, hidden⟩
    refine ⟨keyword, member, rest, rfl, name_ne, nameWord, stop, fun open_ => hidden ?_⟩
    refine ⟨open_.1, keyword, member, ?_⟩
    simpa only [List.prefix_append_right_inj] using open_.2
  · rintro ⟨keyword, member, rest, rfl, name_ne, nameWord, stop, hidden⟩
    refine ⟨⟨keyword, member, rest, rfl, name_ne, nameWord, stop⟩, ?_⟩
    rintro ⟨ends, other, otherMember, starts⟩
    rw [List.prefix_append_right_inj] at starts
    obtain rfl := keyword_eq_of_prefix member otherMember starts
    rw [List.prefix_append_right_inj, List.prefix_append_right_inj] at starts
    exact hidden ⟨ends, starts⟩

theorem mem_exports_of_lasting {text name : Text} (member : name ∈ collect lasting text) :
    name ∈ (ofText text).exports := by
  rw [exports_eq]
  obtain ⟨line, listed, lasts⟩ := List.mem_flatMap.1 member
  exact List.mem_flatMap.2 ⟨line, listed, (List.mem_filter.1 lasts).1⟩

theorem Unexposed.mem_lasting {text name : Text} (unexposed : Unexposed text)
    (member : name ∈ (ofText text).exports) : name ∈ collect lasting text := by
  rw [exports_eq] at member
  obtain ⟨line, listed, exports⟩ := List.mem_flatMap.1 member
  refine List.mem_flatMap.2 ⟨line, listed, List.mem_filter.2 ⟨exports, ?_⟩⟩
  rw [unexposed line listed name exports]
  rfl

/-- Whether a name is exposed is told by a phrase of the heading that does not end in a blank. -/
theorem exposed_congr {line other name : Text} (nameWord : ∀ char ∈ name, isWord char = true)
    (same : ∀ phrase : Text, (∀ char ∈ phrase, isGuard char = false) →
      phrase.getLast? = some '/' → (phrase <+: line ↔ phrase <+: other)) :
    exposed line name = exposed other name := by
  have fixed : ∀ keyword ∈ keywords, ∀ char ∈ exporting ++ (keyword ++ " /".toList),
      isGuard char = false := by decide
  rw [Bool.eq_iff_iff, exposed_iff, exposed_iff]
  refine and_congr_right fun _ => exists_congr fun keyword => and_congr_right fun member => ?_
  refine same _ (fun char inside => ?_) (by simp [← List.append_assoc])
  have table := fixed keyword member char
  simp only [List.mem_append] at inside table
  rcases inside with inExport | inKeyword | inName | inMark
  · exact table (.inl inExport)
  · exact table (.inr (.inl inKeyword))
  · by_contra guard
    have notWord := isWord_of_isGuard (Bool.not_eq_false _ ▸ guard)
    rw [nameWord char inName] at notWord
    cases notWord
  · exact table (.inr (.inr inMark))

theorem lasting_congr {line other : Text} (exports : exported line = exported other)
    (same : ∀ phrase : Text, (∀ char ∈ phrase, isGuard char = false) →
      phrase.getLast? = some '/' → (phrase <+: line ↔ phrase <+: other)) :
    lasting line = lasting other := by
  rw [lasting, lasting, exports]
  refine List.filter_congr fun name member => ?_
  obtain ⟨-, -, -, -, -, nameWord, -⟩ := exportName?_eq_some_iff.1 (mem_exported_iff.1 member)
  rw [exposed_congr nameWord same]

/-- Lasting names are read off the headings of lines. -/
theorem readsAnnounced_lasting : ReadsAnnounced lasting where
  guard guard line rest := by
    refine lasting_congr (readsAnnounced_exported.guard guard line rest) fun phrase free _ => ?_
    have absent : _ ∉ phrase := fun member => absurd guard (by rw [free _ member]; decide)
    exact ⟨prefix_of_not_mem absent, fun starts => starts.trans (List.prefix_append _ _)⟩
  blank line := by
    refine lasting_congr (readsAnnounced_exported.blank line) fun phrase _ last => ?_
    refine ⟨fun starts => ?_, fun starts => starts.trans (List.prefix_append _ _)⟩
    rcases List.prefix_concat_iff.1 starts with whole | early
    · rw [whole, List.getLast?_concat] at last
      cases last
    · exact early
  announced line found := by
    refine readsAnnounced_exported.announced line fun nothing => found ?_
    rw [lasting, nothing]
    rfl

/-! ## Edits -/

/-- A placeholder that starts inside a header with its name covers the end of a name in `any`. -/
theorem any_of_overlap {keyword name line spill behind rest : Text} {reference : Reference}
    (listed : keyword ∈ keywords) (name_ne : name ≠ [])
    (nameWord : ∀ char ∈ name, isWord char = true)
    (stop : ∀ char, behind.head? = some char → isWord char = false)
    (header_eq : exporting ++ (keyword ++ name) = line ++ spill)
    (spill_eq : reference.text ++ rest = spill ++ behind) :
    "any".toList <:+ name ∧ " /".toList <+: behind := by
  have spillChars : ∀ char ∈ spill, isWord char = true ∨ char = ' ' := fun char inside =>
    header_chars listed nameWord char (by simp [header_eq, inside])
  obtain ⟨tail, text_eq⟩ : ∃ tail, reference.text = 'a' :: 'n' :: 'y' :: ' ' :: '/' :: tail :=
    ⟨_, rfl⟩
  rw [text_eq] at spill_eq
  match spill, spill_eq with
  | [], spill_eq =>
      rw [List.nil_append] at spill_eq
      exact absurd (stop 'a' (by simp [← spill_eq])) (by decide)
  | [_], spill_eq =>
      simp only [List.cons_append, List.nil_append, List.cons.injEq] at spill_eq
      exact absurd (stop 'n' (by simp [← spill_eq.2])) (by decide)
  | [_, _], spill_eq =>
      simp only [List.cons_append, List.nil_append, List.cons.injEq] at spill_eq
      exact absurd (stop 'y' (by simp [← spill_eq.2.2])) (by decide)
  | [one, two, three], spill_eq =>
      simp only [List.cons_append, List.nil_append, List.cons.injEq] at spill_eq
      obtain ⟨rfl, rfl, rfl, behind_eq⟩ := spill_eq
      refine ⟨?_, by simp [← behind_eq]⟩
      -- The header ends in a blank, so the name holds the whole word.
      have blanks : ∀ keyword ∈ keywords, keyword.getLast? = some ' ' := by decide
      obtain ⟨front, keyword_eq⟩ := List.getLast?_eq_some_iff.1 (blanks keyword listed)
      have ends : "any".toList <:+ (exporting ++ front) ++ ' ' :: name := by
        refine ⟨line, ?_⟩
        rw [keyword_eq] at header_eq
        simpa using header_eq.symm
      exact suffix_of_not_mem (by decide) ends
  | [one, two, three, four], spill_eq =>
      simp only [List.cons_append, List.nil_append, List.cons.injEq] at spill_eq
      obtain ⟨-, -, -, rfl, -⟩ := spill_eq
      -- A name does not end in a blank.
      have last_eq := congrArg List.getLast? header_eq
      rw [← List.append_assoc, List.getLast?_append_of_ne_nil _ name_ne,
        List.getLast?_append_of_ne_nil _ (by simp),
        List.getLast?_eq_some_getLast name_ne] at last_eq
      have blank : name.getLast name_ne = ' ' := Option.some.inj last_eq
      have word := nameWord _ (List.getLast_mem name_ne)
      rw [blank] at word
      exact absurd word (by decide)
  | _ :: _ :: _ :: _ :: five :: more, spill_eq =>
      simp only [List.cons_append, List.cons.injEq] at spill_eq
      obtain ⟨-, -, -, -, rfl, -⟩ := spill_eq
      exact absurd (spillChars '/' (by simp)) (by decide)

/-- A placeholder on the line of a lasting name stands behind the name, and not directly. -/
theorem exists_gap_of_lasting {line rest name : Text} {reference : Reference}
    (member : name ∈ lasting (line ++ (reference.text ++ rest))) :
    ∃ keyword ∈ keywords, ∃ gap, line = exporting ++ (keyword ++ (name ++ gap)) ∧ name ≠ [] ∧
      (∀ char ∈ name, isWord char = true) ∧ gap ≠ [] ∧
      (∀ char, gap.head? = some char → isWord char = false) ∧
      ¬("any".toList <:+ name ∧ " /".toList <+: gap) := by
  obtain ⟨keyword, listed, behind, whole, name_ne, nameWord, stop, hidden⟩ :=
    mem_lasting_iff.1 member
  have header : line ++ (reference.text ++ rest) = (exporting ++ (keyword ++ name)) ++ behind := by
    simp [whole]
  rcases List.append_eq_append_iff.1 header with ⟨spill, header_eq, spill_eq⟩ |
    ⟨gap, line_eq, behind_eq⟩
  · exact absurd (any_of_overlap listed name_ne nameWord stop header_eq spill_eq) hidden
  · refine ⟨keyword, listed, gap, by simp [line_eq], name_ne, nameWord, ?_, ?_, ?_⟩
    · rintro rfl
      exact absurd (stop 'a' (by rw [behind_eq]; rfl)) (by decide)
    · intro char first
      exact stop char (by rw [behind_eq, List.head?_append, first]; rfl)
    · rintro ⟨ends, starts⟩
      exact hidden ⟨ends, starts.trans ⟨_, behind_eq.symm⟩⟩

/-- A lasting name outlives an edit of its line. -/
theorem lasting_exchange {line rest other name : Text} {reference : Reference}
    (member : name ∈ lasting (line ++ (reference.text ++ rest)))
    (noSlash : other.head? ≠ some '/') : name ∈ lasting (line ++ other) := by
  obtain ⟨keyword, listed, gap, rfl, name_ne, nameWord, gap_ne, stop, hidden⟩ :=
    exists_gap_of_lasting member
  obtain ⟨first, gap, rfl⟩ := List.exists_cons_of_ne_nil gap_ne
  refine mem_lasting_iff.2 ⟨keyword, listed, (first :: gap) ++ other, by simp, name_ne, nameWord,
    fun char head => stop char head, ?_⟩
  rintro ⟨ends, starts⟩
  -- The slash would stand in the gap, or start what follows it.
  cases gap with
  | cons second gap =>
      refine hidden ⟨ends, ?_⟩
      have two : " /".toList = [' ', '/'] := rfl
      rw [two] at starts ⊢
      simpa using starts
  | nil =>
      cases other with
      | nil =>
          have short := starts.length_le
          simp at short
      | cons second other =>
          have two : " /".toList = [' ', '/'] := rfl
          rw [two, List.singleton_append, List.cons_prefix_cons, List.cons_prefix_cons] at starts
          exact noSlash (by rw [← starts.2.1]; rfl)

/-- Lasting names outlive an edit by a text that is not empty and starts with no slash. -/
theorem lasting_edit {before rest replacement name : Text} {reference : Reference}
    (flat : '\n' ∉ reference.text) (replacement_ne : replacement ≠ [])
    (noSlash : replacement.head? ≠ some '/')
    (member : name ∈ collect lasting (before ++ (reference.text ++ rest))) :
    name ∈ collect lasting (before ++ (replacement ++ rest)) := by
  obtain ⟨closed, cut⟩ := exists_collect_append lasting before
  rw [cut, firstSegment_append_of_not_mem flat, collectLater_append_of_flat _ flat] at member
  rw [cut]
  rcases List.mem_append.1 member with earlier | member
  · exact List.mem_append_left _ earlier
  · refine List.mem_append_right _ (List.mem_append.2 ?_)
    rcases List.mem_append.1 member with here | later
    · refine .inl (lasting_exchange here fun head => noSlash ?_)
      obtain ⟨first, tail, rfl⟩ := List.exists_cons_of_ne_nil replacement_ne
      rw [List.cons_append, firstSegment, List.takeWhile_cons] at head
      split at head
      · exact head
      · cases head
    · exact .inr ((collectLater_sublist lasting replacement rest).subset later)

end Scan

end DeclLinker
