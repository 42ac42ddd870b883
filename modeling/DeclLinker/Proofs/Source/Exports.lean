import DeclLinker.Proofs.Source.Collect

/-!
# Where the exports of a text are decided

A line exports a name when it starts with `export`, a keyword and a run of word characters.  A line
is decided as soon as a character stands in it that can be part of neither, so what follows such a
character on its line does not count, and a text put behind a finished header changes nothing.

So exports are read off the headings of lines.
-/

namespace DeclLinker

namespace Scan

open Text

/-! ## The name a line exports -/

/-- The word that introduces an export, with the blank after it. -/
def exporting : Text := "export ".toList

theorem exporting_eq : exporting = ['e', 'x', 'p', 'o', 'r', 't', ' '] :=
  rfl

theorem exportName?_eq_some_iff {line name : Text} :
    exportName? line = some name ↔ ∃ keyword ∈ keywords, ∃ rest,
      line = exporting ++ (keyword ++ (name ++ rest)) ∧ name ≠ [] ∧
        (∀ char ∈ name, isWord char = true) ∧
        ∀ char, rest.head? = some char → isWord char = false := by
  constructor
  · intro found
    unfold exportName? at found
    split at found
    · cases found
    · rename_i inner exported
      split at found
      · cases found
      · rename_i declared searched
        dsimp only at found
        split at found
        · cases found
        · rename_i nonempty
          cases found
          obtain ⟨keyword, member, keyed⟩ := List.exists_of_findSome?_eq_some searched
          refine ⟨keyword, member, declared.dropWhile isWord, ?_, by simpa using nonempty,
            fun _ inside => List.mem_takeWhile_imp inside, fun char first => ?_⟩
          · rw [after?_eq_some_iff.1 exported, after?_eq_some_iff.1 keyed,
              List.takeWhile_append_dropWhile]
            rfl
          · have stop := List.head?_dropWhile_not isWord declared
            rw [first] at stop
            simpa using stop
  · rintro ⟨keyword, member, rest, rfl, name_ne, nameWord, stop⟩
    have taken : (name ++ rest).takeWhile isWord = name := by
      rw [List.takeWhile_append_of_pos nameWord]
      cases rest with
      | nil => simp
      | cons char rest => simp [stop char rfl]
    have searched : keywords.findSome? (fun other => after? other (keyword ++ (name ++ rest))) =
        some (name ++ rest) := by
      simp only [keywords, List.mem_cons, List.not_mem_nil, or_false] at member
      rcases member with rfl | rfl | rfl <;> simp [keywords, after?]
    have exported : after? "export ".toList (exporting ++ (keyword ++ (name ++ rest))) =
        some (keyword ++ (name ++ rest)) := after?_append _ _
    simp only [exportName?, exported, searched, taken]
    simp [name_ne]

/-- A header and a name hold word characters and blanks. -/
theorem header_chars {keyword name : Text} (member : keyword ∈ keywords)
    (nameWord : ∀ char ∈ name, isWord char = true) :
    ∀ char ∈ exporting ++ (keyword ++ name), isWord char = true ∨ char = ' ' := by
  have table : ∀ keyword ∈ keywords, ∀ char ∈ exporting ++ keyword,
      isWord char = true ∨ char = ' ' := by decide
  intro char inside
  rw [← List.append_assoc] at inside
  rcases List.mem_append.1 inside with inHeader | inName
  · exact table keyword member char inHeader
  · exact .inl (nameWord char inName)

/-- Whether a text would continue the header or the name of a line. -/
def Continues (line text : Text) : Prop :=
  ∃ keyword ∈ keywords, ∃ name more, name ≠ [] ∧ (∀ char ∈ name, isWord char = true) ∧
    more ≠ [] ∧ more <+: text ∧ line ++ more = exporting ++ (keyword ++ name)

/-- A text that continues neither header nor name of a line can be left out. -/
theorem exportName?_append {line text : Text} (settled : ¬Continues line text)
    (stop : (∀ char, text.head? = some char → isWord char = false) ∨
      ∀ char, line.getLast? = some char → isWord char = false) :
    exportName? (line ++ text) = exportName? line := by
  refine Option.ext fun name => ?_
  rw [exportName?_eq_some_iff, exportName?_eq_some_iff]
  constructor
  · rintro ⟨keyword, member, rest, whole, name_ne, nameWord, restStop⟩
    refine ⟨keyword, member, ?_⟩
    have shape : line ++ text = (exporting ++ (keyword ++ name)) ++ rest := by simp [whole]
    rcases List.append_eq_append_iff.1 shape with
      ⟨more, header_eq, text_eq⟩ | ⟨more, line_eq, rest_eq⟩
    · by_cases more_nil : more = []
      · rw [more_nil, List.append_nil] at header_eq
        exact ⟨[], by simp [← header_eq], name_ne, nameWord, by simp⟩
      · exact absurd ⟨keyword, member, name, more, name_ne, nameWord, more_nil,
          ⟨rest, text_eq.symm⟩, header_eq.symm⟩ settled
    · refine ⟨more, by simp [line_eq], name_ne, nameWord, fun char first => restStop char ?_⟩
      rw [rest_eq, List.head?_append, first]
      rfl
  · rintro ⟨keyword, member, rest, rfl, name_ne, nameWord, restStop⟩
    refine ⟨keyword, member, rest ++ text, by simp, name_ne, nameWord, fun char first => ?_⟩
    cases rest with
    | cons other rest => exact restStop char first
    | nil =>
        rcases stop with textStop | lineStop
        · exact textStop char first
        · -- The line would end in the last character of the name.
          obtain ⟨front, last, rfl⟩ := (List.eq_nil_or_concat' name).resolve_left name_ne
          have notWord := lineStop last (by simp [← List.append_assoc])
          rw [nameWord last (by simp)] at notWord
          cases notWord

/-- What follows a character that is neither a word character nor a blank does not count. -/
theorem exportName?_append_stop {stop : Char} (notWord : isWord stop = false)
    (notBlank : stop ≠ ' ') (line rest : Text) :
    exportName? (line ++ stop :: rest) = exportName? line := by
  refine exportName?_append ?_ (.inl (by simp [notWord]))
  rintro ⟨keyword, member, name, more, -, nameWord, more_ne, ⟨after, starts⟩, whole⟩
  obtain ⟨first, more, rfl⟩ := List.exists_cons_of_ne_nil more_ne
  rw [List.cons_append, List.cons.injEq] at starts
  rcases header_chars member nameWord first (by simp [← whole]) with word | blank
  · rw [starts.1, notWord] at word
    cases word
  · exact notBlank (starts.1.symm.trans blank)

/-- The words that a header is made of, each with the blank after it. -/
def leads : List Text := exporting :: keywords

/-- A part from the start of such a word, without its blank, ends in a word character. -/
theorem last_word_of_lead {lead part gap : Text} (member : lead ∈ leads)
    (cut : lead = part ++ gap) (part_ne : part ≠ []) (gap_ne : gap ≠ []) :
    ∃ char, part.getLast? = some char ∧ isWord char = true := by
  have table : ∀ lead ∈ leads, ∀ char ∈ lead.dropLast, isWord char = true := by decide
  refine ⟨part.getLast part_ne, List.getLast?_eq_some_getLast part_ne, table lead member _ ?_⟩
  rw [cut, List.dropLast_append_of_ne_nil gap_ne]
  exact List.mem_append_left _ (List.getLast_mem part_ne)

/-- A text that starts with no word of a header can be left out behind a line that is no header and
ends in no word character. -/
theorem exportName?_append_lead {line text : Text}
    (lineStop : ∀ char, line.getLast? = some char → isWord char = false)
    (noHeader : ∀ keyword ∈ keywords, line ≠ exporting ++ keyword)
    (noLead : ∀ lead ∈ leads, ¬lead <+: text) :
    exportName? (line ++ text) = exportName? line := by
  refine exportName?_append ?_ (.inr lineStop)
  rintro ⟨keyword, member, name, more, -, nameWord, more_ne, starts, whole⟩
  have keyLead : keyword ∈ leads := .tail _ member
  have noWord : ∀ front part, line = front ++ part → part ≠ [] →
      ¬∃ char, part.getLast? = some char ∧ isWord char = true := by
    rintro front part line_eq part_ne ⟨char, last, word⟩
    have notWord := lineStop char (by rw [line_eq, List.getLast?_append_of_ne_nil _ part_ne, last])
    rw [word] at notWord
    cases notWord
  rcases List.append_eq_append_iff.1 whole with
    ⟨gap, lead_eq, more_eq⟩ | ⟨gap, line_eq, tail_eq⟩
  · -- The line ends inside the first word of the header.
    by_cases gap_nil : gap = []
    · rw [gap_nil, List.nil_append] at more_eq
      exact noLead keyword keyLead (List.IsPrefix.trans ⟨name, more_eq.symm⟩ starts)
    · by_cases line_nil : line = []
      · rw [line_nil, List.nil_append] at lead_eq
        rw [← lead_eq] at more_eq
        exact noLead exporting List.mem_cons_self (List.IsPrefix.trans ⟨_, more_eq.symm⟩ starts)
      · exact noWord [] line rfl line_nil
          (last_word_of_lead List.mem_cons_self lead_eq line_nil gap_nil)
  · rcases List.append_eq_append_iff.1 tail_eq with ⟨part, gap_eq, name_eq⟩ |
      ⟨part, keyword_eq, more_eq⟩
    · -- The line ends at the name or inside it.
      by_cases part_nil : part = []
      · rw [part_nil, List.append_nil] at gap_eq
        exact noHeader keyword member (by rw [line_eq, gap_eq])
      · refine noWord (exporting ++ keyword) part (by simp [line_eq, gap_eq]) part_nil
          ⟨_, List.getLast?_eq_some_getLast part_nil, nameWord _ ?_⟩
        rw [name_eq]
        exact List.mem_append_left _ (List.getLast_mem part_nil)
    · by_cases part_nil : part = []
      · rw [part_nil, List.append_nil] at keyword_eq
        exact noHeader keyword member (by rw [line_eq, keyword_eq])
      · by_cases gap_nil : gap = []
        · rw [gap_nil, List.nil_append] at keyword_eq
          rw [← keyword_eq] at more_eq
          exact noLead keyword keyLead (List.IsPrefix.trans ⟨_, more_eq.symm⟩ starts)
        · exact noWord exporting gap line_eq gap_nil
            (last_word_of_lead keyLead keyword_eq gap_nil part_nil)

/-! ## The exports of a text -/

/-- What a line exports: a name or nothing. -/
def exported (line : Text) : List Text :=
  (exportName? line).toList

theorem exports_eq (text : Text) : (ofText text).exports = collect exported text :=
  List.filterMap_eq_flatMap_toList exportName? text.lines

theorem word_of_mem_exports {text name : Text} (member : name ∈ (ofText text).exports) :
    name ≠ [] ∧ ∀ char ∈ name, isWord char = true := by
  obtain ⟨line, -, exported⟩ := List.mem_filterMap.1 member
  obtain ⟨-, -, -, -, name_ne, nameWord, -⟩ := exportName?_eq_some_iff.1 exported
  exact ⟨name_ne, nameWord⟩

theorem exports_append_feed (front rest : Text) :
    (ofText (front ++ '\n' :: rest)).exports = (ofText front).exports ++ (ofText rest).exports := by
  simp only [exports_eq, collect_append_feed]

/-- Line feeds around a text change nothing about what it exports. -/
theorem exports_lines (body : Text) :
    (ofText ('\n' :: (body ++ ['\n']))).exports = (ofText body).exports := by
  have nothing : (ofText []).exports = [] := rfl
  have first := exports_append_feed [] (body ++ ['\n'])
  rw [List.nil_append, nothing, List.nil_append] at first
  rw [first, exports_append_feed, nothing, List.append_nil]

/-- An export is read off the heading of a line that starts with its announcement. -/
theorem readsAnnounced_exported : ReadsAnnounced exported where
  guard guard line rest := by
    rw [exported, exportName?_append_stop (isWord_of_isGuard guard)
      (ne_of_isGuard guard (by decide))]
    rfl
  blank line := by
    refine congrArg Option.toList (exportName?_append ?_ (.inl (by simp; decide)))
    rintro ⟨keyword, member, name, more, name_ne, nameWord, more_ne, starts, whole⟩
    -- A header with its name does not end in a blank.
    have more_eq : more = [' '] := by
      rcases List.prefix_cons_iff.1 starts with nothing | ⟨tail, tail_eq, tailStarts⟩
      · exact absurd nothing more_ne
      · rw [tail_eq, List.prefix_nil.1 tailStarts]
    obtain ⟨front, last, rfl⟩ := (List.eq_nil_or_concat' name).resolve_left name_ne
    have last_eq := congrArg List.getLast? whole
    rw [more_eq, List.getLast?_concat, ← List.append_assoc, ← List.append_assoc,
      List.getLast?_concat] at last_eq
    have word := nameWord last (by simp)
    rw [← Option.some.inj last_eq] at word
    exact absurd word (by decide)
  announced line found := by
    obtain ⟨name, exports⟩ := Option.ne_none_iff_exists'.1 (mt Option.toList_eq_nil_iff.2 found)
    obtain ⟨keyword, -, rest, rfl, -⟩ := exportName?_eq_some_iff.1 exports
    exact ⟨"export".toList, by decide, ' ' :: (keyword ++ (name ++ rest)), rfl⟩

end Scan

end DeclLinker
