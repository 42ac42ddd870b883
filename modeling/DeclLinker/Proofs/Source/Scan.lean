import DeclLinker.Proofs.Source.Grammar
import DeclLinker.Source.Scan

/-!
# Scanning by lines and scanning the whole text

A file is scanned line by line.  A placeholder holds no line feed, so the placeholders of the lines
are the hits in the whole text; the line of each is one more than the number of line feeds before
it.
-/

namespace DeclLinker

namespace Text

theorem splitOn_of_not_mem {separator : Char} {text : Text} (absent : separator ∉ text) :
    splitOn separator text = [text] := by
  induction text with
  | nil => rfl
  | cons char rest ih =>
      rw [List.mem_cons, not_or] at absent
      simp [splitOn, Ne.symm absent.1, ih absent.2]

theorem splitOn_append_cons {separator : Char} {piece : Text} (absent : separator ∉ piece)
    (rest : Text) :
    splitOn separator (piece ++ separator :: rest) = piece :: splitOn separator rest := by
  induction piece with
  | nil => simp [splitOn]
  | cons char piece ih =>
      rw [List.mem_cons, not_or] at absent
      simp [splitOn, Ne.symm absent.1, ih absent.2]

/-- Joining texts by a separator that none of them holds can be undone. -/
theorem splitOn_intercalate {separator : Char} {pieces : List Text} (pieces_ne : pieces ≠ [])
    (absent : ∀ piece ∈ pieces, separator ∉ piece) :
    splitOn separator ([separator].intercalate pieces) = pieces := by
  match pieces with
  | [piece] =>
      rw [List.intercalate_singleton]
      exact splitOn_of_not_mem (absent piece List.mem_cons_self)
  | piece :: next :: rest =>
      have later := splitOn_intercalate (List.cons_ne_nil next rest) fun other member =>
        absent other (.tail piece member)
      rw [List.intercalate_cons_cons, List.append_assoc, List.singleton_append,
        splitOn_append_cons (absent piece List.mem_cons_self), later]

/-- Induction along the lines of a text. -/
theorem lines_induction {motive : Text → Prop} (last : ∀ line, '\n' ∉ line → motive line)
    (next : ∀ line rest, '\n' ∉ line → motive rest → motive (line ++ '\n' :: rest))
    (text : Text) : motive text := by
  by_cases feed : '\n' ∈ text
  · obtain ⟨line, rest, text_eq, absent⟩ := List.eq_append_cons_of_mem feed
    have shorter : rest.length < text.length := by
      rw [text_eq, List.length_append, List.length_cons]
      omega
    rw [text_eq]
    exact next line rest absent (lines_induction last next rest)
  · exact last text feed
termination_by text.length

end Text

namespace Reference

open Text

theorem Spelled.feed_not_mem {reference : Reference} (spelled : reference.Spelled) :
    '\n' ∉ reference.text := by
  intro member
  exact absurd (spelled.text_chars member) (by decide)

/-- No placeholder runs over a character that no placeholder holds. -/
theorem apart_of_foreign_before {char : Char}
    (foreign : ∀ reference : Reference, reference.Spelled → char ∉ reference.text)
    (left right : Text) : Recogniser.Apart recognise (left ++ [char]) right := by
  intro first second reference ends _ first_ne _ reads
  obtain ⟨spelled, stretch_eq⟩ := reads_iff.1 reads
  rcases List.suffix_concat_iff.1 ends with nothing | ⟨front, front_eq, -⟩
  · exact first_ne nothing
  · refine foreign reference spelled ?_
    rw [← stretch_eq, front_eq]
    simp

theorem apart_of_foreign_after {char : Char}
    (foreign : ∀ reference : Reference, reference.Spelled → char ∉ reference.text)
    (left right : Text) : Recogniser.Apart recognise left (char :: right) := by
  intro first second reference _ starts _ second_ne reads
  obtain ⟨spelled, stretch_eq⟩ := reads_iff.1 reads
  rcases List.prefix_cons_iff.1 starts with nothing | ⟨tail, tail_eq, -⟩
  · exact second_ne nothing
  · refine foreign reference spelled ?_
    rw [← stretch_eq, tail_eq]
    simp

theorem pieces_line_feed (line rest : Text) :
    pieces recognise (line ++ '\n' :: rest) =
      pieces recognise line ++ .single '\n' :: pieces recognise rest := by
  have before := apart_of_foreign_after (fun _ => Spelled.feed_not_mem) line rest
  have behind := apart_of_foreign_before (fun _ => Spelled.feed_not_mem) [] rest
  rw [List.nil_append] at behind
  rw [pieces_append recognise_isLocal before, ← List.singleton_append,
    pieces_append recognise_isLocal behind]
  rfl

end Reference

namespace Placeholder

open Text

/-- The placeholders among the pieces of a text that starts on the given line. -/
def located : (line : Nat) → List (Piece Reference) → List Placeholder
  | _, [] => []
  | line, .single char :: rest => located (if char = '\n' then line + 1 else line) rest
  | line, .hit _ reference :: rest => ⟨reference, line⟩ :: located line rest

/-- A line of a file holds its placeholders on that line, and what follows starts there too. -/
theorem located_append {first : List (Piece Reference)}
    (flat : ∀ piece ∈ first, '\n' ∉ piece.text) (line : Nat) (rest : List (Piece Reference)) :
    located line (first ++ rest) =
      (first.filterMap Piece.value?).map (fun reference => ⟨reference, line⟩) ++
        located line rest := by
  induction first with
  | nil => rfl
  | cons piece first ih =>
      have inner := ih fun other member => flat other (List.mem_cons_of_mem _ member)
      cases piece with
      | single char =>
          have notFeed : char ≠ '\n' := fun isFeed =>
            flat _ List.mem_cons_self (by simp [Piece.text, isFeed])
          simp [located, notFeed, inner, List.filterMap_cons, Piece.value?]
      | hit stretch reference => simp [located, inner, Piece.value?]

/-- Single characters move what follows them down by their line feeds. -/
theorem located_singles (text : Text) (line : Nat) (rest : List (Piece Reference)) :
    located line (text.map .single ++ rest) = located (line + text.count '\n') rest := by
  induction text generalizing line with
  | nil => rfl
  | cons char text ih =>
      by_cases feed : char = '\n'
      · simp [located, feed, ih, Nat.add_comm, Nat.add_left_comm]
      · simp [located, feed, ih]

theorem flat_pieces {line : Text} (absent : '\n' ∉ line) :
    ∀ piece ∈ pieces Reference.recognise line, '\n' ∉ piece.text := by
  intro piece member inside
  have whole := flatMap_text_pieces Reference.recognise_isLocal line
  rw [← whole] at absent
  exact absent (List.mem_flatMap.2 ⟨piece, member, inside⟩)

end Placeholder

namespace Scan

open Text Placeholder

theorem located_line {line : Text} (absent : '\n' ∉ line) (number : Nat)
    (rest : List (Piece Reference)) :
    located number (pieces Reference.recognise line ++ rest) =
      placeholdersOf line number ++ located number rest :=
  located_append (flat_pieces absent) number rest

/-- The placeholders of a file, line by line, are the hits in its whole text. -/
theorem placeholders_eq (text : Text) :
    (ofText text).placeholders = located 1 (pieces Reference.recognise text) := by
  have general : ∀ number, (text.lines.zipIdx number).flatMap
      (fun numbered => placeholdersOf numbered.1 numbered.2) =
        located number (pieces Reference.recognise text) := by
    induction text using lines_induction with
    | last line absent =>
        intro number
        have alone := located_line absent number []
        rw [List.append_nil] at alone
        simp [lines, splitOn_of_not_mem absent, alone, located]
    | next line rest absent ih =>
        intro number
        rw [Reference.pieces_line_feed, located_line absent, lines, splitOn_append_cons absent]
        simp [located, List.zipIdx_cons, ← ih, lines]
  exact general 1

/-- Without their lines, the scanned placeholders are the references recognised in the text. -/
theorem placeholders_map_toReference (text : Text) :
    (ofText text).placeholders.map Placeholder.toReference = findAll Reference.recognise text := by
  have general : ∀ (pieces : List (Piece Reference)) (line : Nat),
      (located line pieces).map Placeholder.toReference = pieces.filterMap Piece.value? := by
    intro pieces
    induction pieces with
    | nil => exact fun _ => rfl
    | cons piece pieces ih =>
        intro line
        cases piece <;> simp [located, ih, List.filterMap_cons, Piece.value?]
  rw [placeholders_eq, general, findAll]

theorem spelled_of_mem_placeholders {text : Text} {placeholder : Placeholder}
    (member : placeholder ∈ (ofText text).placeholders) : placeholder.toReference.Spelled := by
  have found := List.mem_map_of_mem (f := Placeholder.toReference) member
  rw [placeholders_map_toReference] at found
  exact (Reference.mem_findAll_iff.1 found).1

end Scan

end DeclLinker
