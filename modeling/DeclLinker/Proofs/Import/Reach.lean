import DeclLinker.Proofs.Import.Block

/-!
# The specifiers between the files of a corpus

The files of a corpus lie in one directory or in a directory right inside it, so the way from one to
another is empty, one step down or one step up.  With file names of word characters, dashes and dots
a specifier consists of statement characters.
-/

namespace DeclLinker.Path

open Text Import

theorem route_self (place : Location) : route place place = [] := by
  induction place with
  | nil => rfl
  | cons first place ih => simp [route, ih]

theorem route_down (place : Location) (part : Text) : route place (place ++ [part]) = [part] := by
  induction place with
  | nil => rfl
  | cons first place ih => simp [route, ih]

theorem route_up (place : Location) (part : Text) : route (place ++ [part]) place = [up] := by
  induction place with
  | nil => rfl
  | cons first place ih => simp [route, ih]

/-- A directory inside another lies one step below it. -/
theorem locate_child (here : Location) (root : Root) (parts : List Text) {part : Text}
    (down : part ≠ up) :
    (Path.mk root (parts ++ [part])).locate here = (Path.mk root parts).locate here ++ [part] := by
  have absolute :
      (Path.mk root (parts ++ [part])).isAbsolute = (Path.mk root parts).isAbsolute := rfl
  simp only [locate, absolute, List.foldl_append, List.foldl_cons, List.foldl_nil]
  rw [step, if_neg down]

/-- The characters of a file name in a corpus. -/
def isFileChar (char : Char) : Bool :=
  isWord char || char == '-' || char == '.'

theorem isStatementChar_of_isFileChar {char : Char} (fits : isFileChar char = true) :
    isStatementChar char = true := by
  simp only [isFileChar, Bool.or_eq_true, beq_iff_eq] at fits
  rcases fits with (word | rfl) | rfl
  · exact isStatementChar_of_isWord word
  · decide
  · decide

theorem mem_of_mem_dropEnding {text ending : Text} {char : Char}
    (member : char ∈ text.dropEnding ending) : char ∈ text := by
  unfold dropEnding at member
  split at member
  · split at member
    · cases member
    · exact List.mem_of_mem_take member
  · exact member

/-- A child by a name without slashes adds the name or nothing. -/
theorem child_parts {base : Path} {name : Text} (noSlash : '/' ∉ name) :
    base.child name = ⟨base.root, base.parts ++ [name].filter isPart⟩ := by
  have relative : Root.ofText name = .relative := by
    unfold Root.ofText
    split <;> simp at noSlash ⊢
  have whole : ofText name = ⟨.relative, [name].filter isPart⟩ := by
    rw [ofText, relative, splitOn_of_not_mem noSlash]
  rw [child, whole]
  rfl

/-- A specifier consists of statement characters when the way and the file name do. -/
theorem specifier_chars {here : Location} {consumer producer : Path} (suffix : Text)
    (way : ∀ part ∈ route (consumer.parent.locate here) (producer.parent.locate here),
      ∀ char ∈ part, isStatementChar char = true)
    (name : ∀ char ∈ producer.name, isFileChar char = true) :
    ∀ char ∈ specifier here consumer producer suffix, isStatementChar char = true := by
  have marks : ∀ char ∈ ['.', '/'], isStatementChar char = true := by decide
  have stemChars : ∀ char ∈ producer.name.dropEnding suffix, isFileChar char = true :=
    fun char member => name char (mem_of_mem_dropEnding member)
  have noSlash : '/' ∉ producer.name.dropEnding suffix :=
    fun member => absurd (stemChars '/' member) (by decide)
  have textChars : ∀ char ∈ ((Path.mk .relative
      (route (consumer.parent.locate here) (producer.parent.locate here))).child
        (producer.name.dropEnding suffix)).toText, isStatementChar char = true := by
    rw [child_parts noSlash]
    intro char member
    unfold toText at member
    split at member
    · rw [List.mem_singleton.1 member]
      decide
    · rcases List.mem_append.1 member with inRoot | inParts
      · cases inRoot
      · rcases mem_intercalate inParts with slash | ⟨part, listed, inside⟩
        · exact marks char (.tail _ slash)
        · rcases List.mem_append.1 listed with onWay | last
          · exact way part onWay char inside
          · have part_eq := List.mem_singleton.1 (List.mem_filter.1 last).1
            exact isStatementChar_of_isFileChar (stemChars char (part_eq ▸ inside))
  intro char member
  unfold specifier at member
  dsimp only at member
  split at member
  · exact textChars char member
  · rcases List.mem_cons.1 member with rfl | member
    · decide
    · rcases List.mem_cons.1 member with rfl | member
      · decide
      · exact textChars char member

end DeclLinker.Path
