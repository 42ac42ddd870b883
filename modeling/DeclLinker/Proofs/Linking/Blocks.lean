import DeclLinker.Layout
import DeclLinker.Proofs.Import.Block
import DeclLinker.Proofs.Source.Collect
import DeclLinker.Proofs.Tables
import DeclLinker.Settings.Basic

/-!
# What blocks add to a text

Hand-written declarations and import statements come as blocks of whole lines, put at the top of a
text or behind a line of it.  So what is read off the lines of the text stays, and what is read off
the lines of the block is added to it.
-/

namespace DeclLinker

open Text

variable {α : Type} {read : Text → List α} (empty : read [] = [])

include empty

theorem collect_nil : collect read [] = [] := by
  rw [collect_of_flat read List.not_mem_nil, empty]

/-- A block that ends in a line feed adds what is read off its lines. -/
theorem Spliced.collect_perm {block : Text} (closed : block.getLast? = some '\n')
    (banner text : Text) :
    (collect read (behind banner block text).text).Perm
      (collect read block ++ collect read text) := by
  obtain ⟨inner, rfl⟩ := List.getLast?_eq_some_iff.1 closed
  have inner_eq : collect read (inner ++ ['\n']) = collect read inner := by
    rw [collect_append_feed, collect_nil empty, List.append_nil]
  have above : ∀ rest, collect read (inner ++ ['\n'] ++ rest) =
      collect read inner ++ collect read rest := by
    intro rest
    rw [List.append_assoc, List.singleton_append, collect_append_feed]
  rw [inner_eq]
  unfold behind
  dsimp only
  split
  · rename_i before rest found
    have shape : before ++ (banner ++ ['\n']) ++ (inner ++ ['\n']) ++ rest =
        (before ++ banner) ++ '\n' :: (inner ++ ['\n'] ++ rest) := by simp
    have old : text = (before ++ banner) ++ '\n' :: rest := by
      rw [eq_append_of_cut? found]
      simp
    rw [shape, old, collect_append_feed, collect_append_feed, above]
    exact List.perm_append_comm_assoc _ _ _
  · rw [above]

namespace Placed

/-- Hand-written declarations add what is read off their lines, when they are placed. -/
theorem declarations_perm {tables : Tables}
    (closed : ∀ name block, Dict.get? name tables.synthetic = some block →
      block.getLast? = some '\n') (fileName text : Text) :
    (collect read (declarations tables fileName text).text).Perm
      ((if 0 < (declarations tables fileName text).added then
          collect read ((Dict.get? fileName tables.synthetic).getD [])
        else []) ++ collect read text) := by
  unfold declarations
  split
  · exact List.Perm.refl _
  · rename_i block listed
    split
    · exact List.Perm.refl _
    · rw [listed]
      exact Spliced.collect_perm empty (closed fileName block listed) _ _

/-- Import statements add what is read off their block. -/
theorem imports_perm (here : Location) (banner suffix : Text) (consumer : Path)
    (schedule : Schedule) (text : Text) :
    (collect read (imports here banner suffix consumer schedule text).text).Perm
      (collect read (Import.block (Import.statements here consumer suffix schedule)) ++
        collect read text) := by
  unfold imports
  dsimp only
  split
  · rename_i none
    rw [Import.block, if_pos none, collect_nil empty]
    exact List.Perm.refl _
  · rename_i some
    refine Spliced.collect_perm empty ?_ _ _
    rw [Import.block, if_neg some, List.getLast?_concat]

end Placed

/-- What is read off a block of statements is read off the statements. -/
theorem Import.collect_block {statements : List Text}
    (flat : ∀ statement ∈ statements, '\n' ∉ statement) :
    collect read (block statements) = statements.flatMap read := by
  unfold block
  split
  · rename_i none
    rw [List.isEmpty_iff.1 none, collect_nil empty]
    rfl
  · have start := collect_append_feed read [] (['\n'].intercalate statements ++ ['\n'])
    rw [List.nil_append, collect_nil empty, List.nil_append] at start
    rw [List.cons_append, start, collect_append_feed, collect_nil empty, List.append_nil]
    clear start
    rename_i some
    clear some
    induction statements with
    | nil => exact collect_nil empty
    | cons statement rest ih =>
        have first := collect_of_flat read (flat statement List.mem_cons_self)
        have later := ih fun other member => flat other (.tail statement member)
        cases rest with
        | nil => rw [List.intercalate_singleton, first, List.flatMap_singleton]
        | cons next rest =>
            rw [List.intercalate_cons_cons, List.append_assoc, List.singleton_append,
              collect_append_feed, first, later]
            rfl

omit empty

theorem Text.infix_intercalate {item separator : Text} {items : List Text}
    (member : item ∈ items) : item <:+: separator.intercalate items := by
  match items with
  | [only] =>
      obtain rfl := List.mem_singleton.1 member
      exact ⟨[], [], by rw [List.intercalate_singleton, List.nil_append, List.append_nil]⟩
  | first :: next :: rest =>
      rw [List.intercalate_cons_cons]
      rcases List.mem_cons.1 member with rfl | later
      · exact List.infix_append_of_infix_left (List.prefix_append _ _).isInfix
      · exact List.infix_append_of_infix_right (infix_intercalate later)

/-- A placed block stands in the text. -/
theorem Spliced.infix_behind (banner block text : Text) :
    block <:+: (behind banner block text).text := by
  unfold behind
  dsimp only
  split
  · exact List.infix_append _ _ _
  · exact (List.prefix_append _ _).isInfix

theorem Spliced.mem_behind {banner block text : Text} {char : Char}
    (member : char ∈ (behind banner block text).text) : char ∈ block ∨ char ∈ text := by
  unfold behind at member
  dsimp only at member
  split at member
  · rename_i before rest found
    rw [eq_append_of_cut? found]
    simp only [List.mem_append] at member ⊢
    tauto
  · exact List.mem_append.1 member

/-- The characters of a text with its hand-written declarations. -/
theorem Placed.mem_declarations {tables : Tables} {fileName text : Text} {char : Char}
    (member : char ∈ (declarations tables fileName text).text) :
    char ∈ (Dict.get? fileName tables.synthetic).getD [] ∨ char ∈ text := by
  unfold declarations at member
  split at member
  · exact .inr member
  · rename_i block listed
    split at member
    · exact .inr member
    · rw [listed]
      exact Spliced.mem_behind member

/-- The characters of a text with its import statements. -/
theorem Placed.mem_imports {here : Location} {banner suffix : Text} {consumer : Path}
    {schedule : Schedule} {text : Text} {char : Char}
    (member : char ∈ (imports here banner suffix consumer schedule text).text) :
    char = '\n' ∨ (∃ statement ∈ Import.statements here consumer suffix schedule,
      char ∈ statement) ∨ char ∈ text := by
  unfold imports at member
  dsimp only at member
  split at member
  · exact .inr (.inr member)
  · rename_i some
    rcases Spliced.mem_behind member with inBlock | inText
    · rw [Import.block, if_neg some] at inBlock
      simp only [List.mem_cons, List.mem_append, List.not_mem_nil, or_false] at inBlock
      rcases inBlock with (feed | inside) | feed
      · exact .inl feed
      · rcases Text.mem_intercalate inside with feed | listed
        · exact .inl (List.mem_singleton.1 feed)
        · exact .inr (.inl listed)
      · exact .inl feed
    · exact .inr (.inr inText)

/-- Every statement of a schedule stands in the text. -/
theorem Placed.infix_imports {here : Location} {suffix : Text} {consumer : Path}
    {schedule : Schedule} {statement : Text}
    (member : statement ∈ Import.statements here consumer suffix schedule) (banner text : Text) :
    statement <:+: (imports here banner suffix consumer schedule text).text := by
  have some : (Import.statements here consumer suffix schedule).isEmpty = false := by
    rw [List.isEmpty_eq_false_iff]
    exact List.ne_nil_of_mem member
  have inBlock : statement <:+: Import.block (Import.statements here consumer suffix schedule) := by
    rw [Import.block, if_neg (by simp [some])]
    exact List.infix_append_of_infix_left
      (List.infix_cons (Text.infix_intercalate member))
  simp only [imports, some]
  exact inBlock.trans (Spliced.infix_behind _ _ _)

/-- The hand-written declarations of every settings end in a line feed. -/
theorem Settings.synthetic_closed (settings : Settings) :
    ∀ name block, Dict.get? name settings.tables.synthetic = some block →
      block.getLast? = some '\n' := by
  intro name block listed
  simp only [Settings.tables, Tables.extended, Dict.get?] at listed
  split at listed
  · cases listed
    rw [Tables.decodedDeclarations.property]
    decide +kernel
  · cases listed

end DeclLinker
