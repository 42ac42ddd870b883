import DeclLinker.Index.Build
import DeclLinker.Proofs.Import.Block
import DeclLinker.Proofs.Import.Reach

/-!
# Where the entries of an index come from

Every entry of an index was made for an export of one of the analysed files, its key ends in that
export, and no key is listed twice.  The placeholders of the files play no part in it, so files that
lie in the same places and export the same names make the same index.
-/

namespace DeclLinker

open Text

/-- A module tag is a part of the stem of its file name. -/
theorem mem_stem_of_mem_moduleTag {families : List Text} {fileName : Text} {char : Char}
    (member : char ∈ moduleTag families fileName) : char ∈ fileName.firstSegment '.' := by
  unfold moduleTag at member
  dsimp only at member
  cases found : families.findSome? fun family => after? family (fileName.firstSegment '.') with
  | none =>
      rw [found] at member
      exact member
  | some rest =>
      rw [found] at member
      obtain ⟨family, -, cut⟩ := List.exists_of_findSome?_eq_some found
      rw [after?_eq_some_iff.1 cut]
      exact List.mem_append_right _ member

/-- The module tag of a file with an ordinary name consists of word characters and dashes. -/
theorem moduleTag_chars (families : List Text) {fileName : Text}
    (ordinary : ∀ char ∈ fileName, Path.isFileChar char = true) :
    ∀ char ∈ moduleTag families fileName, isWord char = true ∨ char = '-' := by
  intro char member
  have inStem := mem_stem_of_mem_moduleTag member
  have notDot := List.mem_takeWhile_imp inStem
  have fits := ordinary char ((List.takeWhile_prefix _).subset inStem)
  simp only [Path.isFileChar, Bool.or_eq_true, beq_iff_eq] at fits
  rcases fits with (word | dash) | dot
  · exact .inl word
  · exact .inr dash
  · simp [dot] at notDot

namespace Index

variable {analyses : List Analysis}

/-- What holds of the empty dictionary, and is kept when the entry of an export is put under some
scope, holds of the entries of an index. -/
theorem build_induction {motive : Dict Text Entry → Prop} (families : List Text)
    (packages : Dict Text Text) (start : motive [])
    (put : ∀ entries, motive entries → ∀ analysis ∈ analyses, ∀ exportName ∈ analysis.exports,
      ∀ scope, motive (Dict.put (keyOf scope exportName) (entryOf analysis exportName) entries)) :
    motive (build families packages analyses).entries := by
  have declared : motive (declared families analyses) := by
    apply List.foldlRecOn _ _ start
    intro entries kept analysis member
    have listed := (List.mem_filter.mp member).1
    apply List.foldlRecOn _ _ kept
    intro entries kept exportName exported
    have next := put entries kept analysis listed exportName exported analysis.tag
    unfold declare
    dsimp only
    split
    · split
      · exact kept
      · exact next
    · exact next
  apply List.foldlRecOn packages _ declared
  intro entries kept package _
  unfold register
  split
  · exact kept
  · rename_i analysis found
    have listed := List.mem_of_find?_eq_some found
    apply List.foldlRecOn _ _ kept
    intro entries kept exportName exported
    have next := put entries kept analysis listed exportName exported package.1
    unfold fill
    dsimp only
    split
    · exact kept
    · exact next

/-- All entries were made for exports of the given files. -/
def Stems (analyses : List Analysis) (entries : Dict Text Entry) : Prop :=
  ∀ key entry, (key, entry) ∈ entries → ∃ analysis ∈ analyses, ∃ exportName ∈ analysis.exports,
    entry = entryOf analysis exportName

/-- Every entry of an index was made for an export of one of the files. -/
theorem stems_build (families : List Text) (packages : Dict Text Text) (analyses : List Analysis) :
    Stems analyses (build families packages analyses).entries := by
  apply build_induction families packages
  · exact fun _ _ member => absurd member List.not_mem_nil
  · intro entries stems analysis listed exportName exported scope key entry member
    rcases Dict.mem_of_mem_put member with ⟨-, rfl⟩ | held
    · exact ⟨analysis, listed, exportName, exported, rfl⟩
    · exact stems key entry held

/-- Every key ends in a dot and the exported name of its entry. -/
def Keyed (entries : Dict Text Entry) : Prop :=
  ∀ key entry, (key, entry) ∈ entries → ∃ scope, key = keyOf scope entry.exportName

theorem keyed_build (families : List Text) (packages : Dict Text Text) (analyses : List Analysis) :
    Keyed (build families packages analyses).entries := by
  apply build_induction families packages
  · exact fun _ _ member => absurd member List.not_mem_nil
  · intro entries keyed analysis _ exportName _ scope key entry member
    rcases Dict.mem_of_mem_put member with ⟨rfl, rfl⟩ | held
    · exact ⟨scope, rfl⟩
    · exact keyed key entry held

/-- An index lists every key once. -/
theorem nodup_keys_build (families : List Text) (packages : Dict Text Text)
    (analyses : List Analysis) : (Dict.keys (build families packages analyses).entries).Nodup := by
  apply build_induction (motive := fun entries => (Dict.keys entries).Nodup) families packages
  · exact List.nodup_nil
  · intro entries once analysis _ exportName _ scope
    exact Dict.nodup_keys_put once _ _

/-- An analysis without its placeholders. -/
def bare (analysis : Analysis) : Analysis :=
  { analysis with placeholders := [] }

theorem build_map_bare (families : List Text) (packages : Dict Text Text)
    (analyses : List Analysis) :
    build families packages (analyses.map bare) = build families packages analyses := by
  have declared_eq : declared families (analyses.map bare) = declared families analyses := by
    simp only [declared, List.filter_map, List.foldl_map]
    rfl
  have register_eq : register (analyses.map bare) = register analyses := by
    funext entries package
    simp only [register, List.find?_map]
    have same : (fun analysis : Analysis => analysis.fileName == package.2) ∘ bare =
        fun analysis => analysis.fileName == package.2 := rfl
    rw [same]
    cases analyses.find? fun analysis => analysis.fileName == package.2 with
    | none => rfl
    | some analysis => rfl
  rw [build, build, declared_eq, register_eq]

/-- Files that are the same but for their placeholders make the same index. -/
theorem build_congr {α : Type} {items : List α} {one two : α → Analysis}
    (same : ∀ item ∈ items, bare (one item) = bare (two item)) (families : List Text)
    (packages : Dict Text Text) :
    build families packages (items.map one) = build families packages (items.map two) := by
  rw [← build_map_bare, ← build_map_bare families packages (items.map two), List.map_map,
    List.map_map]
  exact congrArg _ (List.map_congr_left same)

end Index

end DeclLinker
