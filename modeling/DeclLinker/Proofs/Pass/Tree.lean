import DeclLinker.FileTree
import DeclLinker.Proofs.Resolution.Replacement

/-!
# Writing files that are there

The shape of a tree says what its places hold without the bytes of the files.  Walking, listing and
asking for directories depend on the shape alone, and writing a file that is there keeps it.  So
after such a write every path leads where it led before, the written file holds its new bytes, and
every file at another place holds its old ones.
-/

namespace DeclLinker

/-- Whether an entry is a file. -/
def FileEntry.isFile : FileEntry → Bool
  | .file _ => true
  | .directory => false

namespace FileTree

/-- The places of a tree and whether they hold files. -/
def shape (tree : FileTree) : Dict Location Bool :=
  tree.map fun pair => (pair.1, pair.2.isFile)

theorem get?_shape (tree : FileTree) (place : Location) :
    Dict.get? place tree.shape = (Dict.get? place tree).map FileEntry.isFile := by
  induction tree with
  | nil => rfl
  | cons pair rest ih =>
      obtain ⟨other, entry⟩ := pair
      by_cases same : other = place
      · simp [shape, Dict.get?, same]
      · simpa [shape, Dict.get?, same] using ih

/-- New bytes in a file keep the shape. -/
theorem shape_put {tree : FileTree} {place : Location} {old : ByteArray}
    (held : Dict.get? place tree = some (.file old)) (bytes : ByteArray) :
    shape (Dict.put place (.file bytes) tree) = tree.shape := by
  induction tree with
  | nil => cases held
  | cons pair rest ih =>
      obtain ⟨other, entry⟩ := pair
      by_cases same : other = place
      · simp only [Dict.get?, same, if_true, Option.some.injEq] at held
        simp [shape, Dict.put, same, held, FileEntry.isFile]
      · simp only [Dict.get?, same, if_false] at held
        have inner := ih held
        simp only [shape] at inner
        simp [shape, Dict.put, same, inner]

section SameShape

variable {tree other : FileTree} (same : tree.shape = other.shape)

include same

/-- Trees of one shape hold the same kind of thing at every place. -/
theorem entry?_cases (place : Location) :
    (tree.entry? place = none ∧ other.entry? place = none) ∨
      (tree.entry? place = some .directory ∧ other.entry? place = some .directory) ∨
      ∃ first second, tree.entry? place = some (.file first) ∧
        other.entry? place = some (.file second) := by
  unfold entry?
  split
  · exact .inr (.inl ⟨rfl, rfl⟩)
  · have kinds : (Dict.get? place tree).map FileEntry.isFile =
        (Dict.get? place other).map FileEntry.isFile := by
      rw [← get?_shape, ← get?_shape, same]
    cases first : Dict.get? place tree with
    | none =>
        rw [first] at kinds
        exact .inl ⟨rfl, Option.map_eq_none_iff.1 kinds.symm⟩
    | some entry =>
        rw [first] at kinds
        obtain ⟨otherEntry, second, kind⟩ := Option.map_eq_some_iff.1 kinds.symm
        rw [second]
        cases entry with
        | directory =>
            cases otherEntry with
            | directory => exact .inr (.inl ⟨rfl, rfl⟩)
            | file bytes => cases kind
        | file bytes =>
            cases otherEntry with
            | directory => cases kind
            | file otherBytes => exact .inr (.inr ⟨bytes, otherBytes, rfl, rfl⟩)

theorem walk_eq_of_shape (here : Location) (path : Path) :
    tree.walk here path = other.walk here path := by
  have steps : step tree = step other := by
    funext place part
    unfold step
    rcases entry?_cases same place with ⟨first, second⟩ | ⟨first, second⟩ |
      ⟨_, _, first, second⟩ <;> simp only [first, second]
  rw [walk, walk, steps]

theorem isDirectory_eq_of_shape (here : Location) (path : Path) :
    tree.isDirectory here path = other.isDirectory here path := by
  unfold isDirectory find
  rw [walk_eq_of_shape same]
  cases other.walk here path with
  | error fault => rfl
  | ok place =>
      rcases entry?_cases same place with ⟨first, second⟩ | ⟨first, second⟩ |
        ⟨_, _, first, second⟩ <;> simp only [first, second]

theorem fileNames_eq_of_shape (here : Location) (path : Path) :
    tree.fileNames here path = other.fileNames here path := by
  -- Whether a pair is a file inside a place is told by its shape.
  have listed : ∀ place, tree.filterMap (fileIn? place) = other.filterMap (fileIn? place) := by
    intro place
    have through : ∀ tree : FileTree, tree.filterMap (fileIn? place) =
        tree.shape.filterMap fun pair =>
          if pair.2 then (if pair.1.dropLast = place then pair.1.getLast? else none) else none := by
      intro tree
      rw [shape, List.filterMap_map]
      refine List.filterMap_congr fun pair _ => ?_
      obtain ⟨inner, entry⟩ := pair
      cases entry <;> simp [fileIn?, FileEntry.isFile]
    rw [through tree, through other, same]
  unfold fileNames find
  rw [walk_eq_of_shape same]
  cases other.walk here path with
  | error fault => rfl
  | ok place =>
      rcases entry?_cases same place with ⟨first, second⟩ | ⟨first, second⟩ |
        ⟨_, _, first, second⟩ <;> simp only [first, second, listed]

end SameShape

/-- A file is read from the place its path leads to. -/
theorem read_eq_ok_iff {tree : FileTree} {here : Location} {path : Path} {bytes : ByteArray} :
    tree.read here path = .ok bytes ↔
      ∃ place, tree.walk here path = .ok place ∧ tree.entry? place = some (.file bytes) := by
  unfold read find
  cases walked : tree.walk here path with
  | error fault => simp
  | ok place =>
      cases held : tree.entry? place with
      | none => simp [held]
      | some entry => cases entry <;> simp [held]

theorem entry?_put_of_ne {tree : FileTree} {place other : Location} (ne : place ≠ other)
    (entry : FileEntry) : entry? (Dict.put place entry tree) other = tree.entry? other := by
  unfold entry?
  rw [Dict.get?_put, if_neg ne]

/-- A place that was written to holds the new bytes. -/
theorem entry?_write {tree next : FileTree} {here place : Location} {path : Path}
    {bytes : ByteArray} (written : tree.write here path bytes = .ok next)
    (walked : tree.walk here path = .ok place) : next.entry? place = some (.file bytes) := by
  simp only [write, walked] at written
  split at written
  · cases written
  all_goals
    rename_i held
    cases written
    have notTop : place ≠ [] := by
      rintro rfl
      cases held
    unfold entry?
    rw [if_neg notTop, Dict.get?_put, if_pos rfl]

/-- Every other place holds what it held. -/
theorem entry?_write_of_ne {tree next : FileTree} {here place : Location} {path : Path}
    {bytes : ByteArray} (written : tree.write here path bytes = .ok next)
    (elsewhere : tree.walk here path ≠ .ok place) : next.entry? place = tree.entry? place := by
  unfold write at written
  split at written
  · cases written
  · rename_i other walked
    have ne : other ≠ place := by
      rintro rfl
      exact elsewhere walked
    split at written
    · cases written
    all_goals
      cases written
      exact entry?_put_of_ne ne _

/-- Writing a file that is there. -/
theorem write_of_read {tree : FileTree} {here : Location} {path : Path} {old : ByteArray}
    (readable : tree.read here path = .ok old) (bytes : ByteArray) :
    ∃ next, tree.write here path bytes = .ok next ∧ next.shape = tree.shape ∧
      next.read here path = .ok bytes ∧
      ∀ other, tree.walk here other ≠ tree.walk here path →
        next.read here other = tree.read here other := by
  obtain ⟨place, walked, held⟩ := read_eq_ok_iff.1 readable
  have notTop : place ≠ [] := by
    rintro rfl
    cases held
  have got : Dict.get? place tree = some (.file old) := by
    unfold entry? at held
    rwa [if_neg notTop] at held
  have kept := shape_put got bytes
  have written : tree.write here path bytes = .ok (Dict.put place (.file bytes) tree) := by
    simp only [write, walked, held]
  refine ⟨_, written, kept, ?_, fun other apart => ?_⟩
  · refine read_eq_ok_iff.2 ⟨place, by rw [walk_eq_of_shape kept, walked], ?_⟩
    unfold entry?
    rw [if_neg notTop, Dict.get?_put, if_pos rfl]
  · unfold read find
    rw [walk_eq_of_shape kept]
    cases elsewhere : tree.walk here other with
    | error fault => rfl
    | ok otherPlace =>
        have ne : place ≠ otherPlace := by
          rintro rfl
          exact apart (elsewhere.trans walked.symm)
        simp only [entry?_put_of_ne ne]

end FileTree

end DeclLinker
