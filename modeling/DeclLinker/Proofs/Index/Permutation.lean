import DeclLinker.Proofs.Index.Contents
import Mathlib.Data.List.Nodup

/-!
# Indexes of permuted files

Which file owns a declared name is a matter of paths alone.  A gap is filled from the first file of
the registered file name, so there the order of the files counts when several of them have that
name.  The index is the same for all orders exactly when this leaves no choice: two files of a
registered file name are one file, or the names they export are declared under the package name.
-/

namespace DeclLinker.Index

variable {families : List Text} {packages : Dict Text Text} {analyses order : List Analysis}
  {scope name : Text} {analysis : Analysis}

theorem Owns.of_perm (owns : Owns families order scope name analysis)
    (perm : order.Perm analyses) : Owns families analyses scope name analysis where
  toDeclares := owns.toDeclares
  listed := perm.mem_iff.mp owns.listed
  least other listed := owns.least other (perm.mem_iff.mpr listed)

/-- The order of files leaves no choice to the registry: two files of a registered file name are
one, or what the first of them exports is declared under the package name. -/
def Unambiguous (families : List Text) (packages : Dict Text Text) (analyses : List Analysis) :
    Prop :=
  ∀ package ∈ packages, ∀ first ∈ analyses, ∀ second ∈ analyses,
    first.fileName = package.2 → second.fileName = package.2 → ∀ name ∈ first.exports,
      (∃ owner ∈ analyses, Declares families package.1 name owner) ∨ first = second

instance (families : List Text) (packages : Dict Text Text) (analyses : List Analysis) :
    Decidable (Unambiguous families packages analyses) :=
  inferInstanceAs (Decidable (∀ package ∈ packages, ∀ first ∈ analyses, ∀ second ∈ analyses,
    first.fileName = package.2 → second.fileName = package.2 → ∀ name ∈ first.exports,
      (∃ owner ∈ analyses, Declares families package.1 name owner) ∨ first = second))

theorem Unambiguous.of_perm (clear : Unambiguous families packages analyses)
    (perm : order.Perm analyses) : Unambiguous families packages order := by
  intro package given first firstListed second secondListed
  simp only [perm.mem_iff] at firstListed secondListed ⊢
  exact clear package given first firstListed second secondListed

/-- Without a choice the registry gives an undeclared name to the same file in every order. -/
theorem Registers.of_perm (registers : Registers packages order scope name analysis)
    (perm : order.Perm analyses) (clear : Unambiguous families packages analyses)
    (undeclared : ∀ other ∈ analyses, ¬Declares families scope name other) :
    Registers packages analyses scope name analysis := by
  rcases registers with ⟨fileName, given, found, exported⟩
  have listed := perm.mem_iff.mp (List.mem_of_find?_eq_some found)
  have named : analysis.fileName = fileName := by simpa using List.find?_some found
  refine ⟨fileName, given, ?_, exported⟩
  cases other : analyses.find? fun analysis => analysis.fileName == fileName with
  | none =>
      have unnamed := List.find?_eq_none.mp other analysis listed
      simp [named] at unnamed
  | some second =>
      have secondListed := List.mem_of_find?_eq_some other
      have secondNamed : second.fileName = fileName := by simpa using List.find?_some other
      rcases clear (scope, fileName) (Dict.mem_of_get? given) analysis listed second secondListed
        named secondNamed name exported with ⟨owner, ownerListed, declares⟩ | same
      · exact absurd declares (undeclared owner ownerListed)
      · rw [same]

theorem Lists.of_perm {found : Option Entry}
    (lists : Lists families packages order scope name found) (perm : order.Perm analyses)
    (clear : Unambiguous families packages analyses) :
    Lists families packages analyses scope name found := by
  cases lists with
  | declared owns => exact .declared (owns.of_perm perm)
  | registered undeclared registers =>
      simp only [perm.mem_iff] at undeclared
      exact .registered undeclared (registers.of_perm perm clear undeclared)
  | absent undeclared unregistered =>
      apply Lists.absent
      · simpa only [perm.mem_iff] using undeclared
      · intro other registers
        exact unregistered other
          (registers.of_perm perm.symm (clear.of_perm perm) undeclared)

/-- When the registry is left no choice, the order of the files does not matter. -/
theorem get?_build_of_perm (produced : ∀ analysis ∈ analyses, analysis.Produced)
    (once : (Dict.keys packages).Nodup) (clear : Unambiguous families packages analyses)
    (perm : order.Perm analyses) (key : Text) :
    (build families packages order).get? key = (build families packages analyses).get? key := by
  have orderProduced : ∀ analysis ∈ order, analysis.Produced := by
    simpa only [perm.mem_iff] using produced
  cases cut : key.splitLast? '.' with
  | none =>
      have dotless := Text.splitLast?_eq_none_iff.mp cut
      rw [get?_build_of_dotless _ _ _ dotless, get?_build_of_dotless _ _ _ dotless]
  | some halves =>
      rcases halves with ⟨scope, name⟩
      rcases Text.splitLast?_eq_some_iff.mp cut with ⟨rfl, plain⟩
      have lists : Lists families packages analyses scope name _ :=
        (get?_build_eq_iff produced plain once _).mp rfl
      exact (get?_build_eq_iff orderProduced plain once _).mpr
        (lists.of_perm perm.symm (clear.of_perm perm))

/-- A gap goes to the first file of the registered file name. -/
theorem lists_head {rest : List Analysis} {package : Text × Text}
    (once : (Dict.keys packages).Nodup) (given : package ∈ packages)
    (named : analysis.fileName = package.2) (exported : name ∈ analysis.exports)
    (undeclared : ∀ other ∈ analysis :: rest, ¬Declares families package.1 name other) :
    Lists families packages (analysis :: rest) package.1 name (some (entryOf analysis name)) :=
  .registered undeclared
    ⟨package.2, (Dict.get?_eq_some_iff_mem once).mpr given, by simp [named], exported⟩

/-- Nothing but the first file of the registered file name goes into a gap. -/
theorem path_eq_of_lists_head {rest : List Analysis} {package : Text × Text} {entry : Entry}
    (once : (Dict.keys packages).Nodup) (given : package ∈ packages)
    (named : analysis.fileName = package.2)
    (undeclared : ∀ other ∈ analysis :: rest, ¬Declares families package.1 name other)
    (lists : Lists families packages (analysis :: rest) package.1 name (some entry)) :
    entry.path = analysis.path := by
  generalize entry_eq : some entry = found at lists
  cases lists with
  | declared owns => exact absurd owns.toDeclares (undeclared _ owns.listed)
  | registered _ registers =>
      rcases registers with ⟨fileName, read, first, -⟩
      rw [(Dict.get?_eq_some_iff_mem once).mpr given, Option.some.injEq] at read
      rw [List.find?_cons_of_pos (by simp [named, read]), Option.some.injEq] at first
      rw [Option.some.inj entry_eq, ← first]
      rfl
  | absent => cases entry_eq

/-- The index of some files is the same for all their orders exactly when the registry is left no
choice. -/
theorem order_free_iff_unambiguous (tables : Tables) (once : (Dict.keys tables.packages).Nodup)
    {analyses : List Analysis} (produced : ∀ analysis ∈ analyses, analysis.Produced)
    (distinct : (analyses.map Analysis.path).Nodup) :
    (∀ order : List Analysis, order.Perm analyses → ∀ key,
      (ofAnalyses tables order).get? key = (ofAnalyses tables analyses).get? key) ↔
        Unambiguous tables.families tables.packages analyses := by
  constructor
  · intro orderFree package given first firstListed second secondListed firstNamed secondNamed
      name exported
    by_cases declared : ∃ owner ∈ analyses, Declares tables.families package.1 name owner
    · exact .inl declared
    · -- Each of the two files may stand in front, and the gap goes to the one that does.
      have plain := (produced first firstListed).dot_not_mem exported
      have undeclared : ∀ {order : List Analysis}, order.Perm analyses →
          ∀ other ∈ order, ¬Declares tables.families package.1 name other := by
        intro order perm other listed declares
        exact declared ⟨other, perm.mem_iff.mp listed, declares⟩
      have orderProduced : ∀ {order : List Analysis}, order.Perm analyses →
          ∀ analysis ∈ order, analysis.Produced := by
        intro order perm
        simpa only [perm.mem_iff] using produced
      have one := (List.perm_cons_erase firstListed).symm
      have two := (List.perm_cons_erase secondListed).symm
      have held := (get?_build_eq_iff (orderProduced one) plain once _).mpr
        (lists_head once given firstNamed exported (undeclared one))
      have same := (orderFree _ two (keyOf package.1 name)).trans (orderFree _ one _).symm
      have lists := (get?_build_eq_iff (orderProduced two) plain once _).mp (same.trans held)
      have path_eq := path_eq_of_lists_head once given secondNamed (undeclared two) lists
      exact .inr (List.inj_on_of_nodup_map distinct firstListed secondListed path_eq)
  · intro clear order perm key
    exact get?_build_of_perm produced once clear perm key

/-- Tables whose registry gives one package, under the tag that its files have. -/
def byTag : Tables :=
  { Tables.default with packages := [("http".toList, "caddy-http.ts".toList)] }

/-- A package that is named like the tag of its files is no matter of order. -/
theorem order_free_of_two_tiers :
    (Dict.keys byTag.packages).Nodup ∧ (∀ analysis ∈ twoTiers, analysis.Produced) ∧
      (twoTiers.map Analysis.path).Nodup ∧
      ∀ order : List Analysis, order.Perm twoTiers → ∀ key,
        (ofAnalyses byTag order).get? key = (ofAnalyses byTag twoTiers).get? key := by
  have once : (Dict.keys byTag.packages).Nodup := by decide
  have distinct : (twoTiers.map Analysis.path).Nodup := by decide +kernel
  refine ⟨once, produced_twoTiers, distinct, ?_⟩
  exact (order_free_iff_unambiguous byTag once produced_twoTiers distinct).mpr (by decide +kernel)

/-- With the built-in registry the order of two files of one name decides which of them the package
name leads to. -/
theorem order_matters :
    ¬∀ (tables : Tables) (analyses order : List Analysis), (Dict.keys tables.packages).Nodup →
      (∀ analysis ∈ analyses, analysis.Produced) → (analyses.map Analysis.path).Nodup →
        order.Perm analyses → ∀ key,
          (ofAnalyses tables order).get? key = (ofAnalyses tables analyses).get? key := by
  intro orderFree
  have distinct : (twoTiers.map Analysis.path).Nodup := by decide +kernel
  have same := orderFree Tables.default twoTiers twoTiers.reverse nodup_keys_default
    produced_twoTiers distinct (List.reverse_perm twoTiers) "caddyhttp.Route".toList
  rw [Tables.default_eq_decoded] at same
  exact absurd same (by decide +kernel)

end DeclLinker.Index
