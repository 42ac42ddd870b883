import DeclLinker.Proofs.Resolution.Chain
import Mathlib.Data.List.Forall2

/-!
# Resolving with one file more

A further file can change what a reference denotes: it may take over a key that another file
declares, or bring a smaller key for the fallback.  It never takes a key away, as long as no file
has its name already; and a reference stays only if the index has no key for it.  So whatever was
resolved without the file is resolved with it.
-/

namespace DeclLinker

namespace Index

/-- The keys that files give to an index, whichever of them is listed under the key. -/
inductive Offered (families : List Text) (packages : Dict Text Text) (analyses : List Analysis) :
    Text → Prop
  | declared {analysis : Analysis} {name : Text} (listed : analysis ∈ analyses)
      (family : inFamily families analysis.fileName = true) (exported : name ∈ analysis.exports) :
      Offered families packages analyses (keyOf analysis.tag name)
  | registered {package : Text × Text} {analysis : Analysis} {name : Text}
      (given : package ∈ packages)
      (first : analyses.find? (fun other => other.fileName == package.2) = some analysis)
      (exported : name ∈ analysis.exports) :
      Offered families packages analyses (keyOf package.1 name)

section Keys

variable {families : List Text} {packages : Dict Text Text} {analyses : List Analysis} {key : Text}

theorem get?_declared_ne_none_iff :
    Dict.get? key (declared families analyses) ≠ none ↔
      ∃ declaration ∈ declarations families analyses,
        keyOf declaration.1.tag declaration.2 = key := by
  have held := held_declared families analyses key
  cases found : Dict.get? key (declared families analyses) with
  | none =>
      rw [found] at held
      constructor
      · exact fun present => absurd rfl present
      · rintro ⟨declaration, member, same⟩
        exact absurd same (held declaration member)
  | some entry =>
      rw [found] at held
      rcases held with ⟨declaration, member, same, -, -⟩
      constructor
      · exact fun _ => ⟨declaration, member, same⟩
      · exact fun _ => Option.some_ne_none entry

theorem get?_foldl_fill_ne_none_iff (package : Text) (analysis : Analysis) (names : List Text)
    (entries : Dict Text Entry) :
    Dict.get? key (names.foldl (fill package analysis) entries) ≠ none ↔
      Dict.get? key entries ≠ none ∨ ∃ name ∈ names, keyOf package name = key := by
  induction names generalizing entries with
  | nil => simp
  | cons name names ih =>
      rw [List.foldl_cons, ih, get?_fill, Ne, Option.or_eq_none_iff]
      by_cases same : keyOf package name = key
      · simp [same]
      · simp [same]

theorem get?_register_ne_none_iff (entries : Dict Text Entry) (package : Text × Text) :
    Dict.get? key (register analyses entries package) ≠ none ↔
      Dict.get? key entries ≠ none ∨ ∃ analysis,
        analyses.find? (fun other => other.fileName == package.2) = some analysis ∧
          ∃ name ∈ analysis.exports, keyOf package.1 name = key := by
  rw [register]
  cases analyses.find? fun other => other.fileName == package.2 with
  | none => simp
  | some analysis => simpa using get?_foldl_fill_ne_none_iff package.1 analysis _ entries

theorem get?_foldl_register_ne_none_iff (entries : Dict Text Entry) :
    Dict.get? key (packages.foldl (register analyses) entries) ≠ none ↔
      Dict.get? key entries ≠ none ∨ ∃ package ∈ packages, ∃ analysis,
        analyses.find? (fun other => other.fileName == package.2) = some analysis ∧
          ∃ name ∈ analysis.exports, keyOf package.1 name = key := by
  induction packages generalizing entries with
  | nil => simp
  | cons package packages ih =>
      rw [List.foldl_cons, ih, get?_register_ne_none_iff, or_assoc,
        List.exists_mem_cons_iff]

/-- An index lists the keys that its files offer. -/
theorem get?_build_ne_none_iff :
    (build families packages analyses).get? key ≠ none ↔
      Offered families packages analyses key := by
  rw [build, get?, get?_foldl_register_ne_none_iff, get?_declared_ne_none_iff]
  constructor
  · rintro (⟨declaration, member, rfl⟩ | ⟨package, given, analysis, first, name, exported, rfl⟩)
    · rcases mem_declarations_iff.mp member with ⟨listed, family, exported⟩
      exact .declared listed family exported
    · exact .registered given first exported
  · intro offered
    cases offered with
    | @declared analysis name listed family exported =>
        exact .inl ⟨(analysis, name), mem_declarations_iff.mpr ⟨listed, family, exported⟩, rfl⟩
    | registered given first exported => exact .inr ⟨_, given, _, first, _, exported, rfl⟩

variable {before after : List Analysis} {added : Analysis}

/-- A file of a new name takes no offered key away. -/
theorem Offered.insert (offered : Offered families packages (before ++ after) key)
    (fresh : ∀ analysis ∈ before ++ after, analysis.fileName ≠ added.fileName) :
    Offered families packages (before ++ added :: after) key := by
  cases offered with
  | declared listed family exported =>
      apply Offered.declared _ family exported
      exact List.perm_middle.mem_iff.mpr (.tail added listed)
  | @registered package analysis name given first exported =>
      -- The new file does not have the registered name, for a file before or after it has it.
      have named : analysis.fileName = package.2 := by simpa using List.find?_some first
      have other : added.fileName ≠ package.2 := by
        rw [← named]
        exact (fresh analysis (List.mem_of_find?_eq_some first)).symm
      apply Offered.registered given _ exported
      rw [List.find?_append, List.find?_cons_of_neg (by simpa using other), ← List.find?_append]
      exact first

end Keys

end Index

/-- The chain finds something with every index that lists at least the keys of one with which it
finds something. -/
theorem Target.find?_ne_none_of_keys {tables : Tables} {small large : Index}
    (once : (Dict.keys small.entries).Nodup) (largeOnce : (Dict.keys large.entries).Nodup)
    (grows : ∀ key, small.get? key ≠ none → large.get? key ≠ none) {reference : Reference}
    (found : Target.find? tables small reference ≠ none) :
    Target.find? tables large reference ≠ none := by
  intro missing
  obtain ⟨noExpression, noKey⟩ := (Target.find?_eq_none_iff largeOnce).mp missing
  refine found ((Target.find?_eq_none_iff once).mpr ⟨noExpression, fun key asks => ?_⟩)
  by_contra present
  exact grows key present (noKey key asks)

/-- Two steps for one placeholder, of which the second resolves it if the first does. -/
structure Step.KeepsResolved (first second : Step) : Prop where
  placeholder_eq : first.placeholder = second.placeholder
  resolved : first.decision ≠ .unresolved → second.decision ≠ .unresolved

namespace Resolution

theorem settle_ne_unresolved_iff (tables : Tables) (index : Index) (path : Path) (plan : Plan)
    (reference : Reference) :
    (settle tables index path plan reference).1 ≠ .unresolved ↔
      Target.find? tables index reference ≠ none :=
  not_congr (settle_actsOn tables index path plan reference).unresolved_iff

/-- Whatever names are bound so far, a run keeps resolved what an index with fewer targets
resolves. -/
theorem settleAll_keepsResolved {tables : Tables} {small large : Index}
    (grows : ∀ reference, Target.find? tables small reference ≠ none →
      Target.find? tables large reference ≠ none)
    (path : Path) (plan other : Plan) (placeholders : List Placeholder) :
    List.Forall₂ Step.KeepsResolved (settleAll tables small path plan placeholders).steps
      (settleAll tables large path other placeholders).steps := by
  induction placeholders generalizing plan other with
  | nil => exact .nil
  | cons placeholder rest ih =>
      apply List.Forall₂.cons _ (ih _ _)
      constructor
      · rfl
      · intro resolved
        have found := (settle_ne_unresolved_iff tables small path plan _).mp resolved
        exact (settle_ne_unresolved_iff tables large path other _).mpr (grows _ found)

/-- Adding a file whose name no other file has, at any place, leaves no placeholder of any file
unresolved that was resolved without it. -/
theorem adding_file_keeps_resolved (tables : Tables) {before after : List Analysis}
    {added : Analysis} (fresh : ∀ analysis ∈ before ++ after, analysis.fileName ≠ added.fileName)
    (consumer : Analysis) :
    List.Forall₂ Step.KeepsResolved
      (ofAnalysis tables (Index.ofAnalyses tables (before ++ after)) consumer).steps
      (ofAnalysis tables (Index.ofAnalyses tables (before ++ added :: after)) consumer).steps := by
  apply settleAll_keepsResolved
  intro reference
  apply Target.find?_ne_none_of_keys (Index.nodup_keys_build _ _ _) (Index.nodup_keys_build _ _ _)
  intro key present
  have offered := Index.get?_build_ne_none_iff.mp present
  exact Index.get?_build_ne_none_iff.mpr (offered.insert fresh)

/-- A module that declares a policy. -/
def policyModule (path : String) : Analysis :=
  .ofText Tables.defaultFamilies (.ofText path.toList) .core "export type Policy = 1;\n".toList

/-- Tables without expressions, whose registry gives two packages. -/
def twoPackages : Tables :=
  { Tables.default with
    builtins := []
    packages := [("caddytls".toList, "caddy-tls.ts".toList),
      ("caddyhttp".toList, "caddy-http.ts".toList)] }

/-- A file between two others gives a reference a new target, by a smaller key. -/
theorem adding_file_keeps_policy_resolved :
    let before := [policyModule "gen/caddy-tls.ts"]
    let added := policyModule "gen/caddy-http.ts"
    let small := ofAnalysis twoPackages
      (Index.ofAnalyses twoPackages (before ++ [policyFile])) policyFile
    let large := ofAnalysis twoPackages
      (Index.ofAnalyses twoPackages (before ++ added :: [policyFile])) policyFile
    (∀ analysis ∈ before ++ [policyFile], analysis.fileName ≠ added.fileName) ∧
      small.resolved = 1 ∧ small.steps ≠ large.steps ∧
      List.Forall₂ Step.KeepsResolved small.steps large.steps := by
  intro before added small large
  have fresh : ∀ analysis ∈ before ++ [policyFile], analysis.fileName ≠ added.fileName := by
    decide +kernel
  refine ⟨fresh, by decide +kernel, by decide +kernel, ?_⟩
  exact adding_file_keeps_resolved twoPackages fresh policyFile

-- A file of a name that is there already is read in place of the other, and a key may go missing.
example :
    let reference : Reference := ⟨"caddyhttp".toList, "Policy".toList⟩
    let first := policyModule "gen/caddy-http.ts"
    let empty : Analysis :=
      .ofText Tables.defaultFamilies (.ofText "new/caddy-http.ts".toList) .core []
    Target.find? twoPackages (Index.ofAnalyses twoPackages [first]) reference ≠ none ∧
      Target.find? twoPackages (Index.ofAnalyses twoPackages [empty, first]) reference = none := by
  decide +kernel

end Resolution

end DeclLinker
