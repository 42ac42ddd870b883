import DeclLinker.Linked
import DeclLinker.Proofs.Dict
import DeclLinker.Proofs.Index.Origin
import DeclLinker.Proofs.Source.Produced
import DeclLinker.Proofs.Tables
import Mathlib.Data.List.Induction

/-!
# The contents of an index

A qualified name is listed under the path, the name and the tag of one file.  If files of a family
declare it under their own tag, it is the one of them with the least path.  Otherwise it is the
first file of the name that the registry gives for the package, if that file exports the name.
Otherwise it is not listed.

The first loop is followed by what it holds of a key after some declarations, the second one by an
equation for each of its steps: a registered package offers an entry, which counts where none is.
-/

namespace DeclLinker.Index

open Text

/-! ## Keys -/

/-- A key tells its scope and its name when the name holds no dot. -/
theorem keyOf_eq_keyOf_iff {scope other name second : Text} (plain : '.' ∉ name)
    (otherPlain : '.' ∉ second) :
    keyOf scope name = keyOf other second ↔ scope = other ∧ name = second := by
  constructor
  · intro same
    have cut := congrArg (splitLast? '.') same
    rw [keyOf, keyOf, splitLast?_append plain, splitLast?_append otherPlain] at cut
    simpa using cut
  · rintro ⟨rfl, rfl⟩
    rfl

/-! ## Declarations of family files -/

/-- Every export of every file of a family, in the order in which they are declared. -/
def declarations (families : List Text) (analyses : List Analysis) : List (Analysis × Text) :=
  (analyses.filter fun analysis => inFamily families analysis.fileName).flatMap fun analysis =>
    analysis.exports.map fun exportName => (analysis, exportName)

theorem declared_eq_foldl (families : List Text) (analyses : List Analysis) :
    declared families analyses = (declarations families analyses).foldl
      (fun entries declaration => declare declaration.1 entries declaration.2) [] := by
  simp [declared, declarations, List.foldl_flatMap, List.foldl_map]

/-- What is held of a key after some declarations: nothing when none is for the key, else the entry
of one with the least path. -/
def Held (declarations : List (Analysis × Text)) (key : Text) : Option Entry → Prop
  | none => ∀ declaration ∈ declarations, keyOf declaration.1.tag declaration.2 ≠ key
  | some entry => ∃ declaration ∈ declarations, keyOf declaration.1.tag declaration.2 = key ∧
      entry = entryOf declaration.1 declaration.2 ∧
        ∀ other ∈ declarations, keyOf other.1.tag other.2 = key → entry.path.le other.1.path = true

theorem get?_declare (analysis : Analysis) (entries : Dict Text Entry) (exportName key : Text) :
    Dict.get? key (declare analysis entries exportName) =
      if keyOf analysis.tag exportName = key then
        match Dict.get? key entries with
        | some held =>
            if held.path.le analysis.path then some held else some (entryOf analysis exportName)
        | none => some (entryOf analysis exportName)
      else
        Dict.get? key entries := by
  by_cases same : keyOf analysis.tag exportName = key
  · subst same
    rw [if_pos rfl, declare]
    cases found : Dict.get? (keyOf analysis.tag exportName) entries with
    | none => simp [Dict.get?_put]
    | some held =>
        by_cases before : held.path.le analysis.path = true
        · simp [found, before]
        · simp [before, Dict.get?_put]
  · rw [if_neg same, declare]
    cases Dict.get? (keyOf analysis.tag exportName) entries with
    | none => simp [Dict.get?_put, same]
    | some held =>
        by_cases before : held.path.le analysis.path = true
        · simp [before]
        · simp [before, Dict.get?_put, same]

namespace Held

variable {seen : List (Analysis × Text)} {next : Analysis × Text} {key : Text}

/-- A declaration for another key changes nothing. -/
theorem skip {found : Option Entry} (held : Held seen key found)
    (other : keyOf next.1.tag next.2 ≠ key) : Held (seen ++ [next]) key found := by
  cases found with
  | none =>
      intro declaration inside
      rcases List.mem_append.mp inside with earlier | last
      · exact held declaration earlier
      · rwa [List.mem_singleton.mp last]
  | some entry =>
      rcases held with ⟨first, inside, firstKey, entry_eq, least⟩
      refine ⟨first, List.mem_append_left _ inside, firstKey, entry_eq, ?_⟩
      intro declaration declared sameKey
      rcases List.mem_append.mp declared with earlier | last
      · exact least declaration earlier sameKey
      · rw [List.mem_singleton.mp last] at sameKey
        exact absurd sameKey other

/-- A declaration that does not come before what is held changes nothing. -/
theorem keep {entry : Entry} (held : Held seen key (some entry))
    (before : entry.path.le next.1.path = true) : Held (seen ++ [next]) key (some entry) := by
  rcases held with ⟨first, inside, firstKey, entry_eq, least⟩
  refine ⟨first, List.mem_append_left _ inside, firstKey, entry_eq, ?_⟩
  intro declaration declared sameKey
  rcases List.mem_append.mp declared with earlier | last
  · exact least declaration earlier sameKey
  · rwa [List.mem_singleton.mp last]

/-- A declaration that comes before all others for its key is held. -/
theorem replace (same : keyOf next.1.tag next.2 = key)
    (first : ∀ other ∈ seen, keyOf other.1.tag other.2 = key →
      next.1.path.le other.1.path = true) :
    Held (seen ++ [next]) key (some (entryOf next.1 next.2)) := by
  refine ⟨next, by simp, same, rfl, ?_⟩
  intro declaration declared sameKey
  rcases List.mem_append.mp declared with earlier | last
  · exact first declaration earlier sameKey
  · rw [List.mem_singleton.mp last]
    exact Path.le_refl next.1.path

/-- What is held of a key stays right over one more declaration. -/
theorem declare {entries : Dict Text Entry} (held : Held seen key (Dict.get? key entries)) :
    Held (seen ++ [next]) key (Dict.get? key (declare next.1 entries next.2)) := by
  rw [get?_declare]
  by_cases same : keyOf next.1.tag next.2 = key
  · rw [if_pos same]
    cases found : Dict.get? key entries with
    | none =>
        rw [found] at held
        exact replace same fun other earlier otherKey => absurd otherKey (held other earlier)
    | some entry =>
        rw [found] at held
        by_cases before : entry.path.le next.1.path = true
        · simp only [before, if_true]
          exact held.keep before
        · simp only [before]
          rcases held with ⟨-, -, -, -, least⟩
          have after := (Path.le_total entry.path next.1.path).resolve_left before
          exact replace same fun other earlier otherKey =>
            Path.le_trans after (least other earlier otherKey)
  · rw [if_neg same]
    exact held.skip same

end Held

/-- Of the files of a family that declare a key, the index holds one with the least path. -/
theorem held_declared (families : List Text) (analyses : List Analysis) (key : Text) :
    Held (declarations families analyses) key
      (Dict.get? key (declared families analyses)) := by
  rw [declared_eq_foldl]
  induction declarations families analyses using List.reverseRecOn with
  | nil => exact fun _ member => absurd member List.not_mem_nil
  | append_singleton earlier next ih =>
      rw [List.foldl_concat]
      exact ih.declare

/-- A file of a family that exports a name and has a scope as its tag. -/
structure Declares (families : List Text) (scope name : Text) (analysis : Analysis) : Prop where
  family : inFamily families analysis.fileName = true
  tag_eq : analysis.tag = scope
  exported : name ∈ analysis.exports

/-- A file of a corpus that declares a name, and no file that declares it has a smaller path. -/
structure Owns (families : List Text) (analyses : List Analysis) (scope name : Text)
    (analysis : Analysis) : Prop extends Declares families scope name analysis where
  listed : analysis ∈ analyses
  least : ∀ other ∈ analyses, Declares families scope name other →
    analysis.path.le other.path = true

instance (families : List Text) (scope name : Text) (analysis : Analysis) :
    Decidable (Declares families scope name analysis) :=
  decidable_of_iff
    (inFamily families analysis.fileName = true ∧ analysis.tag = scope ∧
      analysis.exports.contains name = true)
    ⟨fun ⟨family, tag_eq, exported⟩ => ⟨family, tag_eq, List.contains_iff_mem.mp exported⟩,
      fun ⟨family, tag_eq, exported⟩ => ⟨family, tag_eq, List.contains_iff_mem.mpr exported⟩⟩

section Declared

variable {families : List Text} {analyses : List Analysis} {scope name : Text}

theorem mem_declarations_iff {declaration : Analysis × Text} :
    declaration ∈ declarations families analyses ↔
      declaration.1 ∈ analyses ∧ inFamily families declaration.1.fileName = true ∧
        declaration.2 ∈ declaration.1.exports := by
  rcases declaration with ⟨analysis, exportName⟩
  simp [declarations, and_assoc]

/-- A file declares a name when one of its declarations has the key of the name. -/
theorem declares_of_keyOf_eq (produced : ∀ analysis ∈ analyses, analysis.Produced)
    (plain : '.' ∉ name) {declaration : Analysis × Text}
    (member : declaration ∈ declarations families analyses)
    (same : keyOf declaration.1.tag declaration.2 = keyOf scope name) :
    declaration.2 = name ∧ Declares families scope name declaration.1 := by
  rcases mem_declarations_iff.mp member with ⟨listed, family, exported⟩
  have otherPlain := (produced _ listed).dot_not_mem exported
  rcases (keyOf_eq_keyOf_iff otherPlain plain).mp same with ⟨tag_eq, name_eq⟩
  exact ⟨name_eq, family, tag_eq, name_eq ▸ exported⟩

theorem Declares.mem_declarations {analysis : Analysis} (listed : analysis ∈ analyses)
    (declares : Declares families scope name analysis) :
    (analysis, name) ∈ declarations families analyses ∧
      keyOf analysis.tag name = keyOf scope name :=
  ⟨mem_declarations_iff.mpr ⟨listed, declares.family, declares.exported⟩,
    by rw [declares.tag_eq]⟩

/-- A key is free of declarations when no file declares its name. -/
theorem get?_declared_eq_none_iff (produced : ∀ analysis ∈ analyses, analysis.Produced)
    (plain : '.' ∉ name) :
    Dict.get? (keyOf scope name) (declared families analyses) = none ↔
      ∀ analysis ∈ analyses, ¬Declares families scope name analysis := by
  have held := held_declared families analyses (keyOf scope name)
  constructor
  · intro nothing analysis listed declares
    rw [nothing] at held
    rcases declares.mem_declarations listed with ⟨member, same⟩
    exact held _ member same
  · intro undeclared
    cases found : Dict.get? (keyOf scope name) (declared families analyses) with
    | none => rfl
    | some entry =>
        rw [found] at held
        rcases held with ⟨declaration, member, same, -, -⟩
        have listed := (mem_declarations_iff.mp member).1
        exact absurd (declares_of_keyOf_eq produced plain member same).2
          (undeclared declaration.1 listed)

/-- A declared key has the entry of the file that owns its name. -/
theorem get?_declared_eq_some_iff (produced : ∀ analysis ∈ analyses, analysis.Produced)
    (plain : '.' ∉ name) {entry : Entry} :
    Dict.get? (keyOf scope name) (declared families analyses) = some entry ↔
      ∃ analysis, Owns families analyses scope name analysis ∧ entry = entryOf analysis name := by
  have held := held_declared families analyses (keyOf scope name)
  constructor
  · intro found
    rw [found] at held
    rcases held with ⟨⟨analysis, exportName⟩, member, same, rfl, least⟩
    rcases declares_of_keyOf_eq produced plain member same with ⟨rfl, declares⟩
    refine ⟨analysis, ⟨declares, (mem_declarations_iff.mp member).1, ?_⟩, rfl⟩
    intro other listed otherDeclares
    rcases otherDeclares.mem_declarations listed with ⟨otherMember, otherSame⟩
    exact least _ otherMember otherSame
  · rintro ⟨analysis, owns, rfl⟩
    cases found : Dict.get? (keyOf scope name) (declared families analyses) with
    | none =>
        have undeclared := (get?_declared_eq_none_iff produced plain).mp found
        exact absurd owns.toDeclares (undeclared analysis owns.listed)
    | some entry =>
        rw [found] at held
        rcases held with ⟨⟨first, exportName⟩, member, same, rfl, least⟩
        have listed := (mem_declarations_iff.mp member).1
        rcases declares_of_keyOf_eq produced plain member same with ⟨rfl, declares⟩
        rcases owns.mem_declarations owns.listed with ⟨ownMember, ownSame⟩
        have path_eq : first.path = analysis.path :=
          (produced first listed).proper.le_antisymm (produced analysis owns.listed).proper
            (least _ ownMember ownSame) (owns.least first listed declares)
        rw [entryOf, entryOf, path_eq, declares.tag_eq, owns.tag_eq]

end Declared

/-! ## Gaps that the registry fills -/

/-- The entry of a name in the first file of a given file name, if that file exports it. -/
def supplied? (analyses : List Analysis) (fileName name : Text) : Option Entry :=
  (analyses.find? fun analysis => analysis.fileName == fileName).bind fun analysis =>
    if analysis.exports.contains name then some (entryOf analysis name) else none

/-- The first file of the name that the registry gives for a package, if it exports a name. -/
def Registers (packages : Dict Text Text) (analyses : List Analysis) (package name : Text)
    (analysis : Analysis) : Prop :=
  ∃ fileName, Dict.get? package packages = some fileName ∧
    analyses.find? (fun analysis => analysis.fileName == fileName) = some analysis ∧
      name ∈ analysis.exports

section Registered

variable {packages : Dict Text Text} {analyses : List Analysis} {scope name : Text}

theorem supplied?_eq_some_iff {fileName : Text} {entry : Entry} :
    supplied? analyses fileName name = some entry ↔ ∃ analysis,
      analyses.find? (fun analysis => analysis.fileName == fileName) = some analysis ∧
        name ∈ analysis.exports ∧ entry = entryOf analysis name := by
  rw [supplied?, Option.bind_eq_some_iff]
  constructor
  · rintro ⟨analysis, found, taken⟩
    by_cases exported : analysis.exports.contains name = true
    · rw [if_pos exported] at taken
      exact ⟨analysis, found, List.contains_iff_mem.mp exported, (Option.some.inj taken).symm⟩
    · rw [if_neg exported] at taken
      cases taken
  · rintro ⟨analysis, found, exported, rfl⟩
    exact ⟨analysis, found, if_pos (List.contains_iff_mem.mpr exported)⟩

theorem get?_fill (package : Text) (analysis : Analysis) (entries : Dict Text Entry)
    (exportName key : Text) :
    Dict.get? key (fill package analysis entries exportName) = (Dict.get? key entries).or
      (if keyOf package exportName = key then some (entryOf analysis exportName) else none) := by
  by_cases same : keyOf package exportName = key
  · subst same
    cases found : Dict.get? (keyOf package exportName) entries with
    | none => simp [fill, Dict.has, found, Dict.get?_put]
    | some held => simp [fill, Dict.has, found]
  · rw [if_neg same, Option.or_none, fill]
    split
    · rfl
    · rw [Dict.get?_put, if_neg same]

/-- The exports of a file under a package name fill the key of a name that is among them. -/
theorem get?_foldl_fill (plain : '.' ∉ name) (package : Text) (analysis : Analysis)
    {exports : List Text} (words : ∀ exportName ∈ exports, '.' ∉ exportName)
    (entries : Dict Text Entry) :
    Dict.get? (keyOf scope name) (exports.foldl (fill package analysis) entries) =
      (Dict.get? (keyOf scope name) entries).or
        (if package = scope ∧ name ∈ exports then some (entryOf analysis name) else none) := by
  induction exports generalizing entries with
  | nil => simp
  | cons exportName rest ih =>
      have later : ∀ other ∈ rest, '.' ∉ other := fun other member => words other (.tail _ member)
      have key_iff : keyOf package exportName = keyOf scope name ↔
          package = scope ∧ exportName = name :=
        keyOf_eq_keyOf_iff (words exportName List.mem_cons_self) plain
      rw [List.foldl_cons, ih later, get?_fill, Option.or_assoc]
      by_cases here : package = scope
      · subst here
        by_cases hit : exportName = name
        · simp [hit]
        · simp [key_iff, hit, Ne.symm hit]
      · simp [key_iff, here]

/-- A registered package fills the keys of its own scope from the first file of its file name. -/
theorem get?_register (produced : ∀ analysis ∈ analyses, analysis.Produced) (plain : '.' ∉ name)
    (entries : Dict Text Entry) (package : Text × Text) :
    Dict.get? (keyOf scope name) (register analyses entries package) =
      (Dict.get? (keyOf scope name) entries).or
        (if package.1 = scope then supplied? analyses package.2 name else none) := by
  unfold register supplied?
  cases found : analyses.find? fun analysis => analysis.fileName == package.2 with
  | none => simp
  | some analysis =>
      have listed := List.mem_of_find?_eq_some found
      have words : ∀ exportName ∈ analysis.exports, '.' ∉ exportName :=
        fun _ exported => (produced analysis listed).dot_not_mem exported
      rw [get?_foldl_fill plain package.1 analysis words]
      by_cases here : package.1 = scope
      · simp [here]
      · simp [here]

/-- The registry fills a key from the package of its scope, when it lists every package once. -/
theorem get?_foldl_register (produced : ∀ analysis ∈ analyses, analysis.Produced)
    (plain : '.' ∉ name) (once : (Dict.keys packages).Nodup) (entries : Dict Text Entry) :
    Dict.get? (keyOf scope name) (packages.foldl (register analyses) entries) =
      (Dict.get? (keyOf scope name) entries).or
        ((Dict.get? scope packages).bind fun fileName => supplied? analyses fileName name) := by
  induction packages generalizing entries with
  | nil => simp
  | cons package rest ih =>
      rcases List.nodup_cons.mp once with ⟨fresh, later⟩
      rw [List.foldl_cons, ih later, get?_register produced plain, Option.or_assoc]
      by_cases here : package.1 = scope
      · -- No later package has the scope.
        have absent : Dict.get? scope rest = none := by
          rw [Dict.get?_eq_none_iff, ← here]
          exact fresh
        simp [Dict.get?, here, absent]
      · simp [Dict.get?, here]

end Registered

/-! ## What is listed under a name -/

/-- What an index lists under a name and its scope.  Declarations of family files come first, the
registry fills the gaps. -/
inductive Lists (families : List Text) (packages : Dict Text Text) (analyses : List Analysis)
    (scope name : Text) : Option Entry → Prop
  | declared {analysis : Analysis} (owns : Owns families analyses scope name analysis) :
      Lists families packages analyses scope name (some (entryOf analysis name))
  | registered {analysis : Analysis}
      (undeclared : ∀ other ∈ analyses, ¬Declares families scope name other)
      (registers : Registers packages analyses scope name analysis) :
      Lists families packages analyses scope name (some (entryOf analysis name))
  | absent (undeclared : ∀ other ∈ analyses, ¬Declares families scope name other)
      (unregistered : ∀ other, ¬Registers packages analyses scope name other) :
      Lists families packages analyses scope name none

section Built

variable {families : List Text} {packages : Dict Text Text} {analyses : List Analysis}
  {scope name : Text}

theorem get?_build (produced : ∀ analysis ∈ analyses, analysis.Produced) (plain : '.' ∉ name)
    (once : (Dict.keys packages).Nodup) :
    (build families packages analyses).get? (keyOf scope name) =
      (Dict.get? (keyOf scope name) (declared families analyses)).or
        ((Dict.get? scope packages).bind fun fileName => supplied? analyses fileName name) :=
  get?_foldl_register produced plain once _

theorem registered?_eq_some_iff {entry : Entry} :
    ((Dict.get? scope packages).bind fun fileName => supplied? analyses fileName name) =
        some entry ↔
      ∃ analysis, Registers packages analyses scope name analysis ∧
        entry = entryOf analysis name := by
  simp only [Option.bind_eq_some_iff, supplied?_eq_some_iff, Registers]
  constructor
  · rintro ⟨fileName, given, analysis, found, exported, rfl⟩
    exact ⟨analysis, ⟨fileName, given, found, exported⟩, rfl⟩
  · rintro ⟨analysis, ⟨fileName, given, found, exported⟩, rfl⟩
    exact ⟨fileName, given, analysis, found, exported, rfl⟩

/-- An index lists under a name exactly what the files and the registry give it. -/
theorem get?_build_eq_iff (produced : ∀ analysis ∈ analyses, analysis.Produced)
    (plain : '.' ∉ name) (once : (Dict.keys packages).Nodup) (found : Option Entry) :
    (build families packages analyses).get? (keyOf scope name) = found ↔
      Lists families packages analyses scope name found := by
  rw [get?_build produced plain once]
  constructor
  · rintro rfl
    cases held : Dict.get? (keyOf scope name) (declared families analyses) with
    | some entry =>
        rcases (get?_declared_eq_some_iff produced plain).mp held with ⟨analysis, owns, rfl⟩
        exact .declared owns
    | none =>
        have undeclared := (get?_declared_eq_none_iff produced plain).mp held
        rw [Option.none_or]
        cases given : (Dict.get? scope packages).bind fun fileName =>
            supplied? analyses fileName name with
        | some entry =>
            rcases registered?_eq_some_iff.mp given with ⟨analysis, registers, rfl⟩
            exact .registered undeclared registers
        | none =>
            apply Lists.absent undeclared
            intro other registers
            rw [registered?_eq_some_iff.mpr ⟨other, registers, rfl⟩] at given
            cases given
  · intro lists
    cases lists with
    | declared owns =>
        rw [(get?_declared_eq_some_iff produced plain).mpr ⟨_, owns, rfl⟩, Option.some_or]
    | registered undeclared registers =>
        rw [(get?_declared_eq_none_iff produced plain).mpr undeclared, Option.none_or]
        exact registered?_eq_some_iff.mpr ⟨_, registers, rfl⟩
    | absent undeclared unregistered =>
        rw [(get?_declared_eq_none_iff produced plain).mpr undeclared, Option.none_or]
        apply Option.eq_none_iff_forall_ne_some.mpr
        intro entry given
        rcases registered?_eq_some_iff.mp given with ⟨analysis, registers, -⟩
        exact unregistered analysis registers

/-- A key without a dot is not listed. -/
theorem get?_build_of_dotless (families : List Text) (packages : Dict Text Text)
    (analyses : List Analysis) {key : Text} (dotless : '.' ∉ key) :
    (build families packages analyses).get? key = none := by
  cases found : (build families packages analyses).get? key with
  | none => rfl
  | some entry =>
      rcases keyed_build families packages analyses key entry (Dict.mem_of_get? found) with
        ⟨scope, rfl⟩
      exact absurd (by simp [keyOf]) dotless

end Built

/-- The exact contents of an index.  A key is cut at its last dot into a scope and a name; under
them the index lists what the family files declare and else what the registry fills in.  A key
without a dot is not listed, and every entry is one of a file that exports its name. -/
theorem contents_exact (tables : Tables) (once : (Dict.keys tables.packages).Nodup)
    {analyses : List Analysis} (produced : ∀ analysis ∈ analyses, analysis.Produced) (key : Text) :
    (∀ scope name, key.splitLast? '.' = some (scope, name) → ∀ found,
      (ofAnalyses tables analyses).get? key = found ↔
        Lists tables.families tables.packages analyses scope name found) ∧
    (key.splitLast? '.' = none → (ofAnalyses tables analyses).get? key = none) ∧
    ∀ entry, (ofAnalyses tables analyses).get? key = some entry →
      ∃ analysis ∈ analyses, ∃ exportName ∈ analysis.exports,
        entry = entryOf analysis exportName := by
  refine ⟨?_, ?_, ?_⟩
  · intro scope name cut found
    rcases splitLast?_eq_some_iff.mp cut with ⟨rfl, plain⟩
    exact get?_build_eq_iff produced plain once found
  · intro uncut
    exact get?_build_of_dotless _ _ _ (splitLast?_eq_none_iff.mp uncut)
  · intro entry found
    exact stems_build _ _ _ key entry (Dict.mem_of_get? found)

/-- Two files of one name, of which the one with the greater path comes first. -/
def twoTiers : List Analysis :=
  [⟨⟨.relative, ["gen".toList, "plugins".toList, "caddy-http.ts".toList]⟩, "http".toList, .plugin,
      ["Route".toList, "Gate".toList], []⟩,
    ⟨⟨.relative, ["gen".toList, "caddy-http.ts".toList]⟩, "http".toList, .core,
      ["Route".toList], []⟩]

theorem produced_twoTiers : ∀ analysis ∈ twoTiers, analysis.Produced := by
  intro analysis member
  rcases List.mem_pair.mp member with rfl | rfl
  · exact ⟨Tables.defaultFamilies, "gen/plugins/caddy-http.ts".toList, .plugin,
      "export type Route = number;\nexport type Gate = number;\n".toList, by decide +kernel⟩
  · exact ⟨Tables.defaultFamilies, "gen/caddy-http.ts".toList, .core,
      "export type Route = string;\n".toList, by decide +kernel⟩

theorem nodup_keys_default : (Dict.keys Tables.default.packages).Nodup := by
  rw [Tables.default_eq_decoded]
  decide +kernel

/-- The least path owns the declared name, the first file fills the gap. -/
theorem contents_exact_of_two_tiers :
    (Dict.keys Tables.default.packages).Nodup ∧ (∀ analysis ∈ twoTiers, analysis.Produced) ∧
      Lists Tables.default.families Tables.default.packages twoTiers "http".toList "Route".toList
        (some ⟨.ofText "gen/caddy-http.ts".toList, "Route".toList, "http".toList⟩) ∧
      Lists Tables.default.families Tables.default.packages twoTiers "caddyhttp".toList
        "Route".toList
        (some ⟨.ofText "gen/plugins/caddy-http.ts".toList, "Route".toList, "http".toList⟩) ∧
      (ofAnalyses Tables.default twoTiers).get? "Route".toList = none := by
  have contents := contents_exact Tables.default nodup_keys_default produced_twoTiers
  refine ⟨nodup_keys_default, produced_twoTiers, ?_, ?_, ?_⟩
  · refine ((contents "http.Route".toList).1 _ _ (by decide) _).mp ?_
    rw [Tables.default_eq_decoded]
    decide +kernel
  · refine ((contents "caddyhttp.Route".toList).1 _ _ (by decide) _).mp ?_
    rw [Tables.default_eq_decoded]
    decide +kernel
  · exact (contents "Route".toList).2.1 (by decide)

end DeclLinker.Index
