import DeclLinker.Proofs.Index.Contents

/-!
# The chain of lookups

What a reference denotes is said without the chain: which lookups have to miss before one counts,
and which of several fitting keys the fallback takes.  It depends on the index as a mapping only, so
the chain finds the same target whatever the order of the entries.

In the index of analysed files a key ends in the exported name of its entry.  Neither that name nor
the type name of a scanned reference holds a dot, so every way to hit the index, the fallback too,
ends at a declaration of the name that was asked for.
-/

namespace DeclLinker

open Text

/-- A key that starts with the short package of a reference and ends in a dot and its type name. -/
def Reference.Suits (reference : Reference) (key : Text) : Prop :=
  reference.shortPackage <+: key ∧ '.' :: reference.typeName <:+ key

/-- The keys that a reference asks an index for: its qualified name and those that suit it. -/
def Reference.AsksFor (reference : Reference) (key : Text) : Prop :=
  key = reference.qualified ∨ reference.Suits key

instance (reference : Reference) (key : Text) : Decidable (reference.AsksFor key) :=
  inferInstanceAs (Decidable (_ ∨ _ ∧ _))

theorem Reference.suits_shortQualified (reference : Reference) :
    reference.Suits reference.shortQualified := by
  constructor
  · exact List.prefix_append _ _
  · exact List.suffix_append _ _

theorem Index.fits_iff_suits (reference : Reference) (key : Text) :
    fits reference.shortPackage reference.typeName key = true ↔ reference.Suits key := by
  simp [fits, Reference.Suits, List.isPrefixOf_iff_prefix, List.isSuffixOf_iff_suffix]

/-- The first of two lookups that hits. -/
theorem findSome?_pair {α β : Type} (find : α → Option β) (first second : α) :
    [first, second].findSome? find = (find first).or (find second) := by
  rw [List.findSome?_cons, List.findSome?_cons, List.findSome?_nil]
  cases find first with
  | some found => rfl
  | none =>
      cases find second with
      | some found => rfl
      | none => rfl

/-! ## The meaning of a reference -/

/-- The declaration that a mapping of keys has for a reference, if any. -/
inductive Meets (lookup : Text → Option Entry) (reference : Reference) : Option Entry → Prop
  | byQualified {entry : Entry} (found : lookup reference.qualified = some entry) :
      Meets lookup reference (some entry)
  | byShort {entry : Entry} (noExact : lookup reference.qualified = none)
      (found : lookup reference.shortQualified = some entry) : Meets lookup reference (some entry)
  | bySuffix {key : Text} {entry : Entry} (noExact : lookup reference.qualified = none)
      (noShort : lookup reference.shortQualified = none) (suits : reference.Suits key)
      (found : lookup key = some entry)
      (least : ∀ other, reference.Suits other → lookup other ≠ none → Text.le key other = true) :
      Meets lookup reference (some entry)
  | missing (noExact : lookup reference.qualified = none)
      (noSuited : ∀ key, reference.Suits key → lookup key = none) : Meets lookup reference none

/-- A key has a built-in expression; an empty one counts as none. -/
def Tables.Expresses (tables : Tables) (key expression : Text) : Prop :=
  Dict.get? key tables.builtins = some expression ∧ expression ≠ []

/-- What a reference denotes under some tables and a mapping of keys. -/
inductive Denotes (tables : Tables) (lookup : Text → Option Entry) (reference : Reference) :
    Option Target → Prop
  | builtin {expression : Text} (expressed : tables.Expresses reference.qualified expression) :
      Denotes tables lookup reference (some (.expression expression))
  | shortBuiltin {expression : Text}
      (noExact : ∀ other, ¬tables.Expresses reference.qualified other)
      (expressed : tables.Expresses reference.shortQualified expression) :
      Denotes tables lookup reference (some (.expression expression))
  | declared {found : Option Entry}
      (noExact : ∀ other, ¬tables.Expresses reference.qualified other)
      (noShort : ∀ other, ¬tables.Expresses reference.shortQualified other)
      (meets : Meets lookup reference found) :
      Denotes tables lookup reference (found.map .declaration)

theorem denotes_none_iff {tables : Tables} {lookup : Text → Option Entry} {reference : Reference} :
    Denotes tables lookup reference none ↔
      (∀ expression, ¬tables.Expresses reference.qualified expression) ∧
        (∀ expression, ¬tables.Expresses reference.shortQualified expression) ∧
        lookup reference.qualified = none ∧ ∀ key, reference.Suits key → lookup key = none := by
  constructor
  · intro denotes
    generalize target_eq : none = target at denotes
    cases denotes with
    | builtin expressed => cases target_eq
    | shortBuiltin noExact expressed => cases target_eq
    | declared noExact noShort meets =>
        cases meets with
        | missing noQualified noSuited => exact ⟨noExact, noShort, noQualified, noSuited⟩
        | byQualified found => cases target_eq
        | byShort noQualified found => cases target_eq
        | bySuffix noQualified noShort suits found least => cases target_eq
  · rintro ⟨noExact, noShort, noQualified, noSuited⟩
    exact .declared noExact noShort (.missing noQualified noSuited)

/-! ## The fallback -/

namespace Index

variable {index : Index} {pairs : List (Text × Entry)} {pair : Text × Entry} {entry : Entry}
  {start typeName : Text}

theorem least?_eq_none_iff : least? pairs = none ↔ pairs = [] := by
  cases pairs with
  | nil => simp [least?]
  | cons first rest =>
      rw [least?]
      split
      · simp
      · split
        · simp
        · simp

/-- The least pair comes before all others. -/
theorem le_of_least? (found : least? pairs = some pair) :
    ∀ other ∈ pairs, Text.le pair.1 other.1 = true := by
  induction pairs generalizing pair with
  | nil => cases found
  | cons first rest ih =>
      rw [least?] at found
      intro other member
      split at found
      · rename_i alone
        rw [least?_eq_none_iff.mp alone, List.mem_singleton] at member
        rw [member, ← Option.some.inj found]
        exact Text.le_refl _
      · rename_i later laterFound
        split at found
        · rename_i before
          rw [← Option.some.inj found]
          rcases List.mem_cons.mp member with rfl | inRest
          · exact Text.le_refl _
          · exact Text.le_trans before (ih laterFound other inRest)
        · rename_i notBefore
          rw [← Option.some.inj found]
          rcases List.mem_cons.mp member with rfl | inRest
          · exact (Text.le_total _ _).resolve_left notBefore
          · exact ih laterFound other inRest

theorem get?_ne_none_iff {key : Text} : index.get? key ≠ none ↔ key ∈ Dict.keys index.entries := by
  rw [get?, Ne, Dict.get?_eq_none_iff, not_not]

theorem bySuffix?_eq_none_iff :
    index.bySuffix? start typeName = none ↔
      ∀ key, fits start typeName key = true → index.get? key = none := by
  rw [bySuffix?, Option.map_eq_none_iff, least?_eq_none_iff, List.filter_eq_nil_iff]
  constructor
  · intro unlisted key fitting
    apply Dict.get?_eq_none_iff.mpr
    intro member
    rcases List.mem_map.mp member with ⟨pair, listed, rfl⟩
    exact unlisted pair listed fitting
  · intro missing pair listed fitting
    have absent := Dict.get?_eq_none_iff.mp (missing pair.1 fitting)
    exact absent (List.mem_map_of_mem listed)

/-- The fallback takes the smallest of the fitting keys. -/
theorem bySuffix?_eq_some_iff (once : (Dict.keys index.entries).Nodup) :
    index.bySuffix? start typeName = some entry ↔
      ∃ key, fits start typeName key = true ∧ index.get? key = some entry ∧
        ∀ other, fits start typeName other = true → index.get? other ≠ none →
          Text.le key other = true := by
  constructor
  · intro found
    rcases Option.map_eq_some_iff.mp found with ⟨⟨key, held⟩, least, rfl⟩
    rcases List.mem_filter.mp (least?_mem least) with ⟨listed, fitting⟩
    refine ⟨key, fitting, (Dict.get?_eq_some_iff_mem once).mpr listed, ?_⟩
    intro other otherFits present
    rcases List.mem_map.mp (get?_ne_none_iff.mp present) with ⟨pair, otherListed, rfl⟩
    exact le_of_least? least pair (List.mem_filter.mpr ⟨otherListed, otherFits⟩)
  · rintro ⟨key, fitting, found, least⟩
    have listed : (key, entry) ∈ index.entries := Dict.mem_of_get? found
    cases chosen : least? (index.entries.filter fun pair => fits start typeName pair.1) with
    | none =>
        have inside : (key, entry) ∈ index.entries.filter fun pair => fits start typeName pair.1 :=
          List.mem_filter.mpr ⟨listed, fitting⟩
        rw [least?_eq_none_iff.mp chosen] at inside
        cases inside
    | some pair =>
        rcases List.mem_filter.mp (least?_mem chosen) with ⟨pairListed, pairFits⟩
        have present : index.get? pair.1 = some pair.2 :=
          (Dict.get?_eq_some_iff_mem once).mpr pairListed
        have before := least pair.1 pairFits (by simp [present])
        have after := le_of_least? chosen _ (List.mem_filter.mpr ⟨listed, fitting⟩)
        have same : key = pair.1 := Text.le_antisymm before after
        rw [same, present] at found
        rw [bySuffix?, chosen]
        exact found

/-- Resolving a reference finds the declaration that the index, as a mapping, has for it. -/
theorem resolve?_eq_iff_meets (once : (Dict.keys index.entries).Nodup) {reference : Reference}
    {found : Option Entry} :
    index.resolve? reference = found ↔ Meets index.get? reference found := by
  have resolve_eq : index.resolve? reference =
      ((index.get? reference.qualified).or (index.get? reference.shortQualified)).or
        (index.bySuffix? reference.shortPackage reference.typeName) := by
    rw [resolve?, firstOf?, findSome?_pair]
    cases (index.get? reference.qualified).or (index.get? reference.shortQualified) with
    | none => rfl
    | some entry => rfl
  constructor
  · rintro rfl
    rw [resolve_eq]
    cases full : index.get? reference.qualified with
    | some entry => exact .byQualified full
    | none =>
        cases short : index.get? reference.shortQualified with
        | some entry => exact .byShort full short
        | none =>
            rw [Option.none_or, Option.none_or]
            cases fallback : index.bySuffix? reference.shortPackage reference.typeName with
            | some entry =>
                rcases (bySuffix?_eq_some_iff once).mp fallback with ⟨key, fitting, held, least⟩
                simp only [fits_iff_suits] at fitting least
                exact .bySuffix full short fitting held least
            | none =>
                have unsuited := bySuffix?_eq_none_iff.mp fallback
                simp only [fits_iff_suits] at unsuited
                exact .missing full unsuited
  · intro meets
    rw [resolve_eq]
    cases meets with
    | byQualified found => simp [found]
    | byShort noExact found => simp [noExact, found]
    | bySuffix noExact noShort suits found least =>
        simp only [← fits_iff_suits] at suits least
        simp [noExact, noShort, (bySuffix?_eq_some_iff once).mpr ⟨_, suits, found, least⟩]
    | missing noExact noSuited =>
        have noShort := noSuited _ reference.suits_shortQualified
        simp only [← fits_iff_suits] at noSuited
        simp [noExact, noShort, bySuffix?_eq_none_iff.mpr noSuited]

end Index

/-! ## The whole chain -/

namespace Tables

variable {tables : Tables} {reference : Reference} {expression : Text}

/-- The expression of a key, an empty one counting as none. -/
def expressed? (tables : Tables) (key : Text) : Option Text :=
  (Dict.get? key tables.builtins).filter fun expression => !expression.isEmpty

theorem expressed?_eq_some_iff {key : Text} :
    tables.expressed? key = some expression ↔ tables.Expresses key expression := by
  simp [expressed?, Expresses, Option.filter_eq_some_iff]

theorem expressed?_eq_none_iff {key : Text} :
    tables.expressed? key = none ↔ ∀ other, ¬tables.Expresses key other := by
  simp only [← expressed?_eq_some_iff, Option.eq_none_iff_forall_ne_some, ne_eq]

theorem expression?_eq_or (tables : Tables) (reference : Reference) :
    tables.expression? reference =
      (tables.expressed? reference.qualified).or (tables.expressed? reference.shortQualified) := by
  rw [← findSome?_pair, expression?]
  apply congrArg (List.findSome? · [reference.qualified, reference.shortQualified])
  funext key
  rw [expressed?]
  cases Dict.get? key tables.builtins with
  | none => rfl
  | some expression =>
      cases expression with
      | nil => rfl
      | cons char rest => rfl

theorem expression?_eq_none_iff :
    tables.expression? reference = none ↔
      (∀ other, ¬tables.Expresses reference.qualified other) ∧
        ∀ other, ¬tables.Expresses reference.shortQualified other := by
  rw [expression?_eq_or, Option.or_eq_none_iff, expressed?_eq_none_iff, expressed?_eq_none_iff]

theorem expression?_eq_some_iff :
    tables.expression? reference = some expression ↔
      tables.Expresses reference.qualified expression ∨
        (∀ other, ¬tables.Expresses reference.qualified other) ∧
          tables.Expresses reference.shortQualified expression := by
  rw [expression?_eq_or, Option.or_eq_some_iff, expressed?_eq_some_iff, expressed?_eq_none_iff,
    expressed?_eq_some_iff]

end Tables

/-- The chain finds what a reference denotes. -/
theorem Target.find?_eq_iff_denotes {tables : Tables} {index : Index}
    (once : (Dict.keys index.entries).Nodup) {reference : Reference} {found : Option Target} :
    Target.find? tables index reference = found ↔ Denotes tables index.get? reference found := by
  constructor
  · rintro rfl
    rw [Target.find?]
    cases expressed : tables.expression? reference with
    | some expression =>
        rcases Tables.expression?_eq_some_iff.mp expressed with full | ⟨noFull, short⟩
        · exact .builtin full
        · exact .shortBuiltin noFull short
    | none =>
        rcases Tables.expression?_eq_none_iff.mp expressed with ⟨noFull, noShort⟩
        exact .declared noFull noShort ((Index.resolve?_eq_iff_meets once).mp rfl)
  · intro denotes
    rw [Target.find?]
    cases denotes with
    | builtin expressed => rw [Tables.expression?_eq_some_iff.mpr (.inl expressed)]
    | shortBuiltin noExact expressed =>
        rw [Tables.expression?_eq_some_iff.mpr (.inr ⟨noExact, expressed⟩)]
    | declared noExact noShort meets =>
        rw [Tables.expression?_eq_none_iff.mpr ⟨noExact, noShort⟩,
          (Index.resolve?_eq_iff_meets once).mpr meets]

/-- The chain finds nothing exactly when there is no built-in expression and the index has none of
the keys that are asked for. -/
theorem Target.find?_eq_none_iff {tables : Tables} {index : Index}
    (once : (Dict.keys index.entries).Nodup) {reference : Reference} :
    Target.find? tables index reference = none ↔
      tables.expression? reference = none ∧
        ∀ key, reference.AsksFor key → index.get? key = none := by
  rw [find?_eq_iff_denotes once, denotes_none_iff, Tables.expression?_eq_none_iff, and_assoc]
  refine and_congr_right fun _ => and_congr_right fun _ => ⟨?_, ?_⟩
  · rintro ⟨noQualified, noSuited⟩ key (rfl | suits)
    · exact noQualified
    · exact noSuited key suits
  · intro nothing
    exact ⟨nothing _ (.inl rfl), fun key suits => nothing key (.inr suits)⟩

/-! ## The index of analysed files -/

namespace Index

/-- What the index of analysed files has for a spelled reference is a declaration of its type
name. -/
theorem exportName_of_meets {tables : Tables} {analyses : List Analysis}
    (produced : ∀ analysis ∈ analyses, analysis.Produced) {reference : Reference}
    (spelled : reference.Spelled) {entry : Entry}
    (meets : Meets (ofAnalyses tables analyses).get? reference (some entry)) :
    entry.exportName = reference.typeName := by
  have named : ∀ key scope, key = keyOf scope reference.typeName →
      (ofAnalyses tables analyses).get? key = some entry →
        entry.exportName = reference.typeName := by
    intro key scope key_eq found
    have listed := Dict.mem_of_get? found
    rcases keyed_build _ _ _ key entry listed with ⟨other, other_eq⟩
    rcases stems_build _ _ _ key entry listed with ⟨analysis, member, name, exported, rfl⟩
    have plain : '.' ∉ name := (produced analysis member).dot_not_mem exported
    rw [other_eq] at key_eq
    exact ((keyOf_eq_keyOf_iff plain spelled.dot_not_mem).mp key_eq).2
  cases meets with
  | byQualified found => exact named _ reference.package rfl found
  | byShort _ found => exact named _ reference.shortPackage rfl found
  | bySuffix _ _ suits found _ =>
      rcases suits.2 with ⟨scope, key_eq⟩
      exact named _ scope key_eq.symm found

end Index

namespace Resolution

/-- A decision acts on the target that was found for its reference. -/
def ActsOn (consumer : Path) : Option Target → Decision → Prop
  | none, decision => decision = .unresolved
  | some (.expression expression), decision => decision = .builtin expression
  | some (.declaration entry), decision =>
      if entry.path = consumer then decision = .sameFile entry.exportName
      else ∃ localName, decision = .crossFile entry localName

theorem settle_actsOn (tables : Tables) (index : Index) (consumer : Path) (plan : Plan)
    (reference : Reference) :
    ActsOn consumer (Target.find? tables index reference)
      (settle tables index consumer plan reference).1 := by
  unfold settle
  cases Target.find? tables index reference with
  | none => rfl
  | some target =>
      cases target with
      | expression expression => rfl
      | declaration entry =>
          by_cases inside : entry.path = consumer
          · simp [ActsOn, inside]
          · simp [ActsOn, inside]

theorem ActsOn.unresolved_iff {consumer : Path} {found : Option Target} {decision : Decision}
    (acts : ActsOn consumer found decision) : decision = .unresolved ↔ found = none := by
  cases found with
  | none =>
      rw [ActsOn] at acts
      simp [acts]
  | some target =>
      cases target with
      | expression expression =>
          rw [ActsOn] at acts
          simp [acts]
      | declaration entry =>
          rw [ActsOn] at acts
          split at acts
          · simp [acts]
          · rcases acts with ⟨localName, rfl⟩
            simp

/-- Every placeholder of an analysed file is decided by what it denotes under the index of analysed
files, whatever the order of the entries of the index.  It stays exactly when neither name has a
built-in expression and the index has neither its qualified name nor a key that suits it; and every
declaration that the index has for it carries its type name. -/
theorem decided_by_meaning {tables : Tables} {analyses : List Analysis}
    (produced : ∀ analysis ∈ analyses, analysis.Produced) {consumer : Analysis}
    (scanned : consumer.Produced) {order : Dict Text Entry}
    (perm : order.Perm (Index.ofAnalyses tables analyses).entries) {step : Step}
    (member : step ∈ (ofAnalysis tables ⟨order⟩ consumer).steps) :
    let lookup := (Index.ofAnalyses tables analyses).get?
    let reference := step.reference
    (∀ found, Target.find? tables ⟨order⟩ reference = found ↔
        Denotes tables lookup reference found) ∧
      ActsOn consumer.path (Target.find? tables ⟨order⟩ reference) step.decision ∧
      (step.decision = .unresolved ↔
        (∀ expression, ¬tables.Expresses reference.qualified expression) ∧
          (∀ expression, ¬tables.Expresses reference.shortQualified expression) ∧
          lookup reference.qualified = none ∧
          ∀ key, reference.Suits key → lookup key = none) ∧
      ∀ entry, Index.resolve? ⟨order⟩ reference = some entry →
        entry.exportName = reference.typeName := by
  intro lookup reference
  let index := Index.ofAnalyses tables analyses
  have once : (Dict.keys index.entries).Nodup := Index.nodup_keys_build _ _ _
  have orderOnce : (Dict.keys order).Nodup := (perm.map Prod.fst).nodup_iff.mpr once
  have lookup_eq : Index.get? ⟨order⟩ = lookup := by
    funext key
    exact Dict.get?_eq_of_perm once perm key
  have found_iff : ∀ found, Target.find? tables ⟨order⟩ reference = found ↔
      Denotes tables lookup reference found := by
    intro found
    rw [← lookup_eq]
    exact Target.find?_eq_iff_denotes orderOnce
  have acts : ActsOn consumer.path (Target.find? tables ⟨order⟩ reference) step.decision := by
    rw [decision_eq_settle member]
    exact settle_actsOn tables ⟨order⟩ consumer.path _ reference
  refine ⟨found_iff, acts, ?_, ?_⟩
  · rw [acts.unresolved_iff, found_iff]
    exact denotes_none_iff
  · intro entry resolved
    have spelled : reference.Spelled := scanned.spelled (placeholder_mem member)
    have meets : Meets lookup reference (some entry) := by
      rw [← lookup_eq]
      exact (Index.resolve?_eq_iff_meets orderOnce).mp resolved
    exact Index.exportName_of_meets produced spelled meets

/-- Two registered modules that declare one name. -/
def rivals : List Analysis :=
  [⟨⟨.relative, ["gen".toList, "caddy-tls.ts".toList]⟩, "tls".toList, .core,
      ["Policy".toList], []⟩,
    ⟨⟨.relative, ["gen".toList, "caddy-http.ts".toList]⟩, "http".toList, .core,
      ["Policy".toList], []⟩]

theorem produced_rivals : ∀ analysis ∈ rivals, analysis.Produced := by
  intro analysis member
  rcases List.mem_pair.mp member with rfl | rfl
  · exact ⟨Tables.defaultFamilies, "gen/caddy-tls.ts".toList, .core,
      "export type Policy = 1;\n".toList, by decide +kernel⟩
  · exact ⟨Tables.defaultFamilies, "gen/caddy-http.ts".toList, .core,
      "export type Policy = 2;\n".toList, by decide +kernel⟩

/-- A file that names them by the start of both registered packages. -/
def policyFile : Analysis :=
  ⟨⟨.relative, ["gen".toList, "authcrunch-acl.ts".toList]⟩, "acl".toList, .core, [],
    [⟨⟨"x.caddy".toList, "Policy".toList⟩, 1⟩]⟩

theorem produced_policyFile : policyFile.Produced :=
  ⟨Tables.defaultFamilies, "gen/authcrunch-acl.ts".toList, .core,
    "p: any /* x.caddy.Policy */;\n".toList, by decide +kernel⟩

/-- The step that the file takes: the reference leads to the module whose key is the smaller. -/
def policyStep : Step :=
  ⟨⟨⟨"x.caddy".toList, "Policy".toList⟩, 1⟩,
    .crossFile ⟨.ofText "gen/caddy-http.ts".toList, "Policy".toList, "http".toList⟩
      "Policy".toList⟩

/-- Both registered keys suit the reference, and the smaller one counts also when the entries stand
in reverse order. -/
theorem decided_by_meaning_of_rivals :
    let index := Index.ofAnalyses Tables.default rivals
    (∀ analysis ∈ rivals, analysis.Produced) ∧ policyFile.Produced ∧
      index.entries.reverse.Perm index.entries ∧
      policyStep ∈ (ofAnalysis Tables.default ⟨index.entries.reverse⟩ policyFile).steps ∧
      Denotes Tables.default index.get? policyStep.reference
        (some (.declaration
          ⟨.ofText "gen/caddy-http.ts".toList, "Policy".toList, "http".toList⟩)) := by
  intro index
  have perm : index.entries.reverse.Perm index.entries := List.reverse_perm index.entries
  have member : policyStep ∈
      (ofAnalysis Tables.default ⟨index.entries.reverse⟩ policyFile).steps := by
    simp only [index, Tables.default_eq_decoded]
    decide +kernel
  have decided := decided_by_meaning produced_rivals produced_policyFile perm member
  refine ⟨produced_rivals, produced_policyFile, perm, member, ?_⟩
  refine (decided.1 _).mp ?_
  simp only [index, Tables.default_eq_decoded]
  decide +kernel

end Resolution

end DeclLinker
