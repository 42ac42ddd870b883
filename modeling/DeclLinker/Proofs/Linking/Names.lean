import DeclLinker.Proofs.Import.Fresh
import DeclLinker.Proofs.Linking.Blocks
import DeclLinker.Proofs.Linking.Splice
import DeclLinker.Proofs.Linking.Survival
import DeclLinker.Proofs.Repair.Surroundings
import DeclLinker.Proofs.Resolution.Replacement
import DeclLinker.Proofs.Source.Guard

/-!
# The names of a linked text

The names of a text are those that its import statements bind and those that it exports.  Linking a
guarded text adds to them what the plan binds and what placed declarations export, and nothing else.
The plan avoids all exports but knows nothing of import statements that the text already holds.  So
the names of the linked text are distinct exactly when those of the text are and the new ones are
fresh: no planned name is bound by an import statement of the text, and no placed declaration is
among its names.
-/

namespace DeclLinker

open Text

/-- The names that the import statements of a text bind, and those it exports. -/
def names (text : Text) : List Text :=
  collect Import.bound text ++ (Scan.ofText text).exports

/-- A text without line feeds and carriage returns. -/
def OneLine (text : Text) : Prop :=
  '\n' ∉ text ∧ '\r' ∉ text

instance (text : Text) : Decidable (OneLine text) :=
  inferInstanceAs (Decidable (_ ∧ _))

theorem oneLine_of_naming {name : Text} (naming : ∀ char ∈ name, isNaming char = true) :
    OneLine name :=
  ⟨fun feed => absurd (naming _ feed) (by decide), fun back => absurd (naming _ back) (by decide)⟩

/-- Named entries and expressions of one line supply replacements of one line. -/
theorem Supplies.oneLine {tables : Tables} {index : Index}
    (expressions : ∀ key expression, (key, expression) ∈ tables.builtins → OneLine expression)
    (named : ∀ key entry, (key, entry) ∈ index.entries → entry.Named) :
    Supplies tables index OneLine where
  builtin reference expression found := by
    obtain ⟨-, key, member⟩ := Tables.expression?_mem found
    exact expressions key expression member
  declared key entry member := oneLine_of_naming fun char inside =>
    isNaming_of_isWord ((named key entry member).exportName_word char inside)
  aliased key entry member reserved := oneLine_of_naming
    (Alias.mint_naming (named key entry member) reserved)

namespace Step

variable {α : Type} {read : Text → List α}

/-- A step on a guarded text keeps what headings tell. -/
theorem collect_edit (reader : ReadsHeading read) {step : Step}
    (spelled : step.reference.Spelled)
    (oneLine : ∀ replacement, step.decision.replacement? = some replacement → OneLine replacement)
    {text : Text} (guarded : Reference.Guarded text) :
    collect read (step.edit text) = collect read text := by
  unfold Step.edit
  split
  · rename_i replacement replaced
    rcases replaceFirst_cases step.placeholder.text replacement text with
      ⟨-, same⟩ | ⟨before, rest, rfl, edited⟩
    · rw [same]
    · rw [edited]
      exact guarded.collect_replace reader spelled (oneLine replacement replaced).1
  · rfl

/-- The steps on a guarded text keep what headings tell. -/
theorem collect_foldl_edit (reader : ReadsHeading read) {steps : List Step}
    (spelled : ∀ step ∈ steps, step.reference.Spelled)
    (oneLine : ∀ step ∈ steps, ∀ replacement, step.decision.replacement? = some replacement →
      OneLine replacement) {text : Text} (guarded : Reference.Guarded text) :
    collect read (steps.foldl Step.edit text) = collect read text := by
  induction steps generalizing text with
  | nil => rfl
  | cons step steps ih =>
      have keep : ∀ {β : Type} {read : Text → List β}, ReadsHeading read →
          collect read (step.edit text) = collect read text := fun reader =>
        collect_edit reader (spelled step List.mem_cons_self) (oneLine step List.mem_cons_self)
          guarded
      have stays : Reference.Guarded (step.edit text) :=
        (keep Reference.readsHeading_misplaced).trans guarded
      rw [List.foldl_cons, ih (fun other member => spelled other (.tail step member))
        (fun other member => oneLine other (.tail step member)) stays, keep reader]

/-- Steps bring no carriage return into a text. -/
theorem return_not_mem_foldl_edit {steps : List Step}
    (oneLine : ∀ step ∈ steps, ∀ replacement, step.decision.replacement? = some replacement →
      OneLine replacement) {text : Text} (absent : '\r' ∉ text) :
    '\r' ∉ steps.foldl Step.edit text := by
  induction steps generalizing text with
  | nil => exact absent
  | cons step steps ih =>
      rw [List.foldl_cons]
      refine ih (fun other member => oneLine other (.tail step member)) ?_
      unfold Step.edit
      split
      · rename_i replacement replaced
        rcases replaceFirst_cases step.placeholder.text replacement text with
          ⟨-, same⟩ | ⟨before, rest, rfl, edited⟩
        · rwa [same]
        · have inReplacement := (oneLine step List.mem_cons_self replacement replaced).2
          rw [edited]
          simp only [List.mem_append, not_or] at absent ⊢
          exact ⟨absent.1, inReplacement, absent.2.2⟩
      · exact absent

end Step

namespace Settings

/-- The hand-written declarations of every settings are guarded, bind nothing, export different
names and hold no carriage return. -/
theorem synthetic_spec (settings : Settings) (fileName : Text) :
    let block := (Dict.get? fileName settings.tables.synthetic).getD []
    Reference.Guarded block ∧ collect Import.bound block = [] ∧
      (Scan.ofText block).exports.Nodup ∧ '\r' ∉ block := by
  simp only [Settings.tables, Tables.extended, Dict.get?]
  split
  · simp only [Tables.decodedDeclarations.property]
    decide +kernel
  · decide

end Settings

namespace Linked

/-- What linking needs of the settings and the index for a file: expressions of one line, named
entries, and specifiers of statement characters. -/
structure Orderly (here : Location) (settings : Settings) (path : Path) (index : Index) : Prop where
  expressions : ∀ key expression, (key, expression) ∈ settings.tables.builtins →
    OneLine expression
  named : ∀ key entry, (key, entry) ∈ index.entries → entry.Named
  reached : ∀ key entry, (key, entry) ∈ index.entries →
    ∀ char ∈ Path.specifier here path entry.path settings.corpus.suffix,
      Import.isStatementChar char = true

/-- The new names of a file are fresh: no planned name is bound by an import statement of its text,
and no declaration that is placed is among its names. -/
def Fresh (settings : Settings) (index : Index) (analysis : Analysis) (text : Text) : Prop :=
  (∀ name ∈ (Resolution.ofAnalysis settings.tables index analysis).plan.planned,
    name ∉ collect Import.bound text) ∧
  (0 < (Placed.declarations settings.tables analysis.fileName
      (Repaired.ofRules settings.tables.rules text).text).added →
    ∀ name ∈ Resolution.syntheticExports settings.tables analysis.fileName, name ∉ names text)

instance (settings : Settings) (index : Index) (analysis : Analysis) (text : Text) :
    Decidable (Fresh settings index analysis text) :=
  inferInstanceAs (Decidable (_ ∧ _))

variable {here : Location} {settings : Settings} {path : Path} {index : Index} {text : Text}

/-- The import statements of a file consist of statement characters. -/
theorem Orderly.stated (orderly : Orderly here settings path index) (analysis : Analysis) :
    ∀ statement ∈ Import.statements here path settings.corpus.suffix
      (Resolution.ofAnalysis settings.tables index analysis).plan.schedule,
      Import.Stated statement := by
  have tidy : (Resolution.ofAnalysis settings.tables index analysis).plan.Tidy
      fun producer => ∃ key entry, (key, entry) ∈ index.entries ∧ entry.path = producer :=
    (Resolution.drawnFrom_ofAnalysis settings.tables index analysis).tidy
      fun key entry member => ⟨⟨key, entry, member, rfl⟩, orderly.named key entry member⟩
  refine Import.stated_statements tidy ?_
  rintro producer ⟨key, entry, member, rfl⟩
  exact orderly.reached key entry member

theorem Orderly.oneLine (orderly : Orderly here settings path index) (analysis : Analysis) :
    ∀ step ∈ (Resolution.ofAnalysis settings.tables index analysis).steps, ∀ replacement,
      step.decision.replacement? = some replacement → OneLine replacement := by
  have supplies := Supplies.oneLine orderly.expressions orderly.named
  exact fun step member replacement replaced =>
    Resolution.replacement_of_supplies supplies member replaced

theorem guarded_prepared (settings : Settings) (fileName : Text)
    (guarded : Reference.Guarded text) :
    Reference.Guarded (prepared settings.tables fileName text) := by
  have empty : Reference.misplaced [] = [] := rfl
  have repaired := Repaired.collect_ofRules_sublist Reference.readsHeading_misplaced text
  rw [guarded, List.sublist_nil] at repaired
  have placed := Placed.declarations_perm empty settings.synthetic_closed fileName
    (Repaired.ofRules Rule.builtin text).text
  have block := (settings.synthetic_spec fileName).1
  rw [Reference.Guarded] at block
  rw [repaired, block, ite_self] at placed
  exact placed.eq_nil

/-- What a text announces before its edits: what it announced, and what placed declarations
announce. -/
theorem collect_prepared_perm {α : Type} {read : Text → List α} (reader : ReadsAnnounced read)
    (empty : read [] = []) (settings : Settings) (fileName text : Text) :
    (collect read (prepared settings.tables fileName text)).Perm
      ((if 0 < (Placed.declarations settings.tables fileName
            (Repaired.ofRules settings.tables.rules text).text).added then
          collect read ((Dict.get? fileName settings.tables.synthetic).getD [])
        else []) ++ collect read text) := by
  rw [← Repaired.collect_ofRules reader text]
  exact Placed.declarations_perm empty settings.synthetic_closed fileName _

section Linking

variable (families : List Text) (tier : Tier) (orderly : Orderly here settings path index)
  (guarded : Reference.Guarded text)

include orderly guarded

/-- What headings tell of a linked text: what they told of the text before its edits, and what its
new import statements tell. -/
theorem collect_linked_perm {α : Type} {read : Text → List α} (reader : ReadsHeading read)
    (empty : read [] = []) :
    let analysis := Analysis.ofText families path tier text
    let plan := (Resolution.ofAnalysis settings.tables index analysis).plan
    (collect read
      (ofText here settings.tables settings.corpus.suffix index analysis text).text).Perm
      ((Import.statements here path settings.corpus.suffix plan.schedule).flatMap read ++
        collect read (prepared settings.tables path.name text)) := by
  intro analysis plan
  have stated := orderly.stated analysis
  have flat : ∀ statement ∈ Import.statements here path settings.corpus.suffix plan.schedule,
      '\n' ∉ statement := fun statement member feed =>
    absurd ((stated statement member).chars '\n' feed) (by decide)
  have edited := Step.collect_foldl_edit reader
    (fun step member => Resolution.reference_spelled member) (orderly.oneLine analysis)
    (guarded_prepared settings path.name guarded)
  have imported := Placed.imports_perm empty here settings.tables.banner settings.corpus.suffix path
    plan.schedule ((Resolution.ofAnalysis settings.tables index analysis).edit
      (prepared settings.tables path.name text))
  rw [Import.collect_block empty flat, Resolution.edit, edited] at imported
  exact imported

/-- A linked text is guarded. -/
theorem guarded_linked :
    Reference.Guarded (ofText here settings.tables settings.corpus.suffix index
      (Analysis.ofText families path tier text) text).text := by
  have linked := collect_linked_perm families tier orderly guarded Reference.readsHeading_misplaced
    rfl
  have statements : (Import.statements here path settings.corpus.suffix
      (Resolution.ofAnalysis settings.tables index (Analysis.ofText families path tier
        text)).plan.schedule).flatMap Reference.misplaced = [] := by
    refine List.flatMap_eq_nil_iff.2 fun statement member => ?_
    have noStar : '*' ∉ heading statement := fun star =>
      absurd ((orderly.stated _ statement member).chars '*'
        ((List.takeWhile_prefix _).subset star)) (by decide)
    exact Reference.findAll_of_star_not_mem noStar
  have kept := guarded_prepared settings path.name guarded
  rw [Reference.Guarded] at kept
  dsimp only at linked
  rw [statements, kept] at linked
  exact linked.eq_nil

/-- The names of a linked text: what its plan binds, what placed declarations export, and the names
of the text. -/
theorem names_linked_perm :
    let analysis := Analysis.ofText families path tier text
    (names (ofText here settings.tables settings.corpus.suffix index analysis text).text).Perm
      ((Resolution.ofAnalysis settings.tables index analysis).plan.planned ++
        ((if 0 < (Placed.declarations settings.tables path.name
              (Repaired.ofRules settings.tables.rules text).text).added then
            Resolution.syntheticExports settings.tables path.name
          else []) ++ names text)) := by
  intro analysis
  let schedule := (Resolution.ofAnalysis settings.tables index analysis).plan.schedule
  have bound : (collect Import.bound
      (ofText here settings.tables settings.corpus.suffix index analysis text).text).Perm
      ((Resolution.ofAnalysis settings.tables index analysis).plan.planned ++
        collect Import.bound text) := by
    refine (collect_linked_perm families tier orderly guarded
      Import.readsAnnounced_bound.toReadsHeading rfl).trans (.append ?_ ?_)
    · exact (Resolution.drawnFrom_ofAnalysis settings.tables index analysis).bound_statements
        orderly.named here path settings.corpus.suffix
    · have before := collect_prepared_perm Import.readsAnnounced_bound rfl settings path.name text
      rw [(settings.synthetic_spec path.name).2.1, ite_self] at before
      exact before
  have silent : (Import.statements here path settings.corpus.suffix schedule).flatMap
      Scan.exported = [] := by
    refine List.flatMap_eq_nil_iff.2 fun statement member => ?_
    have stated := orderly.stated analysis statement member
    have flat : '\n' ∉ statement := fun feed => absurd (stated.chars '\n' feed) (by decide)
    rw [← collect_of_flat Scan.exported flat, ← Scan.exports_eq, stated.exports_eq]
  have exports : (Scan.ofText
      (ofText here settings.tables settings.corpus.suffix index analysis text).text).exports.Perm
      ((if 0 < (Placed.declarations settings.tables path.name
            (Repaired.ofRules settings.tables.rules text).text).added then
          Resolution.syntheticExports settings.tables path.name
        else []) ++ (Scan.ofText text).exports) := by
    have linked := collect_linked_perm families tier orderly guarded
      Scan.readsAnnounced_exported.toReadsHeading rfl
    have before := collect_prepared_perm Scan.readsAnnounced_exported rfl settings path.name text
    dsimp only at linked
    rw [silent, List.nil_append] at linked
    simp only [Resolution.syntheticExports, Scan.exports_eq]
    exact linked.trans before
  refine (bound.append exports).trans ?_
  rw [names, List.append_assoc]
  exact (List.perm_append_comm_assoc _ _ _).append_left _

/-- The names of a linked text are distinct exactly when the new ones are fresh. -/
theorem nodup_names_linked_iff (distinct : (names text).Nodup) :
    let analysis := Analysis.ofText families path tier text
    (names (ofText here settings.tables settings.corpus.suffix index analysis text).text).Nodup ↔
      Fresh settings index analysis text := by
  intro analysis
  have planned := Resolution.distinct_ofAnalysis settings.tables index analysis
  have synthetic : (Resolution.syntheticExports settings.tables path.name).Nodup :=
    (settings.synthetic_spec path.name).2.2.1
  rw [(names_linked_perm families tier orderly guarded).nodup_iff, List.nodup_append,
    List.nodup_append]
  constructor
  · rintro ⟨-, ⟨-, -, placed⟩, apart⟩
    refine ⟨fun name member inText => ?_, fun injected name member inText => ?_⟩
    · refine apart name member name ?_ rfl
      exact List.mem_append_right _ (List.mem_append_left _ inText)
    · have added : 0 < (Placed.declarations settings.tables path.name
          (Repaired.ofRules settings.tables.rules text).text).added := injected
      rw [if_pos added] at placed
      exact placed name member name inText rfl
  · rintro ⟨fresh, placed⟩
    refine ⟨planned.nodup, ⟨?_, distinct, ?_⟩, ?_⟩
    · split
      · exact synthetic
      · exact List.nodup_nil
    · rintro name member _ inText rfl
      split at member
      · rename_i injected
        exact placed injected name member inText
      · cases member
    · rintro name member _ inRest rfl
      rcases List.mem_append.1 inRest with declared | inText
      · split at declared
        · exact planned.apart name member (List.mem_append_right _ declared)
        · cases declared
      · rcases List.mem_append.1 inText with inBound | exported
        · exact fresh name member inBound
        · exact planned.apart name member
            (List.mem_append_left _ (List.mem_eraseDups.2 exported))

omit guarded in
/-- Linking brings no carriage return into a text. -/
theorem return_not_mem_of_orderly (absent : '\r' ∉ text) :
    '\r' ∉ (ofText here settings.tables settings.corpus.suffix index
      (Analysis.ofText families path tier text) text).text := by
  intro member
  rcases Placed.mem_imports member with feed | ⟨statement, listed, inStatement⟩ | inEdited
  · exact absurd feed (by decide)
  · exact absurd ((orderly.stated _ statement listed).chars '\r' inStatement) (by decide)
  · refine Step.return_not_mem_foldl_edit (orderly.oneLine _) (fun inPrepared => ?_) inEdited
    rcases Placed.mem_declarations inPrepared with inBlock | inRepaired
    · exact (settings.synthetic_spec path.name).2.2.2 inBlock
    · exact Repaired.return_not_mem_ofRules absent inRepaired

end Linking

end Linked

end DeclLinker
