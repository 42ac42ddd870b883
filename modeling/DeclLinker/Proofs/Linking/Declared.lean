import DeclLinker.Proofs.Linking.Blocks
import DeclLinker.Proofs.Linking.Survival
import DeclLinker.Proofs.Repair.Surroundings
import DeclLinker.Proofs.Resolution.Replacement
import DeclLinker.Proofs.Source.Lasting

/-!
# Declarations outlive linking

Repairs leave alone what a text announces, blocks only add to it, and an edit cannot reach a lasting
name.  So every lasting name of a text is one of the linked text.  The replacements only have to
hold something and not to start with a slash; built-in expressions, exported names and their aliases
do so, unless a file name holds a slash.
-/

namespace DeclLinker

open Text

/-- A replacement that an edit cannot expose a name with. -/
def Unslashed (replacement : Text) : Prop :=
  replacement ≠ [] ∧ replacement.head? ≠ some '/'

namespace Alias

/-- An alias starts with a slash only if the module tag holds one. -/
theorem unslashed_mint {tag exportName : Text} (noSlash : '/' ∉ tag)
    (unslashed : Unslashed exportName) (reserved : List Text) :
    Unslashed (mint (base tag exportName) reserved) := by
  have leadFree : '/' ∉ lead tag := fun member =>
    noSlash (lastSegment_subset '-' tag '/' (mem_of_mem_capitalize (by decide) member))
  have baseUnslashed : Unslashed (base tag exportName) := by
    refine ⟨by simp [base, unslashed.1], ?_⟩
    unfold base
    cases lead_eq : lead tag with
    | nil => exact unslashed.2
    | cons first rest =>
        rintro head
        rw [lead_eq] at leadFree
        exact leadFree (Option.some.inj head ▸ List.mem_cons_self)
  rcases mint_cases (base tag exportName) reserved with same | ⟨number, numbered⟩
  · rw [same]
    exact baseUnslashed
  · rw [numbered]
    refine ⟨by simp [baseUnslashed.1], ?_⟩
    rw [List.head?_append_of_ne_nil _ baseUnslashed.1]
    exact baseUnslashed.2

end Alias

theorem unslashed_of_word {name : Text} (name_ne : name ≠ [])
    (nameWord : ∀ char ∈ name, isWord char = true) : Unslashed name := by
  refine ⟨name_ne, fun head => ?_⟩
  exact absurd (nameWord '/' (List.mem_of_head? head)) (by decide)

/-- Entries without slashes in their tags supply replacements that expose no name. -/
theorem Supplies.unslashed {tables : Tables} {index : Index}
    (expressions : ∀ key expression, (key, expression) ∈ tables.builtins →
      expression.head? ≠ some '/')
    (words : ∀ key entry, (key, entry) ∈ index.entries → entry.exportName ≠ [] ∧
      ∀ char ∈ entry.exportName, isWord char = true)
    (tags : ∀ key entry, (key, entry) ∈ index.entries → '/' ∉ entry.tag) :
    Supplies tables index Unslashed where
  builtin reference expression found := by
    obtain ⟨expression_ne, key, member⟩ := Tables.expression?_mem found
    exact ⟨expression_ne, expressions key expression member⟩
  declared key entry member :=
    unslashed_of_word (words key entry member).1 (words key entry member).2
  aliased key entry member reserved :=
    Alias.unslashed_mint (tags key entry member)
      (unslashed_of_word (words key entry member).1 (words key entry member).2) reserved

namespace Step

/-- Lasting names outlive a step. -/
theorem lasting_edit {step : Step} (spelled : step.reference.Spelled)
    (unslashed : ∀ replacement, step.decision.replacement? = some replacement →
      Unslashed replacement) (text : Text) :
    collect Scan.lasting text ⊆ collect Scan.lasting (step.edit text) := by
  intro name member
  unfold Step.edit
  split
  · rename_i replacement replaced
    obtain ⟨replacement_ne, noSlash⟩ := unslashed replacement replaced
    rcases replaceFirst_cases step.placeholder.text replacement text with
      ⟨-, same⟩ | ⟨before, rest, rfl, edited⟩
    · rwa [same]
    · rw [edited]
      exact Scan.lasting_edit spelled.feed_not_mem replacement_ne noSlash member
  · exact member

/-- Lasting names outlive a run of steps. -/
theorem lasting_foldl_edit {steps : List Step} (spelled : ∀ step ∈ steps, step.reference.Spelled)
    (unslashed : ∀ step ∈ steps, ∀ replacement, step.decision.replacement? = some replacement →
      Unslashed replacement) (text : Text) :
    collect Scan.lasting text ⊆ collect Scan.lasting (steps.foldl Step.edit text) := by
  induction steps generalizing text with
  | nil => exact List.Subset.refl _
  | cons step steps ih =>
      have first := lasting_edit (spelled step List.mem_cons_self)
        (unslashed step List.mem_cons_self) text
      have later := ih (fun other member => spelled other (.tail step member))
        (fun other member => unslashed other (.tail step member)) (step.edit text)
      exact List.Subset.trans first later

end Step

namespace Linked

/-- The lasting names of a text are lasting names of the linked text. -/
theorem lasting_linked (here : Location) (settings : Settings) {index : Index} (path : Path)
    (tier : Tier) (text : Text) (supplies : Supplies settings.tables index Unslashed) :
    collect Scan.lasting text ⊆ collect Scan.lasting
      (ofText here settings.tables settings.corpus.suffix index
        (Analysis.ofText settings.corpus.families path tier text) text).text := by
  let analysis := Analysis.ofText settings.corpus.families path tier text
  let resolution := Resolution.ofAnalysis settings.tables index analysis
  have empty : Scan.lasting [] = [] := rfl
  have repaired := Repaired.collect_ofRules Scan.readsAnnounced_lasting text
  have declared := Placed.declarations_perm empty settings.synthetic_closed path.name
    (Repaired.ofRules Rule.builtin text).text
  rw [repaired] at declared
  have spelled : ∀ step ∈ resolution.steps, step.reference.Spelled :=
    fun step member => Resolution.reference_spelled member
  have edited := Step.lasting_foldl_edit spelled
    (fun step member replacement replaced =>
      Resolution.replacement_of_supplies supplies member replaced)
    (prepared settings.tables path.name text)
  have imported := Placed.imports_perm empty here settings.tables.banner settings.corpus.suffix path
    resolution.plan.schedule (resolution.edit (prepared settings.tables path.name text))
  intro name member
  exact imported.symm.subset (List.mem_append_right _
    (edited (declared.symm.subset (List.mem_append_right _ member))))

end Linked

end DeclLinker
