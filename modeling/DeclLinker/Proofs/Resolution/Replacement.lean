import DeclLinker.Proofs.Dict
import DeclLinker.Proofs.Import.Naming
import DeclLinker.Proofs.Resolution.Decision
import DeclLinker.Proofs.Source.Isolation

/-!
# What placeholders are replaced by

A replacement is a built-in expression, an exported name of the index, or an alias minted for one.
So a property that all three have is one of every replacement of a file.  Under plain conditions on
the tables and the index, every replacement is inert.
-/

namespace DeclLinker

namespace Index

theorem least?_mem {pairs : List (Text × Entry)} {pair : Text × Entry}
    (found : least? pairs = some pair) : pair ∈ pairs := by
  induction pairs generalizing pair with
  | nil => cases found
  | cons first rest ih =>
      rw [least?] at found
      split at found
      · cases found
        exact List.mem_cons_self
      · rename_i other otherFound
        split at found
        · cases found
          exact List.mem_cons_self
        · cases found
          exact .tail _ (ih otherFound)

/-- A reference is resolved to an entry of the index. -/
theorem mem_of_resolve? {index : Index} {reference : Reference} {entry : Entry}
    (found : index.resolve? reference = some entry) : ∃ key, (key, entry) ∈ index.entries := by
  rw [resolve?] at found
  split at found
  · rename_i held exact
    cases found
    obtain ⟨key, -, keyFound⟩ := List.exists_of_findSome?_eq_some exact
    exact ⟨key, Dict.mem_of_get? keyFound⟩
  · obtain ⟨pair, least, rfl⟩ := Option.map_eq_some_iff.1 found
    exact ⟨pair.1, (List.mem_filter.1 (least?_mem least)).1⟩

end Index

theorem Tables.expression?_mem {tables : Tables} {reference : Reference} {expression : Text}
    (found : tables.expression? reference = some expression) :
    expression ≠ [] ∧ ∃ key, (key, expression) ∈ tables.builtins := by
  obtain ⟨key, -, keyFound⟩ := List.exists_of_findSome?_eq_some found
  split at keyFound
  · rename_i held get
    split at keyFound
    · cases keyFound
    · rename_i nonempty
      cases keyFound
      exact ⟨by simpa using nonempty, key, Dict.mem_of_get? get⟩
  · cases keyFound

/-- The entries of an index and the expressions of a table whose names are all of one kind. -/
structure Supplies (tables : Tables) (index : Index) (kind : Text → Prop) : Prop where
  builtin : ∀ reference expression, tables.expression? reference = some expression →
    kind expression
  declared : ∀ key entry, (key, entry) ∈ index.entries → kind entry.exportName
  aliased : ∀ key entry, (key, entry) ∈ index.entries → ∀ reserved,
    kind (Alias.mint (Alias.base entry.tag entry.exportName) reserved)

namespace Plan

/-- All local names of a plan are of one kind. -/
def AllOf (kind : Text → Prop) (plan : Plan) : Prop :=
  ∀ entry spec, plan.Binds entry spec → kind spec.localName

theorem allOf_start (kind : Text → Prop) (taken : List Text) : (start taken).AllOf kind := by
  intro entry spec binds
  cases binds

theorem AllOf.localName {kind : Text → Prop} {plan : Plan} (all : plan.AllOf kind) {entry : Entry}
    (fresh : kind (plan.newSpec entry).localName) : kind (plan.localName entry) := by
  rw [Plan.localName]
  cases held : Dict.get? entry.exportName (plan.specsOf entry.path) with
  | none => exact fresh
  | some spec => exact all entry spec held

theorem AllOf.need {kind : Text → Prop} {plan : Plan} (all : plan.AllOf kind) {entry : Entry}
    (fresh : kind (plan.newSpec entry).localName) : (plan.need entry).AllOf kind := by
  intro other spec binds
  by_cases has : Dict.has entry.exportName (plan.specsOf entry.path) = true
  · rw [Plan.need, if_pos has] at binds
    exact all other spec binds
  · rw [Plan.need, if_neg has, Binds, specsOf_put] at binds
    split at binds
    · rename_i samePath
      rw [Dict.get?_put] at binds
      split at binds
      · cases binds
        exact fresh
      · exact all other spec (by rwa [Binds, ← samePath])
    · exact all other spec binds

end Plan

namespace Resolution

variable {tables : Tables} {index : Index} {kind : Text → Prop}

theorem newSpec_of_supplies (supplies : Supplies tables index kind) (plan : Plan) {key : Text}
    {entry : Entry} (member : (key, entry) ∈ index.entries) :
    kind (plan.newSpec entry).localName := by
  unfold Plan.newSpec
  split
  · exact supplies.aliased key entry member plan.reserved
  · exact supplies.declared key entry member

/-- One decision replaces by a text of the kind and leaves a plan of the kind. -/
theorem settle_of_supplies (supplies : Supplies tables index kind) (path : Path) {plan : Plan}
    (all : plan.AllOf kind) (reference : Reference) :
    (∀ replacement, (settle tables index path plan reference).1.replacement? = some replacement →
      kind replacement) ∧ (settle tables index path plan reference).2.AllOf kind := by
  unfold settle Target.find?
  cases found : tables.expression? reference with
  | some expression =>
      refine ⟨fun replacement same => ?_, all⟩
      cases same
      exact supplies.builtin reference expression found
  | none =>
      cases resolved : index.resolve? reference with
      | none => exact ⟨fun _ same => (nomatch same), all⟩
      | some entry =>
          obtain ⟨key, member⟩ := Index.mem_of_resolve? resolved
          by_cases inside : entry.path = path
          · simp only [Option.map_some, inside, if_true]
            refine ⟨fun replacement same => ?_, all⟩
            cases same
            exact supplies.declared key entry member
          · simp only [Option.map_some, inside, if_false]
            have fresh := newSpec_of_supplies supplies plan member
            refine ⟨fun replacement same => ?_, all.need fresh⟩
            cases same
            exact all.localName fresh

/-- Every replacement of a file is of a kind that the tables and the index supply. -/
theorem replacement_of_supplies (supplies : Supplies tables index kind) {analysis : Analysis}
    {step : Step} (member : step ∈ (ofAnalysis tables index analysis).steps) {replacement : Text}
    (replaced : step.decision.replacement? = some replacement) : kind replacement := by
  have general : ∀ (placeholders : List Placeholder) (plan : Plan), plan.AllOf kind →
      ∀ step ∈ (settleAll tables index analysis.path plan placeholders).steps,
        ∀ replacement, step.decision.replacement? = some replacement → kind replacement := by
    intro placeholders
    induction placeholders with
    | nil => exact fun _ _ _ member => absurd member List.not_mem_nil
    | cons placeholder rest ih =>
        intro plan all step member
        have one := settle_of_supplies supplies analysis.path all placeholder.toReference
        rcases List.mem_cons.1 member with rfl | later
        · exact one.1
        · exact ih _ one.2 step later
  exact general analysis.placeholders _ (Plan.allOf_start kind _) step member replacement replaced

end Resolution

namespace Reference

open Text

/-- A name of naming characters is inert. -/
theorem inert_of_naming {name : Text} (name_ne : name ≠ [])
    (naming : ∀ char ∈ name, isNaming char = true) : Inert name := by
  have foreign : ∀ char, isNaming char = false → char ∉ name := by
    intro char notNaming member
    rw [naming char member] at notNaming
    cases notNaming
  have blank := foreign ' ' (by decide)
  refine ⟨?_, ?_, foreign '/' (by decide), foreign '*' (by decide), foreign '\n' (by decide)⟩
  · obtain ⟨first, rest, rfl⟩ := List.exists_cons_of_ne_nil name_ne
    exact ⟨first, rest, rfl, fun same => blank (by simp [same])⟩
  · obtain ⟨front, final, rfl⟩ := (List.eq_nil_or_concat' name).resolve_left name_ne
    exact ⟨front, final, rfl, fun same => blank (by simp [same])⟩

/-- An expression without slashes, stars and line feeds and without blanks at its ends. -/
def isPlain (expression : Text) : Bool :=
  (expression.all fun char => char != '/' && char != '*' && char != '\n') &&
    (expression.head?.all fun char => !isBlank char) &&
    (expression.getLast?.all fun char => !isBlank char)

theorem inert_of_isPlain {expression : Text} (expression_ne : expression ≠ [])
    (plain : isPlain expression = true) : Inert expression := by
  simp only [isPlain, Bool.and_eq_true, List.all_eq_true, Option.all_eq_true, bne_iff_ne,
    Bool.not_eq_true'] at plain
  obtain ⟨⟨chars, headPlain⟩, lastPlain⟩ := plain
  have notBlank : ∀ char, isBlank char = false → char ≠ ' ' := by
    rintro char notBlank rfl
    exact absurd notBlank (by decide)
  refine ⟨?_, ?_, fun slash => (chars '/' slash).1.1 rfl, fun star => (chars '*' star).1.2 rfl,
    fun feed => (chars '\n' feed).2 rfl⟩
  · obtain ⟨first, rest, rfl⟩ := List.exists_cons_of_ne_nil expression_ne
    exact ⟨first, rest, rfl, notBlank first (headPlain first rfl)⟩
  · obtain ⟨front, final, rfl⟩ := (List.eq_nil_or_concat' expression).resolve_left expression_ne
    exact ⟨front, final, rfl, notBlank final (lastPlain final List.getLast?_concat)⟩

end Reference

/-- Named entries and plain expressions supply inert replacements. -/
theorem Supplies.inert {tables : Tables} {index : Index}
    (plain : ∀ key expression, (key, expression) ∈ tables.builtins →
      Reference.isPlain expression = true)
    (named : ∀ key entry, (key, entry) ∈ index.entries → entry.Named) :
    Supplies tables index Reference.Inert where
  builtin reference expression found := by
    obtain ⟨expression_ne, key, member⟩ := Tables.expression?_mem found
    exact Reference.inert_of_isPlain expression_ne (plain key expression member)
  declared key entry member := by
    have known := named key entry member
    exact Reference.inert_of_naming known.exportName_ne fun char inside =>
      Text.isNaming_of_isWord (known.exportName_word char inside)
  aliased key entry member reserved := by
    have known := named key entry member
    exact Reference.inert_of_naming (Alias.mint_ne_nil known reserved)
      (Alias.mint_naming known reserved)

end DeclLinker
