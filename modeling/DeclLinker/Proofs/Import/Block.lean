import DeclLinker.Import.Statement
import DeclLinker.Proofs.Resolution.Replacement
import DeclLinker.Proofs.Source.Exports

/-!
# The characters of an import block

An import block consists of statements on lines of their own.  A statement names what it imports and
the file it comes from, so it holds naming characters, blanks and a few marks; it holds no character
that a match or a placeholder needs, and it exports nothing.

The local names come from the index, and the specifier leads from one file of a corpus to another:
both lie in the same directory or one lies in a directory inside it.
-/

namespace DeclLinker

open Text

theorem Text.mem_intercalate {separator : Text} {items : List Text} {char : Char}
    (member : char ∈ separator.intercalate items) :
    char ∈ separator ∨ ∃ item ∈ items, char ∈ item := by
  match items with
  | [] => cases member
  | [item] =>
      rw [List.intercalate_singleton] at member
      exact .inr ⟨item, List.mem_singleton_self item, member⟩
  | item :: next :: rest =>
      rw [List.intercalate_cons_cons, List.append_assoc, List.mem_append, List.mem_append] at member
      rcases member with inItem | inSeparator | later
      · exact .inr ⟨item, List.mem_cons_self, inItem⟩
      · exact .inl inSeparator
      · rcases mem_intercalate later with inSeparator | ⟨other, listed, inOther⟩
        · exact .inl inSeparator
        · exact .inr ⟨other, .tail item listed, inOther⟩

namespace Import

/-- The characters of an import statement. -/
def isStatementChar (char : Char) : Bool :=
  isNaming char || " \x7b\x7d,\x22;./-".toList.contains char

theorem isStatementChar_of_isWord {char : Char} (word : isWord char = true) :
    isStatementChar char = true := by
  simp [isStatementChar, isNaming_of_isWord word]

/-- The inner lines of an import block. -/
structure Plain (body : Text) : Prop where
  chars : ∀ char ∈ body, isStatementChar char = true ∨ char = '\n'
  exports : (Scan.ofText body).exports = []

theorem Plain.not_mem {body : Text} (plain : Plain body) {char : Char}
    (foreign : isStatementChar char = false) (notFeed : char ≠ '\n') : char ∉ body := by
  intro member
  rcases plain.chars char member with isChar | feed
  · rw [foreign] at isChar
    cases isChar
  · exact notFeed feed

/-- A statement of statement characters. -/
structure Stated (statement : Text) : Prop where
  chars : ∀ char ∈ statement, isStatementChar char = true
  head : statement.head? = some 'i'

theorem Stated.exports_eq {statement : Text} (stated : Stated statement) :
    (Scan.ofText statement).exports = [] := by
  have flat : '\n' ∉ statement := fun member => absurd (stated.chars '\n' member) (by decide)
  have nothing : Scan.exportName? statement = none := by
    by_contra found
    obtain ⟨name, exported⟩ := Option.ne_none_iff_exists'.1 found
    obtain ⟨keyword, -, rest, rfl, -⟩ := Scan.exportName?_eq_some_iff.1 exported
    have head := stated.head
    rw [Scan.exporting_eq] at head
    cases head
  rw [Scan.exports_eq, collect_of_flat _ flat, Scan.exported, nothing]
  rfl

/-- Statements on lines of their own make a plain body. -/
theorem plain_intercalate {statements : List Text}
    (stated : ∀ statement ∈ statements, Stated statement) :
    Plain (['\n'].intercalate statements) := by
  constructor
  · intro char member
    rcases mem_intercalate member with feed | ⟨statement, listed, inside⟩
    · exact .inr (List.mem_singleton.1 feed)
    · exact .inl ((stated statement listed).chars char inside)
  · match statements with
    | [] => rfl
    | [statement] =>
        rw [List.intercalate_singleton]
        exact (stated statement List.mem_cons_self).exports_eq
    | statement :: next :: rest =>
        have later := plain_intercalate fun other listed => stated other (.tail statement listed)
        rw [List.intercalate_cons_cons, List.append_assoc, List.singleton_append,
          Scan.exports_append_feed, (stated statement List.mem_cons_self).exports_eq, later.exports]
        rfl

/-- A statement is stated when its names and its specifier are. -/
theorem stated_statement {specs : List ImportSpec} {specifier : Text}
    (names : ∀ spec ∈ specs, ∀ char ∈ spec.toText, isStatementChar char = true)
    (target : ∀ char ∈ specifier, isStatementChar char = true) :
    Stated (statement specs specifier) := by
  have fixed : ∀ char ∈ "import type \x7b ".toList ++ (" \x7d from \x22".toList ++ "\x22;".toList),
      isStatementChar char = true := by decide
  constructor
  · intro char member
    unfold statement at member
    simp only [List.mem_append] at member
    rcases member with (((inOpening | inNames) | inMiddle) | inTarget) | inClosing
    · exact fixed char (List.mem_append_left _ inOpening)
    · rcases mem_intercalate inNames with inSeparator | ⟨name, listed, inName⟩
      · have marks : ∀ char ∈ [',', ' '], isStatementChar char = true := by decide
        exact marks char inSeparator
      · obtain ⟨spec, sorted, rfl⟩ := List.mem_map.1 listed
        exact names spec (List.mem_mergeSort.1 sorted) char inName
    · exact fixed char (List.mem_append_right _ (List.mem_append_left _ inMiddle))
    · exact target char inTarget
    · exact fixed char (List.mem_append_right _ (List.mem_append_right _ inClosing))
  · unfold statement
    simp only [List.append_assoc]
    rfl

end Import

namespace Plan

open Import

/-- Everything that a plan imports comes from a known file, under names of statement characters. -/
def Tidy (known : Path → Prop) (plan : Plan) : Prop :=
  ∀ producer specs, (producer, specs) ∈ plan.schedule → known producer ∧
    ∀ key spec, (key, spec) ∈ specs → ∀ char ∈ spec.toText, isStatementChar char = true

variable {known : Path → Prop} {plan : Plan} {entry : Entry}

@[simp]
theorem exportName_newSpec (plan : Plan) (entry : Entry) :
    (plan.newSpec entry).exportName = entry.exportName := by
  unfold newSpec
  split <;> rfl

theorem newSpec_chars (plan : Plan) (named : entry.Named) :
    ∀ char ∈ (plan.newSpec entry).toText, isStatementChar char = true := by
  have nameChars : ∀ char ∈ entry.exportName, isStatementChar char = true :=
    fun char member => isStatementChar_of_isWord (named.exportName_word char member)
  unfold newSpec
  split
  · have joint : ∀ char ∈ " as ".toList, isStatementChar char = true := by decide
    intro char member
    simp only [ImportSpec.toText, List.mem_append] at member
    rcases member with (inName | inJoint) | inAlias
    · exact nameChars char inName
    · exact joint char inJoint
    · simp [isStatementChar, Alias.mint_naming named plan.reserved char inAlias]
  · exact nameChars

/-- Everything that a plan imports is an entry of the index, under the name that some plan gave
it. -/
def DrawnFrom (index : Index) (plan : Plan) : Prop :=
  ∀ producer specs, (producer, specs) ∈ plan.schedule → specs ≠ [] ∧
    ∀ key spec, (key, spec) ∈ specs → ∃ name entry, ∃ earlier : Plan,
      (name, entry) ∈ index.entries ∧ entry.path = producer ∧ spec = earlier.newSpec entry

theorem drawnFrom_start (index : Index) (taken : List Text) : (start taken).DrawnFrom index :=
  fun _ _ member => absurd member List.not_mem_nil

theorem DrawnFrom.need {index : Index} {name : Text} (drawn : plan.DrawnFrom index)
    (listed : (name, entry) ∈ index.entries) : (plan.need entry).DrawnFrom index := by
  unfold Plan.need
  dsimp only
  split
  · exact drawn
  · intro producer specs member
    rcases Dict.mem_of_mem_put member with ⟨rfl, rfl⟩ | old
    · refine ⟨Dict.put_ne_nil _ _ _, fun key spec inside => ?_⟩
      rcases Dict.mem_of_mem_put inside with ⟨-, rfl⟩ | held
      · exact ⟨name, entry, plan, listed, rfl, rfl⟩
      · -- The producer was planned before.
        unfold specsOf at held
        cases found : Dict.get? entry.path plan.schedule with
        | none =>
            rw [found] at held
            cases held
        | some specs =>
            rw [found] at held
            exact (drawn entry.path specs (Dict.mem_of_get? found)).2 key spec held
    · exact drawn producer specs old

/-- A plan is tidy when the index knows only known files and named entries. -/
theorem DrawnFrom.tidy {index : Index} (drawn : plan.DrawnFrom index)
    (entries : ∀ name entry, (name, entry) ∈ index.entries → known entry.path ∧ entry.Named) :
    plan.Tidy known := by
  intro producer specs member
  obtain ⟨specs_ne, drawn⟩ := drawn producer specs member
  refine ⟨?_, fun key spec inside => ?_⟩
  · obtain ⟨⟨key, spec⟩, rest, rfl⟩ := List.exists_cons_of_ne_nil specs_ne
    obtain ⟨name, entry, -, listed, rfl, -⟩ := drawn key spec List.mem_cons_self
    exact (entries name entry listed).1
  · obtain ⟨name, entry, earlier, listed, -, rfl⟩ := drawn key spec inside
    exact newSpec_chars earlier (entries name entry listed).2

end Plan

namespace Resolution

/-- What holds of a plan at its start, and is kept when an entry of the index is needed, holds of
the plan of a file. -/
theorem plan_induction {tables : Tables} {index : Index} {analysis : Analysis}
    {motive : Plan → Prop}
    (start : motive
      (Plan.start (analysis.exports ++ syntheticExports tables analysis.fileName)))
    (need : ∀ plan name entry, motive plan → (name, entry) ∈ index.entries →
      motive (plan.need entry)) :
    motive (ofAnalysis tables index analysis).plan := by
  have general : ∀ (placeholders : List Placeholder) (plan : Plan), motive plan →
      motive (settleAll tables index analysis.path plan placeholders).plan := by
    intro placeholders
    induction placeholders with
    | nil => exact fun _ holds => holds
    | cons placeholder rest ih =>
        intro plan holds
        have next : motive (settle tables index analysis.path plan
            placeholder.toReference).2 := by
          unfold settle Target.find?
          cases tables.expression? placeholder.toReference with
          | some expression => exact holds
          | none =>
              cases found : index.resolve? placeholder.toReference with
              | none => exact holds
              | some entry =>
                  obtain ⟨name, listed⟩ := Index.mem_of_resolve? found
                  dsimp only [Option.map_some]
                  split
                  · exact holds
                  · exact need plan name entry holds listed
        exact ih _ next
  exact general analysis.placeholders _ start

/-- The plan of a file draws on the index. -/
theorem drawnFrom_ofAnalysis (tables : Tables) (index : Index) (analysis : Analysis) :
    (ofAnalysis tables index analysis).plan.DrawnFrom index :=
  plan_induction (Plan.drawnFrom_start index _) fun _ _ _ drawn listed => drawn.need listed

end Resolution

namespace Import

/-- The statements of a tidy plan, for known files that can be reached, are stated. -/
theorem stated_statements {known : Path → Prop} {plan : Plan} (tidy : plan.Tidy known)
    {here : Location} {consumer : Path} {suffix : Text}
    (reached : ∀ producer, known producer →
      ∀ char ∈ Path.specifier here consumer producer suffix, isStatementChar char = true) :
    ∀ statement ∈ statements here consumer suffix plan.schedule, Stated statement := by
  intro written member
  obtain ⟨⟨producer, specs⟩, listed, rfl⟩ := List.mem_map.1 member
  obtain ⟨isKnown, names⟩ := tidy producer specs (List.mem_filter.1 listed).1
  refine stated_statement (fun spec inside => ?_) (reached producer isKnown)
  obtain ⟨⟨key, other⟩, held, rfl⟩ := List.mem_map.1 inside
  exact names key other held

end Import

end DeclLinker
