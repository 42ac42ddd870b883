import DeclLinker.Import.Plan
import DeclLinker.Log.Event
import DeclLinker.Source.Analysis
import DeclLinker.Tables

/-!
# Resolving placeholders

A placeholder is looked up in an ordered chain: a built-in expression for its qualified name, then
for its short name, then the declaration index.  A declaration in the file itself is referred to by
its own name; one in another file becomes an import need.  What the chain does not know stays.

The decisions are taken in file order, each in view of the names the earlier ones bound; then the
text is edited in the same order, each edit at the first remaining occurrence of its placeholder.
-/

namespace DeclLinker

/-- What a reference denotes. -/
inductive Target where
  | expression (text : Text)
  | declaration (entry : Entry)
  deriving DecidableEq

/-- The target of a reference; a built-in expression comes before any declaration. -/
def Target.find? (tables : Tables) (index : Index) (reference : Reference) : Option Target :=
  match tables.expression? reference with
  | some text => some (.expression text)
  | none => (index.resolve? reference).map .declaration

/-- What is done with a placeholder. -/
inductive Decision where
  | builtin (expression : Text)
  | sameFile (name : Text)
  | crossFile (entry : Entry) (localName : Text)
  | unresolved
  deriving DecidableEq

namespace Decision

/-- The kind of a decision. -/
def outcome : Decision → Outcome
  | .builtin _ => .builtin
  | .sameFile _ => .sameFile
  | .crossFile .. => .crossFile
  | .unresolved => .unresolved

/-- What the placeholder is replaced by. -/
def replacement? : Decision → Option Text
  | .builtin expression => some expression
  | .sameFile name => some name
  | .crossFile _ localName => some localName
  | .unresolved => none

/-- Whether a placeholder was resolved. -/
def isResolved (decision : Decision) : Bool :=
  decision.replacement?.isSome

end Decision

/-- A placeholder and what is done with it. -/
structure Step where
  placeholder : Placeholder
  decision : Decision
  deriving DecidableEq

namespace Step

/-- One edit: the first remaining occurrence of a resolved placeholder is replaced. -/
def edit (text : Text) (step : Step) : Text :=
  match step.decision.replacement? with
  | some replacement => Text.replaceFirst step.placeholder.text replacement text
  | none => text

/-- The event that records a step. -/
def event (file : Text) (step : Step) : Event :=
  match step.decision.replacement? with
  | some replacement =>
      .placeholderResolved file step.placeholder.qualified step.decision.outcome replacement
  | none => .placeholderUnresolved file step.placeholder.describe

end Step

/-- The decisions for a file and the imports they need. -/
structure Resolution where
  steps : List Step
  plan : Plan
  deriving DecidableEq

namespace Resolution

/-- The decision for one reference and the plan after it. -/
def settle (tables : Tables) (index : Index) (path : Path) (plan : Plan)
    (reference : Reference) : Decision × Plan :=
  match Target.find? tables index reference with
  | none => (.unresolved, plan)
  | some (.expression expression) => (.builtin expression, plan)
  | some (.declaration entry) =>
      if entry.path = path then
        (.sameFile entry.exportName, plan)
      else
        (.crossFile entry (plan.localName entry), plan.need entry)

/-- The decisions for placeholders in file order, from a plan on. -/
def settleAll (tables : Tables) (index : Index) (path : Path) :
    Plan → List Placeholder → Resolution
  | plan, [] => ⟨[], plan⟩
  | plan, placeholder :: rest =>
      let (decision, next) := settle tables index path plan placeholder.toReference
      let later := settleAll tables index path next rest
      ⟨⟨placeholder, decision⟩ :: later.steps, later.plan⟩

/-- The names a file's hand-written declarations export. -/
def syntheticExports (tables : Tables) (fileName : Text) : List Text :=
  (Scan.ofText ((Dict.get? fileName tables.synthetic).getD [])).exports

/-- The decisions for every placeholder of an analysed file.  The names it exports, and those its
hand-written declarations will export, are taken from the start. -/
def ofAnalysis (tables : Tables) (index : Index) (analysis : Analysis) : Resolution :=
  settleAll tables index analysis.path
    (Plan.start (analysis.exports ++ syntheticExports tables analysis.fileName))
    analysis.placeholders

/-- The text after the edits of all steps. -/
def edit (resolution : Resolution) (text : Text) : Text :=
  resolution.steps.foldl Step.edit text

/-- How many placeholders were resolved. -/
def resolved (resolution : Resolution) : Nat :=
  resolution.steps.countP fun step => step.decision.isResolved

/-- Descriptions of the placeholders that stay. -/
def unresolved (resolution : Resolution) : List Text :=
  (resolution.steps.filter fun step => !step.decision.isResolved).map fun step =>
    step.placeholder.describe

/-- The events that record the steps. -/
def events (resolution : Resolution) (file : Text) : List Event :=
  resolution.steps.map (Step.event file)

end Resolution

end DeclLinker
