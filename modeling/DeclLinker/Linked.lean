import DeclLinker.Index.Build
import DeclLinker.Layout
import DeclLinker.Report
import DeclLinker.Resolution

/-!
# Linking one file

A text goes through four stages: structural repairs, hand-written declarations, placeholders, and
imports.  The analysis was taken from the text before the first stage.
-/

namespace DeclLinker

/-- A linked text, what was done to it, and the events of doing it. -/
structure Linked where
  text : Text
  report : FileReport
  events : List Event
  deriving DecidableEq

namespace Linked

/-- The four stages over one text. -/
def ofText (here : Location) (tables : Tables) (suffix : Text) (index : Index)
    (analysis : Analysis) (text : Text) : Linked :=
  let repaired := Repaired.ofRules tables.rules text
  let declared := Placed.declarations tables analysis.fileName repaired.text
  let resolution := Resolution.ofAnalysis tables index analysis
  let imported := Placed.imports here tables.banner suffix analysis.path
    resolution.plan.schedule (resolution.edit declared.text)
  { text := imported.text
    report :=
      { path := analysis.path
        fixes := repaired.count
        injected := 0 < declared.added
        resolved := resolution.resolved
        unresolved := resolution.unresolved
        imports := imported.added
        written := false }
    events := declared.events ++ resolution.events analysis.fileName ++ imported.events }

end Linked

namespace Analysis

/-- The event that records an analysis. -/
def event (analysis : Analysis) : Event :=
  .fileAnalyzed analysis.fileName analysis.exports.length analysis.placeholders.length

end Analysis

namespace Index

/-- The index of a corpus under the given tables. -/
def ofAnalyses (tables : Tables) (analyses : List Analysis) : Index :=
  build tables.families tables.packages analyses

/-- The event that records the building of the index. -/
def builtEvent (tables : Tables) (analyses : List Analysis) : Event :=
  .indexBuilt (ofAnalyses tables analyses).size (filled tables.families tables.packages analyses)

end Index

end DeclLinker
