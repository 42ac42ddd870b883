import DeclLinker.Console.Status
import DeclLinker.Report

/-!
# The printed report

A report is printed as a list of status messages: what was found, what happened to each file with
activity, the totals, and the unresolved references up to a limit.
-/

namespace DeclLinker.Console

/-- The most unresolved references that are listed when nothing else is said. -/
def defaultLimit : Int := 20

/-- A list up to a limit; a negative limit counts from the end. -/
def upTo {α : Type} (limit : Int) (items : List α) : List α :=
  match limit with
  | .ofNat count => items.take count
  | .negSucc less => items.take (items.length - (less + 1))

/-- An indented message about something done. -/
def done (message : Text) : Status := ⟨message, .success, 2⟩

/-- The messages about one file; none without activity. -/
def fileStatuses (report : FileReport) : List Status :=
  if report.hasActivity then
    .bare (report.fileName ++ [':']) ::
      ((if report.resolved = 0 then []
        else [done ("Resolved ".toList ++ pluralize report.resolved "reference".toList)]) ++
      (if report.fixes = 0 then []
        else [done ("Fixed ".toList ++ pluralize report.fixes "Go builtin type".toList)]) ++
      (if report.injected then [done "Added unexported type declarations".toList] else []) ++
      (if report.unresolved.isEmpty then []
        else [⟨"Unresolved: ".toList ++ Text.commaList report.unresolved, .warning, 2⟩]))
  else
    []

/-- The messages that list unresolved references. -/
def unresolvedStatuses (limit : Int) (unresolved : List Text) : List Status :=
  if unresolved.isEmpty then
    []
  else
    .bare [] :: .bare "Unresolved references (may need manual mapping):".toList ::
      (upTo limit unresolved).map (fun reference => ⟨reference, .bullet, 2⟩) ++
      (if limit < unresolved.length then
        [⟨"... and ".toList ++ Text.ofInt (unresolved.length - limit) ++ " more".toList, .info, 2⟩]
      else
        [])

/-- The messages with the totals. -/
def totalStatuses (report : PassReport) : List Status :=
  [.bare [], .bare "Summary:".toList,
    .info ("Resolved: ".toList ++ Text.ofInt report.resolved ++
      " cross-package references".toList),
    .info ("Fixed: ".toList ++ Text.ofInt report.fixes ++ " Go builtin types".toList),
    .info ("Unresolved: ".toList ++ Text.ofNat report.unresolved.length ++ " references".toList)]

/-- The message about written files, if there are any. -/
def writtenStatuses (report : PassReport) : List Status :=
  if report.written = 0 then
    []
  else
    [.bare [],
      ⟨pluralize report.written "file".toList ++
        " updated. Run your type checker to verify.".toList, .success, 0⟩]

/-- The messages of a report. -/
def reportStatuses (limit : Int) (report : PassReport) : List Status :=
  [.bare ("Found ".toList ++ pluralize report.indexSize "exported type".toList ++
      " across ".toList ++ pluralize report.scanned "file".toList),
    .bare []] ++
  report.files.flatMap fileStatuses ++
  totalStatuses report ++
  unresolvedStatuses limit report.unresolved ++
  writtenStatuses report

end DeclLinker.Console
