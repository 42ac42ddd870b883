import DeclLinker.Proofs.Console.Messages
import DeclLinker.Proofs.Import.Block
import DeclLinker.Proofs.Pass.Discovery

/-!
# A report as it is printed

A report is printed in full when each file with activity stands there by its name and a colon, then
what was done to it, and the first unresolved references as they are, with the number of those that
are left out.  File names go through markup like any other text, so this holds exactly when the
names are plain together with their colons, the listed references are plain, and the message that
names the unresolved placeholders of a file is a text that can be printed.  What a pass says of
placeholders is always plain; so for the report of a pass the names decide.
-/

namespace DeclLinker

/-! ## What passes report -/

/-- What a pass says of an unresolved placeholder. -/
def IsDescription (described : Text) : Prop :=
  ∃ placeholder : Placeholder, placeholder.toReference.Spelled ∧ described = placeholder.describe

namespace Pass

/-- The unresolved texts in the report of a pass describe placeholders. -/
theorem descriptions_of_run {disk : Disk} {settings : Settings} {directory : Path} {runId : Text}
    {dryRun : Bool} {report : PassReport}
    (passed : (run disk settings directory runId dryRun).result = .ok report) :
    ∀ file ∈ report.files, ∀ described ∈ file.unresolved, IsDescription described := by
  cases found : disk.discover settings.corpus directory with
  | error failure =>
      simp only [run, found] at passed
      cases passed
  | ok files =>
      obtain ⟨reads, here, analysed, reported, -⟩ := reports_of_run found passed
      intro file listed described member
      obtain ⟨linked, inLinked, written, same⟩ := exists_of_mem_of_forall₂ reported listed
      obtain ⟨read, inReads, rfl⟩ := List.mem_map.mp inLinked
      rw [same] at member
      obtain ⟨source, -, analysis_eq⟩ := exists_of_mem_of_forall₂ analysed inReads
      obtain ⟨step, kept, rfl⟩ := List.mem_map.mp member
      have placeholder := Resolution.placeholder_mem (List.mem_filter.mp kept).1
      rw [analysis_eq] at placeholder
      exact ⟨step.placeholder, Scan.spelled_of_mem_placeholders placeholder, rfl⟩

end Pass

namespace Console

open Markup Text

/-! ## The lines of a report -/

/-- The line about something done to a file. -/
def doneLine (message : Text) : Text :=
  "  ✓ ".toList ++ message

/-- The lines about one file, given what stands in the line about its unresolved placeholders. -/
def fileLines (summary : Text) (report : FileReport) : List Text :=
  if report.hasActivity then
    (report.fileName ++ [':']) ::
      ((if report.resolved = 0 then []
        else [doneLine ("Resolved ".toList ++ pluralize report.resolved "reference".toList)]) ++
      (if report.fixes = 0 then []
        else [doneLine ("Fixed ".toList ++ pluralize report.fixes "Go builtin type".toList)]) ++
      (if report.injected then [doneLine "Added unexported type declarations".toList] else []) ++
      (if report.unresolved.isEmpty then [] else [summary]))
  else
    []

/-- The lines that list unresolved references: the first ones, and how many more there are. -/
def listingLines (limit : Nat) (references : List Text) : List Text :=
  if references.isEmpty then
    []
  else
    [] :: "Unresolved references (may need manual mapping):".toList ::
      (references.take limit).map (fun reference => "  - ".toList ++ reference) ++
      (if limit < references.length then
        ["    ... and ".toList ++ Text.ofNat (references.length - limit) ++ " more".toList]
      else
        [])

/-- The lines with the totals. -/
def totalLines (report : PassReport) : List Text :=
  [[], "Summary:".toList,
    "  Resolved: ".toList ++ Text.ofInt report.resolved ++ " cross-package references".toList,
    "  Fixed: ".toList ++ Text.ofInt report.fixes ++ " Go builtin types".toList,
    "  Unresolved: ".toList ++ Text.ofNat report.unresolved.length ++ " references".toList]

/-- The lines about written files, if there are any. -/
def writtenLines (report : PassReport) : List Text :=
  if report.written = 0 then
    []
  else
    [[], "✓ ".toList ++ (pluralize report.written "file".toList ++
      " updated. Run your type checker to verify.".toList)]

/-- The lines of a report that is printed in full, given what stands in the lines about unresolved
placeholders. -/
def reportLines (limit : Nat) (summary : FileReport → Text) (report : PassReport) : List Text :=
  ["Found ".toList ++ pluralize report.indexSize "exported type".toList ++
      " across ".toList ++ pluralize report.scanned "file".toList, []] ++
  report.files.flatMap (fun file => fileLines (summary file) file) ++
  totalLines report ++
  listingLines limit report.unresolved ++
  writtenLines report

/-- A report is printed in full: each file with activity by its name and a colon, what was done to
it, and the unresolved references up to the limit as they stand, with the number of the others if
there are any. -/
def PrintedInFull (limit : Nat) (report : PassReport) : Prop :=
  ∃ summary, printed (reportStatuses limit report) =
    .ok ((reportLines limit summary report).map (· ++ ['\n']))

/-- The message that names the unresolved placeholders of a file. -/
def unresolvedStatus (report : FileReport) : Status :=
  ⟨"Unresolved: ".toList ++ Text.commaList report.unresolved, .warning, 2⟩

theorem print_done {message : Text} (mild : IsMild message) :
    (done message).print = .ok (doneLine message ++ ['\n']) :=
  Status.print_of_isPlain mild.isPlain

theorem shows_file {report : FileReport} {summary : Text} :
    Shows (fileStatuses report) (fileLines summary report) ↔
      (report.hasActivity = true → IsPlain (report.fileName ++ [':'])) ∧
      (report.unresolved ≠ [] → (unresolvedStatus report).print = .ok (summary ++ ['\n'])) := by
  have resolved := print_done
    (isMild_append.mpr ⟨by decide +kernel, isMild_pluralize (by decide +kernel) report.resolved⟩ :
      IsMild ("Resolved ".toList ++ pluralize report.resolved "reference".toList))
  have fixed := print_done
    (isMild_append.mpr ⟨by decide +kernel, isMild_pluralize (by decide +kernel) report.fixes⟩ :
      IsMild ("Fixed ".toList ++ pluralize report.fixes "Go builtin type".toList))
  have injected := print_done
    (by decide +kernel : IsMild "Added unexported type declarations".toList)
  by_cases active : report.hasActivity = true
  · have named : (Status.bare (report.fileName ++ [':'])).print =
        .ok (report.fileName ++ [':'] ++ ['\n']) ↔ IsPlain (report.fileName ++ [':']) :=
      Status.print_eq_plainLine_iff rfl
    have declared : Shows
        (if report.injected then [done "Added unexported type declarations".toList] else [])
        (if report.injected then [doneLine "Added unexported type declarations".toList]
          else []) := by
      split
      · exact shows_cons.mpr ⟨injected, shows_nil⟩
      · exact shows_nil
    have summarised :
        Shows (if report.unresolved.isEmpty then [] else [unresolvedStatus report])
          (if report.unresolved.isEmpty then [] else [summary]) ↔
        (report.unresolved ≠ [] → (unresolvedStatus report).print = .ok (summary ++ ['\n'])) := by
      rw [shows_ite, and_iff_right fun _ => shows_nil, shows_cons, and_iff_left shows_nil,
        List.isEmpty_iff]
    rw [fileStatuses, fileLines, if_pos active, if_pos active, List.append_assoc,
      List.append_assoc, List.append_assoc, List.append_assoc, shows_cons, named,
      shows_append (by split <;> rfl), and_iff_right (shows_optional resolved),
      shows_append (by split <;> rfl), and_iff_right (shows_optional fixed),
      shows_append (by split <;> rfl), and_iff_right declared, forall_prop_of_true active]
    exact and_congr_right' summarised
  · have nothing : report.unresolved = [] := by
      simp only [FileReport.hasActivity, Bool.or_eq_true, Bool.not_eq_true', not_or] at active
      simpa using active.2
    rw [fileStatuses, fileLines, if_neg active, if_neg active]
    simp [active, nothing]

theorem ofInt_sub {count limit : Nat} (below : limit < count) :
    Text.ofInt (count - limit) = Text.ofNat (count - limit) := by
  rw [← Int.ofNat_sub below.le]
  rfl

theorem upTo_natCast {α : Type} (limit : Nat) (items : List α) :
    upTo limit items = items.take limit :=
  rfl

theorem shows_listing {limit : Nat} {references : List Text} :
    Shows (unresolvedStatuses limit references) (listingLines limit references) ↔
      ∀ reference ∈ references.take limit, IsPlain reference := by
  by_cases nothing : references.isEmpty = true
  · rw [unresolvedStatuses, listingLines, if_pos nothing, if_pos nothing,
      List.isEmpty_iff.mp nothing]
    simp
  · have heading : (Status.bare "Unresolved references (may need manual mapping):".toList).print =
        .ok ("Unresolved references (may need manual mapping):".toList ++ ['\n']) :=
      Status.print_of_isPlain (isPlain_colon
        (by decide +kernel : IsMild "Unresolved references (may need manual mapping)".toList)
        (by decide : IsMild []))
    have listed : Shows ((upTo limit references).map fun reference => ⟨reference, .bullet, 2⟩)
        ((references.take limit).map fun reference => "  - ".toList ++ reference) ↔
          ∀ reference ∈ references.take limit, IsPlain reference := by
      rw [Shows, List.forall₂_map_left_iff, List.forall₂_map_right_iff]
      refine List.forall₂_same.trans (forall₂_congr fun reference _ => ?_)
      exact Status.print_eq_plainLine_iff rfl
    have omitted : Shows
        (if (limit : Int) < references.length then
          [⟨"... and ".toList ++ Text.ofInt (references.length - limit) ++ " more".toList,
            .info, 2⟩]
        else [])
        (if limit < references.length then
          ["    ... and ".toList ++ Text.ofNat (references.length - limit) ++ " more".toList]
        else []) := by
      by_cases below : limit < references.length
      · have message : IsMild
            ("... and ".toList ++ Text.ofNat (references.length - limit) ++ " more".toList) :=
          isMild_around (by decide) (isMild_ofNat _) (by decide)
        rw [if_pos (by exact_mod_cast below), if_pos below, ofInt_sub below]
        exact shows_cons.mpr ⟨Status.print_of_isPlain message.isPlain, shows_nil⟩
      · rw [if_neg (by exact_mod_cast below), if_neg below]
        exact shows_nil
    rw [unresolvedStatuses, listingLines, if_neg nothing, if_neg nothing,
      shows_append (congrArg (· + 2) (by rw [List.length_map, List.length_map]; rfl)),
      and_iff_left omitted, shows_cons, and_iff_right Status.print_bare_nil, shows_cons,
      and_iff_right heading, listed]

/-- A label and an amount of something. -/
theorem isPlain_total {label amount noun : Text} (labelMild : IsMild label)
    (amountMild : IsMild amount) (nounMild : IsMild noun) :
    IsPlain (label ++ ':' :: ([' '] ++ amount ++ noun)) :=
  isPlain_colon labelMild (isMild_around (by decide) amountMild nounMild)

theorem shows_totals (report : PassReport) : Shows (totalStatuses report) (totalLines report) := by
  have heading : IsPlain "Summary:".toList :=
    isPlain_colon (by decide : IsMild "Summary".toList) (by decide : IsMild [])
  have resolved : IsPlain ("Resolved: ".toList ++ Text.ofInt report.resolved ++
      " cross-package references".toList) :=
    isPlain_total (by decide : IsMild "Resolved".toList) (isMild_ofInt _) (by decide +kernel)
  have fixed : IsPlain ("Fixed: ".toList ++ Text.ofInt report.fixes ++
      " Go builtin types".toList) :=
    isPlain_total (by decide : IsMild "Fixed".toList) (isMild_ofInt _) (by decide +kernel)
  have unresolved : IsPlain ("Unresolved: ".toList ++ Text.ofNat report.unresolved.length ++
      " references".toList) :=
    isPlain_total (by decide : IsMild "Unresolved".toList) (isMild_ofNat _) (by decide +kernel)
  exact .cons Status.print_bare_nil <| .cons (Status.print_of_isPlain heading) <|
    .cons (Status.print_of_isPlain resolved) <| .cons (Status.print_of_isPlain fixed) <|
    .cons (Status.print_of_isPlain unresolved) .nil

theorem shows_written (report : PassReport) :
    Shows (writtenStatuses report) (writtenLines report) := by
  have message : IsMild (pluralize report.written "file".toList ++
      " updated. Run your type checker to verify.".toList) :=
    isMild_append.mpr ⟨isMild_pluralize (by decide) _, by decide +kernel⟩
  unfold writtenStatuses writtenLines
  split
  · exact shows_nil
  · exact .cons Status.print_bare_nil <| .cons (Status.print_of_isPlain message.isPlain) .nil

variable {limit : Nat} {report : PassReport}

theorem length_fileStatuses (summary : Text) (file : FileReport) :
    (fileStatuses file).length = (fileLines summary file).length := by
  rw [fileStatuses, fileLines]
  split
  · simp only [List.length_cons, List.length_append, apply_ite List.length, List.length_nil]
  · rfl

theorem length_unresolvedStatuses (references : List Text) :
    (unresolvedStatuses limit references).length = (listingLines limit references).length := by
  rw [unresolvedStatuses, listingLines]
  split
  · rfl
  · simp only [List.length_append, List.length_cons, List.length_map, apply_ite List.length,
      List.length_nil, Int.ofNat_lt, upTo_natCast]

theorem shows_report {summary : FileReport → Text} :
    Shows (reportStatuses limit report) (reportLines limit summary report) ↔
      (∀ file ∈ report.files, file.hasActivity = true → IsPlain (file.fileName ++ [':'])) ∧
      (∀ file ∈ report.files, file.unresolved ≠ [] →
        (unresolvedStatus file).print = .ok (summary file ++ ['\n'])) ∧
      ∀ reference ∈ report.unresolved.take limit, IsPlain reference := by
  have found : IsMild ("Found ".toList ++ pluralize report.indexSize "exported type".toList ++
      " across ".toList ++ pluralize report.scanned "file".toList) :=
    isMild_append.mpr ⟨isMild_around (by decide) (isMild_pluralize (by decide) _) (by decide),
      isMild_pluralize (by decide) _⟩
  rw [reportStatuses, reportLines]
  generalize "Found ".toList ++ pluralize report.indexSize "exported type".toList ++
    " across ".toList ++ pluralize report.scanned "file".toList = message at found ⊢
  have opening : Shows [.bare message, .bare []] [message, []] :=
    .cons (Status.print_of_isPlain found.isPlain) <| .cons Status.print_bare_nil .nil
  have lengths : (report.files.flatMap fileStatuses).length =
      (report.files.flatMap fun file => fileLines (summary file) file).length := by
    simp only [List.length_flatMap, fun file => length_fileStatuses (summary file) file]
  simp only [List.append_assoc]
  rw [shows_append rfl, and_iff_right opening, shows_append lengths,
    shows_flatMap fun file => length_fileStatuses (summary file) file, shows_append rfl,
    and_iff_right (shows_totals report), shows_append (length_unresolvedStatuses _),
    and_iff_left (shows_written report), shows_listing]
  simp only [shows_file]
  constructor
  · rintro ⟨files, listed⟩
    exact ⟨fun file member => (files file member).1, fun file member => (files file member).2,
      listed⟩
  · rintro ⟨named, summarised, listed⟩
    exact ⟨fun file member => ⟨named file member, summarised file member⟩, listed⟩

/-- A report is printed in full exactly when the name of every file with activity is plain together
with its colon, the message about the unresolved placeholders of each file can be printed, and the
listed references are plain. -/
theorem printedInFull_iff :
    PrintedInFull limit report ↔
      (∀ file ∈ report.files, file.hasActivity = true → IsPlain (file.fileName ++ [':'])) ∧
      (∀ file ∈ report.files, file.unresolved ≠ [] → Printable (unresolvedStatus file).message) ∧
      ∀ reference ∈ report.unresolved.take limit, IsPlain reference := by
  simp only [PrintedInFull, printed_lines_iff, shows_report, ← Status.exists_print_iff]
  constructor
  · rintro ⟨summary, named, summarised, listed⟩
    exact ⟨named, fun file member some => ⟨_, summarised file member some⟩, listed⟩
  · rintro ⟨named, printable, listed⟩
    have lined : ∀ file, ∃ line, file ∈ report.files → file.unresolved ≠ [] →
        (unresolvedStatus file).print = .ok (line ++ ['\n']) := by
      intro file
      cases printed : (unresolvedStatus file).print with
      | ok text => exact ⟨_, fun _ _ => congrArg Except.ok (print_eq_ok_iff.mp printed).2⟩
      | error fault =>
          refine ⟨[], fun member some => ?_⟩
          obtain ⟨text, same⟩ := printable file member some
          rw [printed] at same
          cases same
    choose summary summarised using lined
    exact ⟨summary, named, summarised, listed⟩

/-! ## Reports of passes -/

theorem isMild_of_description {described : Text} (description : IsDescription described) :
    IsMild described := by
  obtain ⟨placeholder, spelled, rfl⟩ := description
  have qualified : IsMild placeholder.qualified := isMild_of_isDotted spelled.qualified_dotted
  have lineMild : IsMild (placeholder.qualified ++ " (line ".toList) :=
    isMild_append.mpr ⟨qualified, by decide⟩
  exact isMild_around lineMild (isMild_ofNat _) (by decide)

/-- When the unresolved texts describe placeholders, only the names of files decide. -/
theorem printedInFull_iff_of_descriptions
    (descriptions : ∀ file ∈ report.files, ∀ described ∈ file.unresolved,
      IsDescription described) :
    PrintedInFull limit report ↔
      ∀ file ∈ report.files, file.hasActivity = true → IsPlain (file.fileName ++ [':']) := by
  have blank : IsMild [' '] := by decide
  rw [printedInFull_iff]
  refine ⟨fun all => all.1, fun named =>
    ⟨named, fun file member _ => ?_, fun reference taken => ?_⟩⟩
  · have listMild : IsMild (commaList file.unresolved) := by
      intro char inside
      rcases mem_intercalate inside with inSeparator | ⟨described, listed, inDescribed⟩
      · exact (by decide : IsMild [',', ' ']) char inSeparator
      · exact isMild_of_description (descriptions file member described listed) char inDescribed
    have message : IsPlain (unresolvedStatus file).message :=
      isPlain_colon (by decide : IsMild "Unresolved".toList) (isMild_append.mpr ⟨blank, listMild⟩)
    exact printable_of_isPlain message
  · obtain ⟨file, member, inFile⟩ := List.mem_flatMap.mp (List.mem_of_mem_take taken)
    obtain ⟨described, listed, rfl⟩ := List.mem_map.mp inFile
    have active : file.hasActivity = true := by
      simp [FileReport.hasActivity, List.ne_nil_of_mem listed]
    have behind : IsMild ([' '] ++ described) :=
      isMild_append.mpr
        ⟨blank, isMild_of_description (descriptions file member described listed)⟩
    have whole : IsPlain (file.fileName ++ [':'] ++ ([' '] ++ described)) :=
      (isPlain_append_iff (.inr behind.isQuiet)).mpr ⟨named file member active, behind.isPlain⟩
    simpa using whole

/-- A report is printed in full, up to any limit, exactly when three things hold: the name of every
file with activity is plain together with its colon; the unresolved placeholders of each file,
behind their label and with commas between them, are a text whose tags pair and whose styles can be
laid out; and the listed references are plain.  For a report of a pass the names alone decide.
Showing a report goes on or crashes as its messages can be printed or not: all of them can be
exactly when the tags of each pair and its styles can be laid out, and then what is printed is what
the session gets. -/
theorem report_prints_in_full_iff (limit : Nat) (report : PassReport) :
    (PrintedInFull limit report ↔
      (∀ file ∈ report.files, file.hasActivity = true → IsPlain (file.fileName ++ [':'])) ∧
      (∀ file ∈ report.files, file.unresolved ≠ [] →
        Printable ("Unresolved: ".toList ++ Text.commaList file.unresolved)) ∧
      ∀ reference ∈ report.unresolved.take limit, IsPlain reference) ∧
    (∀ disk settings directory runId dryRun,
      (Pass.run disk settings directory runId dryRun).result = .ok report →
      (PrintedInFull limit report ↔
        ∀ file ∈ report.files, file.hasActivity = true → IsPlain (file.fileName ++ [':']))) ∧
    ((∃ texts, printed (reportStatuses limit report) = .ok texts) ↔
      ∀ status ∈ reportStatuses limit report, Printable status.message) ∧
    ∀ session,
      match printed (reportStatuses limit report) with
      | .ok texts =>
          (Command.Step.showAll (reportStatuses limit report)).run session =
            (.ok (), Command.Step.shown session ((reportStatuses limit report).zip texts))
      | .error fault =>
          ((Command.Step.showAll (reportStatuses limit report)).run session).1 =
            .error (.crash (.markup fault)) := by
  refine ⟨printedInFull_iff, ?_, exists_printed_iff, ?_⟩
  · intro disk settings directory runId dryRun passed
    have descriptions := Pass.descriptions_of_run passed
    exact printedInFull_iff_of_descriptions descriptions
  · exact Command.Step.run_showAll (reportStatuses limit report)

/-- Two references are unresolved, and the limit is one.  The second has a tag, which does not
matter as it is not listed and its tags pair. -/
theorem report_prints_in_full_over_limit :
    let report : PassReport := ⟨false, 1, 0, [⟨⟨.relative, ["gen".toList, "caddy-http.ts".toList]⟩,
      0, false, 0, ["x.Y (line 1)".toList, "[red]z.W[/red] (line 2)".toList], 0, false⟩]⟩
    PrintedInFull 1 report ∧
      listingLines 1 report.unresolved = [[],
        "Unresolved references (may need manual mapping):".toList,
        "  - caddy-http.ts: x.Y (line 1)".toList, "    ... and 1 more".toList] := by
  intro report
  have named : IsPlain "caddy-http.ts:".toList :=
    isPlain_colon (by decide : IsMild "caddy-http.ts".toList) (by decide : IsMild [])
  have printed : Markup.print "Unresolved: x.Y (line 1), [red]z.W[/red] (line 2)".toList =
      .ok "Unresolved: x.Y (line 1), z.W (line 2)\n".toList := by
    decide +kernel
  have listed : IsPlain "caddy-http.ts: x.Y (line 1)".toList :=
    isPlain_colon (by decide : IsMild "caddy-http.ts".toList)
      (by decide : IsMild " x.Y (line 1)".toList)
  refine ⟨(report_prints_in_full_iff 1 report).1.mpr ⟨?_, ?_, ?_⟩, by decide⟩
  · intro file member active
    obtain rfl := List.mem_singleton.mp member
    exact named
  · intro file member unresolved
    obtain rfl := List.mem_singleton.mp member
    exact exists_print_iff.mp ⟨_, printed⟩
  · intro reference member
    obtain rfl := List.mem_singleton.mp member
    exact listed

/-- A report on one file of a name, in which one reference was resolved. -/
def reportOn (name : Text) : PassReport :=
  ⟨false, 1, 1, [⟨⟨.relative, ["gen".toList, name]⟩, 0, false, 1, [], 1, true⟩]⟩

/-- A name is not printed as it stands when it holds a tag, and a report on it not at all when the
tag names a colour that cannot be read. -/
theorem report_drops_bracketed_name :
    ¬PrintedInFull 20 (reportOn "[id].ts".toList) ∧
      (Status.bare "[id].ts:".toList).print = .ok ".ts:\n".toList ∧
      (printed (reportStatuses 20 (reportOn "[rgb(1,,2)].ts".toList))).isOk = false := by
  refine ⟨fun full => ?_, by decide +kernel, ?_⟩
  · have plain := (printedInFull_iff.mp full).1 _ List.mem_cons_self rfl
    exact plain.untagged "id".toList ⟨'i', ['d'], rfl, rfl, by decide⟩ ⟨[], ".ts:".toList, rfl⟩
  · decide +kernel

end Console

end DeclLinker
