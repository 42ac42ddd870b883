import DeclLinker.Proofs.Index.Origin
import DeclLinker.Proofs.Linking.Settled
import DeclLinker.Proofs.Pass.Disk
import Mathlib.Data.List.Pairwise

/-!
# What a pass leaves on a disk

A pass reads all its files before it writes the first one, so every file is linked from its own text
and from the index of all texts as they stood before the pass.  Then the changed texts are stored in
order.

From this follows what a pass leaves behind, however it ends.  A dry run leaves the disk alone and
reports what a run that writes would report.  A run that writes puts every changed text into its own
file and touches nothing else.  A run that fails before storing leaves the disk alone, and one whose
write is refused has stored exactly the changed texts before that file.
-/

namespace DeclLinker

namespace Disk

/-- The paths of the files lead to different places. -/
def Apart (disk : Disk) (files : List SourceFile) : Prop :=
  files.Pairwise fun file other =>
    disk.tree.walk disk.here file.path ≠ disk.tree.walk disk.here other.path

theorem Apart.eq_of_walk_eq {disk : Disk} {files : List SourceFile} (apart : disk.Apart files) :
    ∀ file ∈ files, ∀ other ∈ files,
      disk.tree.walk disk.here file.path = disk.tree.walk disk.here other.path → file = other := by
  intro file one other two same
  by_contra different
  have symmetric : Std.Symm fun file other : SourceFile =>
      disk.tree.walk disk.here file.path ≠ disk.tree.walk disk.here other.path :=
    ⟨fun _ _ differ => differ.symm⟩
  exact apart.forall one two different same

theorem Readable.exists_bytes {disk : Disk} {files : List SourceFile}
    (readable : disk.Readable files) :
    ∀ file ∈ files, ∃ bytes, disk.tree.read disk.here file.path = .ok bytes := by
  intro file member
  obtain ⟨text, read⟩ := readable file member
  obtain ⟨bytes, -, held, -, -⟩ := exists_bytes_of_readText read
  exact ⟨bytes, held⟩

variable {disk : Disk} {settings : CorpusSettings} {directory : Path} {failure : Failure}

theorem code_of_filesIn {tier : Tier}
    (failed : disk.filesIn settings tier directory = .error failure) :
    failure.code = .readFailed := by
  unfold filesIn at failed
  dsimp only at failed
  split at failed
  · cases failed
    rfl
  · split at failed
    · cases failed
      rfl
    · cases failed

/-- Discovery fails for a directory that is missing or cannot be listed. -/
theorem code_of_discover (failed : disk.discover settings directory = .error failure) :
    failure.code = .directoryMissing ∨ failure.code = .readFailed := by
  unfold discover at failed
  split at failed
  · refine .inr ?_
    cases core : disk.filesIn settings .core directory with
    | error first =>
        rw [core] at failed
        cases failed
        exact code_of_filesIn core
    | ok files =>
        rw [core] at failed
        change (if _ then _ else _) = _ at failed
        split at failed
        · cases extra : disk.filesIn settings .plugin (settings.pluginsDirectory directory) with
          | error second =>
              rw [extra] at failed
              cases failed
              exact code_of_filesIn extra
          | ok more =>
              rw [extra] at failed
              cases failed
        · cases failed
  · cases failed
    exact .inl rfl

end Disk

namespace Pass

open Disk

/-- Every entry of the index of some files was made for an export of one of them. -/
theorem exists_file_of_entry {tables : Tables} {families : List Text} {files : List SourceFile}
    {text : SourceFile → Text} {key : Text} {entry : Entry}
    (member : (key, entry) ∈ (Index.ofAnalyses tables (files.map fun file =>
      Analysis.ofText families file.path file.tier (text file))).entries) :
    ∃ file ∈ files, entry.path = file.path ∧
      entry.tag = moduleTag families file.path.name ∧
      entry.exportName ∈ (Scan.ofText (text file)).exports := by
  obtain ⟨analysis, listed, exportName, exported, rfl⟩ := Index.stems_build _ _ _ key entry member
  obtain ⟨file, fileMember, rfl⟩ := List.mem_map.1 listed
  exact ⟨file, fileMember, rfl, rfl, List.mem_eraseDups.1 exported⟩

/-- The index that a pass builds from the texts of its files. -/
def indexOn (disk : Disk) (settings : Settings) (files : List SourceFile) : Index :=
  Index.ofAnalyses settings.tables
    (files.map fun file => (disk.readFile settings.corpus.families file).analysis)

/-- A file as a pass links it: from its text and the index of all texts, as they stand before the
pass. -/
def linkOn (disk : Disk) (settings : Settings) (files : List SourceFile) (file : SourceFile) :
    Linked :=
  Linked.ofText disk.here settings.tables settings.corpus.suffix (indexOn disk settings files)
    (disk.readFile settings.corpus.families file).analysis (disk.textAt file.path)

theorem linkAll_readFile (disk : Disk) (settings : Settings) (files : List SourceFile) :
    linkAll disk.here settings (files.map (disk.readFile settings.corpus.families)) =
      files.map (linkOn disk settings files) := by
  simp only [linkAll, List.map_map]
  rfl

theorem regular_tables (settings : Settings) :
    ∀ rule ∈ settings.tables.rules, rule.isRegular = true :=
  fun _ member => Rule.isRegular_of_mem_builtin member

/-- A file without a change is linked to the text it was read as. -/
theorem text_linkOn_of_unchanged {disk : Disk} {settings : Settings} {files : List SourceFile}
    {file : SourceFile} (unchanged : (linkOn disk settings files file).report.changed = false) :
    (linkOn disk settings files file).text = disk.textAt file.path :=
  Linked.text_of_settled disk.here _ _ file.path file.tier (regular_tables settings)
    ((Linked.changed_eq_false_iff disk.here _ _ file.path file.tier (regular_tables settings)
      _).1 unchanged)

variable {disk : Disk} {settings : Settings} {directory : Path} {files : List SourceFile}

theorem housed_of_readable (readable : disk.Readable files) {some : List SourceFile}
    (inside : ∀ file ∈ some, file ∈ files) :
    Housed disk.tree disk.here (some.map (linkOn disk settings files)) := by
  intro linked member
  obtain ⟨file, listed, rfl⟩ := List.mem_map.1 member
  exact readable.exists_bytes file (inside file listed)

/-- The disk after the changed texts of some files were stored. -/
def storedOn (disk : Disk) (settings : Settings) (files done : List SourceFile) : Disk :=
  disk.holding ((done.map (linkOn disk settings files)).foldl (keep disk.here) disk.tree)

/-- After some files were stored, those among them that changed hold their linked texts, the other
files what they held, and so does every place that no stored file belongs to. -/
theorem storedOn_spec (settings : Settings) (readable : disk.Readable files)
    (apart : disk.Apart files) {done : List SourceFile} (inside : ∀ file ∈ done, file ∈ files) :
    let after := (storedOn disk settings files done).tree
    let link := linkOn disk settings files
    (∀ file ∈ done, (link file).report.changed = true →
        after.read disk.here file.path = .ok (Utf8.encode (link file).text)) ∧
      (∀ file ∈ files, (file ∈ done → (link file).report.changed = false) →
        after.read disk.here file.path = disk.tree.read disk.here file.path) ∧
      ∀ place, (∀ file ∈ done, (link file).report.changed = true →
          disk.tree.walk disk.here file.path ≠ .ok place) →
        after.entry? place = disk.tree.entry? place := by
  intro after link
  have reads := read_foldl_keep link (fun _ => rfl) readable.exists_bytes apart.eq_of_walk_eq inside
  refine ⟨fun file member changed => ?_, fun file member unchanged => ?_, fun place nowhere => ?_⟩
  · exact (reads file (inside file member)).trans (if_pos ⟨member, changed⟩)
  · refine (reads file member).trans (if_neg ?_)
    rintro ⟨isDone, changed⟩
    rw [unchanged isDone] at changed
    cases changed
  · rcases entry?_foldl_keep (housed_of_readable readable inside) place with
      ⟨-, same⟩ | ⟨linked, listed, changed, walked, -⟩
    · exact same
    · obtain ⟨file, isDone, rfl⟩ := List.mem_map.1 listed
      exact absurd walked (nowhere file isDone changed)

/-- The report of a pass over files whose reports are given. -/
def reportOn (disk : Disk) (settings : Settings) (files : List SourceFile) (dryRun : Bool)
    (reports : List FileReport) : PassReport :=
  ⟨dryRun, files.length, (indexOn disk settings files).size, reports⟩

/-- A pass over files that can be read links and stores them. -/
theorem run_of_storeAll (quiet : disk.Quiet)
    (found : disk.discover settings.corpus directory = .ok files)
    (readable : disk.Readable files) (runId : Text) {dryRun : Bool} {last : FileTree}
    (stored : (storeAll dryRun disk (files.map (linkOn disk settings files))).1 =
      disk.holding last) :
    (run disk settings directory runId dryRun).disk = disk.holding last ∧
      (run disk settings directory runId dryRun).result =
        (storeAll dryRun disk (files.map (linkOn disk settings files))).2.result.map
          (reportOn disk settings files dryRun) := by
  have analysed := quiet.analyzeAll_of_readable settings.corpus.families readable
  simp only [run, found, quiet.tellAll, analysed, quiet.analyzeAll_disk, finish, linkAll_readFile]
  cases (storeAll dryRun disk (files.map (linkOn disk settings files))).2.result with
  | error failure => exact ⟨stored, rfl⟩
  | ok reports =>
      dsimp only
      rw [stored, (quiet.holding last).tell]
      refine ⟨rfl, ?_⟩
      simp only [Except.map, reportOn, indexOn, List.length_map, List.map_map, Function.comp_def]

/-- A dry run leaves the disk alone and reports every linked text. -/
theorem run_dry (quiet : disk.Quiet)
    (found : disk.discover settings.corpus directory = .ok files)
    (readable : disk.Readable files) (runId : Text) :
    (run disk settings directory runId true).disk = disk ∧
      (run disk settings directory runId true).result =
        .ok (reportOn disk settings files true
          (files.map fun file => (linkOn disk settings files file).report)) := by
  obtain ⟨last, reports⟩ := storeAll_dry quiet (files.map (linkOn disk settings files))
  have same : (storeAll true disk (files.map (linkOn disk settings files))).1 =
      disk.holding disk.tree := last
  obtain ⟨left, result⟩ := run_of_storeAll quiet found readable runId same
  refine ⟨left, ?_⟩
  rw [result, reports, List.map_map]
  rfl

/-- A pass stores all its files, or it fails at the first changed one whose write is refused. -/
theorem run_stored_cases (quiet : disk.Quiet)
    (found : disk.discover settings.corpus directory = .ok files)
    (readable : disk.Readable files) (runId : Text) :
    let link := linkOn disk settings files
    let outcome := run disk settings directory runId false
    (outcome.disk = storedOn disk settings files files ∧
        outcome.result = .ok (reportOn disk settings files false
          (files.map fun file => noted (link file)))) ∨
      ∃ front file rest reason, files = front ++ file :: rest ∧
        (link file).report.changed = true ∧ disk.faults.write file.path = some reason ∧
        (∀ other ∈ front, (link other).report.changed = true →
          disk.faults.write other.path = none) ∧
        outcome.disk = storedOn disk settings files front ∧
        outcome.result = .error (.writeFailed (.str file.path.toText) (.str reason)) := by
  intro link outcome
  have housed : Housed disk.tree disk.here (files.map link) :=
    housed_of_readable readable fun _ member => member
  rcases storeAll_cases quiet housed with ⟨last, reports⟩ |
    ⟨front, linked, rest, reason, split, changed, refused, accepted, last, failed⟩
  · obtain ⟨left, result⟩ := run_of_storeAll quiet found readable runId last
    refine .inl ⟨left, ?_⟩
    change (run disk settings directory runId false).result = _
    rw [result, reports, List.map_map]
    rfl
  · obtain ⟨left, result⟩ := run_of_storeAll quiet found readable runId last
    obtain ⟨before, later, rfl, rfl, later_eq⟩ := List.map_eq_append_iff.1 split
    obtain ⟨file, after, rfl, rfl, rfl⟩ := List.map_eq_cons_iff.1 later_eq
    refine .inr ⟨before, file, after, reason, rfl, changed, refused, ?_, left, ?_⟩
    · exact fun other member => accepted (link other) (List.mem_map_of_mem member)
    · change (run disk settings directory runId false).result = _
      rw [result, failed]
      rfl

/-- A pass without files to link leaves the disk alone: its directory is missing, or a directory or
a file cannot be read. -/
theorem run_cases (quiet : disk.Quiet) (settings : Settings) (directory : Path) (runId : Text)
    (dryRun : Bool) :
    (∃ files, disk.discover settings.corpus directory = .ok files ∧ disk.Readable files) ∨
      (run disk settings directory runId dryRun).disk = disk ∧
        ∃ failure, (run disk settings directory runId dryRun).result = .error failure ∧
          (failure.code = .directoryMissing ∨ failure.code = .readFailed) := by
  cases found : disk.discover settings.corpus directory with
  | error failure =>
      refine .inr ⟨?_, failure, ?_, code_of_discover found⟩
      · simp only [run, found]
      · simp only [run, found]
  | ok files =>
      rcases quiet.readable_or_unread settings.corpus.families files with
        readable | ⟨file, -, failure, unread, failed⟩
      · exact .inl ⟨files, rfl, readable⟩
      · refine .inr ⟨?_, failure, ?_, .inr (code_of_readText unread)⟩
        · simp only [run, found, quiet.tellAll, failed, quiet.analyzeAll_disk]
        · simp only [run, found, quiet.tellAll, failed]

end Pass

end DeclLinker
