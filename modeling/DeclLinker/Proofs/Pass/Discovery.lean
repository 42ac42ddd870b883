import DeclLinker.Proofs.Pass.Effect
import DeclLinker.Proofs.Text.Order
import DeclLinker.Settings.Check
import Mathlib.Data.List.Forall2

/-!
# What discovery finds

On a tree that lists every place once, discovery gives the eligible files of a directory in code
point order, and then those of the second tier in the same order.  It repeats no path, unless the
path of the second tier is that of the directory itself; and it names no file under two paths,
unless both paths lead to one place.  A second tier that is named by a single component is never of
that kind.  A pass reports on the files that were found, in that order.
-/

namespace DeclLinker

theorem Text.lt_of_le_of_ne {first second : Text} (le : Text.le first second = true)
    (ne : first ≠ second) : Text.lt first second = true := by
  by_contra notBefore
  rw [Bool.not_eq_true] at notBefore
  have after : Text.le second first = true := by rw [Text.le, notBefore, Bool.not_false]
  exact ne (Text.le_antisymm le after)

theorem Text.pairwise_mergeSort (texts : List Text) :
    (texts.mergeSort Text.le).Pairwise fun first second => Text.le first second = true := by
  apply List.pairwise_mergeSort
  · intro first second third
    exact Text.le_trans
  · intro first second
    rw [Bool.or_eq_true]
    exact Text.le_total first second

/-- There is one way to put texts into order. -/
theorem Text.mergeSort_eq {texts ordered : List Text} (perm : texts.Perm ordered)
    (sorted : ordered.Pairwise fun first second => Text.le first second = true) :
    texts.mergeSort Text.le = ordered := by
  apply List.Perm.eq_of_pairwise _ (Text.pairwise_mergeSort texts) sorted
  · exact (List.mergeSort_perm texts Text.le).trans perm
  · intro first second _ _ before after
    exact Text.le_antisymm before after

/-- A text that names a single directory below another. -/
def Path.IsName (text : Text) : Prop :=
  isPart text = true ∧ '/' ∉ text ∧ text ≠ up

namespace FileTree

/-- A tree as it stands on a disk: every place is listed once, and no name in it is a double dot. -/
structure Genuine (tree : FileTree) : Prop where
  once : (Dict.keys tree).Nodup
  down : ∀ place ∈ Dict.keys tree, Path.up ∉ place

/-- The names of the eligible files directly inside a place, in code point order: those that end
with the suffix and with none of the excluded endings. -/
structure Lists (tree : FileTree) (settings : CorpusSettings) (place : Location)
    (names : List Text) : Prop where
  ordered : names.Pairwise fun first second => Text.lt first second = true
  mem_iff : ∀ name, name ∈ names ↔
    settings.suffix <:+ name ∧ (∀ ending ∈ settings.excluded, ¬ending <:+ name) ∧
      ∃ bytes, tree.entry? (place ++ [name]) = some (.file bytes)

variable {tree : FileTree} {here place : Location} {path : Path} {settings : CorpusSettings}
  {names : List Text} {name : Text}

theorem isDirectory_iff :
    tree.isDirectory here path = true ↔ ∃ place, tree.find here path = .ok (place, .directory) := by
  unfold isDirectory
  cases tree.find here path with
  | error fault => simp
  | ok found =>
      obtain ⟨place, entry⟩ := found
      cases entry <;> simp

theorem fileIn?_eq_some_iff {entry : Location × FileEntry} :
    fileIn? place entry = some name ↔
      entry.1 = place ++ [name] ∧ ∃ bytes, entry.2 = .file bytes := by
  obtain ⟨inner, kind⟩ := entry
  cases kind with
  | directory => simp [fileIn?]
  | file bytes =>
      simp only [fileIn?, FileEntry.file.injEq, exists_eq', and_true]
      constructor
      · intro found
        split at found
        · rename_i parent
          rw [← parent]
          exact (List.dropLast_append_getLast? name found).symm
        · cases found
      · rintro rfl
        simp

theorem entry?_child (genuine : tree.Genuine) {entry : FileEntry} :
    tree.entry? (place ++ [name]) = some entry ↔ (place ++ [name], entry) ∈ tree := by
  unfold FileTree.entry?
  rw [if_neg (by simp), Dict.get?_eq_some_iff_mem genuine.once]

theorem mem_filterMap_fileIn? (genuine : tree.Genuine) :
    name ∈ tree.filterMap (fileIn? place) ↔
      ∃ bytes, tree.entry? (place ++ [name]) = some (.file bytes) := by
  rw [List.mem_filterMap]
  constructor
  · rintro ⟨⟨inner, entry⟩, member, found⟩
    obtain ⟨rfl, bytes, rfl⟩ := fileIn?_eq_some_iff.mp found
    exact ⟨bytes, (entry?_child genuine).mpr member⟩
  · rintro ⟨bytes, held⟩
    exact ⟨_, (entry?_child genuine).mp held, fileIn?_eq_some_iff.mpr ⟨rfl, bytes, rfl⟩⟩

theorem nodup_filterMap_fileIn? (genuine : tree.Genuine) :
    (tree.filterMap (fileIn? place)).Nodup := by
  have once : tree.Pairwise fun first second => first.1 ≠ second.1 :=
    List.pairwise_map.mp genuine.once
  apply once.filterMap
  rintro first second apart name found other otherFound rfl
  obtain ⟨firstPlace, -⟩ := fileIn?_eq_some_iff.mp found
  obtain ⟨secondPlace, -⟩ := fileIn?_eq_some_iff.mp otherFound
  exact apart (firstPlace.trans secondPlace.symm)

/-- The names of a directory are those of the files inside it, in code point order. -/
theorem fileNames_of_find (genuine : tree.Genuine)
    (found : tree.find here path = .ok (place, .directory)) :
    ∃ names, tree.fileNames here path = .ok names ∧
      (names.Pairwise fun first second => Text.lt first second = true) ∧
      ∀ name, name ∈ names ↔ ∃ bytes, tree.entry? (place ++ [name]) = some (.file bytes) := by
  refine ⟨(tree.filterMap (fileIn? place)).mergeSort Text.le, ?_, ?_, ?_⟩
  · simp only [fileNames, found]
  · have sorted := Text.pairwise_mergeSort (tree.filterMap (fileIn? place))
    have once : ((tree.filterMap (fileIn? place)).mergeSort Text.le).Nodup :=
      (List.mergeSort_perm _ _).nodup_iff.mpr (nodup_filterMap_fileIn? genuine)
    exact sorted.imp₂ (fun _ _ le ne => Text.lt_of_le_of_ne le ne) once
  · intro name
    rw [List.mem_mergeSort, mem_filterMap_fileIn? genuine]

/-- The names of the files in a directory, put into order. -/
theorem fileNames_eq (found : tree.find here path = .ok (place, .directory))
    (perm : (tree.filterMap (fileIn? place)).Perm names)
    (ordered : names.Pairwise fun first second => Text.le first second = true) :
    tree.fileNames here path = .ok names := by
  simp only [fileNames, found]
  rw [Text.mergeSort_eq perm ordered]

theorem Lists.nodup (lists : tree.Lists settings place names) : names.Nodup := by
  apply lists.ordered.imp
  rintro first second before rfl
  have irreflexive : ¬Text.lt first first = true :=
    irrefl_of (fun first second => Text.lt first second = true) first
  exact irreflexive before

/-- A listed name is the name of a file, and so no double dot. -/
theorem Lists.ne_up (lists : tree.Lists settings place names) (genuine : tree.Genuine)
    (member : name ∈ names) : name ≠ Path.up := by
  rintro rfl
  obtain ⟨-, -, bytes, held⟩ := (lists.mem_iff _).mp member
  have listed : place ++ [Path.up] ∈ Dict.keys tree :=
    List.mem_map_of_mem (f := Prod.fst) ((entry?_child genuine).mp held)
  exact genuine.down _ listed (by simp)

theorem walk_of_find {entry : FileEntry} (found : tree.find here path = .ok (place, entry)) :
    tree.walk here path = .ok place ∧ tree.entry? place = some entry := by
  unfold find at found
  cases walked : tree.walk here path with
  | error fault =>
      rw [walked] at found
      cases found
  | ok reached =>
      simp only [walked] at found
      cases held : tree.entry? reached with
      | none =>
          rw [held] at found
          cases found
      | some entry =>
          simp only [held, Except.ok.injEq, Prod.mk.injEq] at found
          obtain ⟨rfl, rfl⟩ := found
          exact ⟨rfl, held⟩

/-- A name inside a directory leads to that name inside the place of the directory. -/
theorem walk_inside (found : tree.find here path = .ok (place, .directory))
    (down : name ≠ Path.up) :
    tree.walk here ⟨path.root, path.parts ++ [name]⟩ = .ok (place ++ [name]) := by
  obtain ⟨walked, held⟩ := walk_of_find found
  have isAbsolute_eq : (Path.mk path.root (path.parts ++ [name])).isAbsolute = path.isAbsolute :=
    rfl
  unfold walk at walked ⊢
  rw [isAbsolute_eq, List.foldlM_append, walked]
  change (step tree place name >>= pure) = _
  simp only [bind_pure, step, held, Path.step, if_neg down]

end FileTree

theorem CorpusSettings.isEligible_iff {settings : CorpusSettings} {name : Text} :
    settings.isEligible name = true ↔
      settings.suffix <:+ name ∧ ∀ ending ∈ settings.excluded, ¬ending <:+ name := by
  simp [isEligible, List.any_eq_false]

/-- A second tier named by a single component lies below the directory. -/
theorem CorpusSettings.pluginsDirectory_of_isName {settings : CorpusSettings}
    (isName : Path.IsName settings.plugins) (directory : Path) :
    settings.pluginsDirectory directory =
      ⟨directory.root, directory.parts ++ [settings.plugins]⟩ := by
  obtain ⟨isPart, noSlash, -⟩ := isName
  have parts : Text.splitOn '/' settings.plugins = [settings.plugins] :=
    Text.splitOn_of_not_mem noSlash
  have relative : Root.ofText settings.plugins = .relative := by
    unfold Root.ofText
    split <;> simp_all
  simp [pluginsDirectory, Path.join, Path.ofText, Path.isAbsolute, parts, relative, isPart]

/-- The file of a given name in a directory. -/
def SourceFile.inside (directory : Path) (tier : Tier) (name : Text) : SourceFile :=
  ⟨⟨directory.root, directory.parts ++ [name]⟩, tier⟩

theorem SourceFile.path_inside_eq_iff {first second : Path} {tier other : Tier}
    {name otherName : Text} :
    (inside first tier name).path = (inside second other otherName).path ↔
      first = second ∧ name = otherName := by
  obtain ⟨root, parts⟩ := first
  obtain ⟨otherRoot, otherParts⟩ := second
  simp only [inside, Path.mk.injEq, List.append_singleton_inj, and_assoc]

namespace Disk

variable {disk : Disk} {directory : Path} {place : Location}

/-- The files of a directory that can be listed are its eligible ones in order. -/
theorem filesIn_of_find (genuine : disk.tree.Genuine)
    (listable : disk.faults.list directory = none)
    (found : disk.tree.find disk.here directory = .ok (place, .directory))
    (settings : CorpusSettings) (tier : Tier) :
    ∃ names, disk.filesIn settings tier directory =
        .ok (names.map (SourceFile.inside directory tier)) ∧
      disk.tree.Lists settings place names := by
  obtain ⟨names, read, ordered, mem_iff⟩ := FileTree.fileNames_of_find genuine found
  refine ⟨names.filter settings.isEligible, ?_, ordered.filter _, ?_⟩
  · simp only [filesIn, listable, read]
    rfl
  · intro name
    rw [List.mem_filter, mem_iff, CorpusSettings.isEligible_iff, and_comm, and_assoc]

/-- The names that discovery lists in a directory and in its second tier, which need not be
there. -/
structure Tiers (disk : Disk) (settings : CorpusSettings) (directory : Path) (place : Location)
    (core extra : List Text) : Prop where
  core_lists : disk.tree.Lists settings place core
  extra_lists : ∀ inner,
    disk.tree.find disk.here (settings.pluginsDirectory directory) = .ok (inner, .directory) →
      disk.tree.Lists settings inner extra
  extra_nil :
    disk.tree.isDirectory disk.here (settings.pluginsDirectory directory) = false → extra = []

/-- The files of the names in a directory and in its second tier. -/
def tierFiles (settings : CorpusSettings) (directory : Path) (core extra : List Text) :
    List SourceFile :=
  core.map (SourceFile.inside directory .core) ++
    extra.map (SourceFile.inside (settings.pluginsDirectory directory) .plugin)

/-- Discovery gives the files of the directory, and then those of the second tier. -/
theorem discover_of_find (genuine : disk.tree.Genuine)
    (listable : ∀ path, disk.faults.list path = none)
    (found : disk.tree.find disk.here directory = .ok (place, .directory))
    (settings : CorpusSettings) :
    ∃ core extra, disk.Tiers settings directory place core extra ∧
      disk.discover settings directory = .ok (tierFiles settings directory core extra) := by
  have isDirectory := FileTree.isDirectory_iff.mpr ⟨place, found⟩
  obtain ⟨core, coreFiles, coreLists⟩ :=
    filesIn_of_find genuine (listable directory) found settings .core
  cases second : disk.tree.isDirectory disk.here (settings.pluginsDirectory directory) with
  | true =>
      obtain ⟨inner, pluginsFound⟩ := FileTree.isDirectory_iff.mp second
      obtain ⟨extra, extraFiles, extraLists⟩ :=
        filesIn_of_find genuine (listable _) pluginsFound settings .plugin
      refine ⟨core, extra, ⟨coreLists, ?_, fun absent => ?_⟩, ?_⟩
      · intro other otherFound
        cases pluginsFound.symm.trans otherFound
        exact extraLists
      · cases second.symm.trans absent
      · simp only [discover, isDirectory, if_true, coreFiles, second, extraFiles]
        rfl
  | false =>
      refine ⟨core, [], ⟨coreLists, ?_, fun _ => rfl⟩, ?_⟩
      · intro inner pluginsFound
        cases second.symm.trans (FileTree.isDirectory_iff.mpr ⟨inner, pluginsFound⟩)
      · simp only [discover, isDirectory, if_true, coreFiles, second, tierFiles, List.map_nil,
          List.append_nil]
        rfl

variable {settings : CorpusSettings} {core extra : List Text}

/-- Names in the second tier are there only when it is. -/
theorem Tiers.lists_of_mem (tiers : disk.Tiers settings directory place core extra) {name : Text}
    (member : name ∈ extra) :
    ∃ inner,
      disk.tree.find disk.here (settings.pluginsDirectory directory) = .ok (inner, .directory) ∧
        disk.tree.Lists settings inner extra := by
  cases second : disk.tree.isDirectory disk.here (settings.pluginsDirectory directory) with
  | true =>
      obtain ⟨inner, found⟩ := FileTree.isDirectory_iff.mp second
      exact ⟨inner, found, tiers.extra_lists inner found⟩
  | false =>
      rw [tiers.extra_nil second] at member
      cases member

theorem Tiers.extra_nodup (tiers : disk.Tiers settings directory place core extra) :
    extra.Nodup := by
  cases extra with
  | nil => exact List.nodup_nil
  | cons name rest =>
      obtain ⟨inner, -, lists⟩ := tiers.lists_of_mem List.mem_cons_self
      exact lists.nodup

/-- A second tier at the place of the directory lists what the directory lists. -/
theorem Tiers.mem_extra (tiers : disk.Tiers settings directory place core extra)
    (same : disk.tree.find disk.here (settings.pluginsDirectory directory) =
      .ok (place, .directory)) {name : Text} (member : name ∈ core) : name ∈ extra :=
  ((tiers.extra_lists place same).mem_iff name).mpr ((tiers.core_lists.mem_iff name).mp member)

/-- What tells files apart within each tier tells all of them apart, unless the two tiers are the
same and not empty. -/
theorem Tiers.pairwise_ne_iff (tiers : disk.Tiers settings directory place core extra)
    {β : Type} {mark : SourceFile → β} {same : Prop}
    (inCore : ∀ name ∈ core, ∀ other ∈ core,
      mark (.inside directory .core name) = mark (.inside directory .core other) → name = other)
    (inExtra : ∀ name ∈ extra, ∀ other ∈ extra,
      mark (.inside (settings.pluginsDirectory directory) .plugin name) =
        mark (.inside (settings.pluginsDirectory directory) .plugin other) → name = other)
    (across : ∀ name ∈ core, ∀ other ∈ extra,
      mark (.inside directory .core name) =
        mark (.inside (settings.pluginsDirectory directory) .plugin other) ↔
          same ∧ name = other)
    (shared : same → ∀ name ∈ core, name ∈ extra) :
    (tierFiles settings directory core extra).Pairwise (fun file other => mark file ≠ mark other) ↔
      (same → core = []) := by
  rw [tierFiles, List.pairwise_append, List.pairwise_map, List.pairwise_map]
  constructor
  · rintro ⟨-, -, apart⟩ isSame
    rw [List.eq_nil_iff_forall_not_mem]
    intro name member
    have twice := shared isSame name member
    exact apart _ (List.mem_map_of_mem member) _ (List.mem_map_of_mem twice)
      ((across name member name twice).mpr ⟨isSame, rfl⟩)
  · intro empty
    refine ⟨?_, ?_, ?_⟩
    · exact tiers.core_lists.nodup.imp_of_mem fun one two differ equal =>
        differ (inCore _ one _ two equal)
    · exact tiers.extra_nodup.imp_of_mem fun one two differ equal =>
        differ (inExtra _ one _ two equal)
    · intro file one other two equal
      obtain ⟨name, listed, rfl⟩ := List.mem_map.mp one
      obtain ⟨otherName, otherListed, rfl⟩ := List.mem_map.mp two
      obtain ⟨isSame, -⟩ := (across name listed otherName otherListed).mp equal
      rw [empty isSame] at listed
      cases listed

variable (genuine : disk.tree.Genuine)
  (found : disk.tree.find disk.here directory = .ok (place, .directory))
  (tiers : disk.Tiers settings directory place core extra)

include found tiers

/-- A path is repeated exactly when the second tier has the path of the directory and there is a
file in it. -/
theorem nodup_path_tierFiles :
    ((tierFiles settings directory core extra).map SourceFile.path).Nodup ↔
      (settings.pluginsDirectory directory = directory → core = []) := by
  rw [List.Nodup, List.pairwise_map]
  apply tiers.pairwise_ne_iff
  · exact fun name _ other _ equal => (SourceFile.path_inside_eq_iff.mp equal).2
  · exact fun name _ other _ equal => (SourceFile.path_inside_eq_iff.mp equal).2
  · intro name _ other _
    rw [SourceFile.path_inside_eq_iff, eq_comm]
  · intro same name member
    apply tiers.mem_extra _ member
    rw [same, found]

include genuine

/-- A file is found under two paths exactly when the second tier lies at the place of the directory
and there is a file in it. -/
theorem apart_tierFiles :
    disk.Apart (tierFiles settings directory core extra) ↔
      (disk.tree.find disk.here (settings.pluginsDirectory directory) = .ok (place, .directory) →
        core = []) := by
  have coreWalk : ∀ name ∈ core, disk.tree.walk disk.here
      (SourceFile.inside directory .core name).path = .ok (place ++ [name]) := by
    intro name member
    exact FileTree.walk_inside found (tiers.core_lists.ne_up genuine member)
  have extraWalk : ∀ name ∈ extra, ∃ inner,
      disk.tree.find disk.here (settings.pluginsDirectory directory) = .ok (inner, .directory) ∧
        disk.tree.walk disk.here
          (SourceFile.inside (settings.pluginsDirectory directory) .plugin name).path =
            .ok (inner ++ [name]) := by
    intro name member
    obtain ⟨inner, pluginsFound, lists⟩ := tiers.lists_of_mem member
    exact ⟨inner, pluginsFound, FileTree.walk_inside pluginsFound (lists.ne_up genuine member)⟩
  apply tiers.pairwise_ne_iff
  · intro name one other two equal
    rw [coreWalk name one, coreWalk other two] at equal
    simpa using equal
  · intro name one other two equal
    obtain ⟨inner, innerFound, walked⟩ := extraWalk name one
    obtain ⟨otherInner, otherFound, otherWalked⟩ := extraWalk other two
    cases innerFound.symm.trans otherFound
    rw [walked, otherWalked] at equal
    simpa using equal
  · intro name one other two
    obtain ⟨inner, innerFound, walked⟩ := extraWalk other two
    rw [coreWalk name one, walked, innerFound]
    simp [List.append_singleton_inj, eq_comm]
  · exact fun same name member => tiers.mem_extra same member

/-- A second tier that is named by a single component keeps its files apart. -/
theorem apart_of_isName (isName : Path.IsName settings.plugins) :
    ((tierFiles settings directory core extra).map SourceFile.path).Nodup ∧
      disk.Apart (tierFiles settings directory core extra) := by
  have plugins_eq := CorpusSettings.pluginsDirectory_of_isName isName directory
  constructor
  · rw [nodup_path_tierFiles found tiers, plugins_eq]
    intro same
    have lengths := congrArg (fun path : Path => path.parts.length) same
    simp at lengths
  · rw [apart_tierFiles genuine found tiers, plugins_eq]
    intro same
    -- One name more leads one level down, and so never back to the directory.
    obtain ⟨walked, -⟩ := FileTree.walk_of_find same
    rw [FileTree.walk_inside found isName.2.2, Except.ok.injEq] at walked
    have lengths := congrArg List.length walked
    simp at lengths

end Disk

namespace Pass

open Disk

theorem map_eq_map_of_forall₂ {α β γ : Type} {relation : α → β → Prop} {first : α → γ}
    {second : β → γ} {items : List α} {others : List β}
    (paired : List.Forall₂ relation items others)
    (same : ∀ item other, relation item other → first item = second other) :
    items.map first = others.map second := by
  induction paired with
  | nil => rfl
  | cons related _ ih => rw [List.map_cons, List.map_cons, same _ _ related, ih]

theorem exists_of_mem_of_forall₂ {α β : Type} {relation : α → β → Prop} {items : List α}
    {others : List β} (paired : List.Forall₂ relation items others) {other : β}
    (member : other ∈ others) : ∃ item ∈ items, relation item other := by
  induction paired with
  | nil => cases member
  | cons related _ ih =>
      rcases List.mem_cons.mp member with rfl | later
      · exact ⟨_, List.mem_cons_self, related⟩
      · obtain ⟨item, listed, found⟩ := ih later
        exact ⟨item, .tail _ listed, found⟩

theorem analysis_of_analyze {families : List Text} {disk : Disk} {file : SourceFile}
    {read : ReadFile} (analysed : disk.analyze families file = .ok read) :
    read.analysis = .ofText families file.path file.tier read.text := by
  unfold analyze at analysed
  cases text : disk.readText file.path with
  | error failure =>
      rw [text] at analysed
      cases analysed
  | ok text =>
      simp only [text, Except.map] at analysed
      cases analysed
      rfl

/-- Reading a list of files analyses each of them once, in order. -/
theorem analyses_of_analyzeAll {families : List Text} {disk : Disk} {files : List SourceFile}
    {reads : List ReadFile} (read : (analyzeAll families disk files).2.result = .ok reads) :
    List.Forall₂ (fun file read =>
      read.analysis = .ofText families file.path file.tier read.text) files reads := by
  induction files generalizing disk reads with
  | nil =>
      cases read
      exact .nil
  | cons file files ih =>
      rw [analyzeAll] at read
      cases analysed : disk.analyze families file with
      | error failure =>
          rw [analysed] at read
          cases read
      | ok first =>
          simp only [analysed] at read
          cases later : (analyzeAll families (disk.tell first.analysis.event) files).2.result with
          | error failure =>
              rw [later] at read
              cases read
          | ok rest =>
              rw [later] at read
              cases read
              exact .cons (analysis_of_analyze analysed) (ih later)

theorem report_of_store {dryRun : Bool} {disk next : Disk} {linked : Linked} {report : FileReport}
    (stored : store dryRun disk linked = .ok (next, report)) :
    ∃ written, report = { linked.report with written } := by
  unfold store at stored
  split at stored
  · cases written : disk.writeText linked.report.path linked.text with
    | error failure =>
        rw [written] at stored
        cases stored
    | ok last =>
        rw [written] at stored
        cases stored
        exact ⟨true, rfl⟩
  · cases stored
    exact ⟨linked.report.written, rfl⟩

/-- Storing linked texts reports each of them once, in order, as it was linked but for whether it
was written. -/
theorem reports_of_storeAll {dryRun : Bool} {disk : Disk} {all : List Linked}
    {reports : List FileReport} (stored : (storeAll dryRun disk all).2.result = .ok reports) :
    List.Forall₂ (fun linked report => ∃ written, report = { linked.report with written })
      all reports := by
  induction all generalizing disk reports with
  | nil =>
      cases stored
      exact .nil
  | cons linked all ih =>
      simp only [storeAll] at stored
      cases kept : store dryRun (disk.tellAll linked.events) linked with
      | error failure =>
          rw [kept] at stored
          cases stored
      | ok first =>
          obtain ⟨next, report⟩ := first
          simp only [kept] at stored
          cases later : (storeAll dryRun next all).2.result with
          | error failure =>
              rw [later] at stored
              cases stored
          | ok rest =>
              rw [later] at stored
              cases stored
              exact .cons (report_of_store kept) (ih later)

/-- A pass reads and analyses every file that was found and reports on every file it linked. -/
theorem reports_of_run {disk : Disk} {settings : Settings} {directory : Path} {runId : Text}
    {dryRun : Bool} {files : List SourceFile} {report : PassReport}
    (found : disk.discover settings.corpus directory = .ok files)
    (passed : (run disk settings directory runId dryRun).result = .ok report) :
    ∃ (reads : List ReadFile) (here : Location),
      List.Forall₂ (fun file read =>
        read.analysis = .ofText settings.corpus.families file.path file.tier read.text)
        files reads ∧
      List.Forall₂ (fun linked report => ∃ written, report = { linked.report with written })
        (linkAll here settings reads) report.files ∧
      report.scanned = reads.length := by
  simp only [run, found] at passed
  cases read : (analyzeAll settings.corpus.families
      (disk.tellAll (disk.discoveryEvents settings.corpus directory)) files).2.result with
  | error failure =>
      rw [read] at passed
      cases passed
  | ok reads =>
      simp only [read, finish] at passed
      split at passed
      · cases passed
      · rename_i reports stored
        cases passed
        exact ⟨reads, _, analyses_of_analyzeAll read, reports_of_storeAll stored, rfl⟩

/-- A pass reports on every file that was found, once and in order. -/
theorem paths_of_run {disk : Disk} {settings : Settings} {directory : Path} {runId : Text}
    {dryRun : Bool} {files : List SourceFile} {report : PassReport}
    (found : disk.discover settings.corpus directory = .ok files)
    (passed : (run disk settings directory runId dryRun).result = .ok report) :
    report.files.map FileReport.path = files.map SourceFile.path ∧
      report.scanned = files.length := by
  obtain ⟨reads, here, analysed, reported, scanned⟩ := reports_of_run found passed
  refine ⟨?_, by rw [scanned, analysed.length_eq]⟩
  calc
    report.files.map FileReport.path
      = (linkAll here settings reads).map (fun linked => linked.report.path) :=
        (map_eq_map_of_forall₂ reported fun _ _ ⟨_, same⟩ => by rw [same]).symm
    _ = reads.map (fun read => read.analysis.path) := by
        rw [linkAll, List.map_map]
        rfl
    _ = files.map SourceFile.path :=
        (map_eq_map_of_forall₂ analysed fun _ _ same => by rw [same]; rfl).symm

end Pass

namespace Disk

/-- Discovery in a directory that is there gives its eligible files in code point order of their
names, and then those of the second tier in the same order.  No path occurs twice, unless the
second tier has the path of the directory itself; no file is found under two paths, unless the
second tier lies at the place of the directory; neither happens when the second tier is named by a
single component.  A pass counts and reports what was found, in that order. -/
theorem survey_lists_eligible_files {disk : Disk} {directory : Path} {place : Location}
    (genuine : disk.tree.Genuine) (listable : ∀ path, disk.faults.list path = none)
    (found : disk.tree.find disk.here directory = .ok (place, .directory)) (settings : Settings)
    (askable : disk.unaskable? settings.corpus directory = none) :
    let plugins := settings.corpus.pluginsDirectory directory
    ∃ core extra,
      let files := tierFiles settings.corpus directory core extra
      disk.survey settings.corpus directory = .ok files ∧
        disk.Tiers settings.corpus directory place core extra ∧
        ((files.map SourceFile.path).Nodup ↔ (plugins = directory → core = [])) ∧
        (disk.Apart files ↔
          (disk.tree.find disk.here plugins = .ok (place, .directory) → core = [])) ∧
        (Path.IsName settings.corpus.plugins →
          (files.map SourceFile.path).Nodup ∧ disk.Apart files) ∧
        ∀ runId dryRun report,
          (Pass.run disk settings directory runId dryRun).result = .ok report →
            report.files.map FileReport.path = files.map SourceFile.path ∧
              report.scanned = files.length := by
  intro plugins
  obtain ⟨core, extra, tiers, discovered⟩ :=
    discover_of_find genuine listable found settings.corpus
  refine ⟨core, extra, ?_, tiers, nodup_path_tierFiles found tiers,
    apart_tierFiles genuine found tiers, apart_of_isName genuine found tiers, ?_⟩
  · simp only [survey, askable, discovered]
    rfl
  · exact fun runId dryRun report passed => Pass.paths_of_run discovered passed

/-- Discovery in two directories whose names are known. -/
theorem survey_of_fileNames {disk : Disk} {settings : CorpusSettings} {directory : Path}
    {place inner : Location} {core extra : List Text}
    (askable : disk.unaskable? settings directory = none)
    (listable : ∀ path, disk.faults.list path = none)
    (found : disk.tree.find disk.here directory = .ok (place, .directory))
    (pluginsFound : disk.tree.find disk.here (settings.pluginsDirectory directory) =
      .ok (inner, .directory))
    (coreNames : disk.tree.fileNames disk.here directory = .ok core)
    (extraNames : disk.tree.fileNames disk.here (settings.pluginsDirectory directory) =
      .ok extra) :
    disk.survey settings directory = .ok (tierFiles settings directory
      (core.filter settings.isEligible) (extra.filter settings.isEligible)) := by
  have isDirectory := FileTree.isDirectory_iff.mpr ⟨place, found⟩
  have isPluginsDirectory := FileTree.isDirectory_iff.mpr ⟨inner, pluginsFound⟩
  simp only [survey, askable, discover, isDirectory, isPluginsDirectory, if_true, filesIn, listable,
    coreNames, extraNames]
  rfl

/-- A directory with two eligible files and an excluded one, and a second tier with one file. -/
def tiered : FileTree :=
  [(["gen".toList], .directory),
    (["gen".toList, "b.ts".toList], .file (Utf8.encode [])),
    (["gen".toList, "a.zod.ts".toList], .file (Utf8.encode [])),
    (["gen".toList, "a.ts".toList], .file (Utf8.encode [])),
    (["gen".toList, "plugins".toList], .directory),
    (["gen".toList, "plugins".toList, "a.ts".toList], .file (Utf8.encode []))]

/-- The excluded file is passed over, and two files of one name are told apart. -/
theorem survey_lists_eligible_files_of_tiered :
    let files : List SourceFile :=
      [⟨⟨.relative, ["gen".toList, "a.ts".toList]⟩, .core⟩,
        ⟨⟨.relative, ["gen".toList, "b.ts".toList]⟩, .core⟩,
        ⟨⟨.relative, ["gen".toList, "plugins".toList, "a.ts".toList]⟩, .plugin⟩]
    (plain tiered []).survey CorpusSettings.default ⟨.relative, ["gen".toList]⟩ = .ok files ∧
      (files.map SourceFile.path).Nodup ∧ (plain tiered []).Apart files ∧
      ∀ report, (Pass.run (plain tiered []) Settings.default ⟨.relative, ["gen".toList]⟩ []
        false).result = .ok report → report.scanned = 3 := by
  intro files
  have genuine : (plain tiered []).tree.Genuine := ⟨by decide, by decide⟩
  have found : (plain tiered []).tree.find [] ⟨.relative, ["gen".toList]⟩ =
      .ok (["gen".toList], .directory) := rfl
  have askable : (plain tiered []).unaskable? CorpusSettings.default ⟨.relative, ["gen".toList]⟩ =
      none := by decide +kernel
  have coreNames : tiered.fileNames [] ⟨.relative, ["gen".toList]⟩ =
      .ok ["a.ts".toList, "a.zod.ts".toList, "b.ts".toList] :=
    FileTree.fileNames_eq found (by decide) (by decide)
  have pluginsFound : tiered.find [] ⟨.relative, ["gen".toList, "plugins".toList]⟩ =
      .ok (["gen".toList, "plugins".toList], .directory) := rfl
  have extraNames : tiered.fileNames [] ⟨.relative, ["gen".toList, "plugins".toList]⟩ =
      .ok ["a.ts".toList] :=
    FileTree.fileNames_eq pluginsFound (by decide) (by decide)
  have listed : (plain tiered []).survey CorpusSettings.default ⟨.relative, ["gen".toList]⟩ =
      .ok files :=
    survey_of_fileNames askable (fun _ => rfl) found pluginsFound coreNames extraNames
  obtain ⟨core, extra, surveyed, -, -, -, apart, counted⟩ :=
    survey_lists_eligible_files genuine (fun _ => rfl) found Settings.default askable
  have same := Except.ok.inj (surveyed.symm.trans listed)
  rw [same] at apart counted
  obtain ⟨once, apart⟩ := apart ⟨by decide, by decide, by decide⟩
  exact ⟨listed, once, apart, fun report passed => (counted [] false report passed).2⟩

/-- A second tier whose name is empty is the directory itself.  The settings are accepted, and every
file is listed twice. -/
theorem survey_repeats_path :
    let settings := { CorpusSettings.default with plugins := [] }
    let tree : FileTree :=
      [(["gen".toList], .directory),
        (["gen".toList, "a.ts".toList], .file (Utf8.encode []))]
    let path : Path := ⟨.relative, ["gen".toList, "a.ts".toList]⟩
    CorpusSettings.check (.record [("plugins_subdir".toList, .str [])]) = .ok settings ∧
      (plain tree []).survey settings ⟨.relative, ["gen".toList]⟩ =
        .ok [⟨path, .core⟩, ⟨path, .plugin⟩] := by
  intro settings tree path
  have askable : (plain tree []).unaskable? settings ⟨.relative, ["gen".toList]⟩ = none := by
    decide +kernel
  have found : tree.find [] ⟨.relative, ["gen".toList]⟩ = .ok (["gen".toList], .directory) := rfl
  have names : tree.fileNames [] ⟨.relative, ["gen".toList]⟩ = .ok ["a.ts".toList] :=
    FileTree.fileNames_eq found (by decide) (by decide)
  exact ⟨rfl, survey_of_fileNames askable (fun _ => rfl) found found names names⟩

end Disk

end DeclLinker
