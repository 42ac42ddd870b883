import DeclLinker.Pass
import DeclLinker.Proofs.Pass.Tree

/-!
# A pass over a disk without a log

On a disk whose log is kept elsewhere a pass changes files only by storing linked texts.  It reads
every file of the corpus, links what it read, and stores the changed texts in order, up to the first
write that is refused.

The files of a corpus lie at different places.  So a file that was stored holds its linked text, and
every other file holds what it held.
-/

namespace DeclLinker

namespace Disk

/-- A disk whose log is kept elsewhere: telling it an event changes no file. -/
def Quiet (disk : Disk) : Prop :=
  ∀ event tree, disk.log event tree = tree

/-- The disk with another tree. -/
def holding (disk : Disk) (tree : FileTree) : Disk :=
  { disk with tree }

/-- A disk whose log is kept elsewhere and which refuses some writes. -/
def refusing (refuse : Path → Option Text) (tree : FileTree) (here : Location) : Disk :=
  { tree, here, faults := { Faults.none with write := refuse } }

/-- A disk whose log is kept elsewhere and which refuses nothing. -/
def plain (tree : FileTree) (here : Location) : Disk :=
  { tree, here, faults := Faults.none }

variable {refuse : Path → Option Text} {tree : FileTree} {here : Location} {disk : Disk}

theorem quiet_refusing (refuse : Path → Option Text) (tree : FileTree) (here : Location) :
    (refusing refuse tree here).Quiet :=
  fun _ _ => rfl

theorem quiet_plain (tree : FileTree) (here : Location) : (plain tree here).Quiet :=
  fun _ _ => rfl

theorem Quiet.holding (quiet : disk.Quiet) (tree : FileTree) : (disk.holding tree).Quiet :=
  quiet

theorem Quiet.tell (quiet : disk.Quiet) (event : Event) : disk.tell event = disk := by
  rw [Disk.tell, quiet]

theorem Quiet.tellAll (quiet : disk.Quiet) (events : List Event) : disk.tellAll events = disk := by
  induction events with
  | nil => rfl
  | cons event events ih => rw [Disk.tellAll, List.foldl_cons, quiet.tell, ← Disk.tellAll, ih]

/-- The corpus of a disk is told by the shape of its tree. -/
theorem discover_eq_of_shape {other : FileTree} (same : tree.shape = other.shape)
    (refuse' : Path → Option Text) (settings : CorpusSettings) (directory : Path) :
    (refusing refuse tree here).discover settings directory =
      (refusing refuse' other here).discover settings directory := by
  have names : ∀ path, tree.fileNames here path = other.fileNames here path :=
    FileTree.fileNames_eq_of_shape same here
  have directories : ∀ path, tree.isDirectory here path = other.isDirectory here path :=
    FileTree.isDirectory_eq_of_shape same here
  simp only [discover, filesIn, refusing, names, directories]
  rfl

/-- The text at a path; empty when there is none. -/
def textAt (disk : Disk) (path : Path) : Text :=
  match disk.readText path with
  | .ok text => text
  | .error _ => []

/-- A file of the corpus as a pass reads it. -/
def readFile (disk : Disk) (families : List Text) (file : SourceFile) : ReadFile :=
  ⟨Analysis.ofText families file.path file.tier (disk.textAt file.path), disk.textAt file.path⟩

/-- A text is read from bytes that encode it, with its newlines unified. -/
theorem exists_bytes_of_readText {disk : Disk} {path : Path} {text : Text}
    (read : disk.readText path = .ok text) :
    ∃ bytes inner, disk.tree.read disk.here path = .ok bytes ∧ Utf8.decode bytes = .ok inner ∧
      text = inner.unifyNewlines := by
  unfold readText at read
  dsimp only at read
  split at read
  · cases read
  · split at read
    · cases read
    · rename_i bytes held
      split at read
      · cases read
      · rename_i inner decoded
        cases read
        exact ⟨bytes, inner, held, decoded, rfl⟩

theorem code_of_readText {disk : Disk} {path : Path} {failure : Failure}
    (unread : disk.readText path = .error failure) : failure.code = .readFailed := by
  unfold readText at unread
  dsimp only at unread
  split at unread
  · cases unread
    rfl
  · split at unread
    · cases unread
      rfl
    · split at unread
      · cases unread
        rfl
      · cases unread

/-- Every file of a list can be read. -/
def Readable (disk : Disk) (files : List SourceFile) : Prop :=
  ∀ file ∈ files, ∃ text, disk.readText file.path = .ok text

theorem analyze_of_read {disk : Disk} {file : SourceFile} {text : Text}
    (read : disk.readText file.path = .ok text) (families : List Text) :
    disk.analyze families file = .ok (disk.readFile families file) := by
  simp [analyze, readFile, textAt, read, Except.map]

/-- Reading leaves a quiet disk as it is. -/
theorem Quiet.analyzeAll_disk (quiet : disk.Quiet) (families : List Text)
    (files : List SourceFile) : (analyzeAll families disk files).1 = disk := by
  induction files with
  | nil => rfl
  | cons file files ih =>
      unfold analyzeAll
      split
      · rfl
      · rw [quiet.tell]
        exact ih

theorem Quiet.analyzeAll_of_readable (quiet : disk.Quiet) (families : List Text)
    {files : List SourceFile} (readable : disk.Readable files) :
    (analyzeAll families disk files).2.result = .ok (files.map (disk.readFile families)) := by
  induction files with
  | nil => rfl
  | cons file files ih =>
      obtain ⟨text, read⟩ := readable file List.mem_cons_self
      have later := ih fun other member => readable other (.tail file member)
      rw [analyzeAll, analyze_of_read read]
      simp only [quiet.tell, later]
      rfl

/-- Either all files are read and analysed, or reading fails at one of them. -/
theorem Quiet.readable_or_unread (quiet : disk.Quiet) (families : List Text)
    (files : List SourceFile) :
    disk.Readable files ∨ ∃ file ∈ files, ∃ failure, disk.readText file.path = .error failure ∧
      (analyzeAll families disk files).2.result = .error failure := by
  induction files with
  | nil => exact .inl fun file member => absurd member List.not_mem_nil
  | cons file files ih =>
      cases read : disk.readText file.path with
      | error failure =>
          refine .inr ⟨file, List.mem_cons_self, failure, read, ?_⟩
          simp [analyzeAll, analyze, read, Except.map]
      | ok text =>
          rcases ih with readable | ⟨other, member, failure, unread, failed⟩
          · refine .inl fun other member => ?_
            rcases List.mem_cons.1 member with rfl | later
            · exact ⟨text, read⟩
            · exact readable other later
          · refine .inr ⟨other, .tail file member, failure, unread, ?_⟩
            rw [analyzeAll, analyze_of_read read]
            simp only [quiet.tell, failed]
            rfl

end Disk

namespace Pass

open Disk

/-- A tree with a linked text stored in it, if it changed. -/
def keep (here : Location) (tree : FileTree) (linked : Linked) : FileTree :=
  if linked.report.changed then
    match tree.write here linked.report.path (Utf8.encode linked.text) with
    | .ok next => next
    | .error _ => tree
  else
    tree

/-- The report on a file that was stored. -/
def noted (linked : Linked) : FileReport :=
  if linked.report.changed then { linked.report with written := true } else linked.report

/-- The linked texts have their files in the tree. -/
def Housed (tree : FileTree) (here : Location) (all : List Linked) : Prop :=
  ∀ linked ∈ all, ∃ bytes, tree.read here linked.report.path = .ok bytes

theorem read_eq_of_walk {tree : FileTree} {here : Location} {path other : Path}
    (same : tree.walk here path = tree.walk here other) :
    tree.read here path = tree.read here other := by
  rw [FileTree.read, FileTree.read, FileTree.find, FileTree.find, same]

/-- What storing one linked text does to the tree. -/
theorem keep_spec {tree : FileTree} {here : Location} {linked : Linked} {old : ByteArray}
    (readable : tree.read here linked.report.path = .ok old) :
    (keep here tree linked).shape = tree.shape ∧
      (linked.report.changed = true →
        tree.write here linked.report.path (Utf8.encode linked.text) =
            .ok (keep here tree linked) ∧
          (keep here tree linked).read here linked.report.path =
            .ok (Utf8.encode linked.text)) ∧
      ∀ other, tree.walk here other ≠ tree.walk here linked.report.path →
        (keep here tree linked).read here other = tree.read here other := by
  obtain ⟨next, written, shape, here_eq, elsewhere⟩ :=
    FileTree.write_of_read readable (Utf8.encode linked.text)
  unfold keep
  split
  · rw [written]
    exact ⟨shape, fun _ => ⟨rfl, here_eq⟩, elsewhere⟩
  · rename_i unchanged
    exact ⟨rfl, fun changed => absurd changed unchanged, fun _ _ => rfl⟩

theorem Housed.keep {tree : FileTree} {here : Location} {linked : Linked} {all : List Linked}
    (housed : Housed tree here (linked :: all)) :
    Housed (Pass.keep here tree linked) here all := by
  obtain ⟨old, readable⟩ := housed linked List.mem_cons_self
  obtain ⟨shape, changed, elsewhere⟩ := keep_spec readable
  intro other member
  obtain ⟨bytes, otherReadable⟩ := housed other (.tail linked member)
  by_cases same : tree.walk here other.report.path = tree.walk here linked.report.path
  · have sameAfter : (Pass.keep here tree linked).walk here other.report.path =
        (Pass.keep here tree linked).walk here linked.report.path := by
      rw [FileTree.walk_eq_of_shape shape, FileTree.walk_eq_of_shape shape, same]
    rw [read_eq_of_walk sameAfter]
    by_cases change : linked.report.changed = true
    · exact ⟨_, (changed change).2⟩
    · refine ⟨old, ?_⟩
      rwa [Pass.keep, if_neg change]
  · exact ⟨bytes, by rw [elsewhere _ same, otherReadable]⟩

section Stored

variable {tree : FileTree} {here : Location} {all : List Linked} (housed : Housed tree here all)

include housed

theorem shape_foldl_keep : (all.foldl (keep here) tree).shape = tree.shape := by
  induction all generalizing tree with
  | nil => rfl
  | cons first all ih =>
      obtain ⟨old, readable⟩ := housed first List.mem_cons_self
      rw [List.foldl_cons, ih housed.keep, (keep_spec readable).1]

/-- After linked texts were stored one after the other, a place that no changed one belongs to holds
what it held, and every other place the text of one that belongs there. -/
theorem entry?_foldl_keep (place : Location) :
    ((∀ linked ∈ all, linked.report.changed = true →
        tree.walk here linked.report.path ≠ .ok place) ∧
      FileTree.entry? (all.foldl (keep here) tree) place = tree.entry? place) ∨
      ∃ linked ∈ all, linked.report.changed = true ∧
        tree.walk here linked.report.path = .ok place ∧
        FileTree.entry? (all.foldl (keep here) tree) place =
          some (.file (Utf8.encode linked.text)) := by
  induction all generalizing tree with
  | nil => exact .inl ⟨fun _ member => absurd member List.not_mem_nil, rfl⟩
  | cons first all ih =>
      obtain ⟨old, readable⟩ := housed first List.mem_cons_self
      have shape := (keep_spec readable).1
      have later := ih housed.keep
      simp only [FileTree.walk_eq_of_shape shape] at later
      rw [List.foldl_cons]
      rcases later with ⟨nowhere, same⟩ | ⟨linked, member, stored⟩
      · rw [same]
        by_cases mine : first.report.changed = true ∧ tree.walk here first.report.path = .ok place
        · have written := ((keep_spec readable).2.1 mine.1).1
          exact .inr ⟨first, List.mem_cons_self, mine.1, mine.2,
            FileTree.entry?_write written mine.2⟩
        · refine .inl ⟨List.forall_mem_cons.2 ⟨fun change walked => mine ⟨change, walked⟩, nowhere⟩,
            ?_⟩
          by_cases change : first.report.changed = true
          · have written := ((keep_spec readable).2.1 change).1
            exact FileTree.entry?_write_of_ne written fun walked => mine ⟨change, walked⟩
          · rw [keep, if_neg change]
      · exact .inr ⟨linked, .tail first member, stored⟩

end Stored

/-- Storing linked texts puts each changed text into its own file, and leaves the other files alone,
when the files lie at different places. -/
theorem read_foldl_keep {tree : FileTree} {here : Location} {files done : List SourceFile}
    (link : SourceFile → Linked) (paths : ∀ file, (link file).report.path = file.path)
    (readable : ∀ file ∈ files, ∃ bytes, tree.read here file.path = .ok bytes)
    (separate : ∀ file ∈ files, ∀ other ∈ files,
      tree.walk here file.path = tree.walk here other.path → file = other)
    (inside : ∀ file ∈ done, file ∈ files) :
    ∀ file ∈ files, ((done.map link).foldl (keep here) tree).read here file.path =
      if file ∈ done ∧ (link file).report.changed = true then
        .ok (Utf8.encode (link file).text)
      else
        tree.read here file.path := by
  have housed : Housed tree here (done.map link) := by
    intro linked member
    obtain ⟨file, listed, rfl⟩ := List.mem_map.1 member
    rw [paths]
    exact readable file (inside file listed)
  intro file member
  obtain ⟨bytes, held⟩ := readable file member
  obtain ⟨place, walked, entry⟩ := FileTree.read_eq_ok_iff.1 held
  have stays : ((done.map link).foldl (keep here) tree).walk here file.path = .ok place := by
    rw [FileTree.walk_eq_of_shape (shape_foldl_keep housed), walked]
  rcases entry?_foldl_keep housed place with
    ⟨nowhere, same⟩ | ⟨linked, listed, change, where_eq, stored⟩
  · have notStored : ¬(file ∈ done ∧ (link file).report.changed = true) := by
      rintro ⟨isDone, change⟩
      refine nowhere (link file) (List.mem_map_of_mem isDone) change ?_
      rw [paths, walked]
    rw [if_neg notStored, held]
    exact FileTree.read_eq_ok_iff.2 ⟨place, stays, by rw [same, entry]⟩
  · -- Only the file itself lies at its place.
    obtain ⟨other, isDone, rfl⟩ := List.mem_map.1 listed
    rw [paths] at where_eq
    have same := separate other (inside other isDone) file member (where_eq.trans walked.symm)
    subst same
    rw [if_pos ⟨isDone, change⟩]
    exact FileTree.read_eq_ok_iff.2 ⟨place, stays, stored⟩

variable {disk : Disk} {linked : Linked}

theorem store_of_accepted {old : ByteArray}
    (readable : disk.tree.read disk.here linked.report.path = .ok old)
    (accepted : linked.report.changed = true → disk.faults.write linked.report.path = none) :
    store false disk linked =
      .ok (disk.holding (keep disk.here disk.tree linked), noted linked) := by
  by_cases change : linked.report.changed = true
  · have written := ((keep_spec readable).2.1 change).1
    have reaches : disk.writeText linked.report.path linked.text =
        .ok (disk.holding (keep disk.here disk.tree linked)) := by
      simp only [writeText, accepted change, written]
      rfl
    simp [store, change, reaches, Except.map, noted]
  · simp only [Bool.not_eq_true] at change
    simp [store, change, keep, noted, holding]

/-- Where no write of a changed text is refused, all linked texts are stored. -/
theorem storeAll_of_accepted (quiet : disk.Quiet) {all : List Linked}
    (housed : Housed disk.tree disk.here all)
    (accepted : ∀ linked ∈ all, linked.report.changed = true →
      disk.faults.write linked.report.path = none) :
    (storeAll false disk all).1 = disk.holding (all.foldl (keep disk.here) disk.tree) ∧
      (storeAll false disk all).2.result = .ok (all.map noted) := by
  induction all generalizing disk with
  | nil => exact ⟨rfl, rfl⟩
  | cons linked all ih =>
      obtain ⟨old, readable⟩ := housed linked List.mem_cons_self
      have stored := store_of_accepted readable (accepted linked List.mem_cons_self)
      obtain ⟨last, reports⟩ := ih (quiet.holding (keep disk.here disk.tree linked)) housed.keep
        fun other member => accepted other (.tail linked member)
      simp only [storeAll, quiet.tellAll, stored, List.foldl_cons, List.map_cons]
      rw [last, reports]
      exact ⟨rfl, rfl⟩

/-- The first member of a list that does not have a property. -/
theorem exists_first_not {α : Type} {holds : α → Prop} {all : List α}
    (fails : ¬∀ value ∈ all, holds value) :
    ∃ front value rest, all = front ++ value :: rest ∧ (∀ other ∈ front, holds other) ∧
      ¬holds value := by
  induction all with
  | nil => exact absurd (fun _ member => absurd member List.not_mem_nil) fails
  | cons first all ih =>
      by_cases good : holds first
      · rw [List.forall_mem_cons, not_and] at fails
        obtain ⟨front, value, rest, rfl, before, bad⟩ := ih (fails good)
        exact ⟨first :: front, value, rest, rfl, List.forall_mem_cons.2 ⟨good, before⟩, bad⟩
      · exact ⟨[], first, all, rfl, fun _ member => absurd member List.not_mem_nil, good⟩

/-- Where the write of a changed text is refused, the linked texts before it are stored and no
others, and the pass fails for that file. -/
theorem storeAll_of_refused (quiet : disk.Quiet) {front rest : List Linked} {reason : Text}
    (housed : Housed disk.tree disk.here (front ++ linked :: rest))
    (accepted : ∀ other ∈ front, other.report.changed = true →
      disk.faults.write other.report.path = none)
    (changed : linked.report.changed = true)
    (refused : disk.faults.write linked.report.path = some reason) :
    (storeAll false disk (front ++ linked :: rest)).1 =
        disk.holding (front.foldl (keep disk.here) disk.tree) ∧
      (storeAll false disk (front ++ linked :: rest)).2.result =
        .error (.writeFailed (.str linked.report.path.toText) (.str reason)) := by
  induction front generalizing disk with
  | nil =>
      have failed : store false disk linked =
          .error (.writeFailed (.str linked.report.path.toText) (.str reason)) := by
        simp [store, changed, writeText, refused, Except.map]
      simp only [List.nil_append, storeAll, quiet.tellAll, failed, List.foldl_nil]
      exact ⟨rfl, trivial⟩
  | cons first front ih =>
      obtain ⟨old, readable⟩ := housed first List.mem_cons_self
      have stored := store_of_accepted readable (accepted first List.mem_cons_self)
      obtain ⟨last, failed⟩ := ih (quiet.holding (keep disk.here disk.tree first)) housed.keep
        (fun other member => accepted other (.tail first member)) refused
      simp only [List.cons_append, storeAll, quiet.tellAll, stored, List.foldl_cons]
      rw [last, failed]
      exact ⟨rfl, rfl⟩

/-- A pass stores all linked texts, or it fails at the first one whose write is refused. -/
theorem storeAll_cases (quiet : disk.Quiet) {all : List Linked}
    (housed : Housed disk.tree disk.here all) :
    ((storeAll false disk all).1 = disk.holding (all.foldl (keep disk.here) disk.tree) ∧
        (storeAll false disk all).2.result = .ok (all.map noted)) ∨
      ∃ front linked rest reason, all = front ++ linked :: rest ∧
        linked.report.changed = true ∧ disk.faults.write linked.report.path = some reason ∧
        (∀ other ∈ front, other.report.changed = true →
          disk.faults.write other.report.path = none) ∧
        (storeAll false disk all).1 = disk.holding (front.foldl (keep disk.here) disk.tree) ∧
        (storeAll false disk all).2.result =
          .error (.writeFailed (.str linked.report.path.toText) (.str reason)) := by
  by_cases accepted : ∀ linked ∈ all, linked.report.changed = true →
      disk.faults.write linked.report.path = none
  · exact .inl (storeAll_of_accepted quiet housed accepted)
  · obtain ⟨front, linked, rest, rfl, before, stops⟩ := exists_first_not accepted
    obtain ⟨changed, refused⟩ := Classical.not_imp.1 stops
    obtain ⟨reason, refused⟩ := Option.ne_none_iff_exists'.1 refused
    exact .inr ⟨front, linked, rest, reason, rfl, changed, refused, before,
      storeAll_of_refused quiet housed before changed refused⟩

/-- A dry run stores nothing and reports every linked text. -/
theorem storeAll_dry (quiet : disk.Quiet) (all : List Linked) :
    (storeAll true disk all).1 = disk ∧
      (storeAll true disk all).2.result = .ok (all.map Linked.report) := by
  induction all with
  | nil => exact ⟨rfl, rfl⟩
  | cons linked all ih =>
      obtain ⟨last, reports⟩ := ih
      have stored : store true disk linked = .ok (disk, linked.report) := by simp [store]
      simp only [storeAll, quiet.tellAll, stored, List.map_cons]
      rw [last, reports]
      exact ⟨rfl, rfl⟩

end Pass

namespace FileTree

/-- A path that ends in a name leads to that name inside the place its directory leads to. -/
theorem walk_child {tree : FileTree} {here place : Location} {root : Root} {parts : List Text}
    {name : Text} (down : name ≠ Path.up)
    (walked : tree.walk here ⟨root, parts ++ [name]⟩ = .ok place) :
    ∃ parent, tree.walk here ⟨root, parts⟩ = .ok parent ∧ place = parent ++ [name] := by
  have isAbsolute_eq : (Path.mk root (parts ++ [name])).isAbsolute =
      (Path.mk root parts).isAbsolute := rfl
  rw [walk, isAbsolute_eq, List.foldlM_append] at walked
  cases before : tree.walk here ⟨root, parts⟩ with
  | error fault =>
      rw [walk] at before
      rw [before] at walked
      cases walked
  | ok parent =>
      rw [walk] at before
      rw [before] at walked
      refine ⟨parent, rfl, ?_⟩
      change (step tree parent name >>= pure) = .ok place at walked
      rw [bind_pure, step] at walked
      split at walked
      · cases walked
        rw [Path.step, if_neg down]
      · cases walked
      · cases walked

end FileTree

namespace Disk

variable {refuse : Path → Option Text} {tree : FileTree} {here : Location} {directory : Path}
  {files : List SourceFile} {file other : SourceFile}

theorem mem_filesIn {disk : Disk} {settings : CorpusSettings} {tier : Tier}
    (found : disk.filesIn settings tier directory = .ok files) (member : file ∈ files) :
    ∃ name, settings.isEligible name = true ∧
      file = ⟨⟨directory.root, directory.parts ++ [name]⟩, tier⟩ := by
  unfold filesIn at found
  dsimp only at found
  split at found
  · cases found
  · split at found
    · cases found
    · rename_i names _
      cases found
      obtain ⟨name, listed, rfl⟩ := List.mem_map.1 member
      exact ⟨name, (List.mem_filter.1 listed).2, rfl⟩

/-- A file of the corpus lies in the directory or in its second tier. -/
theorem mem_discover
    (found : (refusing refuse tree here).discover CorpusSettings.default directory = .ok files)
    (member : file ∈ files) :
    ∃ name, CorpusSettings.default.isEligible name = true ∧
      (file = ⟨⟨directory.root, directory.parts ++ [name]⟩, .core⟩ ∨
        file = ⟨⟨directory.root, directory.parts ++ ["plugins".toList] ++ [name]⟩, .plugin⟩) := by
  have plugins_eq : CorpusSettings.default.pluginsDirectory directory =
      ⟨directory.root, directory.parts ++ ["plugins".toList]⟩ := rfl
  unfold discover at found
  split at found
  · cases core : (refusing refuse tree here).filesIn CorpusSettings.default .core directory with
    | error failure => rw [core] at found; cases found
    | ok first =>
        rw [core] at found
        simp only [plugins_eq] at found
        change (if _ then _ else _) = _ at found
        split at found
        · cases extra : (refusing refuse tree here).filesIn CorpusSettings.default .plugin
              ⟨directory.root, directory.parts ++ ["plugins".toList]⟩ with
          | error failure => rw [extra] at found; cases found
          | ok second =>
              rw [extra] at found
              cases found
              rcases List.mem_append.1 member with inCore | inPlugins
              · obtain ⟨name, eligible, rfl⟩ := mem_filesIn core inCore
                exact ⟨name, eligible, .inl rfl⟩
              · obtain ⟨name, eligible, rfl⟩ := mem_filesIn extra inPlugins
                exact ⟨name, eligible, .inr rfl⟩
        · cases found
          obtain ⟨name, eligible, rfl⟩ := mem_filesIn core member
          exact ⟨name, eligible, .inl rfl⟩
  · cases found

theorem ne_up_of_isEligible {name : Text}
    (eligible : CorpusSettings.default.isEligible name = true) : name ≠ Path.up := by
  rintro rfl
  exact absurd eligible (by decide)

/-- Different files of a corpus lie at different places. -/
theorem eq_of_walk_eq
    (found : (refusing refuse tree here).discover CorpusSettings.default directory = .ok files)
    (one : file ∈ files) (two : other ∈ files) {place : Location}
    (walked : tree.walk here file.path = .ok place)
    (otherWalked : tree.walk here other.path = .ok place) : file = other := by
  have down : ("plugins".toList : Text) ≠ Path.up := by decide
  obtain ⟨name, eligible, file_eq⟩ := mem_discover found one
  obtain ⟨otherName, otherEligible, other_eq⟩ := mem_discover found two
  have nameDown := ne_up_of_isEligible eligible
  have otherDown := ne_up_of_isEligible otherEligible
  rcases file_eq with rfl | rfl
  · obtain ⟨top, topWalked, rfl⟩ := FileTree.walk_child nameDown walked
    rcases other_eq with rfl | rfl
    · obtain ⟨otherTop, otherTopWalked, place_eq⟩ := FileTree.walk_child otherDown otherWalked
      rw [List.append_inj_right' place_eq rfl |> List.singleton_inj.1]
    · obtain ⟨inner, innerWalked, place_eq⟩ := FileTree.walk_child otherDown otherWalked
      obtain ⟨otherTop, otherTopWalked, rfl⟩ := FileTree.walk_child down innerWalked
      rw [topWalked] at otherTopWalked
      cases otherTopWalked
      have lengths := congrArg List.length place_eq
      simp at lengths
  · obtain ⟨inner, innerWalked, rfl⟩ := FileTree.walk_child nameDown walked
    rcases other_eq with rfl | rfl
    · obtain ⟨top, topWalked, place_eq⟩ := FileTree.walk_child otherDown otherWalked
      obtain ⟨otherTop, otherTopWalked, rfl⟩ := FileTree.walk_child down innerWalked
      rw [topWalked] at otherTopWalked
      cases otherTopWalked
      have lengths := congrArg List.length place_eq
      simp at lengths
    · obtain ⟨otherInner, otherInnerWalked, place_eq⟩ :=
        FileTree.walk_child otherDown otherWalked
      rw [List.append_inj_right' place_eq rfl |> List.singleton_inj.1]

end Disk

end DeclLinker
