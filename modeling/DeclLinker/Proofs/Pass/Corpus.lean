import DeclLinker.Proofs.Pass.Effect
import DeclLinker.Proofs.Source.Collect
import DeclLinker.Proofs.Tables

/-!
# The corpus before and after a pass

A corpus is a list of files that discovery finds and that can all be read.  What a pass does to it
is told by the texts of its files: every file is linked under the index of all of them, and a file
whose linked text was stored is read back as that text with its newlines unified.
-/

namespace DeclLinker

namespace Disk

variable {refuse : Path → Option Text} {tree : FileTree} {here : Location} {path : Path}

/-- The bytes of a text are read back as the text with its newlines unified. -/
theorem readText_of_encoded {text : Text}
    (held : tree.read here path = .ok (Utf8.encode text)) :
    (refusing refuse tree here).readText path = .ok text.unifyNewlines := by
  simp [readText, refusing, Faults.none, held]

theorem readText_eq_of_read {other : FileTree} (refuse' : Path → Option Text)
    (same : tree.read here path = other.read here path) :
    (refusing refuse tree here).readText path = (refusing refuse' other here).readText path := by
  simp [readText, refusing, same]

theorem return_not_mem_of_readText {disk : Disk} {path : Path} {text : Text}
    (read : disk.readText path = .ok text) : '\r' ∉ text := by
  obtain ⟨bytes, inner, -, -, rfl⟩ := exists_bytes_of_readText read
  exact Text.return_not_mem_unifyNewlines inner

end Disk

open Disk

/-- The files that discovery finds in a directory, all of which can be read. -/
structure Corpus (tree : FileTree) (here : Location) (directory : Path)
    (files : List SourceFile) : Prop where
  found : (plain tree here).discover CorpusSettings.default directory = .ok files
  readable : (plain tree here).Readable files

namespace Corpus

variable {tree : FileTree} {here : Location} {directory : Path} {files : List SourceFile}

theorem exists_bytes (corpus : Corpus tree here directory files) {file : SourceFile}
    (member : file ∈ files) : ∃ bytes, tree.read here file.path = .ok bytes :=
  corpus.readable.exists_bytes file member

theorem return_not_mem (corpus : Corpus tree here directory files) {file : SourceFile}
    (member : file ∈ files) : '\r' ∉ (plain tree here).textAt file.path := by
  obtain ⟨text, read⟩ := corpus.readable file member
  rw [textAt, read]
  exact return_not_mem_of_readText read

theorem eq_of_walk_eq (corpus : Corpus tree here directory files) {file other : SourceFile}
    (one : file ∈ files) (two : other ∈ files)
    (same : tree.walk here file.path = tree.walk here other.path) : file = other := by
  obtain ⟨bytes, held⟩ := corpus.exists_bytes one
  obtain ⟨place, walked, -⟩ := FileTree.read_eq_ok_iff.1 held
  exact Disk.eq_of_walk_eq corpus.found one two walked (same ▸ walked)

end Corpus

namespace Pass

/-- What a pass reads of a file that holds the given text. -/
def readAs (text : SourceFile → Text) (file : SourceFile) : ReadFile :=
  ⟨Analysis.ofText CorpusSettings.default.families file.path file.tier (text file), text file⟩

/-- The index of files that hold the given texts. -/
def indexOf (text : SourceFile → Text) (files : List SourceFile) : Index :=
  Index.ofAnalyses Tables.default (files.map fun file => (readAs text file).analysis)

/-- A file linked among files that hold the given texts. -/
def linkedAs (here : Location) (text : SourceFile → Text) (files : List SourceFile)
    (file : SourceFile) : Linked :=
  Linked.ofText here Tables.default CorpusSettings.default.suffix (indexOf text files)
    (readAs text file).analysis (text file)

/-- The index is built, and a file linked, under the built-in tables of characters. -/
theorem indexOf_eq_decoded (text : SourceFile → Text) (files : List SourceFile) :
    indexOf text files = Index.ofAnalyses Tables.decodedDefault
      (files.map fun file => (readAs text file).analysis) := by
  rw [indexOf, Tables.default_eq_decoded]

theorem linkedAs_eq_decoded (here : Location) (text : SourceFile → Text) (files : List SourceFile)
    (file : SourceFile) :
    linkedAs here text files file = Linked.ofText here Tables.decodedDefault
      CorpusSettings.default.suffix (Index.ofAnalyses Tables.decodedDefault
        (files.map fun file => (readAs text file).analysis))
      (readAs text file).analysis (text file) := by
  rw [linkedAs, indexOf, Tables.default_eq_decoded]

/-- The texts of files of which some have been linked and stored. -/
def textAfter (here : Location) (text : SourceFile → Text) (files done : List SourceFile)
    (file : SourceFile) : Text :=
  if file ∈ done ∧ (linkedAs here text files file).report.changed = true then
    (linkedAs here text files file).text.unifyNewlines
  else
    text file

variable {tree : FileTree} {here : Location} {directory : Path} {files : List SourceFile}

theorem linkOn_refusing (refuse : Path → Option Text) :
    linkOn (refusing refuse tree here) Settings.default files =
      linkedAs here (fun file => (plain tree here).textAt file.path) files :=
  rfl

theorem housed_of_corpus (corpus : Corpus tree here directory files)
    (text : SourceFile → Text) {done : List SourceFile} (inside : ∀ file ∈ done, file ∈ files) :
    Housed tree here (done.map (linkedAs here text files)) := by
  intro linked member
  obtain ⟨file, listed, rfl⟩ := List.mem_map.1 member
  exact corpus.exists_bytes (inside file listed)

/-- After some files were linked and stored the corpus is still there, with the new texts. -/
theorem corpus_stored (corpus : Corpus tree here directory files) {done : List SourceFile}
    (inside : ∀ file ∈ done, file ∈ files) :
    let text := fun file : SourceFile => (plain tree here).textAt file.path
    let stored := (done.map (linkedAs here text files)).foldl (keep here) tree
    Corpus stored here directory files ∧
      ∀ file ∈ files, (plain stored here).textAt file.path =
        textAfter here text files done file := by
  intro text stored
  have shape : stored.shape = tree.shape := shape_foldl_keep (housed_of_corpus corpus text inside)
  have reads := read_foldl_keep (linkedAs here text files) (fun _ => rfl)
    (fun file member => corpus.exists_bytes member)
    (fun file one other two => corpus.eq_of_walk_eq one two) inside
  have texts : ∀ file ∈ files, (plain stored here).readText file.path =
      .ok (textAfter here text files done file) := by
    intro file member
    have held := reads file member
    by_cases change : file ∈ done ∧ (linkedAs here text files file).report.changed = true
    · rw [if_pos change] at held
      rw [textAfter, if_pos change]
      exact readText_of_encoded held
    · rw [if_neg change] at held
      rw [textAfter, if_neg change]
      obtain ⟨original, read⟩ := corpus.readable file member
      have same : (plain stored here).readText file.path = (plain tree here).readText file.path :=
        readText_eq_of_read _ held
      simp only [text, same, textAt, read]
  refine ⟨⟨?_, fun file member => ⟨_, texts file member⟩⟩, fun file member => ?_⟩
  · rw [← corpus.found]
    exact discover_eq_of_shape shape _ _ _
  · rw [textAt, texts file member]

section Refusing

variable (corpus : Corpus tree here directory files) (refuse : Path → Option Text) (runId : Text)

include corpus

theorem discover_refusing :
    (refusing refuse tree here).discover Settings.default.corpus directory = .ok files := by
  rw [← corpus.found]
  exact discover_eq_of_shape rfl _ _ _

/-- A pass over a corpus, whatever writes are refused, stores all of it or fails at the first
changed file whose write is refused. -/
theorem run_refusing_cases :
    let link := linkedAs here (fun file => (plain tree here).textAt file.path) files
    let outcome := run (refusing refuse tree here) Settings.default directory runId false
    (outcome.disk = refusing refuse ((files.map link).foldl (keep here) tree) here ∧
        ∃ size, outcome.result =
          .ok ⟨false, files.length, size, files.map fun file => noted (link file)⟩) ∨
      ∃ front file rest reason, files = front ++ file :: rest ∧
        (link file).report.changed = true ∧ refuse file.path = some reason ∧
        (∀ other ∈ front, (link other).report.changed = true → refuse other.path = none) ∧
        outcome.disk = refusing refuse ((front.map link).foldl (keep here) tree) here ∧
        outcome.result = .error (.writeFailed (.str file.path.toText) (.str reason)) := by
  intro link outcome
  have found := discover_refusing corpus refuse
  have readable : (refusing refuse tree here).Readable files := corpus.readable
  rcases run_stored_cases (quiet_refusing refuse tree here) found readable runId with
    ⟨disk, result⟩ | stopped
  · exact .inl ⟨disk, _, result⟩
  · exact .inr stopped

/-- A pass over a corpus, whatever writes are refused, links and stores some first files of it. -/
theorem run_refusing :
    let text := fun file : SourceFile => (plain tree here).textAt file.path
    ∃ count, (run (refusing refuse tree here) Settings.default directory runId false).disk =
      refusing refuse
        (((files.take count).map (linkedAs here text files)).foldl (keep here) tree) here := by
  intro text
  rcases run_refusing_cases corpus refuse runId with
    ⟨disk, -⟩ | ⟨front, file, rest, reason, split, -, -, -, disk, -⟩
  · exact ⟨files.length, by rw [List.take_length]; exact disk⟩
  · refine ⟨front.length, ?_⟩
    have front_eq : files.take front.length = front := by rw [split, List.take_left]
    rw [front_eq]
    exact disk

/-- A pass over a corpus that refuses nothing links and stores all of it. -/
theorem run_plain :
    let text := fun file : SourceFile => (plain tree here).textAt file.path
    (run (plain tree here) Settings.default directory runId false).disk =
        plain ((files.map (linkedAs here text files)).foldl (keep here) tree) here ∧
      ∃ size, (run (plain tree here) Settings.default directory runId false).result =
        .ok ⟨false, files.length, size,
          files.map fun file => noted (linkedAs here text files file)⟩ := by
  intro text
  rcases run_refusing_cases corpus (fun _ => none) runId with
    stored | ⟨front, file, rest, reason, -, -, refused, -⟩
  · exact stored
  · cases refused

end Refusing

/-- A pass that a refused write stops has stored what it linked before. -/
theorem run_of_refused {front rest : List SourceFile} {file : SourceFile}
    (corpus : Corpus tree here directory (front ++ file :: rest)) {refuse : Path → Option Text}
    (runId : Text) :
    let text := fun file : SourceFile => (plain tree here).textAt file.path
    let link := linkedAs here text (front ++ file :: rest)
    (∀ other ∈ front, (link other).report.changed = true → refuse other.path = none) →
    (link file).report.changed = true → refuse file.path ≠ none →
      (run (refusing refuse tree here) Settings.default directory runId false).disk =
          refusing refuse ((front.map link).foldl (keep here) tree) here ∧
        ∃ failure, (run (refusing refuse tree here) Settings.default directory runId
          false).result = .error failure := by
  intro text link accepted changed refused
  obtain ⟨reason, refused⟩ := Option.ne_none_iff_exists'.1 refused
  have before : ∀ other ∈ front.map link, other.report.changed = true →
      refuse other.report.path = none := by
    intro other member
    obtain ⟨source, listed, rfl⟩ := List.mem_map.1 member
    exact accepted source listed
  have housed := housed_of_corpus corpus text fun _ member => member
  rw [List.map_append, List.map_cons] at housed
  obtain ⟨stored, failed⟩ := storeAll_of_refused (quiet_refusing refuse tree here) housed before
    changed refused
  rw [← List.map_cons, ← List.map_append] at stored failed
  obtain ⟨disk, result⟩ := run_of_storeAll (quiet_refusing refuse tree here)
    (discover_refusing corpus refuse) corpus.readable runId stored
  rw [linkOn_refusing, failed] at result
  exact ⟨disk, _, result⟩

/-- A pass that succeeds has a corpus. -/
theorem corpus_of_run {runId : Text} {report : PassReport}
    (succeeded : (run (plain tree here) Settings.default directory runId false).result =
      .ok report) : ∃ files, Corpus tree here directory files := by
  rcases run_cases (quiet_plain tree here) Settings.default directory runId false with
    ⟨files, found, readable⟩ | ⟨-, failure, failed, -⟩
  · exact ⟨files, found, readable⟩
  · rw [failed] at succeeded
    cases succeeded

end Pass

/-! ## A directory with two files -/

namespace Corpus

/-- The directory of the small corpora. -/
def generated : Path := ⟨.relative, ["gen".toList]⟩

/-- A file of that directory. -/
def member (name : Text) : SourceFile := ⟨⟨.relative, ["gen".toList, name]⟩, .core⟩

/-- A directory with two files and nothing else. -/
def pair (first second one two : Text) : FileTree :=
  [(["gen".toList], .directory),
    (["gen".toList, first], .file (Utf8.encode one)),
    (["gen".toList, second], .file (Utf8.encode two))]

variable {first second : Text} (one two : Text)

theorem entry?_pair (name : Text) :
    FileTree.entry? (pair first second one two) ["gen".toList, name] =
      if first = name then some (.file (Utf8.encode one))
      else if second = name then some (.file (Utf8.encode two)) else none := by
  unfold FileTree.entry?
  by_cases isFirst : first = name
  · simp [pair, Dict.get?, isFirst]
  · by_cases isSecond : second = name
    · simp [pair, Dict.get?, isFirst, isSecond]
    · simp [pair, Dict.get?, isFirst, isSecond]

theorem walk_pair {name : Text} (down : name ≠ Path.up) :
    (pair first second one two).walk [] ⟨.relative, ["gen".toList, name]⟩ =
      .ok ["gen".toList, name] := by
  have entered : (pair first second one two).step [] "gen".toList = .ok ["gen".toList] := rfl
  have reached : (pair first second one two).step ["gen".toList] name =
      .ok ["gen".toList, name] := by
    have directory : FileTree.entry? (pair first second one two) ["gen".toList] =
        some .directory := rfl
    simp only [FileTree.step, directory, Path.step, if_neg down]
    rfl
  change ((pair first second one two).step [] "gen".toList >>= fun place =>
    (pair first second one two).step place name >>= pure) = _
  rw [entered]
  change ((pair first second one two).step ["gen".toList] name >>= pure) = _
  rw [reached]
  rfl

theorem apart_pair (refuse : Path → Option Text) (firstDown : first ≠ Path.up)
    (secondDown : second ≠ Path.up) (apart : first ≠ second) :
    (refusing refuse (pair first second one two) []).Apart [member first, member second] := by
  refine List.pairwise_pair.2 fun same => apart ?_
  have places : Except.ok ["gen".toList, first] = Except.ok ["gen".toList, second] :=
    (walk_pair one two firstDown).symm.trans (same.trans (walk_pair one two secondDown))
  cases places
  rfl

theorem readText_pair {name text : Text} (eligible : CorpusSettings.default.isEligible name = true)
    (held : FileTree.entry? (pair first second one two) ["gen".toList, name] =
      some (.file (Utf8.encode text))) :
    (plain (pair first second one two) []).readText (member name).path = .ok text.unifyNewlines :=
  readText_of_encoded
    (FileTree.read_eq_ok_iff.2 ⟨_, walk_pair one two (ne_up_of_isEligible eligible), held⟩)

theorem fileNames_pair (ordered : Text.le first second = true) :
    (pair first second one two).fileNames [] generated = .ok [first, second] := by
  have sorted : [first, second].mergeSort Text.le = [first, second] :=
    List.mergeSort_of_pairwise (by simp [ordered])
  rw [← sorted]
  rfl

/-- A directory with two eligible files has no directory for plugins. -/
theorem isDirectory_plugins_pair (firstEligible : CorpusSettings.default.isEligible first = true)
    (secondEligible : CorpusSettings.default.isEligible second = true) :
    (pair first second one two).isDirectory []
      (CorpusSettings.default.pluginsDirectory generated) = false := by
  have notPlugins : ∀ name, CorpusSettings.default.isEligible name = true →
      name ≠ "plugins".toList := by
    rintro name eligible rfl
    exact absurd eligible (by decide)
  have walked : (pair first second one two).walk []
      (CorpusSettings.default.pluginsDirectory generated) =
        .ok ["gen".toList, "plugins".toList] := walk_pair one two (by decide)
  have held : FileTree.entry? (pair first second one two) ["gen".toList, "plugins".toList] = _ :=
    entry?_pair one two "plugins".toList
  rw [if_neg (notPlugins first firstEligible), if_neg (notPlugins second secondEligible)] at held
  simp only [FileTree.isDirectory, FileTree.find, walked, held]

/-- Two eligible files in order are a corpus, and each is read as its own text. -/
theorem of_pair (firstEligible : CorpusSettings.default.isEligible first = true)
    (secondEligible : CorpusSettings.default.isEligible second = true)
    (ordered : Text.le first second = true) (apart : first ≠ second) :
    Corpus (pair first second one two) [] generated [member first, member second] ∧
      (plain (pair first second one two) []).textAt (member first).path = one.unifyNewlines ∧
      (plain (pair first second one two) []).textAt (member second).path = two.unifyNewlines := by
  have firstRead : (plain (pair first second one two) []).readText (member first).path =
      .ok one.unifyNewlines :=
    readText_pair one two firstEligible (by rw [entry?_pair, if_pos rfl])
  have secondRead : (plain (pair first second one two) []).readText (member second).path =
      .ok two.unifyNewlines :=
    readText_pair one two secondEligible (by rw [entry?_pair, if_neg apart, if_pos rfl])
  have listed := fileNames_pair one two ordered
  have noPlugins := isDirectory_plugins_pair one two firstEligible secondEligible
  have isDirectory : (pair first second one two).isDirectory [] generated = true := rfl
  refine ⟨⟨?_, ?_⟩, by rw [textAt, firstRead], by rw [textAt, secondRead]⟩
  · simp only [discover, filesIn, plain, Faults.none, listed, noPlugins, isDirectory]
    simp [firstEligible, secondEligible]
    exact ⟨rfl, rfl⟩
  · intro file listedFile
    rcases List.mem_cons.1 listedFile with rfl | rest
    · exact ⟨_, firstRead⟩
    · rw [List.mem_singleton.1 rest]
      exact ⟨_, secondRead⟩

end Corpus

end DeclLinker
