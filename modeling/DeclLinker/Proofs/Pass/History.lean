import DeclLinker.Proofs.Linking.Names
import DeclLinker.Proofs.Pass.Idempotence

/-!
# Names over a history of passes

A history is a list of passes, each with its own settings and directory, over one tree.  Every pass
links the texts that the passes before it left.

In a file whose placeholders are guarded, the names that import statements bind and those that are
exported stay distinct through a history exactly when the new names of every pass are fresh.  A pass
chooses its local names in view of the exports of a file, but not of the import statements that an
earlier pass wrote into it.  So when a package becomes known between two passes, the second one may
bind a name that the first one has bound.
-/

namespace DeclLinker

open Text Disk

/-- The text of the file at a place, as it is read. -/
def FileTree.textIn? (tree : FileTree) (place : Location) : Option Text :=
  match tree.entry? place with
  | some (.file bytes) => (Utf8.decode bytes).toOption.map unifyNewlines
  | _ => none

namespace Pass

/-- A pass to be run: its settings, its directory and its id. -/
structure Request where
  settings : Settings
  directory : Path
  runId : Text

namespace Request

/-- What a request does to a tree. -/
def outcome (here : Location) (tree : FileTree) (request : Request) : PassOutcome :=
  run (plain tree here) request.settings request.directory request.runId false

/-- The tree that a request leaves. -/
def after (here : Location) (tree : FileTree) (request : Request) : FileTree :=
  (request.outcome here tree).disk.tree

end Request

/-- The analysis of a file that holds the given text. -/
def analysisUnder (settings : Settings) (text : SourceFile → Text) (file : SourceFile) : Analysis :=
  Analysis.ofText settings.corpus.families file.path file.tier (text file)

/-- The index of files that hold the given texts. -/
def indexUnder (settings : Settings) (text : SourceFile → Text) (files : List SourceFile) : Index :=
  Index.ofAnalyses settings.tables (files.map (analysisUnder settings text))

theorem indexUnder_congr (settings : Settings) {files : List SourceFile}
    {text other : SourceFile → Text} (same : ∀ file ∈ files, text file = other file) :
    indexUnder settings text files = indexUnder settings other files := by
  refine congrArg _ (List.map_congr_left fun file listed => ?_)
  rw [analysisUnder, analysisUnder, same file listed]

/-- A file linked among files that hold the given texts. -/
def linkedUnder (settings : Settings) (here : Location) (text : SourceFile → Text)
    (files : List SourceFile) (file : SourceFile) : Linked :=
  Linked.ofText here settings.tables settings.corpus.suffix (indexUnder settings text files)
    (analysisUnder settings text file) (text file)

/-- The files that discovery finds in a directory lie at different places and hold the given
texts. -/
structure Holds (tree : FileTree) (here : Location) (settings : CorpusSettings) (directory : Path)
    (files : List SourceFile) (text : SourceFile → Text) : Prop where
  found : (plain tree here).discover settings directory = .ok files
  apart : (plain tree here).Apart files
  reads : ∀ file ∈ files, (plain tree here).readText file.path = .ok (text file)

namespace Holds

variable {tree : FileTree} {here : Location} {request : Request} {files : List SourceFile}
  {text : SourceFile → Text}

section

variable (holds : Holds tree here request.settings.corpus request.directory files text)

include holds

theorem readable : (plain tree here).Readable files :=
  fun file listed => ⟨text file, holds.reads file listed⟩

theorem textAt_eq {file : SourceFile} (listed : file ∈ files) :
    (plain tree here).textAt file.path = text file := by
  rw [textAt, holds.reads file listed]

theorem return_not_mem {file : SourceFile} (listed : file ∈ files) : '\r' ∉ text file :=
  return_not_mem_of_readText (holds.reads file listed)

theorem linkOn_eq {file : SourceFile} (listed : file ∈ files) :
    linkOn (plain tree here) request.settings files file =
      linkedUnder request.settings here text files file := by
  have index_eq : indexOn (plain tree here) request.settings files =
      indexUnder request.settings text files :=
    indexUnder_congr request.settings fun other otherListed => holds.textAt_eq otherListed
  rw [linkOn, index_eq, linkedUnder, analysisUnder, ← holds.textAt_eq listed]
  rfl

/-- A request for files with known texts succeeds, leaves every one of them with its linked text,
and changes nothing else. -/
theorem after_spec :
    (∃ report, (request.outcome here tree).result = .ok report) ∧
      Holds (request.after here tree) here request.settings.corpus request.directory files
        (fun file => (linkedUnder request.settings here text files file).text.unifyNewlines) ∧
      (request.after here tree).shape = tree.shape ∧
      ∀ place, (∀ file ∈ files, tree.walk here file.path ≠ .ok place) →
        FileTree.entry? (request.after here tree) place = tree.entry? place := by
  have stored : request.after here tree =
        (storedOn (plain tree here) request.settings files files).tree ∧
      ∃ report, (request.outcome here tree).result = .ok report := by
    rcases run_stored_cases (quiet_plain tree here) holds.found holds.readable request.runId with
      ⟨disk, result⟩ | ⟨front, file, rest, reason, -, -, refused, -⟩
    · exact ⟨congrArg Disk.tree disk, _, result⟩
    · cases refused
  obtain ⟨tree_eq, succeeded⟩ := stored
  have inside : ∀ file ∈ files, file ∈ files := fun _ listed => listed
  have shape : (request.after here tree).shape = tree.shape := by
    rw [tree_eq]
    exact shape_foldl_keep (housed_of_readable holds.readable inside)
  obtain ⟨changed, unchanged, elsewhere⟩ :=
    storedOn_spec request.settings holds.readable holds.apart inside
  rw [← tree_eq] at changed unchanged elsewhere
  refine ⟨succeeded, ⟨?_, ?_, fun file listed => ?_⟩, shape, fun place nowhere => ?_⟩
  · rw [← holds.found]
    exact discover_eq_of_shape shape _ _ _
  · refine holds.apart.imp fun differ same => differ ?_
    simpa only [plain, FileTree.walk_eq_of_shape shape] using same
  · have link_eq := holds.linkOn_eq listed
    by_cases change : (linkOn (plain tree here) request.settings files file).report.changed = true
    · rw [← link_eq]
      exact readText_of_encoded (changed file listed change)
    · rw [Bool.not_eq_true] at change
      have same : (plain (request.after here tree) here).readText file.path =
          (plain tree here).readText file.path :=
        readText_eq_of_read _ (unchanged file listed fun _ => change)
      rw [same, holds.reads file listed, ← link_eq, text_linkOn_of_unchanged change,
        holds.textAt_eq listed, unifyNewlines_of_not_mem (holds.return_not_mem listed)]
  · exact elsewhere place fun file listed _ => nowhere file listed

end

end Holds

theorem textIn?_of_readText {tree : FileTree} {here : Location} {path : Path} {place : Location}
    {text : Text} (read : (plain tree here).readText path = .ok text)
    (walked : tree.walk here path = .ok place) : tree.textIn? place = some text := by
  obtain ⟨bytes, inner, held, decoded, rfl⟩ := exists_bytes_of_readText read
  obtain ⟨other, otherWalked, entry⟩ := FileTree.read_eq_ok_iff.1 held
  cases walked.symm.trans otherWalked
  have held : tree.entry? place = some (.file bytes) := entry
  rw [FileTree.textIn?, held]
  simp [decoded, Except.toOption]

/-- The new names of every file are fresh among files that hold the given texts. -/
def FreshUnder (settings : Settings) (text : SourceFile → Text) (files : List SourceFile) : Prop :=
  ∀ file ∈ files, Linked.Fresh settings (indexUnder settings text files)
    (analysisUnder settings text file) (text file)

instance (settings : Settings) (text : SourceFile → Text) (files : List SourceFile) :
    Decidable (FreshUnder settings text files) :=
  inferInstanceAs (Decidable (∀ file ∈ files, _))

theorem freshUnder_congr (settings : Settings) {files : List SourceFile}
    {text other : SourceFile → Text} (same : ∀ file ∈ files, text file = other file) :
    FreshUnder settings text files ↔ FreshUnder settings other files := by
  refine forall₂_congr fun file listed => ?_
  rw [indexUnder_congr settings same, analysisUnder, analysisUnder, same file listed]

/-! ## Requests -/

/-- Every text in the given places is good. -/
def Everywhere (places : Location → Prop) (good : Text → Prop) (tree : FileTree) : Prop :=
  ∀ place, places place → ∀ text, tree.textIn? place = some text → good text

namespace Request

/-- A request that succeeds, with expressions of one line, over files with ordinary names in the
given places that reach each other by specifiers of statement characters. -/
structure Orderly (here : Location) (places : Location → Prop) (tree : FileTree)
    (request : Request) : Prop where
  succeeds : ∃ report, (request.outcome here tree).result = .ok report
  expressions : ∀ pair ∈ request.settings.resolve.builtins, OneLine pair.2
  files : ∀ files,
    (plain tree here).discover request.settings.corpus request.directory = .ok files →
    (plain tree here).Apart files ∧ ∀ file ∈ files,
      (∀ place, tree.walk here file.path = .ok place → places place) ∧
      (∀ char ∈ file.path.name, Path.isFileChar char = true) ∧
      ∀ producer ∈ files,
        ∀ char ∈ Path.specifier here file.path producer.path request.settings.corpus.suffix,
          Import.isStatementChar char = true

/-- The new names that a request brings into its files are fresh. -/
def Fresh (here : Location) (tree : FileTree) (request : Request) : Prop :=
  ∀ files, (plain tree here).discover request.settings.corpus request.directory = .ok files →
    FreshUnder request.settings (fun file => (plain tree here).textAt file.path) files

variable {here : Location} {places : Location → Prop} {tree : FileTree} {request : Request}

/-- A request that succeeds finds files with texts. -/
theorem Orderly.exists_holds (orderly : request.Orderly here places tree) :
    ∃ files, Holds tree here request.settings.corpus request.directory files
      fun file => (plain tree here).textAt file.path := by
  obtain ⟨report, succeeded⟩ := orderly.succeeds
  rcases run_cases (quiet_plain tree here) request.settings request.directory request.runId
      false with ⟨files, found, readable⟩ | ⟨-, failure, failed, -⟩
  · refine ⟨files, found, (orderly.files files found).1, fun file listed => ?_⟩
    obtain ⟨text, read⟩ := readable file listed
    rw [textAt, read]
  · cases succeeded.symm.trans failed

/-- The files of an orderly request can be linked in order. -/
theorem Orderly.linked (orderly : request.Orderly here places tree) {files : List SourceFile}
    (found : (plain tree here).discover request.settings.corpus request.directory = .ok files)
    (text : SourceFile → Text) {file : SourceFile} (listed : file ∈ files) :
    Linked.Orderly here request.settings file.path (indexUnder request.settings text files) where
  expressions key expression member := by
    have builtin : ∀ pair ∈ Tables.defaultBuiltins, OneLine pair.2 := by decide
    rcases Dict.mem_putAll member with default | extra
    · exact builtin _ default
    · exact orderly.expressions _ extra
  named key entry member := by
    obtain ⟨origin, originListed, -, tag_eq, exported⟩ := exists_file_of_entry member
    obtain ⟨name_ne, nameWord⟩ := Scan.word_of_mem_exports exported
    refine ⟨name_ne, nameWord, ?_⟩
    rw [tag_eq]
    exact moduleTag_chars _ ((orderly.files files found).2 origin originListed).2.1
  reached key entry member := by
    obtain ⟨origin, originListed, path_eq, -⟩ := exists_file_of_entry member
    rw [path_eq]
    exact ((orderly.files files found).2 file listed).2.2 origin originListed

section

variable (orderly : request.Orderly here places tree) {files : List SourceFile}
  {text : SourceFile → Text}
  (holds : Holds tree here request.settings.corpus request.directory files text)

include orderly holds

/-- Every file of an orderly request lies at one of the given places. -/
theorem Orderly.exists_place {file : SourceFile} (listed : file ∈ files) :
    ∃ place, tree.walk here file.path = .ok place ∧ places place := by
  obtain ⟨bytes, -, held, -, -⟩ := exists_bytes_of_readText (holds.reads file listed)
  obtain ⟨place, walked, -⟩ := FileTree.read_eq_ok_iff.1 held
  exact ⟨place, walked, ((orderly.files files holds.found).2 file listed).1 place walked⟩

/-- What is true of the texts in the given places is true of the text of every file. -/
theorem Orderly.good_text {good : Text → Prop} (everywhere : Everywhere places good tree)
    {file : SourceFile} (listed : file ∈ files) : good (text file) := by
  obtain ⟨place, walked, inside⟩ := orderly.exists_place holds listed
  exact everywhere place inside _ (textIn?_of_readText (holds.reads file listed) walked)

/-- An orderly request leaves every file with its linked text. -/
theorem Orderly.textIn?_after {file : SourceFile} (listed : file ∈ files) {place : Location}
    (walked : tree.walk here file.path = .ok place) :
    (request.after here tree).textIn? place =
      some (linkedUnder request.settings here text files file).text := by
  obtain ⟨-, left, shape, -⟩ := holds.after_spec
  have noReturn := Linked.return_not_mem_of_orderly request.settings.corpus.families file.tier
    (orderly.linked holds.found text listed) (holds.return_not_mem listed)
  have walkedAfter : (request.after here tree).walk here file.path = .ok place := by
    rw [← walked]
    exact FileTree.walk_eq_of_shape shape here file.path
  exact (textIn?_of_readText (left.reads file listed) walkedAfter).trans
    (congrArg some (unifyNewlines_of_not_mem noReturn))

/-- What was true of all texts is true of all texts after an orderly request exactly when it is true
of the linked ones. -/
theorem Orderly.everywhere_after_iff {good : Text → Prop}
    (everywhere : Everywhere places good tree) :
    Everywhere places good (request.after here tree) ↔
      ∀ file ∈ files, good (linkedUnder request.settings here text files file).text := by
  constructor
  · intro after file listed
    obtain ⟨place, walked, inside⟩ := orderly.exists_place holds listed
    exact after place inside _ (orderly.textIn?_after holds listed walked)
  · intro linked place inside new held
    by_cases belongs : ∃ file ∈ files, tree.walk here file.path = .ok place
    · obtain ⟨file, listed, walked⟩ := belongs
      rw [orderly.textIn?_after holds listed walked] at held
      exact Option.some.inj held ▸ linked file listed
    · obtain ⟨-, -, -, elsewhere⟩ := holds.after_spec
      have same := elsewhere place fun file listed walked => belongs ⟨file, listed, walked⟩
      rw [FileTree.textIn?, same] at held
      exact everywhere place inside new held

end

/-- After an orderly request over guarded texts with distinct names all texts are guarded, and their
names are distinct exactly when the new ones are fresh. -/
theorem Orderly.step (orderly : request.Orderly here places tree)
    (guarded : Everywhere places Reference.Guarded tree)
    (distinct : Everywhere places (fun text => (names text).Nodup) tree) :
    Everywhere places Reference.Guarded (request.after here tree) ∧
      (Everywhere places (fun text => (names text).Nodup) (request.after here tree) ↔
        request.Fresh here tree) := by
  obtain ⟨files, holds⟩ := orderly.exists_holds
  refine ⟨(orderly.everywhere_after_iff holds guarded).2 fun file listed => ?_, ?_⟩
  · exact Linked.guarded_linked request.settings.corpus.families file.tier
      (orderly.linked holds.found _ listed) (orderly.good_text holds guarded listed)
  · rw [orderly.everywhere_after_iff holds distinct]
    have fresh_iff : request.Fresh here tree ↔ FreshUnder request.settings
        (fun file => (plain tree here).textAt file.path) files := by
      constructor
      · exact fun fresh => fresh files holds.found
      · intro fresh others found
        cases holds.found.symm.trans found
        exact fresh
    rw [fresh_iff]
    exact forall₂_congr fun file listed =>
      Linked.nodup_names_linked_iff request.settings.corpus.families file.tier
        (orderly.linked holds.found _ listed) (orderly.good_text holds guarded listed)
        (orderly.good_text holds distinct listed)

end Request

/-! ## Histories -/

/-- The trees of a history, from the first to the last. -/
def trail (here : Location) : FileTree → List Request → List FileTree
  | tree, [] => [tree]
  | tree, request :: rest => tree :: trail here (request.after here tree) rest

/-- Something holds of every request of a history and the tree it finds. -/
def Along (here : Location) (holds : FileTree → Request → Prop) : FileTree → List Request → Prop
  | _, [] => True
  | tree, request :: rest =>
      holds tree request ∧ Along here holds (request.after here tree) rest

theorem Everywhere.of_readText {tree : FileTree} {here : Location} {path : Path} {text : Text}
    {good : Text → Prop} (everywhere : Everywhere (fun _ => True) good tree)
    (read : (plain tree here).readText path = .ok text) : good text := by
  obtain ⟨bytes, -, held, -, -⟩ := exists_bytes_of_readText read
  obtain ⟨place, walked, -⟩ := FileTree.read_eq_ok_iff.1 held
  exact everywhere place trivial text (textIn?_of_readText read walked)

theorem mem_trail_self (here : Location) (tree : FileTree) (requests : List Request) :
    tree ∈ trail here tree requests := by
  cases requests with
  | nil => exact List.mem_singleton_self tree
  | cons request rest => exact List.mem_cons_self

/-- Over a history of orderly requests, from guarded texts with distinct names on, the names of all
texts stay distinct exactly when the new names of every request are fresh. -/
theorem names_stay_distinct_iff {here : Location} {places : Location → Prop} {tree : FileTree}
    {requests : List Request}
    (guarded : Everywhere places Reference.Guarded tree)
    (distinct : Everywhere places (fun text => (names text).Nodup) tree)
    (orderly : Along here (Request.Orderly here places) tree requests) :
    (∀ state ∈ trail here tree requests,
        Everywhere places (fun text => (names text).Nodup) state) ↔
      Along here (Request.Fresh here) tree requests := by
  induction requests generalizing tree with
  | nil =>
      refine ⟨fun _ => trivial, fun _ state member => ?_⟩
      rw [List.mem_singleton.1 member]
      exact distinct
  | cons request rest ih =>
      obtain ⟨first, later⟩ := orderly
      obtain ⟨stays, step⟩ := first.step guarded distinct
      constructor
      · intro always
        have next := always _ (.tail _ (mem_trail_self here (request.after here tree) rest))
        exact ⟨step.1 next,
          (ih stays next later).1 fun state member => always state (.tail _ member)⟩
      · rintro ⟨fresh, freshLater⟩ state member
        have next := step.2 fresh
        rcases List.mem_cons.1 member with rfl | inRest
        · exact distinct
        · exact (ih stays next later).2 freshLater state inRest

theorem Holds.fresh_iff {tree : FileTree} {here : Location} {request : Request}
    {files : List SourceFile} {text : SourceFile → Text}
    (holds : Holds tree here request.settings.corpus request.directory files text) :
    request.Fresh here tree ↔ FreshUnder request.settings text files := by
  have same := freshUnder_congr request.settings fun file listed => holds.textAt_eq listed
  constructor
  · exact fun fresh => same.1 (fresh files holds.found)
  · intro fresh others found
    cases holds.found.symm.trans found
    exact same.2 fresh

/-! ## A directory with two files -/

theorem Holds.congr {tree : FileTree} {here : Location} {settings : CorpusSettings}
    {directory : Path} {files : List SourceFile} {text other : SourceFile → Text}
    (holds : Holds tree here settings directory files text)
    (same : ∀ file ∈ files, text file = other file) :
    Holds tree here settings directory files other :=
  ⟨holds.found, holds.apart, fun file listed => by rw [holds.reads file listed, same file listed]⟩

/-- Two eligible files in order hold their texts. -/
theorem holds_pair (first second one two : Text)
    (firstEligible : CorpusSettings.default.isEligible first = true)
    (secondEligible : CorpusSettings.default.isEligible second = true)
    (ordered : Text.le first second = true) (apart : first ≠ second)
    (noReturn : '\r' ∉ one ++ two) :
    Holds (Corpus.pair first second one two) [] CorpusSettings.default Corpus.generated
      [Corpus.member first, Corpus.member second] (pairText first one two) := by
  have corpus := (Corpus.of_pair one two firstEligible secondEligible ordered apart).1
  refine ⟨corpus.found, Corpus.apart_pair one two _ (ne_up_of_isEligible firstEligible)
    (ne_up_of_isEligible secondEligible) apart, fun file listed => ?_⟩
  obtain ⟨text, read⟩ := corpus.readable file listed
  have text_eq := textAt_pair first second one two firstEligible secondEligible ordered apart
    noReturn file listed
  rw [textAt, read] at text_eq
  exact read.trans (congrArg Except.ok text_eq)

/-- What two texts have in common is found everywhere in a directory with these two files. -/
theorem everywhere_pair {first second one two : Text} {good : Text → Prop}
    (goodOne : good one.unifyNewlines) (goodTwo : good two.unifyNewlines) :
    Everywhere (fun _ => True) good (Corpus.pair first second one two) := by
  intro place _ text held
  unfold FileTree.textIn? FileTree.entry? at held
  simp only [Corpus.pair, Dict.get?] at held
  split_ifs at held <;> dsimp only at held
  · rw [Utf8.decode_encode] at held
    cases held
    exact goodOne
  · rw [Utf8.decode_encode] at held
    cases held
    exact goodTwo

/-- A request for the small corpora that knows some packages more. -/
def Request.knowing (packages : Dict Text Text) : Request :=
  ⟨⟨LogSettings.default, CorpusSettings.default, { ResolveSettings.default with packages }⟩,
    Corpus.generated, []⟩

/-- A request for two files of ordinary names is orderly. -/
theorem Request.orderly_knowing {tree : FileTree} {first second : Text} {text : SourceFile → Text}
    (holds : Holds tree [] CorpusSettings.default Corpus.generated
      [Corpus.member first, Corpus.member second] text)
    (ordinary : ∀ name ∈ [first, second], ∀ char ∈ name, Path.isFileChar char = true)
    (packages : Dict Text Text) : (knowing packages).Orderly [] (fun _ => True) tree where
  succeeds := (Holds.after_spec holds).1
  expressions pair member := absurd member List.not_mem_nil
  files files found := by
    cases holds.found.symm.trans found
    have members : ∀ file ∈ [Corpus.member first, Corpus.member second],
        (∀ char ∈ file.path.name, Path.isFileChar char = true) ∧
          file.path.parent = Corpus.generated := by
      intro file listed
      simp only [List.mem_cons, List.not_mem_nil, or_false] at listed ordinary
      rcases listed with rfl | rfl
      · exact ⟨ordinary first (.inl rfl), rfl⟩
      · exact ⟨ordinary second (.inr rfl), rfl⟩
    refine ⟨holds.apart, fun file listed => ⟨fun _ _ => trivial, (members file listed).1,
      fun producer produced => Path.specifier_chars _ (fun part member => ?_)
        (members producer produced).1⟩⟩
    rw [(members file listed).2, (members producer produced).2, Path.route_self] at member
    cases member

/-- A package that becomes known after the first request: the second one imports another name from
the same file. -/
theorem names_stay_distinct_over_two_requests :
    let tree := Corpus.pair "caddy-tls.ts".toList "caddy-web.ts".toList
      "export type Cert = 1;\nexport type Key = 1;\n".toList
      "a: any /* tls.Cert */;\nb: any /* pki.Key */;\n".toList
    let requests := [Request.knowing [],
      Request.knowing [("pki".toList, "caddy-tls.ts".toList)]]
    Everywhere (fun _ => True) Reference.Guarded tree ∧
      Everywhere (fun _ => True) (fun text => (names text).Nodup) tree ∧
      Along [] (Request.Orderly [] fun _ => True) tree requests ∧
      ∀ state ∈ trail [] tree requests,
        Everywhere (fun _ => True) (fun text => (names text).Nodup) state := by
  intro tree requests
  have guarded : Everywhere (fun _ => True) Reference.Guarded tree :=
    everywhere_pair (by decide +kernel) (by decide +kernel)
  have distinct : Everywhere (fun _ => True) (fun text => (names text).Nodup) tree :=
    everywhere_pair (by decide +kernel) (by decide +kernel)
  have ordinary : ∀ name ∈ ["caddy-tls.ts".toList, "caddy-web.ts".toList],
      ∀ char ∈ name, Path.isFileChar char = true := by decide +kernel
  have start := holds_pair "caddy-tls.ts".toList "caddy-web.ts".toList
    "export type Cert = 1;\nexport type Key = 1;\n".toList
    "a: any /* tls.Cert */;\nb: any /* pki.Key */;\n".toList (by decide) (by decide)
    (by decide) (by decide) (by decide)
  have next : Holds ((Request.knowing []).after [] tree) [] CorpusSettings.default Corpus.generated
      _ (pairText "caddy-tls.ts".toList "export type Cert = 1;\nexport type Key = 1;\n".toList
        ("\nimport type \x7b Cert \x7d from \x22./caddy-tls\x22;\n" ++
          "a: Cert;\nb: any /* pki.Key */;\n").toList) :=
    (Holds.after_spec start).2.1.congr (by
      simp only [linkedUnder, indexUnder, Settings.tables, Tables.extended_eq_decoded]
      decide +kernel)
  have orderly : Along [] (Request.Orderly [] fun _ => True) tree requests :=
    ⟨Request.orderly_knowing start ordinary _, Request.orderly_knowing next ordinary _, trivial⟩
  refine ⟨guarded, distinct, orderly, (names_stay_distinct_iff guarded distinct orderly).2 ?_⟩
  refine ⟨(Holds.fresh_iff start).2 ?_, (Holds.fresh_iff next).2 ?_, trivial⟩
  · simp only [FreshUnder, Linked.Fresh, indexUnder, Settings.tables, Tables.extended_eq_decoded]
    decide +kernel
  · simp only [FreshUnder, Linked.Fresh, indexUnder, Settings.tables, Tables.extended_eq_decoded]
    decide +kernel

/-- A package that becomes known after the first request: the second one imports a name that the
first one has imported already. -/
theorem names_do_not_stay_distinct :
    let tree := Corpus.pair "caddy-tls.ts".toList "caddy-web.ts".toList
      "export type Cert = 1;\n".toList
      "a: any /* tls.Cert */;\nb: any /* pki.Cert */;\n".toList
    let first := Request.knowing []
    let second := Request.knowing [("pki".toList, "caddy-tls.ts".toList)]
    Everywhere (fun _ => True)
        (fun text => collect Import.bound text = [] ∧ (Scan.ofText text).exports.Nodup) tree ∧
      (∃ report, (first.outcome [] tree).result = .ok report) ∧
      (∃ report, (second.outcome [] (first.after [] tree)).result = .ok report) ∧
      ¬Everywhere (fun _ => True) (fun text => (names text).Nodup)
        (second.after [] (first.after [] tree)) := by
  intro tree first second
  have start := holds_pair "caddy-tls.ts".toList "caddy-web.ts".toList
    "export type Cert = 1;\n".toList
    "a: any /* tls.Cert */;\nb: any /* pki.Cert */;\n".toList (by decide) (by decide)
    (by decide) (by decide) (by decide)
  have next : Holds (first.after [] tree) [] CorpusSettings.default Corpus.generated
      _ (pairText "caddy-tls.ts".toList "export type Cert = 1;\n".toList
        ("\nimport type \x7b Cert \x7d from \x22./caddy-tls\x22;\n" ++
          "a: Cert;\nb: any /* pki.Cert */;\n").toList) :=
    (Holds.after_spec start).2.1.congr (by
      simp only [linkedUnder, indexUnder, Settings.tables, Tables.extended_eq_decoded]
      decide +kernel)
  refine ⟨everywhere_pair (by decide +kernel) (by decide +kernel), (Holds.after_spec start).1,
    (Holds.after_spec next).1, fun distinct => ?_⟩
  have last : Holds (second.after [] (first.after [] tree)) [] second.settings.corpus
    second.directory _ _ := (Holds.after_spec next).2.1
  have read := last.reads (Corpus.member "caddy-web.ts".toList) (by simp)
  have twice := distinct.of_readText read
  simp only [linkedUnder, indexUnder, Settings.tables, Tables.extended_eq_decoded] at twice
  exact absurd twice (by decide +kernel)

end Pass

end DeclLinker
