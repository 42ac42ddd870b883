import DeclLinker.Proofs.Linking.Declared
import DeclLinker.Proofs.Pass.Idempotence

/-!
# Declarations outlive a pass

The index is built from the exports before a pass, and the pass edits the files that hold them.  Its
new import statements still name what their producers export, as long as no exported name is
exposed: a file whose exported name is cut short leaves the imports of the other files dangling.
-/

namespace DeclLinker

open Text Disk

namespace Pass

variable {tree : FileTree} {here : Location} {directory : Path} {files : List SourceFile}
  {text : SourceFile → Text}

/-- The import statements that a pass writes into a file. -/
def statementsOf (here : Location) (text : SourceFile → Text) (files : List SourceFile)
    (file : SourceFile) : List Text :=
  Import.statements here file.path CorpusSettings.default.suffix
    (Resolution.ofAnalysis Tables.default (indexOf text files)
      (readAs text file).analysis).plan.schedule

theorem infix_of_mem_statementsOf {file : SourceFile} {statement : Text}
    (member : statement ∈ statementsOf here text files file) :
    statement <:+: (linkedAs here text files file).text :=
  Placed.infix_imports member _ _

theorem statementsOf_congr {other : SourceFile → Text}
    (same : ∀ file ∈ files, text file = other file) {file : SourceFile} (listed : file ∈ files) :
    statementsOf here text files file = statementsOf here other files file := by
  rw [statementsOf, statementsOf, indexOf_congr same, readAs, readAs, same file listed]

/-- A statement imports, from one of the files, names that it exported before the pass. -/
theorem exists_producer {file : SourceFile} {statement : Text}
    (member : statement ∈ statementsOf here text files file) :
    ∃ producer ∈ files, ∃ specs : List ImportSpec,
      statement = Import.statement specs
        (Path.specifier here file.path producer.path CorpusSettings.default.suffix) ∧
      ∀ spec ∈ specs, ∃ origin ∈ files, origin.path = producer.path ∧
        spec.exportName ∈ (Scan.ofText (text origin)).exports := by
  obtain ⟨⟨path, specs⟩, listed, rfl⟩ := List.mem_map.1 member
  obtain ⟨specs_ne, drawn⟩ := Resolution.drawnFrom_ofAnalysis _ _ _ path specs
    (List.mem_filter.1 listed).1
  have origins : ∀ key spec, (key, spec) ∈ specs → ∃ origin ∈ files, origin.path = path ∧
      spec.exportName ∈ (Scan.ofText (text origin)).exports := by
    intro key spec inside
    obtain ⟨name, entry, earlier, held, rfl, rfl⟩ := drawn key spec inside
    obtain ⟨origin, originListed, path_eq, -, exported⟩ := exists_file_of_entry held
    exact ⟨origin, originListed, path_eq.symm, by simpa using exported⟩
  obtain ⟨⟨key, first⟩, rest, rfl⟩ := List.exists_cons_of_ne_nil specs_ne
  obtain ⟨producer, producerListed, rfl, -⟩ := origins key first List.mem_cons_self
  refine ⟨producer, producerListed, _, rfl, fun spec inside => ?_⟩
  obtain ⟨⟨other, held⟩, specListed, rfl⟩ := List.mem_map.1 inside
  exact origins other held specListed

/-- The entries of a corpus supply replacements that expose no name. -/
theorem supplies_unslashed (text : SourceFile → Text)
    (names : ∀ file ∈ files, '/' ∉ file.path.name) :
    Supplies Tables.default (indexOf text files) Unslashed := by
  refine Supplies.unslashed ?_ (fun key entry member => ?_) fun key entry member inTag => ?_
  · have plainHeads : ∀ pair ∈ Tables.default.builtins, pair.2.head? ≠ some '/' := by decide
    exact fun key expression member => plainHeads (key, expression) member
  · obtain ⟨file, -, -, -, exported⟩ := exists_file_of_entry member
    exact Scan.word_of_mem_exports exported
  · obtain ⟨file, listed, -, tag_eq, -⟩ := exists_file_of_entry member
    rw [tag_eq] at inTag
    exact names file listed
      ((List.takeWhile_prefix _).subset (mem_stem_of_mem_moduleTag inTag))

/-- What a file exports under a lasting name is exported by the text that a pass leaves in it. -/
theorem exports_subset_textLeft (names : ∀ file ∈ files, '/' ∉ file.path.name) {file : SourceFile}
    (unexposed : Scan.Unexposed (text file)) :
    (Scan.ofText (text file)).exports ⊆
      (Scan.ofText (textLeft here text files file)).exports := by
  intro name exported
  have lasts := Linked.lasting_linked here Settings.default file.path file.tier (text file)
    (supplies_unslashed text names) (unexposed.mem_lasting exported)
  have linked : name ∈ (Scan.ofText (linkedAs here text files file).text).exports :=
    Scan.mem_exports_of_lasting lasts
  rw [Scan.exports_eq] at linked ⊢
  exact Scan.readsAnnounced_exported.toReadsHeading.subset_collect_unifyNewlines _ linked

/-- After a pass over files without exposed names every file still exports what it exported, and
every import statement that the pass wrote names exports of the file it points to. -/
theorem declarations_survive {runId : Text} {report : PassReport}
    (found : (plain tree here).discover CorpusSettings.default directory = .ok files)
    (succeeded : (run (plain tree here) Settings.default directory runId false).result =
      .ok report)
    (names : ∀ file ∈ files, '/' ∉ file.path.name)
    (unexposed : ∀ file ∈ files, Scan.Unexposed ((plain tree here).textAt file.path)) :
    let before := fun file : SourceFile => (plain tree here).textAt file.path
    let after := fun file : SourceFile =>
      (run (plain tree here) Settings.default directory runId false).disk.textAt file.path
    (∀ file ∈ files,
      (Scan.ofText (before file)).exports ⊆ (Scan.ofText (after file)).exports) ∧
      ∀ file ∈ files, ∀ statement ∈ statementsOf here before files file,
        statement <:+: (linkedAs here before files file).text ∧
        ∃ producer ∈ files, ∃ specs : List ImportSpec,
          statement = Import.statement specs
            (Path.specifier here file.path producer.path CorpusSettings.default.suffix) ∧
          ∀ spec ∈ specs, spec.exportName ∈ (Scan.ofText (after producer)).exports := by
  intro before after
  have corpus : Corpus tree here directory files := by
    obtain ⟨others, corpus⟩ := corpus_of_run succeeded
    cases corpus.found.symm.trans found
    exact corpus
  have survive : ∀ file ∈ files,
      (Scan.ofText (before file)).exports ⊆ (Scan.ofText (after file)).exports := by
    intro file listed
    rw [show after file = textLeft here before files file from textAt_run corpus runId listed]
    exact exports_subset_textLeft names (unexposed file listed)
  refine ⟨survive, fun file listed statement written => ⟨infix_of_mem_statementsOf written, ?_⟩⟩
  obtain ⟨producer, producerListed, specs, statement_eq, exported⟩ := exists_producer written
  refine ⟨producer, producerListed, specs, statement_eq, fun spec inside => ?_⟩
  obtain ⟨origin, originListed, path_eq, inOrigin⟩ := exported spec inside
  have same := survive origin originListed inOrigin
  simp only [after, path_eq] at same
  exact same

/-- A declared type that refers to a platform type, and a file that imports it. -/
theorem declarations_survive_in_two_files :
    let first := "authcrunch-oauth.ts".toList
    let second := "caddy-http.ts".toList
    let tree := Corpus.pair first second "export type Token = any /* time.Time */;\n".toList
      "c: any /* oauth.Token */;\n".toList
    let after := (run (plain tree []) Settings.default Corpus.generated [] false).disk
    let text := fun file : SourceFile => (plain tree []).textAt file.path
    "Token".toList ∈ (Scan.ofText (after.textAt (Corpus.member first).path)).exports ∧
      "import type \x7b Token \x7d from \x22./authcrunch-oauth\x22;".toList ∈
        statementsOf [] text [Corpus.member first, Corpus.member second] (Corpus.member second) ∧
      ∃ producer ∈ [Corpus.member first, Corpus.member second], ∃ specs : List ImportSpec,
        "import type \x7b Token \x7d from \x22./authcrunch-oauth\x22;".toList =
          Import.statement specs (Path.specifier [] (Corpus.member second).path producer.path
            CorpusSettings.default.suffix) ∧
        ∀ spec ∈ specs,
          spec.exportName ∈ (Scan.ofText (after.textAt producer.path)).exports := by
  intro first second tree after text
  have corpus : Corpus tree [] Corpus.generated _ :=
    (Corpus.of_pair _ _ (by decide) (by decide) (by decide) (by decide)).1
  obtain ⟨-, size, succeeded⟩ := run_plain corpus []
  have texts := textAt_pair first second "export type Token = any /* time.Time */;\n".toList
    "c: any /* oauth.Token */;\n".toList (by decide) (by decide) (by decide) (by decide) (by decide)
  have unexposed : ∀ file ∈ [Corpus.member first, Corpus.member second],
      Scan.Unexposed ((plain tree []).textAt file.path) := by
    intro file listed
    rw [texts file listed]
    revert file
    decide
  have written : "import type \x7b Token \x7d from \x22./authcrunch-oauth\x22;".toList ∈
      statementsOf [] text [Corpus.member first, Corpus.member second] (Corpus.member second) := by
    rw [statementsOf_congr texts (by simp), statementsOf, indexOf_eq_decoded,
      Tables.default_eq_decoded]
    decide +kernel
  have exported : "Token".toList ∈
      (Scan.ofText ((plain tree []).textAt (Corpus.member first).path)).exports := by
    rw [texts _ (by simp)]
    decide
  obtain ⟨kept, pointed⟩ := declarations_survive corpus.found succeeded (by decide) unexposed
  exact ⟨kept (Corpus.member first) (by simp) exported, written,
    (pointed (Corpus.member second) (by simp) _ written).2⟩

/-- An exposed name: the end of `Company` and the comment behind it are taken for a placeholder, and
the import of the other file dangles. -/
theorem declarations_do_not_survive :
    let first := "authcrunch-oauth.ts".toList
    let second := "caddy-http.ts".toList
    let tree := Corpus.pair first second
      "export interface Company /* time.Time */ \x7b\n\x7d\n".toList
      "c: any /* oauth.Company */;\n".toList
    let outcome := run (plain tree []) Settings.default Corpus.generated [] false
    (∃ report, outcome.result = .ok report) ∧
      "Company".toList ∈
        (Scan.ofText ((plain tree []).textAt (Corpus.member first).path)).exports ∧
      "Company".toList ∉
        (Scan.ofText (outcome.disk.textAt (Corpus.member first).path)).exports ∧
      outcome.disk.textAt (Corpus.member second).path =
        "\nimport type \x7b Company \x7d from \x22./authcrunch-oauth\x22;\nc: Company;\n".toList := by
  intro first second tree outcome
  have corpus : Corpus tree [] Corpus.generated _ :=
    (Corpus.of_pair _ _ (by decide) (by decide) (by decide) (by decide)).1
  obtain ⟨-, size, succeeded⟩ := run_plain corpus []
  have texts := textAt_pair first second
    "export interface Company /* time.Time */ \x7b\n\x7d\n".toList
    "c: any /* oauth.Company */;\n".toList (by decide) (by decide) (by decide) (by decide)
    (by decide)
  have left : ∀ file ∈ [Corpus.member first, Corpus.member second],
      outcome.disk.textAt file.path = textLeft [] _ _ file := fun file listed =>
    (textAt_run corpus [] listed).trans (textLeft_congr texts file listed)
  refine ⟨⟨_, succeeded⟩, ?_, ?_, ?_⟩
  · rw [texts _ (by simp)]
    decide
  · rw [left _ (by simp), textLeft, linkedAs_eq_decoded]
    decide +kernel
  · rw [left _ (by simp), textLeft, linkedAs_eq_decoded]
    decide +kernel

end Pass

end DeclLinker
