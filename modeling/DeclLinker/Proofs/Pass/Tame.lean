import DeclLinker.Proofs.Linking.Fixpoint
import DeclLinker.Proofs.Pass.Idempotence

/-!
# Tame corpora

In a tame corpus every file has an ordinary name, isolated placeholders and exports that are not
reserved.  What a pass leaves in such a file is told by the text of the file and the index alone: it
exports what the text exports and what its hand-written declarations export, it holds the references
that the pass left unresolved, and nothing in it is left to repair, unless the file slips.
-/

namespace DeclLinker

open Text Disk

/-- A file and a text of it with an ordinary name, exports that are not reserved, and isolated
placeholders of which none is the name of a constant. -/
structure Tame (file : SourceFile) (text : Text) : Prop where
  name_chars : ∀ char ∈ file.path.name, Path.isFileChar char = true
  exports_free : ∀ name ∈ (Scan.ofText text).exports, name ∉ reservedWords
  isolated : Reference.Isolated text
  unnamed : Reference.NeverBehind "const ".toList text

instance (file : SourceFile) (text : Text) : Decidable (Tame file text) :=
  decidable_of_iff
    ((∀ char ∈ file.path.name, Path.isFileChar char = true) ∧
      (∀ name ∈ (Scan.ofText text).exports, reservedWords.contains name = false) ∧
      Reference.Isolated text ∧ Reference.NeverBehind "const ".toList text)
    ⟨fun ⟨chars, free, isolated, unnamed⟩ => ⟨chars, by simpa using free, isolated, unnamed⟩,
      fun ⟨chars, free, isolated, unnamed⟩ => ⟨chars, by simpa using free, isolated, unnamed⟩⟩

theorem Tame.fair {file : SourceFile} {text : Text} (tame : Tame file text) : Linked.Fair text :=
  ⟨tame.isolated, tame.unnamed, tame.exports_free⟩

namespace Pass

variable {tree : FileTree} {here : Location} {directory : Path} {files : List SourceFile}
  {text : SourceFile → Text}

/-- The index of a corpus is told by the exports of its files. -/
theorem indexOf_eq_of_exports {other : SourceFile → Text}
    (same : ∀ file ∈ files,
      (Scan.ofText (text file)).exports = (Scan.ofText (other file)).exports) :
    indexOf text files = indexOf other files := by
  refine Index.build_congr (fun file member => ?_) _ _
  simp only [Index.bare, readAs, Analysis.ofText, same file member]

/-- The files of a corpus reach each other by specifiers of statement characters. -/
theorem specifier_chars_of_corpus (corpus : Corpus tree here directory files)
    {consumer producer : SourceFile} (one : consumer ∈ files) (two : producer ∈ files)
    (name : ∀ char ∈ producer.path.name, Path.isFileChar char = true) (suffix : Text) :
    ∀ char ∈ Path.specifier here consumer.path producer.path suffix,
      Import.isStatementChar char = true := by
  have down : ("plugins".toList : Text) ≠ Path.up := by decide
  refine Path.specifier_chars suffix ?_ name
  obtain ⟨first, -, first_eq⟩ := mem_discover corpus.found one
  obtain ⟨second, -, second_eq⟩ := mem_discover corpus.found two
  have core : ∀ name, (Path.mk directory.root (directory.parts ++ [name])).parent = directory := by
    intro name
    simp [Path.parent]
  have plugin : ∀ name, (Path.mk directory.root
      (directory.parts ++ ["plugins".toList] ++ [name])).parent.locate here =
        directory.locate here ++ ["plugins".toList] := by
    intro name
    rw [Path.parent, List.dropLast_concat]
    exact Path.locate_child here directory.root directory.parts down
  have steps : ∀ part ∈ ["plugins".toList, Path.up], ∀ char ∈ part,
      Import.isStatementChar char = true := by decide
  intro part member
  rcases first_eq with rfl | rfl <;> rcases second_eq with rfl | rfl <;> dsimp only at member
  · rw [core, core, Path.route_self] at member
    cases member
  · rw [core, plugin, Path.route_down] at member
    exact steps part (by simp [List.mem_singleton.1 member])
  · rw [core, plugin, Path.route_up] at member
    exact steps part (by simp [List.mem_singleton.1 member])
  · rw [plugin, plugin, Path.route_self] at member
    cases member

/-- The index of a tame corpus fits each of its files. -/
theorem fitting_of_tame (corpus : Corpus tree here directory files)
    (tame : ∀ file ∈ files, Tame file (text file)) {file : SourceFile} (listed : file ∈ files) :
    Linked.Fitting here CorpusSettings.default.suffix file.path (indexOf text files) where
  named key entry member := by
    obtain ⟨origin, originListed, -, tag_eq, exported⟩ := exists_file_of_entry member
    obtain ⟨name_ne, nameWord⟩ := Scan.word_of_mem_exports exported
    have good := tame origin originListed
    refine ⟨⟨name_ne, nameWord, ?_⟩, good.exports_free entry.exportName exported⟩
    rw [tag_eq]
    exact moduleTag_chars _ good.name_chars
  reached key entry member := by
    obtain ⟨origin, originListed, path_eq, -⟩ := exists_file_of_entry member
    rw [path_eq]
    exact specifier_chars_of_corpus corpus listed originListed
      (tame origin originListed).name_chars _

/-- A placeholder of a file whose replacement ends in `export` stands, once the text of the file is
repaired, before the rest of a constant with the value `any`. -/
def Slips (text : SourceFile → Text) (files : List SourceFile) (file : SourceFile) : Prop :=
  Linked.Slips (indexOf text files) (readAs text file).analysis (text file)

/-- A file slips only when one of its replacements ends in `export`. -/
theorem not_slips_of_endings {file : SourceFile}
    (endings : ∀ step ∈ (Resolution.ofAnalysis Tables.default (indexOf text files)
      (readAs text file).analysis).steps,
      ∀ replacement ∈ step.decision.replacement?, ¬"export".toList <:+ replacement) :
    ¬Slips text files file := by
  rintro ⟨step, member, replacement, replaced, ends, -⟩
  exact endings step member replacement replaced ends

theorem slips_congr {other : SourceFile → Text} (same : ∀ file ∈ files, text file = other file)
    {file : SourceFile} (listed : file ∈ files) :
    Slips text files file ↔ Slips other files file := by
  rw [Slips, Slips, indexOf_congr same, readAs, readAs, same file listed]

section Linking

variable (corpus : Corpus tree here directory files) (tame : ∀ file ∈ files, Tame file (text file))
  {file : SourceFile} (listed : file ∈ files)

include corpus tame listed

/-- The linked text of a file that does not slip exports what the prepared one exports. -/
theorem exports_linkedAs (noSlip : ¬Slips text files file) :
    (Scan.ofText (linkedAs here text files file).text).exports =
      (Scan.ofText (Linked.prepared Tables.default file.path.name (text file))).exports :=
  (Linked.sound_linked (tame file listed).fair (fitting_of_tame corpus tame listed)
    noSlip).exports_eq

/-- The linked text of a file that does not slip is settled under an index exactly when the index
has nothing for the references that the file was left with. -/
theorem settled_linkedAs_iff (noSlip : ¬Slips text files file) (later : Index) :
    Linked.Settled Tables.default later file.path.name (linkedAs here text files file).text ↔
      ∀ reference ∈ findAll Reference.recognise (text file),
        Target.find? Tables.default (indexOf text files) reference = none →
          Target.find? Tables.default later reference = none :=
  Linked.settled_linked_iff (tame file listed).fair (fitting_of_tame corpus tame listed) noSlip
    later

/-- The linked text of a file is read back as it was stored. -/
theorem textLeft_eq (unified : '\r' ∉ text file) :
    textLeft here text files file = (linkedAs here text files file).text :=
  unifyNewlines_of_not_mem (Linked.return_not_mem_linked _ file.tier (tame file listed).fair
    (fitting_of_tame corpus tame listed) unified)

/-- A file that slips has something to repair after it was linked. -/
theorem count_textLeft_ne_zero (unified : '\r' ∉ text file) (slips : Slips text files file) :
    Rule.constant.count (textLeft here text files file) ≠ 0 := by
  rw [textLeft_eq corpus tame listed unified]
  exact Linked.count_ne_zero_of_slips (tame file listed).fair (fitting_of_tame corpus tame listed)
    slips

end Linking

end Pass

end DeclLinker
