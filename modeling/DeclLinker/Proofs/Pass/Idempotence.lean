import DeclLinker.Proofs.Linking.Settled
import DeclLinker.Proofs.Pass.Corpus

/-!
# When a second pass has nothing to do

A pass is silent when it resolves and repairs nothing, places no declarations and writes no file.
It is silent exactly when every file of its corpus is settled under the index of all of them, and
then it leaves the tree as it is.

A second pass reads the linked texts of the first and builds its index from them, so it is silent
exactly when every linked text is settled under that index.
-/

namespace DeclLinker

open Disk

/-- A pass that resolved and repaired nothing, placed no declarations and wrote no file. -/
def PassOutcome.Silent (outcome : PassOutcome) : Prop :=
  ∃ report, outcome.result = .ok report ∧ report.resolved = 0 ∧ report.fixes = 0 ∧
    (∀ file ∈ report.files, file.injected = false) ∧ report.written = 0

namespace Pass

variable {tree : FileTree} {here : Location} {directory : Path} {files : List SourceFile}

/-- Every file is settled under the index of all of them. -/
def AllSettled (text : SourceFile → Text) (files : List SourceFile) : Prop :=
  ∀ file ∈ files, Linked.Settled Tables.default (indexOf text files) file.path.name (text file)

instance (text : SourceFile → Text) (files : List SourceFile) : Decidable (AllSettled text files) :=
  inferInstanceAs (Decidable (∀ file ∈ files, _))

theorem regular_default : ∀ rule ∈ Tables.default.rules, rule.isRegular = true :=
  fun _ member => Rule.isRegular_of_mem_builtin member

/-- A file reports no change exactly when its text is settled. -/
theorem changed_linkedAs_iff (text : SourceFile → Text) (file : SourceFile) :
    (linkedAs here text files file).report.changed = false ↔
      Linked.Settled Tables.default (indexOf text files) file.path.name (text file) :=
  Linked.changed_eq_false_iff here _ _ file.path file.tier regular_default (text file)

theorem text_linkedAs_of_unchanged {text : SourceFile → Text} {file : SourceFile}
    (unchanged : (linkedAs here text files file).report.changed = false) :
    (linkedAs here text files file).text = text file :=
  Linked.text_of_settled here _ _ file.path file.tier regular_default
    ((changed_linkedAs_iff text file).1 unchanged)

/-- The report on an unchanged file counts nothing. -/
theorem noted_of_unchanged {text : SourceFile → Text} {file : SourceFile}
    (unchanged : (linkedAs here text files file).report.changed = false) :
    let report := noted (linkedAs here text files file)
    report.resolved = 0 ∧ report.fixes = 0 ∧ report.injected = false ∧ report.written = false := by
  obtain ⟨resolved, fixes, added⟩ :=
    (Linked.changed_eq_false_iff_counts here _ _ _).1 unchanged
  have noted_eq : noted (linkedAs here text files file) =
      (linkedAs here text files file).report := by
    rw [noted, unchanged]
    rfl
  rw [noted_eq]
  refine ⟨congrArg Int.ofNat resolved, congrArg Int.ofNat fixes, ?_, rfl⟩
  exact decide_eq_false (Nat.not_lt.2 (Nat.le_of_eq added))

theorem total_eq_zero {reports : List FileReport} {value : FileReport → Int}
    (nothing : ∀ report ∈ reports, value report = 0) :
    reports.foldr (fun report total => value report + total) 0 = 0 := by
  induction reports with
  | nil => rfl
  | cons report reports ih =>
      rw [List.foldr_cons, nothing report List.mem_cons_self,
        ih fun other member => nothing other (.tail report member)]
      rfl

/-- A pass is silent exactly when every file of its corpus is settled. -/
theorem silent_iff_settled (corpus : Corpus tree here directory files) (runId : Text) :
    let text := fun file : SourceFile => (plain tree here).textAt file.path
    (run (plain tree here) Settings.default directory runId false).Silent ↔
      AllSettled text files := by
  intro text
  obtain ⟨-, size, result⟩ := run_plain corpus runId
  constructor
  · rintro ⟨report, succeeded, -, -, -, written⟩ file member
    rw [result] at succeeded
    cases succeeded
    have unchanged : (linkedAs here text files file).report.changed = false ↔ _ :=
      changed_linkedAs_iff text file
    refine unchanged.1 ?_
    -- A changed file would have been written.
    by_contra changed
    rw [Bool.not_eq_false] at changed
    have unwritten := List.countP_eq_zero.1 written _
      (List.mem_map_of_mem (f := fun file => noted (linkedAs here text files file)) member)
    rw [noted, if_pos changed] at unwritten
    exact unwritten rfl
  · intro settled
    have reports : ∀ report ∈ files.map (fun file => noted (linkedAs here text files file)),
        report.resolved = 0 ∧ report.fixes = 0 ∧ report.injected = false ∧
          report.written = false := by
      intro report member
      obtain ⟨file, listed, rfl⟩ := List.mem_map.1 member
      exact noted_of_unchanged ((changed_linkedAs_iff text file).2 (settled file listed))
    refine ⟨_, result, total_eq_zero fun report member => (reports report member).1,
      total_eq_zero fun report member => (reports report member).2.1,
      fun report member => (reports report member).2.2.1, ?_⟩
    exact List.countP_eq_zero.2 fun report member => by simp [(reports report member).2.2.2]

theorem foldl_keep_of_unchanged {all : List Linked}
    (unchanged : ∀ linked ∈ all, linked.report.changed = false) (tree : FileTree) :
    all.foldl (keep here) tree = tree := by
  induction all with
  | nil => rfl
  | cons linked all ih =>
      have same : keep here tree linked = tree := by
        rw [keep, unchanged linked List.mem_cons_self]
        rfl
      rw [List.foldl_cons, same, ih fun other member => unchanged other (.tail linked member)]

/-- The text that a pass leaves in a file, as it is read back. -/
def textLeft (here : Location) (text : SourceFile → Text) (files : List SourceFile)
    (file : SourceFile) : Text :=
  (linkedAs here text files file).text.unifyNewlines

/-- After a whole pass every file holds its linked text. -/
theorem textAfter_eq_textLeft (corpus : Corpus tree here directory files) {file : SourceFile}
    (member : file ∈ files) :
    let text := fun file : SourceFile => (plain tree here).textAt file.path
    textAfter here text files files file = textLeft here text files file := by
  intro text
  by_cases changed : (linkedAs here text files file).report.changed = true
  · rw [textAfter, if_pos ⟨member, changed⟩, textLeft]
  · rw [Bool.not_eq_true] at changed
    rw [textAfter, if_neg (by simp [changed]), textLeft, text_linkedAs_of_unchanged changed,
      Text.unifyNewlines_of_not_mem (corpus.return_not_mem member)]

/-- After a whole pass every file is read as the text that the pass left in it. -/
theorem textAt_run (corpus : Corpus tree here directory files) (runId : Text) {file : SourceFile}
    (member : file ∈ files) :
    (run (plain tree here) Settings.default directory runId false).disk.textAt file.path =
      textLeft here (fun file => (plain tree here).textAt file.path) files file := by
  obtain ⟨disk, -⟩ := run_plain corpus runId
  obtain ⟨-, texts⟩ := corpus_stored corpus fun _ member => member
  rw [disk, texts file member, textAfter_eq_textLeft corpus member]

theorem indexOf_congr {text other : SourceFile → Text}
    (same : ∀ file ∈ files, text file = other file) :
    indexOf text files = indexOf other files := by
  rw [indexOf, indexOf]
  refine congrArg _ (List.map_congr_left fun file member => ?_)
  rw [readAs, readAs, same file member]

theorem allSettled_congr {text other : SourceFile → Text}
    (same : ∀ file ∈ files, text file = other file) :
    AllSettled text files ↔ AllSettled other files := by
  rw [AllSettled, AllSettled, indexOf_congr same]
  exact forall₂_congr fun file member => by rw [same file member]

theorem linkedAs_congr {text other : SourceFile → Text}
    (same : ∀ file ∈ files, text file = other file) :
    ∀ file ∈ files, linkedAs here text files file = linkedAs here other files file := by
  intro file member
  rw [linkedAs, linkedAs, indexOf_congr same, readAs, readAs, same file member]

theorem textLeft_congr {text other : SourceFile → Text}
    (same : ∀ file ∈ files, text file = other file) :
    ∀ file ∈ files, textLeft here text files file = textLeft here other files file := by
  intro file member
  rw [textLeft, textLeft, linkedAs_congr same file member]

/-- After a pass over a corpus the next one is silent exactly when every linked text is settled
under the index of all of them. -/
theorem silent_again_iff (corpus : Corpus tree here directory files) (runId again : Text) :
    (run (run (plain tree here) Settings.default directory runId false).disk Settings.default
        directory again false).Silent ↔
      AllSettled (textLeft here (fun file => (plain tree here).textAt file.path) files) files := by
  have left := allSettled_congr fun _ member => textAt_run corpus runId member
  obtain ⟨disk, -⟩ := run_plain corpus runId
  obtain ⟨stored, -⟩ := corpus_stored corpus fun _ member => member
  rw [← left, disk]
  exact silent_iff_settled stored again

/-- A silent pass leaves the tree as it is. -/
theorem run_disk_of_silent (corpus : Corpus tree here directory files) {runId : Text}
    (silent : (run (plain tree here) Settings.default directory runId false).Silent) :
    (run (plain tree here) Settings.default directory runId false).disk = plain tree here := by
  obtain ⟨disk, -⟩ := run_plain corpus runId
  rw [disk, foldl_keep_of_unchanged]
  intro linked member
  obtain ⟨file, listed, rfl⟩ := List.mem_map.1 member
  exact (changed_linkedAs_iff _ file).2 ((silent_iff_settled corpus runId).1 silent file listed)

/-- After a pass over a corpus a silent one leaves the tree as it is. -/
theorem disk_again_of_silent (corpus : Corpus tree here directory files) {runId again : Text}
    (silent : (run (run (plain tree here) Settings.default directory runId false).disk
      Settings.default directory again false).Silent) :
    (run (run (plain tree here) Settings.default directory runId false).disk Settings.default
        directory again false).disk =
      (run (plain tree here) Settings.default directory runId false).disk := by
  obtain ⟨disk, -⟩ := run_plain corpus runId
  -- The corpus is still there after the first pass.
  obtain ⟨stored, -⟩ := corpus_stored corpus fun _ member => member
  rw [disk] at silent ⊢
  exact run_disk_of_silent stored silent

/-- The texts of two files. -/
def pairText (first one two : Text) (file : SourceFile) : Text :=
  if file = Corpus.member first then one else two

/-- Two eligible files are read as their texts. -/
theorem textAt_pair (first second one two : Text)
    (firstEligible : CorpusSettings.default.isEligible first = true)
    (secondEligible : CorpusSettings.default.isEligible second = true)
    (ordered : Text.le first second = true) (apart : first ≠ second)
    (noReturn : '\r' ∉ one ++ two) :
    ∀ file ∈ [Corpus.member first, Corpus.member second],
      (plain (Corpus.pair first second one two) []).textAt file.path =
        pairText first one two file := by
  obtain ⟨-, firstText, secondText⟩ := Corpus.of_pair one two firstEligible secondEligible ordered
    apart
  rw [Text.unifyNewlines_of_not_mem fun inside => noReturn (List.mem_append_left _ inside)]
    at firstText
  rw [Text.unifyNewlines_of_not_mem fun inside => noReturn (List.mem_append_right _ inside)]
    at secondText
  have different : Corpus.member second ≠ Corpus.member first := by
    simp [Corpus.member, Ne.symm apart]
  intro file listed
  rcases List.mem_cons.1 listed with rfl | rest
  · rw [pairText, if_pos rfl]
    exact firstText
  · rw [List.mem_singleton.1 rest, pairText, if_neg different]
    exact secondText

end Pass

end DeclLinker
