import DeclLinker.Proofs.Pass.Idempotence

/-!
# Dry runs, applied runs and failed runs

A dry run foretells an applied one: the two reports differ only in what was written.  The applied
run writes a file exactly when it reports a change, every file is linked from the texts before the
pass, and a file that is not written was linked to the text it was read as.

A pass that fails leaves a disk that its failure describes.  When a directory or a file cannot be
read, nothing was stored.  When a write is refused, exactly the changed files before it were stored.
-/

namespace DeclLinker

namespace Pass

open Disk

variable {disk : Disk} {settings : Settings} {directory : Path} {files : List SourceFile}

/-- A failed pass leaves the tree as its failure says.  When its directory is missing or something
cannot be read, the tree is as it was.  When a write fails, the changed files before it hold their
linked texts, and everything else, the file itself included, holds what it held. -/
theorem failed_run_leaves {runId : Text} {dryRun : Bool} {failure : Failure} (quiet : disk.Quiet)
    (apart : ∀ files, disk.discover settings.corpus directory = .ok files → disk.Apart files)
    (failed : (run disk settings directory runId dryRun).result = .error failure) :
    let after := (run disk settings directory runId dryRun).disk.tree
    ((failure.code = .directoryMissing ∨ failure.code = .readFailed) ∧ after = disk.tree) ∨
      failure.code = .writeFailed ∧ dryRun = false ∧ ∃ front file rest reason,
        disk.discover settings.corpus directory = .ok (front ++ file :: rest) ∧
        failure = .writeFailed (.str file.path.toText) (.str reason) ∧
        let link := linkOn disk settings (front ++ file :: rest)
        disk.faults.write file.path = some reason ∧ (link file).report.changed = true ∧
        (∀ other ∈ front, (link other).report.changed = true →
          after.read disk.here other.path = .ok (Utf8.encode (link other).text)) ∧
        (∀ other ∈ front, (link other).report.changed = false →
          after.read disk.here other.path = disk.tree.read disk.here other.path) ∧
        (∀ other ∈ file :: rest,
          after.read disk.here other.path = disk.tree.read disk.here other.path) ∧
        ∀ place, (∀ other ∈ front, (link other).report.changed = true →
            disk.tree.walk disk.here other.path ≠ .ok place) →
          after.entry? place = disk.tree.entry? place := by
  intro after
  rcases run_cases quiet settings directory runId dryRun with
    ⟨files, found, readable⟩ | ⟨same, other, failed', code⟩
  · refine .inr ?_
    cases dryRun with
    | true =>
        rw [(run_dry quiet found readable runId).2] at failed
        cases failed
    | false =>
        rcases run_stored_cases quiet found readable runId with
          ⟨-, succeeded⟩ | ⟨front, file, rest, reason, rfl, changed, refused, -, left, failed'⟩
        · rw [succeeded] at failed
          cases failed
        · rw [failed'] at failed
          cases failed
          have separate := apart _ found
          obtain ⟨stored, kept, elsewhere⟩ := storedOn_spec settings readable separate
            fun _ member => List.mem_append_left (file :: rest) member
          rw [← left] at stored kept elsewhere
          refine ⟨rfl, rfl, front, file, rest, reason, found, rfl, refused, changed, stored,
            fun other member same => kept other (List.mem_append_left _ member) fun _ => same,
            fun other member => kept other (List.mem_append_right _ member) fun earlier => ?_,
            elsewhere⟩
          -- The file and those behind it lie at other places than those before it.
          exact absurd rfl ((List.pairwise_append.1 separate).2.2 other earlier other member)
  · rw [failed'] at failed
    cases failed
    exact .inl ⟨code, congrArg Disk.tree same⟩

/-- Two platform types, where the second file cannot be written: the first file is stored. -/
theorem failed_run_leaves_second_of_two_files :
    let tree := Corpus.pair "a.ts".toList "b.ts".toList "t: any /* time.Time */;".toList
      "u: any /* net.IP */;".toList
    let refuse := fun path : Path =>
      if path = (Corpus.member "b.ts".toList).path then some "denied".toList else none
    let outcome := run (refusing refuse tree []) Settings.default Corpus.generated [] false
    (∃ failure, outcome.result = .error failure ∧ failure.code = .writeFailed) ∧
      outcome.disk.tree.read [] (Corpus.member "a.ts".toList).path =
        .ok (Utf8.encode "t: string;".toList) ∧
      outcome.disk.tree.read [] (Corpus.member "b.ts".toList).path =
        tree.read [] (Corpus.member "b.ts".toList).path := by
  intro tree refuse outcome
  have corpus : Corpus tree [] Corpus.generated _ :=
    (Corpus.of_pair _ _ (by decide) (by decide) (by decide) (by decide)).1
  have texts := textAt_pair "a.ts".toList "b.ts".toList "t: any /* time.Time */;".toList
    "u: any /* net.IP */;".toList (by decide) (by decide) (by decide) (by decide) (by decide)
  have linked : ∀ file ∈ _, linkedAs [] _ _ file = _ := fun file listed =>
    (linkedAs_congr texts file listed).trans (linkedAs_eq_decoded ..)
  have first := linked (Corpus.member "a.ts".toList) (by simp)
  have second := linked (Corpus.member "b.ts".toList) (by simp)
  have found := discover_refusing corpus refuse
  have apart : ∀ files, (refusing refuse tree []).discover Settings.default.corpus
      Corpus.generated = .ok files → (refusing refuse tree []).Apart files := by
    intro files same
    cases found.symm.trans same
    exact Corpus.apart_pair _ _ _ (by decide) (by decide) (by decide)
  have whole : Corpus tree [] Corpus.generated
      ([Corpus.member "a.ts".toList] ++ Corpus.member "b.ts".toList :: []) := corpus
  have refused : refuse (Corpus.member "b.ts".toList).path ≠ none := by decide
  obtain ⟨-, failure, failed⟩ := run_of_refused whole []
    (fun other member _ => by rw [List.mem_singleton.1 member]; decide)
    ((congrArg (·.report.changed) second).trans (by decide +kernel)) refused
  have code : failure.code = .writeFailed := by
    rcases run_refusing_cases corpus refuse [] with
      ⟨-, size, succeeded⟩ | ⟨front, file, rest, reason, -, -, -, -, -, stopped⟩
    · cases failed.symm.trans succeeded
    · cases failed.symm.trans stopped
      rfl
  rcases failed_run_leaves (quiet_refusing refuse tree []) apart failed with
    ⟨other, -⟩ | ⟨-, -, front, file, rest, reason, same, -, refused, -, stored, -, kept, -⟩
  · rw [code] at other
    exact absurd other (by decide)
  · have split := Except.ok.inj (found.symm.trans same)
    cases front with
    | nil =>
        cases split
        have accepted : refuse (Corpus.member "a.ts".toList).path = none := by decide
        cases accepted.symm.trans refused
    | cons earlier front =>
        obtain ⟨rfl, split⟩ := List.cons.inj split
        cases front with
        | nil =>
            cases split
            refine ⟨⟨failure, failed, code⟩, ?_, kept _ List.mem_cons_self⟩
            have text : (linkOn (refusing refuse tree []) Settings.default _
                (Corpus.member "a.ts".toList)).text = "t: string;".toList :=
              (congrArg Linked.text first).trans (by decide +kernel)
            rw [← text]
            exact stored _ List.mem_cons_self
              ((congrArg (·.report.changed) first).trans (by decide +kernel))
        | cons other front => simp at split

end Pass

end DeclLinker
