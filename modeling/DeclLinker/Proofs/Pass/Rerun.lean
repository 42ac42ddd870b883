import DeclLinker.Proofs.Pass.Tame

/-!
# Running a pass again after it was stopped

A pass that a refused write stops leaves the first files of its corpus linked and the others as they
were.  On an admissible corpus every such mixture has the same exports, so the next pass builds the
same index; it leaves the linked files alone and links the others as the first pass would have.  It
ends where an uninterrupted pass ends, and the pass after it is silent.

The exception are files that slip: a linked text in which a replacement completed a constant with
the value `any` is repaired by the next pass.
-/

namespace DeclLinker

open Text Disk

/-- A tame file other than those with hand-written declarations. -/
structure Admissible (file : SourceFile) (text : Text) : Prop extends Tame file text where
  ordinary : file.path.name ≠ "caddy-rewrite.ts".toList

instance (file : SourceFile) (text : Text) : Decidable (Admissible file text) :=
  decidable_of_iff (Tame file text ∧ file.path.name ≠ "caddy-rewrite.ts".toList)
    ⟨fun ⟨tame, ordinary⟩ => ⟨tame, ordinary⟩, fun ⟨tame, ordinary⟩ => ⟨tame, ordinary⟩⟩

/-- An admissible file lacks no declarations. -/
theorem Admissible.lacking_eq {file : SourceFile} {text : Text}
    (admissible : Admissible file text) :
    Tables.default.lacking file.path.name text = [] := by
  have other : ¬"caddy-rewrite.ts".toList = file.path.name := Ne.symm admissible.ordinary
  have undeclared : Dict.get? file.path.name Tables.default.synthetic = none := by
    simp only [Tables.default, Tables.extended, Dict.get?, if_neg other]
  rw [Tables.lacking, undeclared]
  exact ite_self _

namespace Pass

variable {tree : FileTree} {here : Location} {directory : Path} {files : List SourceFile}
  {text : SourceFile → Text}

theorem tame_of_admissible (admissible : ∀ file ∈ files, Admissible file (text file)) :
    ∀ file ∈ files, Tame file (text file) :=
  fun file listed => (admissible file listed).toTame

/-! ## Mixtures of linked and other files -/

section Mixture

variable (corpus : Corpus tree here directory files)
  (admissible : ∀ file ∈ files, Admissible file (text file))
  (unified : ∀ file ∈ files, '\r' ∉ text file)

include corpus admissible unified

/-- After some files were linked and stored, these hold their linked texts. -/
theorem textAfter_eq (done : List SourceFile) {file : SourceFile} (listed : file ∈ files) :
    textAfter here text files done file =
      if file ∈ done then (linkedAs here text files file).text else text file := by
  by_cases changed : (linkedAs here text files file).report.changed = true
  · simp only [textAfter, changed, and_true]
    exact if_congr Iff.rfl
      (textLeft_eq corpus (tame_of_admissible admissible) listed (unified file listed)) rfl
  · rw [Bool.not_eq_true] at changed
    simp [textAfter, changed, text_linkedAs_of_unchanged changed]

variable {done : List SourceFile} (calm : ∀ file ∈ done, ¬Slips text files file)

include calm

/-- A mixture of linked and other files has the index of the files. -/
theorem indexOf_textAfter :
    indexOf (textAfter here text files done) files = indexOf text files := by
  refine indexOf_eq_of_exports fun file listed => ?_
  rw [textAfter_eq corpus admissible unified done listed]
  split
  · rename_i stored
    exact (exports_linkedAs corpus (tame_of_admissible admissible) listed (calm file stored)).trans
      (Linked.exports_prepared_eq (admissible file listed).lacking_eq)
  · rfl

/-- Among a mixture a linked file has nothing left to do. -/
theorem linkedAs_textAfter_of_mem {file : SourceFile} (listed : file ∈ files)
    (stored : file ∈ done) :
    (linkedAs here (textAfter here text files done) files file).report.changed = false := by
  rw [changed_linkedAs_iff, indexOf_textAfter corpus admissible unified calm,
    textAfter_eq corpus admissible unified done listed, if_pos stored]
  exact (settled_linkedAs_iff corpus (tame_of_admissible admissible) listed (calm file stored) _).2
    fun _ _ unknown => unknown

/-- Among a mixture every other file is linked as it would have been. -/
theorem linkedAs_textAfter_of_not_mem {file : SourceFile} (listed : file ∈ files)
    (left : file ∉ done) :
    linkedAs here (textAfter here text files done) files file =
      linkedAs here text files file := by
  rw [linkedAs, linkedAs, indexOf_textAfter corpus admissible unified calm, readAs, readAs,
    textAfter_eq corpus admissible unified done listed, if_neg left]

end Mixture

/-- Linking a mixture whose first files are linked ends where linking all files ends. -/
theorem foldl_keep_resumed (corpus : Corpus tree here directory files)
    (admissible : ∀ file ∈ files, Admissible file (text file))
    (unified : ∀ file ∈ files, '\r' ∉ text file) (distinct : files.Nodup)
    (calm : ∀ file ∈ files, ¬Slips text files file) (count : Nat) :
    let after := textAfter here text files (files.take count)
    (files.map (linkedAs here after files)).foldl (keep here)
        (((files.take count).map (linkedAs here text files)).foldl (keep here) tree) =
      (files.map (linkedAs here text files)).foldl (keep here) tree := by
  intro after
  have calmTake : ∀ file ∈ files.take count, ¬Slips text files file := fun file member =>
    calm file (List.mem_of_mem_take member)
  have split_map : ∀ link : SourceFile → Linked,
      files.map link = (files.take count).map link ++ (files.drop count).map link := by
    intro link
    rw [← List.map_append, List.take_append_drop]
  have linkedFirst : ∀ linked ∈ (files.take count).map (linkedAs here after files),
      linked.report.changed = false := by
    intro linked member
    obtain ⟨file, stored, rfl⟩ := List.mem_map.1 member
    exact linkedAs_textAfter_of_mem corpus admissible unified calmTake
      (List.mem_of_mem_take stored) stored
  have linkedRest : (files.drop count).map (linkedAs here after files) =
      (files.drop count).map (linkedAs here text files) := by
    refine List.map_congr_left fun file member => ?_
    refine linkedAs_textAfter_of_not_mem corpus admissible unified calmTake
      (List.mem_of_mem_drop member) fun stored => ?_
    exact List.disjoint_take_drop distinct (Nat.le_refl count) stored member
  rw [split_map (linkedAs here after files), split_map (linkedAs here text files),
    List.foldl_append, List.foldl_append, foldl_keep_of_unchanged linkedFirst, linkedRest]

/-- Without slips every linked text is settled under the index of all of them. -/
theorem allSettled_textLeft (corpus : Corpus tree here directory files)
    (admissible : ∀ file ∈ files, Admissible file (text file))
    (unified : ∀ file ∈ files, '\r' ∉ text file)
    (calm : ∀ file ∈ files, ¬Slips text files file) :
    AllSettled (textLeft here text files) files := by
  have left_eq : ∀ file ∈ files,
      textLeft here text files file = textAfter here text files files file := by
    intro file listed
    rw [textLeft_eq corpus (tame_of_admissible admissible) listed (unified file listed),
      textAfter_eq corpus admissible unified files listed, if_pos listed]
  rw [allSettled_congr left_eq]
  intro file listed
  exact (changed_linkedAs_iff _ file).1
    (linkedAs_textAfter_of_mem corpus admissible unified calm listed listed)

/-! ## The pass after a stopped one -/

/-- A pass over what a stopped pass left succeeds and ends where an uninterrupted pass ends, and the
pass after it is silent and changes nothing. -/
def Recovers (refuse : Path → Option Text) (tree : FileTree) (here : Location) (directory : Path)
    (runId resumedId lastId : Text) : Prop :=
  let whole := run (plain tree here) Settings.default directory runId false
  let stopped := run (refusing refuse tree here) Settings.default directory runId false
  let resumed := run (plain stopped.disk.tree here) Settings.default directory resumedId false
  let last := run resumed.disk Settings.default directory lastId false
  (∃ report, resumed.result = .ok report) ∧ resumed.disk.tree = whole.disk.tree ∧
    last.Silent ∧ last.disk.tree = whole.disk.tree

/-- Without slips the next pass makes good what a refused write left undone. -/
theorem recovers_of_calm (corpus : Corpus tree here directory files) (distinct : files.Nodup)
    (admissible : ∀ file ∈ files, Admissible file ((plain tree here).textAt file.path))
    (calm : ∀ file ∈ files, ¬Slips (fun file => (plain tree here).textAt file.path) files file)
    (refuse : Path → Option Text) (runId resumedId lastId : Text) :
    Recovers refuse tree here directory runId resumedId lastId := by
  have unified : ∀ file ∈ files, '\r' ∉ (plain tree here).textAt file.path := fun file listed =>
    corpus.return_not_mem listed
  unfold Recovers
  intro whole stopped resumed last
  obtain ⟨count, stopped_eq⟩ := run_refusing corpus refuse runId
  have inside : ∀ file ∈ files.take count, file ∈ files := fun file => List.mem_of_mem_take
  obtain ⟨stored, texts⟩ := corpus_stored corpus inside
  obtain ⟨resumedDisk, size, succeeded⟩ := run_plain stored resumedId
  have resumed_eq : resumed = _ := congrArg (fun disk : Disk =>
    run (plain disk.tree here) Settings.default directory resumedId false) stopped_eq
  have whole_eq : whole.disk = _ := (run_plain corpus runId).1
  -- The files are linked as after the stopped pass, so the tree ends as after a whole pass.
  have same : resumed.disk = whole.disk := by
    rw [resumed_eq, whole_eq]
    refine resumedDisk.trans ?_
    rw [List.map_congr_left (linkedAs_congr texts),
      foldl_keep_resumed corpus admissible unified distinct calm count]
  have last_eq : last = run whole.disk Settings.default directory lastId false := by
    rw [← same]
  have silent := (silent_again_iff corpus runId lastId).2
    (allSettled_textLeft corpus admissible unified calm)
  refine ⟨?_, congrArg Disk.tree same, ?_, ?_⟩
  · rw [resumed_eq]
    exact ⟨_, succeeded⟩
  · rw [last_eq]
    exact silent
  · rw [last_eq]
    exact congrArg Disk.tree (disk_again_of_silent corpus silent)

/-- The writes to one path are refused. -/
def refusal (path : Path) : Path → Option Text :=
  fun other => if other = path then some [] else none

theorem refusal_self (path : Path) : refusal path path ≠ none := by
  simp [refusal]

theorem refusal_of_ne {path other : Path} (ne : other ≠ path) : refusal path other = none :=
  if_neg ne

/-- The first file that slips, when its write is refused, is a stop that nothing makes good. -/
theorem exists_stop_of_slips (corpus : Corpus tree here directory files)
    (distinct : (files.map SourceFile.path).Nodup)
    (admissible : ∀ file ∈ files, Admissible file ((plain tree here).textAt file.path))
    (slips : ¬∀ file ∈ files,
      ¬Slips (fun file => (plain tree here).textAt file.path) files file)
    (runId resumedId lastId : Text) :
    ∃ refuse failure,
      (run (refusing refuse tree here) Settings.default directory runId false).result =
          .error failure ∧
        ¬Recovers refuse tree here directory runId resumedId lastId := by
  have unified : ∀ file ∈ files, '\r' ∉ (plain tree here).textAt file.path := fun file listed =>
    corpus.return_not_mem listed
  obtain ⟨front, file, rest, rfl, calm, slip⟩ := exists_first_not slips
  rw [not_not] at slip
  have listed : file ∈ front ++ file :: rest := by simp
  have tame := tame_of_admissible admissible
  have remains := count_textLeft_ne_zero corpus tame listed (unified file listed) slip
  -- Every path before that of the file is another one.
  rw [List.map_append, List.map_cons, List.nodup_append] at distinct
  have others : ∀ other ∈ front, other.path ≠ file.path := fun other member =>
    distinct.2.2 _ (List.mem_map_of_mem member) _ List.mem_cons_self
  have changed : (linkedAs here (fun file => (plain tree here).textAt file.path)
      (front ++ file :: rest) file).report.changed = true := by
    by_contra unchanged
    rw [Bool.not_eq_true] at unchanged
    rw [textLeft_eq corpus tame listed (unified file listed),
      text_linkedAs_of_unchanged unchanged] at remains
    exact remains (((changed_linkedAs_iff _ file).1 unchanged).rules _ (by decide))
  obtain ⟨stopped_eq, failure, failed⟩ := run_of_refused corpus runId
    (fun other member _ => refusal_of_ne (others other member)) changed
    (refusal_self file.path)
  refine ⟨refusal file.path, failure, failed, fun recovers => ?_⟩
  obtain ⟨stored, texts⟩ := corpus_stored corpus
    fun other (member : other ∈ front) => List.mem_append_left _ member
  have silent := recovers.2.2.1
  rw [stopped_eq] at silent
  -- The file is linked as before, and what is left to repair is left to the last pass.
  have settled := (silent_again_iff stored resumedId lastId).1 silent file listed
  rw [textLeft_congr texts file listed, textLeft,
    linkedAs_textAfter_of_not_mem corpus admissible unified calm listed
      fun member => others file member rfl] at settled
  exact remains (settled.rules _ (by decide))

/-- On an admissible corpus the next pass makes good whatever a refused write left undone, and the
pass after it is silent, exactly when no file slips. -/
theorem rerun_safe_iff {tree : FileTree} {here : Location} {directory : Path}
    {files : List SourceFile} (corpus : Corpus tree here directory files)
    (distinct : (files.map SourceFile.path).Nodup)
    (admissible : ∀ file ∈ files, Admissible file ((plain tree here).textAt file.path))
    (runId resumedId lastId : Text) :
    (∀ refuse failure,
        (run (refusing refuse tree here) Settings.default directory runId false).result =
            .error failure →
          Recovers refuse tree here directory runId resumedId lastId) ↔
      ∀ file ∈ files, ¬Slips (fun file => (plain tree here).textAt file.path) files file := by
  constructor
  · intro recovers
    by_contra slips
    obtain ⟨refuse, failure, failed, remains⟩ :=
      exists_stop_of_slips corpus distinct admissible slips runId resumedId lastId
    exact remains (recovers refuse failure failed)
  · intro calm refuse failure _
    have apart : files.Nodup := List.Pairwise.of_map SourceFile.path
      (fun _ _ differ same => differ (congrArg SourceFile.path same)) distinct
    exact recovers_of_calm corpus apart admissible calm refuse runId resumedId lastId

/-- A pass over two files of which the second changes is stopped when that write is refused, with
the first one stored. -/
theorem run_pair_refusing {first second : SourceFile}
    (corpus : Corpus tree here directory [first, second]) (apart : first.path ≠ second.path)
    (runId : Text) :
    let link := linkedAs here (fun file => (plain tree here).textAt file.path) [first, second]
    let stopped := run (refusing (refusal second.path) tree here) Settings.default directory runId
      false
    (link second).report.changed = true →
      stopped.disk.tree = ([first].map link).foldl (keep here) tree ∧
        ∃ failure, stopped.result = .error failure := by
  intro link stopped changed
  have whole : Corpus tree here directory ([first] ++ second :: []) := corpus
  have accepted : ∀ other ∈ [first], (link other).report.changed = true →
      refusal second.path other.path = none := by
    intro other member _
    rw [List.mem_singleton.1 member]
    exact refusal_of_ne apart
  obtain ⟨disk, failed⟩ := run_of_refused whole runId accepted changed (refusal_self second.path)
  exact ⟨congrArg Disk.tree disk, failed⟩

/-- A file with a platform type and one that names a type of the first: the first is stored, the
write of the second is refused, and the next pass makes this mixture good. -/
theorem rerun_safe_of_two_files :
    let tree := Corpus.pair "authcrunch-oauth.ts".toList "caddy-http.ts".toList
      "export type Token = string;\nt: any /* time.Time */;\n".toList
      "t: any /* oauth.Token */;\n".toList
    let refuse := refusal (Corpus.member "caddy-http.ts".toList).path
    let stopped := run (refusing refuse tree []) Settings.default Corpus.generated [] false
    (∃ failure, stopped.result = .error failure) ∧
      (plain stopped.disk.tree []).textAt (Corpus.member "authcrunch-oauth.ts".toList).path =
        "export type Token = string;\nt: string;\n".toList ∧
      (plain stopped.disk.tree []).textAt (Corpus.member "caddy-http.ts".toList).path =
        "t: any /* oauth.Token */;\n".toList ∧
      Recovers refuse tree [] Corpus.generated [] [] [] := by
  intro tree refuse stopped
  have corpus : Corpus tree [] Corpus.generated _ :=
    (Corpus.of_pair _ _ (by decide) (by decide) (by decide) (by decide)).1
  have texts := textAt_pair "authcrunch-oauth.ts".toList "caddy-http.ts".toList
    "export type Token = string;\nt: any /* time.Time */;\n".toList
    "t: any /* oauth.Token */;\n".toList (by decide) (by decide) (by decide) (by decide)
    (by decide)
  have fits : ∀ file ∈ [Corpus.member "authcrunch-oauth.ts".toList,
      Corpus.member "caddy-http.ts".toList], Admissible file (pairText "authcrunch-oauth.ts".toList
        "export type Token = string;\nt: any /* time.Time */;\n".toList
        "t: any /* oauth.Token */;\n".toList file) := by
    decide +kernel
  have links : ∀ file ∈ _, linkedAs [] _ _ file = _ := fun file listed =>
    (linkedAs_congr texts file listed).trans (linkedAs_eq_decoded ..)
  obtain ⟨same, failure, failed⟩ := run_pair_refusing corpus (by decide) []
    (by rw [links _ (.tail _ List.mem_cons_self)]; decide +kernel)
  obtain ⟨-, left⟩ := corpus_stored corpus
    (List.forall_mem_singleton.2 List.mem_cons_self)
  refine ⟨⟨failure, failed⟩, ?_, ?_, (rerun_safe_iff corpus (by decide)
    (fun file listed => ?_) [] [] []).2 (fun file listed => ?_) refuse failure failed⟩
  · have tree_eq : stopped.disk.tree = _ := same
    rw [tree_eq, left _ List.mem_cons_self, textAfter, links _ List.mem_cons_self]
    decide +kernel
  · have tree_eq : stopped.disk.tree = _ := same
    rw [tree_eq, left _ (.tail _ List.mem_cons_self), textAfter, if_neg (by decide),
      texts _ (.tail _ List.mem_cons_self)]
    decide +kernel
  · rw [texts file listed]
    exact fits file listed
  · rw [slips_congr texts listed]
    refine not_slips_of_endings ?_
    rw [indexOf_eq_decoded]
    revert file listed
    decide +kernel

/-- A placeholder before the rest of a constant, for a type whose name ends in `export`: the write
is refused, the next pass resolves the placeholder, and the pass after it repairs the constant. -/
theorem rerun_not_safe :
    let tree := Corpus.pair "authcrunch-oauth.ts".toList "caddy-http.ts".toList
      "export type reexport = string;\n".toList
      "any /* oauth.reexport */ const Foo = any;\n".toList
    let refuse := refusal (Corpus.member "caddy-http.ts".toList).path
    let stopped := run (refusing refuse tree []) Settings.default Corpus.generated [] false
    let resumed := run (plain stopped.disk.tree []) Settings.default Corpus.generated [] false
    (∀ file ∈ [Corpus.member "authcrunch-oauth.ts".toList, Corpus.member "caddy-http.ts".toList],
        Admissible file ((plain tree []).textAt file.path)) ∧
      (∃ failure, stopped.result = .error failure) ∧
      ¬(run resumed.disk Settings.default Corpus.generated [] false).Silent := by
  intro tree refuse stopped resumed
  have corpus : Corpus tree [] Corpus.generated _ :=
    (Corpus.of_pair _ _ (by decide) (by decide) (by decide) (by decide)).1
  have texts := textAt_pair "authcrunch-oauth.ts".toList "caddy-http.ts".toList
    "export type reexport = string;\n".toList
    "any /* oauth.reexport */ const Foo = any;\n".toList (by decide) (by decide) (by decide)
    (by decide) (by decide)
  have fits : ∀ file ∈ [Corpus.member "authcrunch-oauth.ts".toList,
      Corpus.member "caddy-http.ts".toList], Admissible file (pairText "authcrunch-oauth.ts".toList
        "export type reexport = string;\n".toList
        "any /* oauth.reexport */ const Foo = any;\n".toList file) := by
    decide +kernel
  have links : ∀ file ∈ _, linkedAs [] _ _ file = _ := fun file listed =>
    (linkedAs_congr texts file listed).trans (linkedAs_eq_decoded ..)
  obtain ⟨stored, failed⟩ := run_pair_refusing corpus (by decide) []
    (by rw [links _ (.tail _ List.mem_cons_self)]; decide +kernel)
  -- The first file does not change, so the tree is as before.
  have same := stored.trans (foldl_keep_of_unchanged (List.forall_mem_singleton.2
    (by rw [links _ List.mem_cons_self]; decide +kernel)) tree)
  refine ⟨fun file listed => ?_, failed, fun silent => ?_⟩
  · rw [texts file listed]
    exact fits file listed
  · have resumed_eq : resumed = _ := congrArg (fun tree : FileTree =>
      run (plain tree []) Settings.default Corpus.generated [] false) same
    rw [resumed_eq] at silent
    have settled := (allSettled_congr (textLeft_congr texts)).1
      ((silent_again_iff corpus [] []).1 silent)
    simp only [AllSettled, textLeft, linkedAs_eq_decoded, indexOf_eq_decoded,
      Tables.default_eq_decoded] at settled
    exact absurd settled (by decide +kernel)

end Pass

end DeclLinker
