import DeclLinker.Proofs.Pass.Tame
import DeclLinker.Proofs.Resolution.Growth

/-!
# The second pass

The index of a pass is built from the texts that the pass reads, before it places any hand-written
declarations.  So their names enter the index only with the next pass, which resolves the references
that ask for them.  On a tame corpus nothing else is left to a second pass but what a slip leaves to
repair: it is silent exactly when no file slips and no reference that the first pass leaves
unresolved asks for a name among the declarations that it places.
-/

namespace DeclLinker

open Text Disk

namespace Pass

variable {tree : FileTree} {here : Location} {directory : Path} {files : List SourceFile}
  {text : SourceFile → Text} {key : Text}

/-! ## The keys of an index -/

/-- The scopes under which an index lists what a file exports: its tag, if it is of a family, and
the packages that are registered for it. -/
inductive Scope (files : List SourceFile) (file : SourceFile) : Text → Prop
  | tag (family : inFamily CorpusSettings.default.families file.path.name = true) :
      Scope files file (moduleTag CorpusSettings.default.families file.path.name)
  | package {package : Text × Text} (given : package ∈ Tables.default.packages)
      (first : files.find? (fun other => other.path.name == package.2) = some file) :
      Scope files file package.1

/-- An index has a key exactly when a file exports the name in it and has its scope. -/
theorem get?_indexOf_ne_none_iff :
    (indexOf text files).get? key ≠ none ↔ ∃ file ∈ files, ∃ scope, Scope files file scope ∧
      ∃ name ∈ (Scan.ofText (text file)).exports, Index.keyOf scope name = key := by
  have exported : ∀ file name, name ∈ (readAs text file).analysis.exports ↔
      name ∈ (Scan.ofText (text file)).exports := fun file name => List.mem_eraseDups
  have first : ∀ package : Text × Text,
      (files.map fun file => (readAs text file).analysis).find?
          (fun analysis => analysis.fileName == package.2) =
        (files.find? fun file => file.path.name == package.2).map
          fun file => (readAs text file).analysis := fun package => List.find?_map ..
  rw [indexOf, Index.ofAnalyses, Index.get?_build_ne_none_iff]
  constructor
  · intro offered
    cases offered with
    | @declared analysis name listed family inExports =>
        obtain ⟨file, member, rfl⟩ := List.mem_map.1 listed
        exact ⟨file, member, _, .tag family, name, (exported file name).1 inExports, rfl⟩
    | @registered package analysis name given found inExports =>
        rw [first] at found
        obtain ⟨file, foundFile, rfl⟩ := Option.map_eq_some_iff.1 found
        exact ⟨file, List.mem_of_find?_eq_some foundFile, _, .package given foundFile, name,
          (exported file name).1 inExports, rfl⟩
  · rintro ⟨file, member, scope, inScope, name, inExports, rfl⟩
    cases inScope with
    | tag family =>
        exact .declared (List.mem_map_of_mem member) family ((exported file name).2 inExports)
    | package given foundFile =>
        refine .registered given ?_ ((exported file name).2 inExports)
        rw [first, foundFile]
        rfl

theorem nodup_keys_indexOf (text : SourceFile → Text) (files : List SourceFile) :
    (Dict.keys (indexOf text files).entries).Nodup :=
  Index.nodup_keys_build _ _ _

/-! ## The keys of placed declarations -/

/-- The keys under which the hand-written declarations that a pass places are listed by the next
one. -/
def placedKeys (text : SourceFile → Text) (files : List SourceFile) : List Text :=
  files.flatMap fun file =>
    (Scan.ofText (Tables.default.lacking file.path.name (text file))).exports.map
      (Index.keyOf (moduleTag CorpusSettings.default.families file.path.name))

theorem placedKeys_eq_decoded (text : SourceFile → Text) (files : List SourceFile) :
    placedKeys text files = files.flatMap fun file =>
      (Scan.ofText (Tables.decodedDefault.lacking file.path.name (text file))).exports.map
        (Index.keyOf (moduleTag CorpusSettings.default.families file.path.name)) := by
  rw [placedKeys, Tables.default_eq_decoded]

example :
    placedKeys (fun _ => []) [Corpus.member "caddy-http.ts".toList,
        Corpus.member "caddy-rewrite.ts".toList] =
      ["rewrite.substrReplacer".toList, "rewrite.regexReplacer".toList,
        "rewrite.queryOps".toList] := by
  rw [placedKeys_eq_decoded]
  decide +kernel

theorem placedKeys_congr {other : SourceFile → Text}
    (same : ∀ file ∈ files, text file = other file) :
    placedKeys text files = placedKeys other files := by
  rw [placedKeys, placedKeys, List.flatMap_def, List.flatMap_def]
  exact congrArg _ (List.map_congr_left fun file listed => by rw [same file listed])

/-- Only one file name has hand-written declarations. -/
theorem name_eq_of_mem_lacking {fileName source name : Text}
    (member : name ∈ (Scan.ofText (Tables.default.lacking fileName source)).exports) :
    fileName = "caddy-rewrite.ts".toList := by
  by_contra other
  have undeclared : Dict.get? fileName Tables.default.synthetic = none := by
    simp only [Tables.default, Tables.extended, Dict.get?, if_neg (Ne.symm other)]
  have nothing : Tables.default.lacking fileName source = [] := by
    rw [Tables.lacking, undeclared]
    exact ite_self _
  rw [nothing] at member
  cases member

/-- The only scope of a file with hand-written declarations is its tag, under which the registry
lists it too. -/
theorem scope_iff_of_mem_lacking {file : SourceFile} {source name scope : Text}
    (member : name ∈ (Scan.ofText (Tables.default.lacking file.path.name source)).exports) :
    Scope files file scope ↔ scope = moduleTag CorpusSettings.default.families file.path.name := by
  have name_eq := name_eq_of_mem_lacking member
  have table : ∀ package ∈ Tables.default.packages, package.2 = "caddy-rewrite.ts".toList →
      package.1 = moduleTag CorpusSettings.default.families "caddy-rewrite.ts".toList := by
    rw [Tables.default_eq_decoded]
    decide +kernel
  constructor
  · intro inScope
    cases inScope with
    | tag family => rfl
    | package given first =>
        have registered := List.find?_some first
        rw [name_eq, beq_iff_eq] at registered
        rw [name_eq]
        exact table _ given registered.symm
  · rintro rfl
    refine .tag ?_
    rw [name_eq]
    decide

theorem mem_placedKeys_iff :
    key ∈ placedKeys text files ↔ ∃ file ∈ files, ∃ scope, Scope files file scope ∧
      ∃ name ∈ (Scan.ofText (Tables.default.lacking file.path.name (text file))).exports,
        Index.keyOf scope name = key := by
  simp only [placedKeys, List.mem_flatMap, List.mem_map]
  refine exists_congr fun file => and_congr_right fun _ => ⟨?_, ?_⟩
  · rintro ⟨name, member, rfl⟩
    exact ⟨_, (scope_iff_of_mem_lacking member).2 rfl, name, member, rfl⟩
  · rintro ⟨scope, inScope, name, member, rfl⟩
    rw [(scope_iff_of_mem_lacking member).1 inScope]
    exact ⟨name, member, rfl⟩

/-! ## The index of the second pass -/

section Second

variable (corpus : Corpus tree here directory files) (tame : ∀ file ∈ files, Tame file (text file))
  (unified : ∀ file ∈ files, '\r' ∉ text file)

include corpus tame unified

/-- Without slips the second index has the keys of the first and those of placed declarations. -/
theorem get?_indexOf_textLeft_ne_none_iff (calm : ∀ file ∈ files, ¬Slips text files file) :
    (indexOf (textLeft here text files) files).get? key ≠ none ↔
      (indexOf text files).get? key ≠ none ∨ key ∈ placedKeys text files := by
  have exports : ∀ file ∈ files, ∀ name,
      name ∈ (Scan.ofText (textLeft here text files file)).exports ↔
        name ∈ (Scan.ofText (text file)).exports ∨
          name ∈ (Scan.ofText (Tables.default.lacking file.path.name (text file))).exports := by
    intro file listed name
    rw [textLeft_eq corpus tame listed (unified file listed),
      exports_linkedAs corpus tame listed (calm file listed),
      (Linked.exports_prepared_perm _ _).mem_iff, List.mem_append, or_comm]
  rw [get?_indexOf_ne_none_iff, get?_indexOf_ne_none_iff, mem_placedKeys_iff]
  constructor
  · rintro ⟨file, listed, scope, inScope, name, member, same⟩
    rcases (exports file listed name).1 member with old | placed
    · exact .inl ⟨file, listed, scope, inScope, name, old, same⟩
    · exact .inr ⟨file, listed, scope, inScope, name, placed, same⟩
  · rintro (⟨file, listed, scope, inScope, name, member, same⟩ |
      ⟨file, listed, scope, inScope, name, member, same⟩)
    · exact ⟨file, listed, scope, inScope, name, (exports file listed name).2 (.inl member), same⟩
    · exact ⟨file, listed, scope, inScope, name, (exports file listed name).2 (.inr member), same⟩

/-- Without slips the second pass has nothing for a reference that the first one had nothing for,
unless the reference asks for a key of placed declarations. -/
theorem find?_textLeft_eq_none_iff (calm : ∀ file ∈ files, ¬Slips text files file)
    {reference : Reference}
    (unknown : Target.find? Tables.default (indexOf text files) reference = none) :
    Target.find? Tables.default (indexOf (textLeft here text files) files) reference = none ↔
      ∀ key ∈ placedKeys text files, ¬reference.AsksFor key := by
  have keys : ∀ key, (indexOf (textLeft here text files) files).get? key ≠ none ↔ _ :=
    fun key => get?_indexOf_textLeft_ne_none_iff corpus tame unified calm
  obtain ⟨noExpression, noKey⟩ := (Target.find?_eq_none_iff (nodup_keys_indexOf _ _)).1 unknown
  rw [Target.find?_eq_none_iff (nodup_keys_indexOf _ _)]
  constructor
  · rintro ⟨-, nothing⟩ key placed asks
    exact (keys key).2 (.inr placed) (nothing key asks)
  · intro unasked
    refine ⟨noExpression, fun key asks => ?_⟩
    by_contra present
    rcases (keys key).1 present with old | placed
    · exact old (noKey key asks)
    · exact unasked key placed asks

/-- The linked texts of a tame corpus are settled under the index of all of them exactly when no
file slips and no reference that stays asks for a key of placed declarations. -/
theorem allSettled_textLeft_iff :
    AllSettled (textLeft here text files) files ↔
      (∀ file ∈ files, ¬Slips text files file) ∧
        ∀ file ∈ files, ∀ reference ∈ findAll Reference.recognise (text file),
          Target.find? Tables.default (indexOf text files) reference = none →
            ∀ key ∈ placedKeys text files, ¬reference.AsksFor key := by
  have settled_iff : (∀ file ∈ files, ¬Slips text files file) →
      (AllSettled (textLeft here text files) files ↔
        ∀ file ∈ files, ∀ reference ∈ findAll Reference.recognise (text file),
          Target.find? Tables.default (indexOf text files) reference = none →
            ∀ key ∈ placedKeys text files, ¬reference.AsksFor key) := by
    intro calm
    refine forall₂_congr fun file listed => ?_
    rw [textLeft_eq corpus tame listed (unified file listed),
      settled_linkedAs_iff corpus tame listed (calm file listed)]
    exact forall₂_congr fun reference _ => forall_congr' fun unknown =>
      find?_textLeft_eq_none_iff corpus tame unified calm unknown
  constructor
  · intro settled
    have calm : ∀ file ∈ files, ¬Slips text files file := fun file listed slips =>
      count_textLeft_ne_zero corpus tame listed (unified file listed) slips
        ((settled file listed).rules _ (by decide))
    exact ⟨calm, (settled_iff calm).1 settled⟩
  · rintro ⟨calm, unasked⟩
    exact (settled_iff calm).2 unasked

end Second

/-- The second pass over a tame corpus is silent, and leaves the tree as the first one left it,
exactly when no file slips and no reference that the first pass leaves unresolved asks for a key of
the hand-written declarations that it places. -/
theorem second_pass_silent_iff {tree : FileTree} {here : Location} {directory : Path}
    {files : List SourceFile} {report : PassReport} (runId again : Text)
    (found : (plain tree here).discover CorpusSettings.default directory = .ok files)
    (tame : ∀ file ∈ files, Tame file ((plain tree here).textAt file.path))
    (succeeded : (run (plain tree here) Settings.default directory runId false).result =
      .ok report) :
    let text := fun file : SourceFile => (plain tree here).textAt file.path
    let first := run (plain tree here) Settings.default directory runId false
    let second := run first.disk Settings.default directory again false
    (second.Silent ∧ second.disk.tree = first.disk.tree) ↔
      (∀ file ∈ files, ¬Slips text files file) ∧
        ∀ file ∈ files, ∀ reference ∈ findAll Reference.recognise (text file),
          Target.find? Tables.default (indexOf text files) reference = none →
            ∀ key ∈ placedKeys text files, ¬reference.AsksFor key := by
  intro text first second
  have corpus : Corpus tree here directory files := by
    obtain ⟨others, corpus⟩ := corpus_of_run succeeded
    have same := corpus.found.symm.trans found
    cases same
    exact corpus
  have unified : ∀ file ∈ files, '\r' ∉ text file := fun file => corpus.return_not_mem
  have again_iff : second.Silent ↔ _ :=
    (silent_again_iff corpus runId again).trans (allSettled_textLeft_iff corpus tame unified)
  constructor
  · exact fun quiet => again_iff.1 quiet.1
  · intro condition
    have silent : second.Silent := again_iff.2 condition
    exact ⟨silent, congrArg Disk.tree (disk_again_of_silent corpus silent)⟩

/-- A file with a platform type and an unknown one, beside the one with hand-written declarations:
the first pass resolves the one type and places the declarations, and the second is silent. -/
theorem second_pass_silent_of_two_files :
    let tree := Corpus.pair "caddy-http.ts".toList "caddy-rewrite.ts".toList
      "t: any /* time.Time */;\nu: any /* x.Y */;\n".toList []
    let first := run (plain tree []) Settings.default Corpus.generated [] false
    let second := run first.disk Settings.default Corpus.generated [] false
    (∃ report, first.result = .ok report) ∧
      first.disk.textAt (Corpus.member "caddy-http.ts".toList).path =
        "t: string;\nu: any /* x.Y */;\n".toList ∧
      first.disk.textAt (Corpus.member "caddy-rewrite.ts".toList).path =
        Tables.missingDeclarations ∧
      second.Silent ∧ second.disk.tree = first.disk.tree := by
  intro tree first second
  have corpus : Corpus tree [] Corpus.generated _ :=
    (Corpus.of_pair _ _ (by decide) (by decide) (by decide) (by decide)).1
  obtain ⟨-, size, succeeded⟩ := run_plain corpus []
  have texts := textAt_pair "caddy-http.ts".toList "caddy-rewrite.ts".toList
    "t: any /* time.Time */;\nu: any /* x.Y */;\n".toList [] (by decide) (by decide) (by decide)
    (by decide) (by decide)
  have tame : ∀ file ∈ [Corpus.member "caddy-http.ts".toList,
      Corpus.member "caddy-rewrite.ts".toList], Tame file (pairText "caddy-http.ts".toList
        "t: any /* time.Time */;\nu: any /* x.Y */;\n".toList [] file) := by
    decide +kernel
  have left : ∀ file ∈ [Corpus.member "caddy-http.ts".toList,
      Corpus.member "caddy-rewrite.ts".toList], first.disk.textAt file.path = _ :=
    fun file listed => (textAt_run corpus [] listed).trans (textLeft_congr texts file listed)
  refine ⟨⟨_, succeeded⟩, ?_, ?_, (second_pass_silent_iff [] [] corpus.found
    (fun file listed => ?_) succeeded).2 ⟨fun file listed => ?_, fun file listed => ?_⟩⟩
  · rw [left _ List.mem_cons_self, textLeft, linkedAs_eq_decoded]
    decide +kernel
  · rw [left _ (.tail _ List.mem_cons_self), textLeft, linkedAs_eq_decoded,
      Tables.decodedDeclarations.property]
    decide +kernel
  · rw [texts file listed]
    exact tame file listed
  · rw [slips_congr texts listed]
    refine not_slips_of_endings ?_
    rw [indexOf_eq_decoded]
    revert file listed
    decide +kernel
  · beta_reduce
    rw [texts file listed, indexOf_congr texts, placedKeys_congr texts, indexOf_eq_decoded,
      placedKeys_eq_decoded, Tables.default_eq_decoded]
    revert file listed
    decide +kernel

/-- A type that a hand-written declaration introduces in another file: the first pass places the
declaration, and only the second one finds the type. -/
theorem second_pass_not_silent :
    let tree := Corpus.pair "caddy-http.ts".toList "caddy-rewrite.ts".toList
      "q: any /* rewrite.queryOps */;\n".toList []
    let first := run (plain tree []) Settings.default Corpus.generated [] false
    (∃ report, first.result = .ok report) ∧
      ¬(run first.disk Settings.default Corpus.generated [] false).Silent := by
  intro tree first
  have corpus : Corpus tree [] Corpus.generated _ :=
    (Corpus.of_pair _ _ (by decide) (by decide) (by decide) (by decide)).1
  obtain ⟨-, size, succeeded⟩ := run_plain corpus []
  refine ⟨⟨_, succeeded⟩, fun silent => ?_⟩
  have texts := textAt_pair "caddy-http.ts".toList "caddy-rewrite.ts".toList
    "q: any /* rewrite.queryOps */;\n".toList [] (by decide) (by decide) (by decide) (by decide)
    (by decide)
  have settled := (allSettled_congr (textLeft_congr texts)).1
    ((silent_again_iff corpus [] []).1 silent)
  -- The reference stays, and it asks for a key of the declarations.
  have unasked := ((allSettled_textLeft_iff corpus (by decide +kernel) (by decide +kernel)).1
    settled).2 _ List.mem_cons_self ⟨"rewrite".toList, "queryOps".toList⟩
  refine unasked (by decide +kernel) ?_ "rewrite.queryOps".toList ?_ (by decide +kernel)
  · rw [indexOf_eq_decoded, Tables.default_eq_decoded]
    decide +kernel
  · rw [placedKeys_eq_decoded]
    decide +kernel

end Pass

end DeclLinker
