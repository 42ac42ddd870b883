import DeclLinker.Proofs.Import.Schedule
import DeclLinker.Proofs.Pass.Declarations
import DeclLinker.Text.Digit

/-!
# Local names that are identifiers

An identifier consists of word characters and starts with no decimal digit.  An exported name that
is an identifier is imported under its own name, or under an alias, which starts with a segment of
the producer's file name.  The alias is an identifier exactly when that segment starts with no digit
and the upper case of its first character consists of word characters: a digit has no upper case,
and the upper case of some letters is spelled with a mark.
-/

namespace DeclLinker

namespace Text

/-- Whether a character is a decimal digit of some script. -/
def isDecimal (char : Char) : Bool :=
  (digitValue? char).isSome

/-- Whether a text is an identifier. -/
def isIdentifier : Text → Bool
  | [] => false
  | first :: rest => !isDecimal first && (first :: rest).all isWord

/-- Word characters at its end do not matter for whether a text is an identifier. -/
theorem isIdentifier_append {text more : Text} (text_ne : text ≠ [])
    (word : ∀ char ∈ more, isWord char = true) :
    isIdentifier (text ++ more) = isIdentifier text := by
  obtain ⟨first, rest, rfl⟩ := List.exists_cons_of_ne_nil text_ne
  have wordMore : more.all isWord = true := List.all_eq_true.mpr word
  simp [isIdentifier, List.all_append, wordMore]

/-! ## Digits have no case -/

/-- The code points of decimal digits. -/
def decimalRanges : List Range :=
  digitZeros.map fun first => (first, first + 9)

theorem isDecimal_eq_inRanges (char : Char) :
    isDecimal char = inRanges decimalRanges char.toNat := by
  simp only [isDecimal, digitValue?, Option.isSome_map, List.isSome_find?, inRanges, decimalRanges,
    List.any_map, Function.comp_def]

/-- The run that moves a code point, and where to. -/
theorem exists_run_of_shift? {point target : Nat} {runs : List Shift}
    (found : shift? point runs = some target) :
    ∃ run ∈ runs, run.1 ≤ point ∧ point ≤ run.2.1 ∧ target = run.2.2.2 + (point - run.1) := by
  induction runs with
  | nil => cases found
  | cons run runs ih =>
      obtain ⟨first, last, step, start⟩ := run
      rw [shift?] at found
      split at found
      · rename_i inside
        cases found
        exact ⟨_, List.mem_cons_self, inside.1, inside.2.1, rfl⟩
      · obtain ⟨run, member, bounds⟩ := ih found
        exact ⟨run, .tail _ member, bounds⟩

theorem isDecimal_ofNat {point : Nat} (outside : inRanges decimalRanges point = false) :
    isDecimal (Char.ofNat point) = false := by
  by_cases valid : point.isValidChar
  · rw [isDecimal_eq_inRanges, toNat_ofNat_of_valid valid, outside]
  · rw [Char.ofNat, dif_neg valid]
    decide

/-- The runs that move small letters hold no digit, neither where they start nor where they end. -/
theorem isDecimal_of_shift? {char : Char} {target : Nat}
    (moved : shift? char.toNat upperShifts = some target) :
    isDecimal char = false ∧ isDecimal (Char.ofNat target) = false := by
  have tables : ∀ run ∈ upperShifts, disjoint [(run.1, run.2.1)] decimalRanges = true ∧
      disjoint [(run.2.2.2, run.2.2.2 + (run.2.1 - run.1))] decimalRanges = true := by
    decide +kernel
  obtain ⟨run, member, low, high, rfl⟩ := exists_run_of_shift? moved
  obtain ⟨sources, targets⟩ := tables run member
  constructor
  · rw [isDecimal_eq_inRanges]
    exact inRanges_eq_false_of_disjoint sources (by simp [inRanges, low, high])
  · apply isDecimal_ofNat
    exact inRanges_eq_false_of_disjoint targets (by simp [inRanges]; omega)

/-- The upper case of a character starts with a digit exactly when the character is one. -/
theorem isDecimal_upperChar {char upper : Char} {more : Text}
    (upper_eq : upperChar char = upper :: more) : isDecimal upper = isDecimal char := by
  rw [upperChar, mapCase] at upper_eq
  split at upper_eq
  · rename_i points found
    have tables : ∀ pair ∈ upperSpellings, inRanges decimalRanges pair.1 = false ∧
        ∀ point ∈ pair.2, inRanges decimalRanges point = false := by
      decide +kernel
    obtain ⟨earlier, later, spellings_eq, -⟩ := List.lookup_eq_some_iff.mp found
    obtain ⟨source, targets⟩ := tables (char.toNat, points) (by simp [spellings_eq])
    obtain ⟨point, rest, rfl, rfl, -⟩ := List.map_eq_cons_iff.mp upper_eq
    rw [isDecimal_eq_inRanges char, source, isDecimal_ofNat (targets point List.mem_cons_self)]
  · split at upper_eq
    · rename_i target moved
      obtain ⟨source, targetOutside⟩ := isDecimal_of_shift? moved
      rw [← (List.cons.inj upper_eq).1, source, targetOutside]
    · rw [(List.cons.inj upper_eq).1]

end Text

namespace Alias

open Text

/-- Whether aliases for the names of a module can be identifiers: the last segment of its tag is
empty, or it starts with no digit and with a character whose upper case is a word. -/
def isLegal (tag : Text) : Bool :=
  match tag.lastSegment '-' with
  | [] => true
  | first :: _ => !isDecimal first && (upperChar first).all isWord

/-- The upper case of a character is an identifier when it is a word and the character no digit. -/
theorem isIdentifier_upperChar (char : Char) :
    isIdentifier (upperChar char) = (!isDecimal char && (upperChar char).all isWord) := by
  obtain ⟨upper, more, upper_eq⟩ := List.exists_cons_of_ne_nil (upperChar_ne_nil char)
  rw [upper_eq, isIdentifier, isDecimal_upperChar upper_eq]

variable {entry : Entry}

theorem isIdentifier_base (named : entry.Named)
    (identifier : isIdentifier entry.exportName = true) :
    isIdentifier (base entry.tag entry.exportName) = isLegal entry.tag := by
  have segment := segment_word named
  unfold base lead isLegal
  cases segment_eq : entry.tag.lastSegment '-' with
  | nil => exact identifier
  | cons first rest =>
      rw [segment_eq] at segment
      have word : ∀ char ∈ rest ++ entry.exportName, isWord char = true := by
        intro char member
        rcases List.mem_append.mp member with inRest | inName
        · exact segment char (.tail first inRest)
        · exact named.exportName_word char inName
      rw [capitalize, List.append_assoc, isIdentifier_append (upperChar_ne_nil first) word,
        isIdentifier_upperChar]

/-- An alias is an identifier exactly when the tag of the producer allows it, whatever number it
takes. -/
theorem isIdentifier_mint (named : entry.Named)
    (identifier : isIdentifier entry.exportName = true) (reserved : List Text) :
    isIdentifier (mint (base entry.tag entry.exportName) reserved) = isLegal entry.tag := by
  rw [← isIdentifier_base named identifier]
  rcases mint_cases (base entry.tag entry.exportName) reserved with same | ⟨number, numbered⟩
  · rw [same]
  · have base_ne : base entry.tag entry.exportName ≠ [] := by
      simp [base, named.exportName_ne]
    rw [numbered, isIdentifier_append base_ne ofNat_word]

end Alias

namespace Plan

/-- What a plan binds it lists. -/
theorem Binds.mem_schedule {plan : Plan} {entry : Entry} {spec : ImportSpec}
    (binds : plan.Binds entry spec) :
    ∃ specs, (entry.path, specs) ∈ plan.schedule ∧ (entry.exportName, spec) ∈ specs := by
  unfold Binds specsOf at binds
  cases found : Dict.get? entry.path plan.schedule with
  | none =>
      rw [found] at binds
      cases binds
  | some specs =>
      rw [found] at binds
      exact ⟨specs, Dict.mem_of_get? found, Dict.mem_of_get? binds⟩

/-- A new spec binds the exported name itself, or an alias that differs from it.  So it binds an
identifier exactly when it needs no alias or the tag of the producer allows one. -/
theorem isIdentifier_newSpec (plan : Plan) {entry : Entry} (named : entry.Named)
    (identifier : Text.isIdentifier entry.exportName = true) :
    Text.isIdentifier (plan.newSpec entry).localName = true ↔
      (plan.newSpec entry).localName = entry.exportName ∨ Alias.isLegal entry.tag = true := by
  have fresh := plan.localName_newSpec_not_mem entry
  unfold newSpec at fresh ⊢
  split
  · rename_i reserved
    rw [if_pos reserved] at fresh
    simp only [ImportSpec.localName, Option.getD_some] at fresh ⊢
    rw [Alias.isIdentifier_mint named identifier]
    constructor
    · exact .inr
    · rintro (same | legal)
      · rw [same] at fresh
        exact absurd (List.contains_iff_mem.mp reserved) fresh
      · exact legal
  · simp [ImportSpec.localName, identifier]

end Plan

theorem nodup_eraseDups {α : Type} [BEq α] [LawfulBEq α] (items : List α) :
    items.eraseDups.Nodup := by
  induction items using List.reverseRecOn with
  | nil => simp
  | append_singleton items item ih =>
      classical
      rw [eraseDups_concat]
      split
      · exact ih
      · rename_i absent
        apply List.nodup_append.mpr
        refine ⟨ih, by simp, ?_⟩
        rintro first inside second single rfl
        exact absent (List.mem_singleton.mp single ▸ inside)

namespace Resolution

variable {tables : Tables} {index : Index} {analysis : Analysis}

theorem serves_ofAnalysis (tables : Tables) (index : Index) (analysis : Analysis) :
    (ofAnalysis tables index analysis).plan.Serves
      (analysis.exports ++ syntheticExports tables analysis.fileName)
      (crossings tables index analysis) := by
  rw [ofAnalysis_plan_eq]
  exact (Plan.serves_start _).foldl_need _

/-- A step imports a declaration under the name that the plan binds it to. -/
theorem decision_eq_crossFile_iff {step : Step}
    (member : step ∈ (ofAnalysis tables index analysis).steps) {entry : Entry} {name : Text} :
    step.decision = .crossFile entry name ↔
      crossing? tables index analysis.path step.reference = some entry ∧
        ∃ spec, (ofAnalysis tables index analysis).plan.Binds entry spec ∧
          spec.localName = name := by
  have decided : step.decision = (settle tables index analysis.path
      (ofAnalysis tables index analysis).plan step.reference).1 := decision_eq_settle member
  rw [decided, settle_eq_crossFile_iff]
  apply and_congr_right
  intro met
  have listed : entry ∈ crossings tables index analysis :=
    List.mem_filterMap.mpr ⟨step.placeholder, placeholder_mem member, met⟩
  obtain ⟨spec, binds⟩ := ((serves_ofAnalysis tables index analysis).exists_binds_iff entry).mpr
    (List.mem_map_of_mem (f := Entry.pair) listed)
  rw [binds.localName_eq]
  constructor
  · exact fun same => ⟨spec, binds, same⟩
  · rintro ⟨other, otherBinds, same⟩
    rwa [binds.unique otherBinds]

/-- What a plan lists it binds. -/
theorem binds_of_mem_schedule {producer : Path} {specs : Dict Text ImportSpec} {key : Text}
    {spec : ImportSpec}
    (listed : (producer, specs) ∈ (ofAnalysis tables index analysis).plan.schedule)
    (inside : (key, spec) ∈ specs) (tag : Text) :
    (ofAnalysis tables index analysis).plan.Binds ⟨producer, key, tag⟩ spec := by
  have serves := serves_ofAnalysis tables index analysis
  have producersOnce : (Dict.keys (ofAnalysis tables index analysis).plan.schedule).Nodup := by
    rw [serves.producers]
    exact nodup_eraseDups _
  have specs_eq : (ofAnalysis tables index analysis).plan.specsOf producer = specs := by
    rw [Plan.specsOf, (Dict.get?_eq_some_iff_mem producersOnce).mpr listed, Option.getD_some]
  have namesOnce : (Dict.keys specs).Nodup := by
    rw [← specs_eq, serves.names]
    exact nodup_eraseDups _
  unfold Plan.Binds
  rw [specs_eq]
  exact (Dict.get?_eq_some_iff_mem namesOnce).mpr inside

/-- The names that a plan binds are those that steps put into the text for declarations of other
files. -/
theorem mem_planned_iff {name : Text} :
    name ∈ (ofAnalysis tables index analysis).plan.planned ↔
      ∃ step ∈ (ofAnalysis tables index analysis).steps, ∃ entry,
        step.decision = .crossFile entry name := by
  have serves := serves_ofAnalysis tables index analysis
  constructor
  · intro planned
    obtain ⟨⟨producer, specs⟩, listed, inSpecs⟩ := List.mem_flatMap.mp planned
    obtain ⟨⟨key, spec⟩, inside, rfl⟩ := List.mem_map.mp inSpecs
    -- Which file declares the name does not depend on the tag, so any tag will do.
    have binds := binds_of_mem_schedule listed inside []
    obtain ⟨hit, met, same⟩ := List.mem_map.mp ((serves.exists_binds_iff _).mp ⟨spec, binds⟩)
    obtain ⟨placeholder, referred, crossing⟩ := List.mem_filterMap.mp met
    rw [← ofAnalysis_map_placeholder tables index analysis] at referred
    obtain ⟨step, member, rfl⟩ := List.mem_map.mp referred
    exact ⟨step, member, hit, (decision_eq_crossFile_iff member).mpr
      ⟨crossing, spec, (Plan.binds_iff_of_pair_eq same).mpr binds, rfl⟩⟩
  · rintro ⟨step, member, entry, imported⟩
    obtain ⟨-, spec, binds, rfl⟩ := (decision_eq_crossFile_iff member).mp imported
    obtain ⟨specs, listed, inside⟩ := binds.mem_schedule
    exact List.mem_flatMap.mpr ⟨_, listed, List.mem_map.mpr ⟨_, inside, rfl⟩⟩

end Resolution

namespace Pass

open Text Disk

variable {here : Location} {files : List SourceFile} {text : SourceFile → Text}

/-- The files of a corpus have ordinary names, and every name they export is an identifier. -/
structure Ordinary (text : SourceFile → Text) (files : List SourceFile) : Prop where
  name_chars : ∀ file ∈ files, ∀ char ∈ file.path.name,
    isWord char = true ∨ char = '-' ∨ char = '.'
  identifiers : ∀ file ∈ files, ∀ name ∈ (Scan.ofText (text file)).exports,
    isIdentifier name = true

/-- The entries of an ordinary corpus are named, and what they declare are identifiers. -/
theorem Ordinary.entry (ordinary : Ordinary text files) {key : Text} {entry : Entry}
    (member : (key, entry) ∈ (indexOf text files).entries) :
    ∃ producer ∈ files, entry.path = producer.path ∧
      entry.tag = moduleTag Tables.default.families producer.path.name ∧
      entry.Named ∧ isIdentifier entry.exportName = true := by
  obtain ⟨producer, listed, path_eq, tag_eq, exported⟩ := exists_file_of_entry member
  have declared : entry.exportName ∈ (Scan.ofText (text producer)).exports := by
    simpa using exported
  obtain ⟨name_ne, word⟩ := Scan.word_of_mem_exports declared
  have fileChars : ∀ char ∈ producer.path.name, Path.isFileChar char = true := by
    intro char inside
    simpa [Path.isFileChar, or_assoc] using ordinary.name_chars producer listed char inside
  refine ⟨producer, listed, path_eq, tag_eq, ⟨name_ne, word, ?_⟩,
    ordinary.identifiers producer listed _ declared⟩
  rw [tag_eq]
  exact moduleTag_chars _ fileChars

/-- The local names of a file in an ordinary corpus: the import statements bind exactly those that
are put in the place of references to other files.  Such a name is an identifier exactly when it is
the exported name itself, or the file name of its producer allows an alias to be one. -/
theorem local_name_identifier_iff (ordinary : Ordinary text files) (file : SourceFile) :
    let resolution := Resolution.ofAnalysis Tables.default (indexOf text files)
      (readAs text file).analysis
    (∀ name, name ∈ (statementsOf here text files file).flatMap Import.bound ↔
        ∃ step ∈ resolution.steps, ∃ entry, step.decision = .crossFile entry name) ∧
      ∀ step ∈ resolution.steps, ∀ entry name, step.decision = .crossFile entry name →
        ∃ producer ∈ files, producer.path = entry.path ∧
          (isIdentifier name = true ↔ name = entry.exportName ∨
            Alias.isLegal (moduleTag Tables.default.families producer.path.name) = true) := by
  intro resolution
  have drawn := Resolution.drawnFrom_ofAnalysis Tables.default (indexOf text files)
    (readAs text file).analysis
  have named : ∀ key entry, (key, entry) ∈ (indexOf text files).entries → entry.Named := by
    intro key entry member
    obtain ⟨-, -, -, -, named, -⟩ := ordinary.entry member
    exact named
  constructor
  · intro name
    have bound := drawn.bound_statements named here file.path CorpusSettings.default.suffix
    rw [statementsOf, bound.mem_iff]
    exact Resolution.mem_planned_iff
  · intro step member entry name imported
    obtain ⟨-, spec, binds, rfl⟩ := (Resolution.decision_eq_crossFile_iff member).mp imported
    have exported := (Resolution.serves_ofAnalysis ..).exported entry spec binds
    obtain ⟨specs, listed, inside⟩ := binds.mem_schedule
    obtain ⟨key, origin, earlier, held, path_eq, rfl⟩ := (drawn _ specs listed).2 _ spec inside
    obtain ⟨producer, producerListed, origin_eq, tag_eq, originNamed, identifier⟩ :=
      ordinary.entry held
    rw [Plan.exportName_newSpec] at exported
    refine ⟨producer, producerListed, origin_eq.symm.trans path_eq, ?_⟩
    rw [← tag_eq, ← exported]
    exact earlier.isIdentifier_newSpec originNamed identifier

instance (text : SourceFile → Text) (files : List SourceFile) : Decidable (Ordinary text files) :=
  decidable_of_iff
    ((∀ file ∈ files, ∀ char ∈ file.path.name, isWord char = true ∨ char = '-' ∨ char = '.') ∧
      ∀ file ∈ files, ∀ name ∈ (Scan.ofText (text file)).exports, isIdentifier name = true)
    ⟨fun both => ⟨both.1, both.2⟩, fun ordinary => ⟨ordinary.1, ordinary.2⟩⟩

/-- A name that the importing file exports itself: its alias is an identifier, because the file name
of the producer allows it. -/
theorem local_name_identifier_of_two_files :
    let files := [Corpus.member "caddy-acl.ts".toList, Corpus.member "caddy-http.ts".toList]
    let text := pairText "caddy-acl.ts".toList "export type Code = string;\n".toList
      "export type Code = number;\nc: any /* acl.Code */;\n".toList
    let names := (statementsOf [] text files
      (Corpus.member "caddy-http.ts".toList)).flatMap Import.bound
    "AclCode".toList ∈ names ∧ ∀ name ∈ names, isIdentifier name = true := by
  intro files text names
  have ordinary : Ordinary text files := by decide +kernel
  have legal : ∀ file ∈ files,
      Alias.isLegal (moduleTag Tables.default.families file.path.name) = true := by decide +kernel
  obtain ⟨bound_iff, identifier_iff⟩ :=
    local_name_identifier_iff ordinary (Corpus.member "caddy-http.ts".toList)
  refine ⟨?_, fun name bound => ?_⟩
  · simp only [names, statementsOf, indexOf_eq_decoded, Tables.default_eq_decoded]
    decide +kernel
  · obtain ⟨step, member, entry, imported⟩ := (bound_iff name).mp bound
    obtain ⟨producer, listed, -, iff⟩ := identifier_iff step member entry name imported
    exact iff.mpr (.inr (legal producer listed))

/-- A file name with a digit behind its family: the alias starts with the digit. -/
theorem local_name_is_no_identifier :
    let first := "caddy-2fa.ts".toList
    let second := "caddy-http.ts".toList
    let tree := Corpus.pair first second "export type Code = string;\n".toList
      "export type Code = number;\nc: any /* 2fa.Code */;\n".toList
    let outcome := run (plain tree []) Settings.default Corpus.generated [] false
    Ordinary (fun file => (plain tree []).textAt file.path)
        [Corpus.member first, Corpus.member second] ∧
      (∃ report, outcome.result = .ok report) ∧
      outcome.disk.textAt (Corpus.member second).path =
        ("\nimport type \x7b Code as 2faCode \x7d from \x22./caddy-2fa\x22;\n".toList ++
          "export type Code = number;\nc: 2faCode;\n".toList) ∧
      isIdentifier "2faCode".toList = false := by
  intro first second tree outcome
  have corpus : Corpus tree [] Corpus.generated _ :=
    (Corpus.of_pair _ _ (by decide) (by decide) (by decide) (by decide)).1
  obtain ⟨-, size, succeeded⟩ := run_plain corpus []
  have texts := textAt_pair first second "export type Code = string;\n".toList
    "export type Code = number;\nc: any /* 2fa.Code */;\n".toList (by decide) (by decide)
    (by decide) (by decide) (by decide)
  refine ⟨⟨by decide +kernel, ?_⟩, ⟨_, succeeded⟩, ?_, by decide +kernel⟩
  · intro file listed
    rw [texts file listed]
    revert file
    decide +kernel
  · have listed : Corpus.member second ∈ [Corpus.member first, Corpus.member second] := by simp
    rw [textAt_run corpus [] listed, textLeft_congr texts _ listed, textLeft, linkedAs_eq_decoded]
    decide +kernel

end Pass

end DeclLinker
