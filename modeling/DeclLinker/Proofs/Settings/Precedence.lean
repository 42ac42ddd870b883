import DeclLinker.Proofs.Dict
import DeclLinker.Proofs.Settings.Recheck
import DeclLinker.Proofs.Value.Merge

/-!
# The source that a setting comes from

Settings are loaded from overrides, the environment, the project and the home directory.  A field
has the checked value of the first of these sources that gives it one, and its default when none
does; a list is taken whole.  An entry of a dictionary has the checked text of the first source that
has its key, as long as all sources spell the key in one way: bytes and a text are different keys
until the dictionary is checked, and then one of the two entries is lost, whatever source it came
from.
-/

namespace DeclLinker

open Checked Check

namespace Check

variable {α : Type}

/-- A check that no mapping passes, and for which a name for containing itself does not matter. -/
def Flat (check : Value → Checked α) : Prop :=
  ∀ ⦃data value⦄, check data = .ok value → data.fields? = none ∧ check data.bare = .ok value

/-- A check that only scalars pass is flat. -/
theorem flat_of_scalar {check : Value → Checked α}
    (scalar : ∀ data value, check data = .ok value → ∃ leaf, data = .scalar leaf) : Flat check := by
  intro data value passed
  obtain ⟨leaf, rfl⟩ := scalar data value passed
  exact ⟨rfl, passed⟩

theorem exists_scalar_of_text {data : Value} {value : Text} (passed : text data = .ok value) :
    ∃ leaf, data = .scalar leaf ∧ leaf.isTextual = true := by
  unfold text at passed
  split at passed
  · exact ⟨_, rfl, rfl⟩
  · exact ⟨_, rfl, rfl⟩
  · exact ⟨_, rfl, rfl⟩
  · cases passed

theorem flat_text : Flat text :=
  flat_of_scalar fun _ _ passed =>
    (exists_scalar_of_text passed).imp fun _ => And.left

theorem flat_textWhere (holds : Text → Bool) (reason : Text → Text) :
    Flat (textWhere holds reason) := by
  apply flat_of_scalar
  intro data value passed
  obtain ⟨given, isText, -⟩ := andThen_eq_ok_iff.mp passed
  exact (exists_scalar_of_text isText).imp fun _ => And.left

theorem flat_choice (name : α → Text) (choices : List α) : Flat (choice name choices) := by
  apply flat_of_scalar
  intro data value passed
  unfold choice at passed
  split at passed
  · exact ⟨_, rfl⟩
  · exact ⟨_, rfl⟩
  · cases passed

theorem flat_limit : Flat ResolveSettings.checkLimit := by
  apply flat_of_scalar
  intro data value passed
  obtain ⟨number, isInt, -⟩ := andThen_eq_ok_iff.mp passed
  unfold int at isInt
  split at isInt
  all_goals first | exact ⟨_, rfl⟩ | cases isInt

theorem flat_list (check : Value → Checked α) : Flat (list check) := by
  intro data values passed
  unfold list at passed ⊢
  cases found : data.items? with
  | none =>
      rw [found] at passed
      cases passed
  | some items =>
      rw [found] at passed
      rw [Value.items?_bare, found]
      exact ⟨Value.fields?_of_items? found, passed⟩

end Check

namespace Fields

/-! ## Four sources -/

/-- Values of four sources, each put over those before it, the way the sources are merged. -/
def overAll (home project environment overrides : Option Value) : Option Value :=
  overlay? (overlay? home project) (overlay? environment overrides)

theorem overlay?_eq_none_iff {base top : Option Value} :
    overlay? base top = none ↔ base = none ∧ top = none := by
  cases top <;> simp [overlay?]

variable {home project environment overrides : Option Value}

theorem overAll_eq_none_iff :
    overAll home project environment overrides = none ↔
      overrides.or (environment.or (project.or home)) = none := by
  simp only [overAll, overlay?_eq_none_iff, Option.or_eq_none_iff]
  constructor
  · rintro ⟨⟨noHome, noProject⟩, noEnvironment, noOverrides⟩
    exact ⟨noOverrides, noEnvironment, noProject, noHome⟩
  · rintro ⟨noOverrides, noEnvironment, noProject, noHome⟩
    exact ⟨⟨noHome, noProject⟩, noEnvironment, noOverrides⟩

/-- What is no mapping comes from the first source that has it. -/
theorem bare_overAll {value : Value}
    (merged : overAll home project environment overrides = some value)
    (noDict : value.fields? = none) :
    some value.bare = (overrides.or (environment.or (project.or home))).map Value.bare := by
  have first := bare_overlay? merged noDict
  -- Environment and overrides are joined before they are put over the two files.
  cases later : overlay? environment overrides with
  | none =>
      obtain ⟨rfl, rfl⟩ := overlay?_eq_none_iff.mp later
      have early : overlay? home project = some value := merged
      simpa only [Option.none_or] using bare_overlay? early noDict
  | some top =>
      rw [later, Option.some_or] at first
      have topDict : top.fields? = none := by
        have same := Option.some.inj first
        rw [← Value.fields?_bare, ← same, Value.fields?_bare, noDict]
      rw [first, Option.map_some, bare_overlay? later topDict]
      cases overrides with
      | some value => rfl
      | none =>
          cases environment with
          | some value => rfl
          | none => cases later

section Mappings

variable (homeMapping : ∀ value, home = some value → value.IsMapping)
  (projectMapping : ∀ value, project = some value → value.IsMapping)
  (environmentMapping : ∀ value, environment = some value → value.IsMapping)
  (overridesMapping : ∀ value, overrides = some value → value.IsMapping)

include projectMapping environmentMapping overridesMapping

variable (home) in
theorem valueAt?_overAll {key : Scalar} (textual : key.isTextual = true) :
    (overAll home project environment overrides).bind (Value.valueAt? key) =
      overAll (home.bind (Value.valueAt? key)) (project.bind (Value.valueAt? key))
        (environment.bind (Value.valueAt? key)) (overrides.bind (Value.valueAt? key)) := by
  have laterMapping := isMapping_overlay? environmentMapping overridesMapping
  rw [overAll, valueAt?_overlay? laterMapping _ textual, valueAt?_overlay? projectMapping _ textual,
    valueAt?_overlay? overridesMapping _ textual, overAll]

theorem mem_keys_overAll {value : Value} {key : Scalar}
    (merged : overAll home project environment overrides = some value) (member : key ∈ value.keys) :
    ∃ given ∈ [overrides, environment, project, home], ∃ held, given = some held ∧
      key ∈ held.keys := by
  have laterMapping := isMapping_overlay? environmentMapping overridesMapping
  rcases mem_keys_overlay? laterMapping merged member with
    ⟨held, earlier, inside⟩ | ⟨held, later, inside⟩
  · rcases mem_keys_overlay? projectMapping earlier inside with found | found
    · exact ⟨home, by simp, found⟩
    · exact ⟨project, by simp, found⟩
  · rcases mem_keys_overlay? overridesMapping later inside with found | found
    · exact ⟨environment, by simp, found⟩
    · exact ⟨overrides, by simp, found⟩

include homeMapping

theorem isMapping_overAll :
    ∀ value, overAll home project environment overrides = some value → value.IsMapping :=
  isMapping_overlay? (isMapping_overlay? homeMapping projectMapping)
    (isMapping_overlay? environmentMapping overridesMapping)

end Mappings

end Fields

namespace Check

/-- The pairs of a checked dictionary are the fields of the mapping it was read from. -/
theorem pairs_of_entries {fields : Fields} {pairs : List (Text × Text)}
    (passed : entries fields = .ok pairs) :
    let reads (field : Scalar × Value) (pair : Text × Text) : Prop :=
      text (.scalar field.1) = .ok pair.1 ∧ text field.2 = .ok pair.2
    (∀ pair ∈ pairs, ∃ field ∈ fields, reads field pair) ∧
      ∀ field ∈ fields, ∃ pair ∈ pairs, reads field pair := by
  intro reads
  induction fields generalizing pairs with
  | nil =>
      cases passed
      exact ⟨nofun, nofun⟩
  | cons field fields ih =>
      obtain ⟨name, value⟩ := field
      simp only [entries, key, apply_eq_ok_iff, make_eq_ok_iff, inside_eq_ok_iff] at passed
      obtain ⟨_, rest, ⟨_, first, rfl, ⟨_, valueText, ⟨_, nameText, rfl, nameOk, rfl⟩,
        valueOk, rfl⟩, rfl⟩, restOk, rfl⟩ := passed
      obtain ⟨fromPairs, fromFields⟩ := ih restOk
      constructor
      · rw [List.forall_mem_cons]
        refine ⟨⟨_, List.mem_cons_self, nameOk, valueOk⟩, fun pair member => ?_⟩
        obtain ⟨field, listed, read⟩ := fromPairs pair member
        exact ⟨field, .tail _ listed, read⟩
      · rw [List.forall_mem_cons]
        refine ⟨⟨_, List.mem_cons_self, nameOk, valueOk⟩, fun field member => ?_⟩
        obtain ⟨pair, listed, read⟩ := fromFields field member
        exact ⟨pair, .tail _ listed, read⟩

theorem textDict_eq_ok_iff {data : Value} {dict : Dict Text Text} :
    textDict data = .ok dict ↔
      ∃ fields pairs, data.fields? = some fields ∧ entries fields = .ok pairs ∧
        Dict.ofPairs pairs = dict := by
  unfold textDict
  cases data.fields? with
  | none => simp [fail]
  | some fields => simp [map_eq_ok_iff]

theorem isTextual_of_text {key : Scalar} {name : Text} (spelled : text (.scalar key) = .ok name) :
    key.isTextual = true := by
  obtain ⟨leaf, same, textual⟩ := exists_scalar_of_text spelled
  cases same
  exact textual

/-- A text has in a checked dictionary the checked value of its key, if it has one key only. -/
theorem get?_textDict {data : Value} {dict : Dict Text Text} {key : Scalar} {name : Text}
    (isMapping : data.IsMapping) (passed : textDict data = .ok dict)
    (spelled : text (.scalar key) = .ok name)
    (single : ∀ other ∈ data.keys, text (.scalar other) = .ok name → other = key) :
    (Dict.get? name dict).map Except.ok = (data.valueAt? key).map text := by
  obtain ⟨fields, found, distinct⟩ := isMapping
  obtain ⟨_, pairs, same, entered, rfl⟩ := textDict_eq_ok_iff.mp passed
  cases found.symm.trans same
  have only : ∀ field ∈ fields, text (.scalar field.1) = .ok name → field.1 = key := by
    intro field member
    apply single
    rw [Value.keys, found]
    exact List.mem_map_of_mem (f := Prod.fst) member
  obtain ⟨fromPairs, fromFields⟩ := pairs_of_entries entered
  rw [Value.valueAt?, found, Option.bind_some,
    Fields.get?_eq_dict_get? (isTextual_of_text spelled)]
  cases held : Dict.get? key fields with
  | none =>
      have absent : name ∉ Dict.keys pairs := by
        intro member
        obtain ⟨⟨_, value⟩, listed, rfl⟩ := List.mem_map.mp member
        obtain ⟨field, inside, nameOk, -⟩ := fromPairs _ listed
        apply Dict.get?_eq_none_iff.mp held
        rw [← only field inside nameOk]
        exact List.mem_map_of_mem (f := Prod.fst) inside
      rw [Dict.get?_ofPairs_eq_none absent]
      rfl
  | some value =>
      obtain ⟨⟨own, content⟩, listed, nameOk, valueOk⟩ := fromFields _ (Dict.mem_of_get? held)
      obtain rfl : name = own := Except.ok.inj (spelled.symm.trans nameOk)
      -- All keys passed as texts, and a mapping lists none of those twice.
      have once : (Dict.keys fields).Nodup := by
        apply (Fields.distinct_iff_keys.mp distinct).imp_of_mem
        intro first second inside _ apart
        obtain ⟨field, member, rfl⟩ := List.mem_map.mp inside
        obtain ⟨pair, -, named, -⟩ := fromFields field member
        exact apart (isTextual_of_text named)
      have unique : ∀ other, (name, other) ∈ pairs → other = content := by
        intro other otherListed
        obtain ⟨⟨otherKey, otherValue⟩, inside, otherName, otherOk⟩ := fromPairs _ otherListed
        cases only _ inside otherName
        cases held.symm.trans ((Dict.get?_eq_some_iff_mem once).mpr inside)
        exact Except.ok.inj (otherOk.symm.trans valueOk)
      rw [Dict.get?_ofPairs_of_unique listed unique, Option.map_some, Option.map_some, valueOk]

end Check

namespace Settings

/-- What a source holds at a field of a section. -/
def held? (part field : String) (source : Fields) : Option Value :=
  (Fields.get? (.str part.toList) source).bind (Value.valueAt? (.str field.toList))

/-- The value that a source gives to a field: what it holds there, without the name that may have
for containing itself. -/
def given? (part field : String) : Fields → Option Value :=
  fun source => (held? part field source).map Value.bare

/-- The value that a source gives to an entry of a dictionary. -/
def givenAt? (part field : String) (key : Scalar) : Fields → Option Value :=
  fun source => ((held? part field source).bind (Value.valueAt? key)).map Value.bare

/-- A field has the checked value of the first source that gives it one, or else its default. -/
def FieldFollows {α : Type} (sources : List Fields) (part field : String) (default : α)
    (check : Value → Checked α) (value : α) : Prop :=
  ((sources.findSome? (given? part field)).map check).getD (.ok default) = .ok value

/-- An entry of a dictionary has the checked text of the first source that gives it one, and is
absent when none does, provided that the sources have one key only that is read as its text. -/
def EntriesFollow (sources : List Fields) (part field : String) (dict : Dict Text Text) : Prop :=
  ∀ key name, text (.scalar key) = .ok name →
    (∀ source ∈ sources, ∀ value, given? part field source = some value →
      ∀ other ∈ value.keys, text (.scalar other) = .ok name → other = key) →
    (Dict.get? name dict).map Except.ok = (sources.findSome? (givenAt? part field key)).map text

/-- Every setting comes from the first of the given sources that has it. -/
structure Follows (homes : Homes) (sources : List Fields) (settings : Settings) : Prop where
  level : FieldFollows sources "logging" "level" LogSettings.default.level
    (choice Level.setting Level.all) settings.logging.level
  outputs : FieldFollows sources "logging" "outputs" LogSettings.default.outputs
    (list (LogOutput.check homes)) settings.logging.outputs
  directory : FieldFollows sources "corpus" "generated_dir" CorpusSettings.default.directory text
    settings.corpus.directory
  plugins : FieldFollows sources "corpus" "plugins_subdir" CorpusSettings.default.plugins text
    settings.corpus.plugins
  suffix : FieldFollows sources "corpus" "file_suffix" CorpusSettings.default.suffix
    CorpusSettings.checkSuffix settings.corpus.suffix
  excluded : FieldFollows sources "corpus" "excluded_suffixes" CorpusSettings.default.excluded
    (list text) settings.corpus.excluded
  banner : FieldFollows sources "corpus" "banner" CorpusSettings.default.banner
    CorpusSettings.checkBanner settings.corpus.banner
  families : FieldFollows sources "corpus" "family_prefixes" CorpusSettings.default.families
    (list text) settings.corpus.families
  limit : FieldFollows sources "resolve" "unresolved_report_limit" ResolveSettings.default.limit
    ResolveSettings.checkLimit settings.resolve.limit
  builtins : EntriesFollow sources "resolve" "extra_builtins" settings.resolve.builtins
  packages : EntriesFollow sources "resolve" "extra_namespaces" settings.resolve.packages

/-- A source as it should be: it is a mapping, its sections are mappings, and so are the
dictionaries in them. -/
structure Sectioned (source : Fields) : Prop where
  distinct : Fields.Distinct source
  sections : ∀ part ∈ ["logging", "corpus", "resolve"], ∀ value,
    Fields.get? (.str part.toList) source = some value → value.IsMapping
  dictionaries : ∀ field ∈ ["extra_builtins", "extra_namespaces"], ∀ value,
    given? "resolve" field source = some value → value.IsMapping

theorem sectioned_iff {source : Fields} :
    Sectioned source ↔ Fields.Distinct source ∧
      (∀ part ∈ ["logging", "corpus", "resolve"], ∀ value ∈
        Fields.get? (.str part.toList) source, value.IsMapping) ∧
      ∀ field ∈ ["extra_builtins", "extra_namespaces"], ∀ value ∈ given? "resolve" field source,
        value.IsMapping :=
  ⟨fun ⟨distinct, sections, dictionaries⟩ => ⟨distinct, sections, dictionaries⟩,
    fun ⟨distinct, sections, dictionaries⟩ => ⟨distinct, sections, dictionaries⟩⟩

instance (source : Fields) : Decidable (Sectioned source) :=
  decidable_of_iff _ sectioned_iff.symm

/-! ## Reading the merged sources -/

/-- The first of four sources that has something to be read. -/
theorem findSome?_map_bare (read : Fields → Option Value) (first second third last : Fields) :
    [first, second, third, last].findSome? (fun source => (read source).map Value.bare) =
      ((read first).or ((read second).or ((read third).or (read last)))).map Value.bare := by
  simp only [List.findSome?_cons, List.findSome?_nil]
  cases read first with
  | some value => rfl
  | none =>
      cases read second with
      | some value => rfl
      | none =>
          cases read third with
          | some value => rfl
          | none => cases read last <;> rfl

section Reading

variable {home project environment overrides : Fields}

/-- The keys of a merged dictionary were given by the sources. -/
theorem exists_given?_of_mem_keys {part field : String} {data : Value} {key : Scalar}
    (mappings : ∀ source ∈ [overrides, environment, project, home], ∀ value,
      held? part field source = some value → value.IsMapping)
    (merged : Fields.overAll (held? part field home) (held? part field project)
      (held? part field environment) (held? part field overrides) = some data)
    (member : key ∈ data.keys) :
    ∃ source ∈ [overrides, environment, project, home], ∃ value,
      given? part field source = some value ∧ key ∈ value.keys := by
  obtain ⟨_, listed, value, rfl, inside⟩ := Fields.mem_keys_overAll (mappings project (by simp))
    (mappings environment (by simp)) (mappings overrides (by simp)) merged member
  obtain ⟨source, sourceListed, found⟩ := List.mem_map.mp
    (show some value ∈ [overrides, environment, project, home].map (held? part field) from listed)
  refine ⟨source, sourceListed, value.bare, ?_, ?_⟩
  · rw [given?, found, Option.map_some]
  · rwa [Value.keys, Value.fields?_bare]

variable (projectSectioned : Sectioned project) (environmentSectioned : Sectioned environment)
  (overridesSectioned : Sectioned overrides)

include projectSectioned environmentSectioned overridesSectioned

theorem get?_mergeSources {key : Scalar} (textual : key.isTextual = true) :
    Fields.get? key (mergeSources home project environment overrides) =
      Fields.overAll (Fields.get? key home) (Fields.get? key project)
        (Fields.get? key environment) (Fields.get? key overrides) := by
  have laterDistinct := environmentSectioned.distinct.merge overrides
  rw [mergeSources, Fields.get?_merge (laterDistinct.listsOnce textual),
    Fields.get?_merge (projectSectioned.distinct.listsOnce textual),
    Fields.get?_merge (overridesSectioned.distinct.listsOnce textual), Fields.overAll]

/-- Reading a field of a section commutes with merging the sources. -/
theorem held?_mergeSources {part : String} (known : part ∈ ["logging", "corpus", "resolve"])
    (field : String) :
    held? part field (mergeSources home project environment overrides) =
      Fields.overAll (held? part field home) (held? part field project)
        (held? part field environment) (held? part field overrides) := by
  rw [held?, get?_mergeSources projectSectioned environmentSectioned overridesSectioned rfl]
  exact Fields.valueAt?_overAll _ (projectSectioned.sections part known)
    (environmentSectioned.sections part known) (overridesSectioned.sections part known) rfl

/-- What passes a flat check after merging was given by the first source that has it. -/
theorem fieldFollows_of_merged {α : Type} {part field : String} {default value : α}
    {check : Value → Checked α} (flat : Flat check)
    (known : part ∈ ["logging", "corpus", "resolve"])
    (passed : ((held? part field (mergeSources home project environment overrides)).map check).getD
      (.ok default) = .ok value) :
    FieldFollows [overrides, environment, project, home] part field default check value := by
  rw [held?_mergeSources projectSectioned environmentSectioned overridesSectioned known] at passed
  unfold FieldFollows given?
  rw [findSome?_map_bare]
  cases merged : Fields.overAll (held? part field home) (held? part field project)
      (held? part field environment) (held? part field overrides) with
  | none =>
      rw [merged] at passed
      rw [Fields.overAll_eq_none_iff.mp merged]
      exact passed
  | some data =>
      rw [merged] at passed
      obtain ⟨noDict, bare⟩ := flat passed
      rw [← Fields.bare_overAll merged noDict]
      exact bare

/-- The entries of a dictionary that passes its check after merging were given by the first source
that has them. -/
theorem entriesFollow_of_merged {part field : String} {dict : Dict Text Text}
    (known : part ∈ ["logging", "corpus", "resolve"])
    (mappings : ∀ source ∈ [overrides, environment, project, home], ∀ value,
      held? part field source = some value → value.IsMapping)
    (passed : ((held? part field (mergeSources home project environment overrides)).map
      textDict).getD (.ok []) = .ok dict) :
    EntriesFollow [overrides, environment, project, home] part field dict := by
  rw [held?_mergeSources projectSectioned environmentSectioned overridesSectioned known] at passed
  intro key name spelled single
  unfold givenAt?
  rw [findSome?_map_bare fun source => (held? part field source).bind (Value.valueAt? key)]
  have read := Fields.valueAt?_overAll (held? part field home) (mappings project (by simp))
    (mappings environment (by simp)) (mappings overrides (by simp)) (isTextual_of_text spelled)
  cases merged : Fields.overAll (held? part field home) (held? part field project)
      (held? part field environment) (held? part field overrides) with
  | none =>
      rw [merged] at passed read
      cases passed
      rw [Fields.overAll_eq_none_iff.mp read.symm]
      rfl
  | some data =>
      rw [merged] at passed read
      have isMapping := Fields.isMapping_overAll (mappings home (by simp))
        (mappings project (by simp)) (mappings environment (by simp))
        (mappings overrides (by simp)) data merged
      have only : ∀ other ∈ data.keys, text (.scalar other) = .ok name → other = key := by
        intro other member
        obtain ⟨source, listed, value, given, inside⟩ :=
          exists_given?_of_mem_keys mappings merged member
        exact single source listed value given other inside
      have entry_eq := get?_textDict isMapping passed spelled only
      rw [entry_eq]
      rw [Option.bind_some] at read
      cases found : data.valueAt? key with
      | none =>
          rw [found] at read
          rw [Fields.overAll_eq_none_iff.mp read.symm]
          rfl
      | some value =>
          rw [found] at read entry_eq
          obtain ⟨content, -, valueOk⟩ := Option.map_eq_some_iff.mp entry_eq
          obtain ⟨noDict, bare⟩ := flat_text valueOk.symm
          rw [← Fields.bare_overAll read.symm noDict, Option.map_some, Option.map_some, bare,
            valueOk]

end Reading

/-- A section is read from its own fields, and from none when it is absent. -/
theorem ofFields_of_field {α : Type} {merged : Fields} {part title : String} {default value : α}
    {check : Fields → Checked α} (empty : check [] = .ok default)
    (passed : field merged part default (sectionOf title check) = .ok value) :
    check (((Fields.get? (.str part.toList) merged).bind Value.fields?).getD []) = .ok value := by
  rw [field_eq_ok_iff, ← Fields.get?_eq_dict_get? rfl] at passed
  cases found : Fields.get? (.str part.toList) merged with
  | none =>
      rw [found] at passed
      cases passed
      exact empty
  | some data =>
      rw [found] at passed
      obtain ⟨fields, isDict, checked⟩ := sectionOf_eq_ok_iff.mp passed
      simpa [isDict] using checked

/-- A field of a section is read from what the merged sources hold there. -/
theorem held?_of_field {α : Type} {merged : Fields} {part name : String} {default value : α}
    {check : Value → Checked α}
    (passed : field (((Fields.get? (.str part.toList) merged).bind Value.fields?).getD []) name
      default check = .ok value) :
    ((held? part name merged).map check).getD (.ok default) = .ok value := by
  rw [field_eq_ok_iff, ← Fields.get?_eq_dict_get? rfl] at passed
  unfold held? Value.valueAt?
  rw [← Option.bind_assoc]
  cases found : (Fields.get? (.str part.toList) merged).bind Value.fields? with
  | none =>
      rw [found] at passed
      exact passed
  | some fields =>
      rw [found] at passed
      exact passed

/-- Settings made from merged sources follow the order of the sources. -/
theorem follows_of_merged {homes : Homes} {home project environment overrides : Fields}
    {settings : Settings}
    (sectioned : ∀ fields ∈ [overrides, environment, project, home], Sectioned fields)
    (passed : ofFields homes (mergeSources home project environment overrides) = .ok settings) :
    settings.Follows homes [overrides, environment, project, home] := by
  have inProject := sectioned project (by simp)
  have inEnvironment := sectioned environment (by simp)
  have inOverrides := sectioned overrides (by simp)
  have follows : ∀ {α : Type} {part name : String} {default value : α} {check : Value → Checked α},
      Flat check → part ∈ ["logging", "corpus", "resolve"] →
      field (((Fields.get? (.str part.toList)
        (mergeSources home project environment overrides)).bind Value.fields?).getD []) name default
        check = .ok value →
      FieldFollows [overrides, environment, project, home] part name default check value :=
    fun flat known checked => fieldFollows_of_merged inProject inEnvironment inOverrides flat known
      (held?_of_field checked)
  have entriesFollow : ∀ {name : String} {dict : Dict Text Text},
      name ∈ ["extra_builtins", "extra_namespaces"] →
      field (((Fields.get? (.str "resolve".toList)
        (mergeSources home project environment overrides)).bind Value.fields?).getD []) name []
        textDict = .ok dict →
      EntriesFollow [overrides, environment, project, home] "resolve" name dict := by
    intro name dict known checked
    apply entriesFollow_of_merged inProject inEnvironment inOverrides (by simp) _
      (held?_of_field checked)
    intro source listed value held
    obtain ⟨fields, isDict, distinct⟩ :=
      (sectioned source listed).dictionaries name known value.bare (by rw [given?, held]; rfl)
    exact ⟨fields, Value.fields?_bare value ▸ isDict, distinct⟩
  obtain ⟨logging, corpus, resolve⟩ := ofFields_eq_ok_iff.mp passed
  obtain ⟨level, outputs⟩ := LogSettings.ofFields_eq_ok_iff.mp (ofFields_of_field rfl logging)
  obtain ⟨directory, plugins, suffix, excluded, banner, families⟩ :=
    CorpusSettings.ofFields_eq_ok_iff.mp (ofFields_of_field rfl corpus)
  obtain ⟨builtins, packages, limit⟩ :=
    ResolveSettings.ofFields_eq_ok_iff.mp (ofFields_of_field rfl resolve)
  constructor
  case level => exact follows (flat_choice _ _) (by simp) level
  case outputs => exact follows (flat_list _) (by simp) outputs
  case directory => exact follows flat_text (by simp) directory
  case plugins => exact follows flat_text (by simp) plugins
  case suffix => exact follows (flat_textWhere _ _) (by simp) suffix
  case excluded => exact follows (flat_list _) (by simp) excluded
  case banner => exact follows (flat_textWhere _ _) (by simp) banner
  case families => exact follows (flat_list _) (by simp) families
  case limit => exact follows flat_limit (by simp) limit
  case builtins => exact entriesFollow (by simp) builtins
  case packages => exact entriesFollow (by simp) packages

/-- Every setting that is loaded comes from the first of the overrides, the environment, the project
and the home directory that has it.  A field has its checked value there, lists and all, or its
default; and so does every entry of a dictionary whose key the sources spell in one way. -/
theorem load_follows_precedence {source : SettingsSource} {root : Path} {overrides : Fields}
    {home project environment : Fields} {settings : Settings}
    (homeRead : source.fileFields source.homeFile = .ok home)
    (projectRead : source.fileFields (SettingsSource.projectFile root) = .ok project)
    (environmentRead : Environment.sections source.environment = .ok environment)
    (sectioned : ∀ fields ∈ [overridden overrides, environment, project, home], Sectioned fields)
    (loaded : load source root overrides = .ok settings) :
    settings.Follows source.homes [overridden overrides, environment, project, home] := by
  rw [load_eq_gather] at loaded
  obtain ⟨_, _, _, homeFound, projectFound, environmentFound, passed⟩ :=
    exists_sources_of_gather loaded
  cases homeRead.symm.trans homeFound
  cases projectRead.symm.trans projectFound
  cases environmentRead.symm.trans environmentFound
  exact follows_of_merged sectioned passed

/-- A place to look for settings: a file in the home directory and one in the project, which hold
the given texts, and the given environment. -/
def twoFiles (home project : String) (environment : List (Text × Text)) : SettingsSource :=
  let folder := ["home".toList, ".config".toList, "typelink".toList]
  { tree :=
      [(folder.take 1, .directory), (folder.take 2, .directory), (folder, .directory),
        (folder ++ ["config.yaml".toList], .file (Utf8.encode home.toList)),
        (["work".toList], .directory),
        (["work".toList, "typelink.yaml".toList], .file (Utf8.encode project.toList))]
    here := []
    home := ⟨.slash, ["home".toList]⟩
    users := []
    environment }

/-- The project of the small sources. -/
def work : Path := ⟨.slash, ["work".toList]⟩

/-- A dictionary at home, a banner in the project and a number in the environment. -/
def layered : SettingsSource :=
  twoFiles "resolve: \x7bextra_builtins: \x7bn.A: home, n.B: home\x7d\x7d"
    "corpus: \x7bbanner: // project\x7d"
    [("TYPELINK__RESOLVE__UNRESOLVED_REPORT_LIMIT".toList, "7".toList)]

/-- Overrides with one entry of a dictionary. -/
def oneEntry (key value : String) : Fields :=
  [(.str "resolve".toList, .record
    [("extra_builtins".toList, .record [(key.toList, .str value.toList)])])]

/-- Whether a source could be read and is as it should be. -/
def isReadable {fault : Type} (read : Except fault Fields) : Bool :=
  read.toOption.any fun fields => decide (Sectioned fields)

theorem exists_of_isReadable {fault : Type} {read : Except fault Fields}
    (readable : isReadable read = true) : ∃ fields, read = .ok fields ∧ Sectioned fields := by
  cases read with
  | error fault => cases readable
  | ok fields => exact ⟨fields, rfl, of_decide_eq_true readable⟩

theorem exists_of_toOption {fault α β : Type} {result : Except fault α} {read : α → β} {found : β}
    (known : result.toOption.map read = some found) :
    ∃ value, result = .ok value ∧ read value = found := by
  cases result with
  | error fault => cases known
  | ok value => exact ⟨value, rfl, Option.some.inj known⟩

theorem isReadable_layered_home : isReadable (layered.fileFields layered.homeFile) = true := by
  decide +kernel

theorem isReadable_layered_project :
    isReadable (layered.fileFields (SettingsSource.projectFile work)) = true := by
  decide +kernel

theorem isReadable_layered_environment :
    isReadable (Environment.sections layered.environment) = true := by
  decide +kernel

theorem sectioned_oneEntry : Sectioned (overridden (oneEntry "n.B" "override")) := by
  decide +kernel

theorem load_layered :
    (load layered work (oneEntry "n.B" "override")).toOption.map
        (fun settings => (settings.resolve, settings.corpus.banner)) =
      some (⟨[("n.A".toList, "home".toList), ("n.B".toList, "override".toList)], [], 7⟩,
        "// project".toList) := by
  decide +kernel

/-- Each of four sources has its say: one entry of a dictionary comes from home and one from the
overrides, the banner from the project and the number from the environment. -/
theorem load_follows_precedence_of_layered :
    ∃ home project environment settings,
      load layered work (oneEntry "n.B" "override") = .ok settings ∧
        settings.Follows layered.homes
          [overridden (oneEntry "n.B" "override"), environment, project, home] ∧
        (settings.resolve, settings.corpus.banner) =
          (⟨[("n.A".toList, "home".toList), ("n.B".toList, "override".toList)], [], 7⟩,
            "// project".toList) := by
  obtain ⟨home, homeRead, homeSectioned⟩ := exists_of_isReadable isReadable_layered_home
  obtain ⟨project, projectRead, projectSectioned⟩ :=
    exists_of_isReadable isReadable_layered_project
  obtain ⟨environment, environmentRead, environmentSectioned⟩ :=
    exists_of_isReadable isReadable_layered_environment
  obtain ⟨settings, loaded, values⟩ := exists_of_toOption load_layered
  have sectioned : ∀ fields ∈ [overridden (oneEntry "n.B" "override"), environment, project, home],
      Sectioned fields := by
    intro fields listed
    simp only [List.mem_cons, List.not_mem_nil, or_false] at listed
    rcases listed with rfl | rfl | rfl | rfl
    · exact sectioned_oneEntry
    · exact environmentSectioned
    · exact projectSectioned
    · exact homeSectioned
  exact ⟨home, project, environment, settings, loaded,
    load_follows_precedence homeRead projectRead environmentRead sectioned loaded, values⟩

/-- A home directory that spells one key in two ways, as a text and as bytes. -/
def misspelled : SettingsSource :=
  twoFiles "resolve: \x7bextra_builtins: \x7ba.B: home, !!binary YS5C: bytes\x7d\x7d" "" []

/-- Overrides that have one section under two spellings of its name. -/
def doubledOverrides : Fields :=
  [(.str "Corpus".toList, .record [("banner".toList, .str "// upper".toList)]),
    (.str "corpus".toList, .record [("banner".toList, .str "// lower".toList)])]

/-- The overrides give a key a value, but what is loaded is the value that the home directory gives
its bytes; and a section under its own name gives way to one under another spelling before it. -/
theorem load_defies_precedence :
    (isReadable (misspelled.fileFields misspelled.homeFile) = true ∧
      isReadable (misspelled.fileFields (SettingsSource.projectFile work)) = true ∧
      isReadable (Environment.sections misspelled.environment) = true ∧
      Sectioned (oneEntry "a.B" "override") ∧
      givenAt? "resolve" "extra_builtins" (.str "a.B".toList) (oneEntry "a.B" "override") =
        some (.str "override".toList) ∧
      (load misspelled work (oneEntry "a.B" "override")).toOption.map
        (fun settings => settings.resolve.builtins) = some [("a.B".toList, "bytes".toList)]) ∧
      Sectioned doubledOverrides ∧
      given? "corpus" "banner" doubledOverrides = some (.str "// lower".toList) ∧
      (load (twoFiles "" "" []) work doubledOverrides).toOption.map
        (fun settings => settings.corpus.banner) = some "// upper".toList := by
  refine ⟨⟨?_, ?_, ?_, ?_, rfl, ?_⟩, ?_, rfl, ?_⟩
  all_goals decide +kernel

end Settings

end DeclLinker
