import DeclLinker.Settings.Load

/-!
# Settings, field by field

A section passes its check exactly when each of its fields does: the field is absent and has its
default, or its value passes the check of that field.  The settings of a load pass exactly when the
three sections do and there is no other key at the top.
-/

namespace DeclLinker

namespace Checked

variable {α β : Type}

@[simp]
theorem inside_eq_ok_iff {place : Place} {checked : Checked α} {value : α} :
    inside place checked = .ok value ↔ checked = .ok value := by
  cases checked <;> simp [inside]

theorem make_eq_ok_iff {whole other : α} : make whole = .ok other ↔ whole = other := by
  simp [make]

/-- A function of checked parts has a value exactly when each part has. -/
theorem apply_eq_ok_iff {function : Checked (α → β)} {checked : Checked α} {whole : β} :
    apply function checked = .ok whole ↔
      ∃ make part, function = .ok make ∧ checked = .ok part ∧ make part = whole := by
  cases function <;> cases checked <;> simp [apply]

theorem andThen_eq_ok_iff {checked : Checked α} {next : α → Checked β} {result : β} :
    andThen checked next = .ok result ↔ ∃ value, checked = .ok value ∧ next value = .ok result := by
  cases checked <;> simp [andThen]

theorem map_eq_ok_iff {checked : Checked α} {convert : α → β} {result : β} :
    Except.map convert checked = .ok result ↔
      ∃ value, checked = .ok value ∧ convert value = result := by
  cases checked <;> simp [Except.map]

theorem mapError_eq_ok_iff {fault other : Type} {result : Except fault α} {turn : fault → other}
    {value : α} : result.mapError turn = .ok value ↔ result = .ok value := by
  cases result with
  | error found => exact ⟨nofun, nofun⟩
  | ok given =>
      constructor
      · rintro ⟨⟩
        rfl
      · rintro ⟨⟩
        rfl

end Checked

open Checked

namespace Check

variable {α : Type} {fields : Fields} {name : String} {default value : α}
  {check : Value → Checked α}

/-- A field that is absent has its default, and any other the checked value it is given. -/
theorem field_eq_ok_iff :
    field fields name default check = .ok value ↔
      ((Dict.get? (.str name.toList) fields).map check).getD (.ok default) = .ok value := by
  unfold field
  cases Dict.get? (.str name.toList) fields with
  | none => exact Iff.rfl
  | some given => simp

theorem sectionOf_eq_ok_iff {checkFields : Fields → Checked α} {data : Value} :
    sectionOf name checkFields data = .ok value ↔
      ∃ fields, data.fields? = some fields ∧ checkFields fields = .ok value := by
  unfold sectionOf
  cases data.fields? with
  | none => simp [fail]
  | some fields => simp

end Check

open Check

section

variable {homes : Homes} {fields : Fields}

theorem LogOutput.ofFields_eq_ok_iff {output : LogOutput} :
    LogOutput.ofFields homes fields = .ok output ↔
      field fields "format" LogOutput.default.format
          (choice LogFormat.toText [.json, .console]) = .ok output.format ∧
        field fields "destination" LogOutput.default.destination
          (LogOutput.checkDestination homes) = .ok output.destination ∧
        field fields "level" LogOutput.default.level?
          (optional (choice Level.setting Level.all)) = .ok output.level? := by
  simp only [LogOutput.ofFields, apply_eq_ok_iff, make_eq_ok_iff]
  constructor
  · rintro ⟨_, level, ⟨_, destination, ⟨_, format, rfl, formatOk, rfl⟩, destinationOk, rfl⟩,
      levelOk, rfl⟩
    exact ⟨formatOk, destinationOk, levelOk⟩
  · rintro ⟨formatOk, destinationOk, levelOk⟩
    exact ⟨_, _, ⟨_, _, ⟨_, _, rfl, formatOk, rfl⟩, destinationOk, rfl⟩, levelOk, rfl⟩

theorem LogSettings.ofFields_eq_ok_iff {settings : LogSettings} :
    LogSettings.ofFields homes fields = .ok settings ↔
      field fields "level" LogSettings.default.level
          (choice Level.setting Level.all) = .ok settings.level ∧
        field fields "outputs" LogSettings.default.outputs
          (list (LogOutput.check homes)) = .ok settings.outputs := by
  simp only [LogSettings.ofFields, apply_eq_ok_iff, make_eq_ok_iff]
  constructor
  · rintro ⟨_, outputs, ⟨_, level, rfl, levelOk, rfl⟩, outputsOk, rfl⟩
    exact ⟨levelOk, outputsOk⟩
  · rintro ⟨levelOk, outputsOk⟩
    exact ⟨_, _, ⟨_, _, rfl, levelOk, rfl⟩, outputsOk, rfl⟩

theorem CorpusSettings.ofFields_eq_ok_iff {settings : CorpusSettings} :
    CorpusSettings.ofFields fields = .ok settings ↔
      field fields "generated_dir" CorpusSettings.default.directory text =
          .ok settings.directory ∧
        field fields "plugins_subdir" CorpusSettings.default.plugins text =
          .ok settings.plugins ∧
        field fields "file_suffix" CorpusSettings.default.suffix CorpusSettings.checkSuffix =
          .ok settings.suffix ∧
        field fields "excluded_suffixes" CorpusSettings.default.excluded (list text) =
          .ok settings.excluded ∧
        field fields "banner" CorpusSettings.default.banner CorpusSettings.checkBanner =
          .ok settings.banner ∧
        field fields "family_prefixes" CorpusSettings.default.families (list text) =
          .ok settings.families := by
  simp only [CorpusSettings.ofFields, apply_eq_ok_iff, make_eq_ok_iff]
  constructor
  · rintro ⟨_, families, ⟨_, banner, ⟨_, excluded, ⟨_, suffix, ⟨_, plugins, ⟨_, directory, rfl,
      directoryOk, rfl⟩, pluginsOk, rfl⟩, suffixOk, rfl⟩, excludedOk, rfl⟩, bannerOk, rfl⟩,
      familiesOk, rfl⟩
    exact ⟨directoryOk, pluginsOk, suffixOk, excludedOk, bannerOk, familiesOk⟩
  · rintro ⟨directoryOk, pluginsOk, suffixOk, excludedOk, bannerOk, familiesOk⟩
    exact ⟨_, _, ⟨_, _, ⟨_, _, ⟨_, _, ⟨_, _, ⟨_, _, rfl, directoryOk, rfl⟩, pluginsOk, rfl⟩,
      suffixOk, rfl⟩, excludedOk, rfl⟩, bannerOk, rfl⟩, familiesOk, rfl⟩

theorem ResolveSettings.ofFields_eq_ok_iff {settings : ResolveSettings} :
    ResolveSettings.ofFields fields = .ok settings ↔
      field fields "extra_builtins" ResolveSettings.default.builtins textDict =
          .ok settings.builtins ∧
        field fields "extra_namespaces" ResolveSettings.default.packages textDict =
          .ok settings.packages ∧
        field fields "unresolved_report_limit" ResolveSettings.default.limit
          ResolveSettings.checkLimit = .ok settings.limit := by
  simp only [ResolveSettings.ofFields, apply_eq_ok_iff, make_eq_ok_iff]
  constructor
  · rintro ⟨_, limit, ⟨_, packages, ⟨_, builtins, rfl, builtinsOk, rfl⟩, packagesOk, rfl⟩,
      limitOk, rfl⟩
    exact ⟨builtinsOk, packagesOk, limitOk⟩
  · rintro ⟨builtinsOk, packagesOk, limitOk⟩
    exact ⟨_, _, ⟨_, _, ⟨_, _, rfl, builtinsOk, rfl⟩, packagesOk, rfl⟩, limitOk, rfl⟩

namespace Settings

variable {settings : Settings}

theorem ofFields_eq_ok_iff :
    ofFields homes fields = .ok settings ↔
      field fields "logging" default.logging (LogSettings.check homes) = .ok settings.logging ∧
        field fields "corpus" default.corpus CorpusSettings.check = .ok settings.corpus ∧
        field fields "resolve" default.resolve ResolveSettings.check = .ok settings.resolve := by
  simp only [ofFields, apply_eq_ok_iff, make_eq_ok_iff]
  constructor
  · rintro ⟨_, resolve, ⟨_, corpus, ⟨_, logging, rfl, loggingOk, rfl⟩, corpusOk, rfl⟩,
      resolveOk, rfl⟩
    exact ⟨loggingOk, corpusOk, resolveOk⟩
  · rintro ⟨loggingOk, corpusOk, resolveOk⟩
    exact ⟨_, _, ⟨_, _, ⟨_, _, rfl, loggingOk, rfl⟩, corpusOk, rfl⟩, resolveOk, rfl⟩

/-- A check of all fields that passes has passed the check of the three sections. -/
theorem ofFields_of_checkAll (passed : checkAll homes fields = .ok settings) :
    ofFields homes fields = .ok settings := by
  unfold checkAll at passed
  split at passed
  · cases passed
  · cases passed
  · -- No key is broken, so what remains is the check itself, with the unknown keys added.
    split at passed
    · exact passed
    · cases passed
    · cases passed

theorem ofFields_of_ofMerged (made : ofMerged homes fields = .ok settings) :
    ofFields homes fields = .ok settings := by
  unfold ofMerged at made
  split at made
  · exact ofFields_of_checkAll (mapError_eq_ok_iff.mp made)
  · cases made

/-- Settings that are gathered were made from the merged fields of the four sources. -/
theorem exists_sources_of_gather {source : SettingsSource} {root : Path} {overrides : Fields}
    (gathered : gather source root overrides = .ok settings) :
    ∃ home project environment,
      source.fileFields source.homeFile = .ok home ∧
        source.fileFields (SettingsSource.projectFile root) = .ok project ∧
        Environment.sections source.environment = .ok environment ∧
        ofFields source.homes
          (mergeSources home project environment (overridden overrides)) = .ok settings := by
  unfold gather at gathered
  cases homeRead : source.fileFields source.homeFile with
  | error fault =>
      rw [homeRead] at gathered
      cases gathered
  | ok home =>
      cases projectRead : source.fileFields (SettingsSource.projectFile root) with
      | error fault =>
          rw [homeRead, projectRead] at gathered
          cases gathered
      | ok project =>
          simp only [homeRead, projectRead, bind, Except.bind] at gathered
          split at gathered
          · cases gathered
          · cases environmentRead : Environment.sections source.environment with
            | error fault =>
                rw [environmentRead] at gathered
                cases gathered
            | ok environment =>
                rw [environmentRead] at gathered
                exact ⟨home, project, environment, rfl, rfl, rfl, ofFields_of_ofMerged gathered⟩

end Settings

end

end DeclLinker
