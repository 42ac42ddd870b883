import DeclLinker.Proofs.Dict
import DeclLinker.Proofs.Path.Specifier
import DeclLinker.Proofs.Settings.Sections

/-!
# Checking settings twice

A check may change what it accepts: numerals become numbers, a log destination is expanded and
brought into the normal form of a path, and absent fields get their defaults.  What comes out is
stable: written as plain data it passes the check again, as the same value.  Home directories do not
matter then, since an accepted destination is a stream or an absolute path.
-/

namespace DeclLinker

namespace Path

/-- Every component can stand between slashes. -/
def Normal (path : Path) : Prop :=
  ∀ part ∈ path.parts, Component part

theorem normal_ofText (text : Text) : (ofText text).Normal := by
  intro part member
  constructor
  · exact proper_ofText text part member
  · exact (List.mem_filter.mp member).2

theorem Normal.expandHome? {path expanded : Path} {homes : Homes} (normal : path.Normal)
    (found : path.expandHome? homes = some expanded) : expanded.Normal := by
  unfold Path.expandHome? at found
  split at found
  · rename_i name rest _ parts_eq
    rcases Option.map_eq_some_iff.mp found with ⟨home, homeFound, rfl⟩
    have homeNormal : home.Normal := by
      unfold Homes.directory? at homeFound
      split at homeFound
      · cases homeFound
      · cases homeFound
        intro part member
        cases member
      · cases homeFound
      · cases homeFound
        exact normal_ofText _
    intro part member
    rcases List.mem_append.mp member with inHome | inRest
    · exact homeNormal part inHome
    · apply normal part
      rw [parts_eq]
      exact .tail _ inRest
  · cases found
    exact normal

/-- Joined components do not start with a slash. -/
theorem head?_intercalate_ne {parts : List Text} (components : ∀ part ∈ parts, Component part) :
    (['/'].intercalate parts).head? ≠ some '/' := by
  match parts with
  | [] => simp
  | [part] =>
      rw [List.intercalate_singleton]
      intro slash
      exact (components part List.mem_cons_self).1 (List.mem_of_head? slash)
  | part :: next :: rest =>
      have component := components part List.mem_cons_self
      obtain ⟨char, more, rfl⟩ : ∃ char more, part = char :: more := by
        cases part with
        | nil => exact absurd component.2 (by decide)
        | cons char more => exact ⟨char, more, rfl⟩
      intro slash
      rw [List.intercalate_cons_cons] at slash
      exact component.1 (List.mem_cons.mpr (.inl (Option.some.inj slash).symm))

theorem root_slash {rest : Text} (head_ne : rest.head? ≠ some '/') :
    Root.ofText ('/' :: rest) = .slash ∧ Root.ofText ('/' :: '/' :: rest) = .doubleSlash := by
  cases rest with
  | nil => exact ⟨rfl, rfl⟩
  | cons char rest =>
      have char_ne : char ≠ '/' := fun same => head_ne (congrArg some same)
      simp [Root.ofText, char_ne]

/-- The text of an absolute path in normal form denotes that path. -/
theorem Normal.ofText_toText {path : Path} (normal : path.Normal)
    (absolute : path.isAbsolute = true) : ofText path.toText = path := by
  rcases path with ⟨root, parts⟩
  have roots := root_slash (head?_intercalate_ne normal)
  have split_eq : (Text.splitOn '/' (['/'].intercalate parts)).filter isPart = parts := by
    cases parts with
    | nil => rfl
    | cons part rest => exact filter_splitOn_intercalate (List.cons_ne_nil part rest) normal
  cases root with
  | relative => exact (Bool.false_ne_true absolute).elim
  | slash =>
      have text_eq : toText ⟨.slash, parts⟩ = '/' :: ['/'].intercalate parts := rfl
      rw [text_eq, ofText, roots.1, Text.splitOn, if_pos rfl, List.filter_cons_of_neg (by decide),
        split_eq]
  | doubleSlash =>
      have text_eq : toText ⟨.doubleSlash, parts⟩ = '/' :: '/' :: ['/'].intercalate parts := rfl
      rw [text_eq, ofText, roots.2, Text.splitOn, if_pos rfl, Text.splitOn, if_pos rfl,
        List.filter_cons_of_neg (by decide), List.filter_cons_of_neg (by decide), split_eq]

theorem expandHome?_of_isAbsolute {path : Path} (absolute : path.isAbsolute = true)
    (homes : Homes) : path.expandHome? homes = some path := by
  rcases path with ⟨root, parts⟩
  cases root with
  | relative => exact (Bool.false_ne_true absolute).elim
  | slash => rfl
  | doubleSlash => rfl

theorem head?_toText_of_isAbsolute {path : Path} (absolute : path.isAbsolute = true) :
    path.toText.head? = some '/' := by
  rcases path with ⟨root, parts⟩
  cases root with
  | relative => exact (Bool.false_ne_true absolute).elim
  | slash => rfl
  | doubleSlash => rfl

end Path

open Checked Check

/-! ## Checks of single values -/

namespace Check

variable {α : Type} {check later : Value → Checked α} {write : α → Value}

/-- What a check accepts is written so that a later check takes it for the same value. -/
def Settles (check later : Value → Checked α) (write : α → Value) : Prop :=
  ∀ ⦃data value⦄, check data = .ok value → later (write value) = .ok value

theorem settles_text : Settles text text Value.str :=
  fun _ _ _ => rfl

theorem settles_textWhere (holds : Text → Bool) (reason : Text → Text) :
    Settles (textWhere holds reason) (textWhere holds reason) Value.str := by
  intro data value accepted
  rcases andThen_eq_ok_iff.mp accepted with ⟨given, -, tested⟩
  split at tested
  · rename_i good
    cases tested
    exact if_pos good
  · cases tested

theorem settles_format :
    Settles (choice LogFormat.toText [.json, .console]) (choice LogFormat.toText [.json, .console])
      fun format => Value.str format.toText := by
  intro _ format _
  cases format <;> rfl

theorem settles_level :
    Settles (choice Level.setting Level.all) (choice Level.setting Level.all)
      fun level => Value.str level.setting := by
  intro _ level _
  cases level <;> rfl

theorem settles_level? :
    Settles (optional (choice Level.setting Level.all)) (optional (choice Level.setting Level.all))
      fun level? =>
        match level? with
        | some level => Value.str level.setting
        | none => Value.null := by
  intro _ level? _
  cases level? with
  | none => rfl
  | some level => cases level <;> rfl

theorem settles_limit :
    Settles ResolveSettings.checkLimit ResolveSettings.checkLimit
      fun limit : Nat => Value.int limit :=
  fun _ _ _ => rfl

theorem itemsFrom_settles (settles : Settles check later write) {index : Nat} {data : List Value}
    {values : List α} (accepted : itemsFrom check index data = .ok values) (start : Nat) :
    itemsFrom later start (values.map write) = .ok values := by
  induction data generalizing index values start with
  | nil =>
      cases accepted
      rfl
  | cons first data ih =>
      simp only [itemsFrom, apply_eq_ok_iff, make_eq_ok_iff, inside_eq_ok_iff] at accepted
      rcases accepted with ⟨_, rest, ⟨_, value, rfl, valueOk, rfl⟩, restOk, rfl⟩
      simp only [List.map_cons, itemsFrom, settles valueOk, ih restOk]
      rfl

theorem settles_list (settles : Settles check later write) :
    Settles (list check) (list later) fun values => .list (values.map write) := by
  intro data values accepted
  unfold list at accepted
  split at accepted
  · exact itemsFrom_settles settles accepted 0
  · cases accepted

theorem entries_written (dict : Dict Text Text) :
    entries (dict.map fun (key, text) => (.str key, Value.str text)) = .ok dict := by
  induction dict with
  | nil => rfl
  | cons pair dict ih =>
      rw [List.map_cons, entries, ih]
      rfl

/-- Checked dictionaries list every key once, so nothing is lost when they are put together
again. -/
theorem settles_textDict : Settles textDict textDict Value.textDict := by
  intro data dict accepted
  unfold textDict at accepted
  split at accepted
  · rcases map_eq_ok_iff.mp accepted with ⟨pairs, -, rfl⟩
    have none : (Dict.keys ([] : Dict Text Text)).Nodup := List.nodup_nil
    have once : (Dict.keys (Dict.ofPairs pairs)).Nodup := Dict.nodup_keys_putAll none pairs
    have again : textDict (Value.textDict (Dict.ofPairs pairs)) =
        (entries ((Dict.ofPairs pairs).map fun (key, text) => (.str key, Value.str text))).map
          Dict.ofPairs := by
      unfold textDict Value.textDict Value.record
      rw [List.map_map]
      rfl
    rw [again, entries_written, Except.map, Dict.ofPairs_of_nodup once]
  · cases accepted

/-- A field settles when its check does and its default passes. -/
theorem settles_field {fields : Fields} {name : String} {default value : α}
    (settles : Settles check later write) (kept : later (write default) = .ok default)
    (passed : field fields name default check = .ok value) : later (write value) = .ok value := by
  unfold field at passed
  split at passed
  · cases passed
    exact kept
  · exact settles (inside_eq_ok_iff.mp passed)

theorem field_of_get? {fields : Fields} {name : String} {default value : α} {given : Value}
    (found : Dict.get? (.str name.toList) fields = some given) (passed : check given = .ok value) :
    field fields name default check = .ok value := by
  rw [field, found]
  exact inside_eq_ok_iff.mpr passed

end Check

/-! ## Sections -/

theorem LogOutput.settles_destination (homes later : Homes) :
    Settles (LogOutput.checkDestination homes) (LogOutput.checkDestination later) Value.str := by
  intro data destination accepted
  rcases andThen_eq_ok_iff.mp accepted with ⟨given, -, tested⟩
  split at tested
  · rename_i stream
    cases tested
    exact if_pos stream
  · split at tested
    · cases tested
    · rename_i path expanded
      split at tested
      · rename_i absolute
        cases tested
        have normal : path.Normal := (Path.normal_ofText given).expandHome? expanded
        have noStream : LogOutput.streams.contains path.toText = false := by
          have heads : ∀ stream ∈ LogOutput.streams, stream.head? ≠ some '/' := by decide
          rw [← Bool.not_eq_true, List.contains_iff_mem]
          exact fun member => heads _ member (Path.head?_toText_of_isAbsolute absolute)
        have reached : (Path.ofText path.toText).expandHome? later = some path := by
          rw [normal.ofText_toText absolute]
          exact Path.expandHome?_of_isAbsolute absolute later
        simp only [LogOutput.checkDestination, Value.str, text, andThen, noStream, reached,
          absolute, if_true, Bool.false_eq_true, if_false]
      · cases tested

theorem LogOutput.settles_check (homes later : Homes) :
    Settles (LogOutput.check homes) (LogOutput.check later) LogOutput.dump := by
  intro data output accepted
  rcases sectionOf_eq_ok_iff.mp accepted with ⟨fields, -, passed⟩
  rcases LogOutput.ofFields_eq_ok_iff.mp passed with ⟨format, destination, level⟩
  apply sectionOf_eq_ok_iff.mpr
  refine ⟨_, rfl, LogOutput.ofFields_eq_ok_iff.mpr ⟨?_, ?_, ?_⟩⟩
  · exact field_of_get? rfl (settles_field settles_format rfl format)
  · exact field_of_get? rfl
      (settles_field (LogOutput.settles_destination homes later) rfl destination)
  · exact field_of_get? rfl (settles_field settles_level? rfl level)

theorem LogSettings.settles_check (homes later : Homes) :
    Settles (LogSettings.check homes) (LogSettings.check later) LogSettings.dump := by
  intro data settings accepted
  rcases sectionOf_eq_ok_iff.mp accepted with ⟨fields, -, passed⟩
  rcases LogSettings.ofFields_eq_ok_iff.mp passed with ⟨level, outputs⟩
  have outputsSettle := settles_list (LogOutput.settles_check homes later)
  apply sectionOf_eq_ok_iff.mpr
  refine ⟨_, rfl, LogSettings.ofFields_eq_ok_iff.mpr ⟨?_, ?_⟩⟩
  · exact field_of_get? rfl (settles_field settles_level rfl level)
  · exact field_of_get? rfl (settles_field outputsSettle rfl outputs)

theorem CorpusSettings.settles_check :
    Settles CorpusSettings.check CorpusSettings.check CorpusSettings.dump := by
  intro data settings accepted
  rcases sectionOf_eq_ok_iff.mp accepted with ⟨fields, -, passed⟩
  rcases CorpusSettings.ofFields_eq_ok_iff.mp passed with
    ⟨directory, plugins, suffix, excluded, banner, families⟩
  have defaultBanner : CorpusSettings.checkBanner (Value.str CorpusSettings.default.banner) =
      .ok CorpusSettings.default.banner := rfl
  apply sectionOf_eq_ok_iff.mpr
  refine ⟨_, rfl, CorpusSettings.ofFields_eq_ok_iff.mpr ⟨?_, ?_, ?_, ?_, ?_, ?_⟩⟩
  · exact field_of_get? rfl (settles_field settles_text rfl directory)
  · exact field_of_get? rfl (settles_field settles_text rfl plugins)
  · exact field_of_get? rfl (settles_field (settles_textWhere _ _) rfl suffix)
  · exact field_of_get? rfl (settles_field (settles_list settles_text) rfl excluded)
  · exact field_of_get? rfl (settles_field (settles_textWhere _ _) defaultBanner banner)
  · exact field_of_get? rfl (settles_field (settles_list settles_text) rfl families)

theorem ResolveSettings.settles_check :
    Settles ResolveSettings.check ResolveSettings.check ResolveSettings.dump := by
  intro data settings accepted
  rcases sectionOf_eq_ok_iff.mp accepted with ⟨fields, -, passed⟩
  rcases ResolveSettings.ofFields_eq_ok_iff.mp passed with ⟨builtins, packages, limit⟩
  apply sectionOf_eq_ok_iff.mpr
  refine ⟨_, rfl, ResolveSettings.ofFields_eq_ok_iff.mpr ⟨?_, ?_, ?_⟩⟩
  · exact field_of_get? rfl (settles_field settles_textDict rfl builtins)
  · exact field_of_get? rfl (settles_field settles_textDict rfl packages)
  · exact field_of_get? rfl (settles_field settles_limit rfl limit)

namespace Settings

theorem ofFields_dump {homes : Homes} {fields : Fields} {settings : Settings}
    (passed : ofFields homes fields = .ok settings) (later : Homes) :
    check later settings.dump = .ok settings := by
  rcases ofFields_eq_ok_iff.mp passed with ⟨logging, corpus, resolve⟩
  have made : CorpusSettings.check (.record []) = .ok default.corpus := rfl
  apply sectionOf_eq_ok_iff.mpr
  refine ⟨_, rfl, ofFields_eq_ok_iff.mpr ⟨?_, ?_, ?_⟩⟩
  · exact field_of_get? rfl (settles_field (LogSettings.settles_check homes later) rfl logging)
  · exact field_of_get? rfl
      (settles_field CorpusSettings.settles_check (CorpusSettings.settles_check made) corpus)
  · exact field_of_get? rfl (settles_field ResolveSettings.settles_check rfl resolve)

/-- The last check of a load finds nothing to refuse and nothing to change. -/
theorem load_eq_gather (source : SettingsSource) (root : Path) (overrides : Fields) :
    load source root overrides = gather source root overrides := by
  unfold load
  cases gathered : gather source root overrides with
  | error fault => rfl
  | ok settings =>
      rcases exists_sources_of_gather gathered with ⟨_, _, _, -, -, -, passed⟩
      have accepted : (check source.homes settings.dump).mapError LoadFault.unsettled =
          .ok settings :=
        mapError_eq_ok_iff.mpr (ofFields_dump passed source.homes)
      simp only [bind, Except.bind, accepted]

/-- Checking is idempotent.  Whatever data a log output, a section or the whole settings accept, the
value they make of it is accepted again from its plain data, and is then the same.  So the check
that ends a load is passed by whatever the sources make together, which it leaves as it is. -/
theorem accepted_again (homes later : Homes) :
    (∀ data output, LogOutput.check homes data = .ok output →
        LogOutput.check later output.dump = .ok output) ∧
      (∀ data settings, LogSettings.check homes data = .ok settings →
        LogSettings.check later settings.dump = .ok settings) ∧
      (∀ data settings, CorpusSettings.check data = .ok settings →
        CorpusSettings.check settings.dump = .ok settings) ∧
      (∀ data settings, ResolveSettings.check data = .ok settings →
        ResolveSettings.check settings.dump = .ok settings) ∧
      (∀ data settings, check homes data = .ok settings →
        check later settings.dump = .ok settings) ∧
      ∀ source root overrides,
        load source root overrides = gather source root overrides ∧
          ∀ settings, gather source root overrides = .ok settings →
            check later settings.dump = .ok settings := by
  refine ⟨?_, ?_, ?_, ?_, ?_, ?_⟩
  · exact fun _ _ accepted => LogOutput.settles_check homes later accepted
  · exact fun _ _ accepted => LogSettings.settles_check homes later accepted
  · exact fun _ _ accepted => CorpusSettings.settles_check accepted
  · exact fun _ _ accepted => ResolveSettings.settles_check accepted
  · intro data settings accepted
    rcases sectionOf_eq_ok_iff.mp accepted with ⟨fields, -, passed⟩
    exact ofFields_dump passed later
  · intro source root overrides
    constructor
    · exact load_eq_gather source root overrides
    · intro settings gathered
      rcases exists_sources_of_gather gathered with ⟨_, _, _, -, -, -, passed⟩
      exact ofFields_dump passed later

/-- A tilde, a path that is not in normal form, and a number written as text: all of it is gone when
the settings are written out, and what is left is accepted as it stands, without any home. -/
theorem accepted_again_of_expanded :
    let homes : Homes := ⟨"/home/ada/".toList, []⟩
    let data := Value.record
      [("logging".toList, .record [("outputs".toList,
          .list [.record [("destination".toList, .str "~//logs/./../run.log".toList)]])]),
        ("resolve".toList, .record
          [("unresolved_report_limit".toList, .str " +0_7.0".toList),
            ("extra_builtins".toList, .record [("net.IP".toList, .str "IPAddress".toList)])])]
    let settings : Settings :=
      ⟨⟨.warning, [⟨.console, "/home/ada/logs/../run.log".toList, none⟩]⟩, CorpusSettings.default,
        ⟨[("net.IP".toList, "IPAddress".toList)], [], 7⟩⟩
    check homes data = .ok settings ∧ check ⟨[], []⟩ settings.dump = .ok settings := by
  intro homes data settings
  have accepted : check homes data = .ok settings := by rfl
  obtain ⟨-, -, -, -, again, -⟩ := accepted_again homes ⟨[], []⟩
  exact ⟨accepted, again data settings accepted⟩

end Settings

end DeclLinker
