import DeclLinker.Proofs.Import.Fresh
import DeclLinker.Proofs.Tables

/-!
# The import schedule of a file

The plan of a file needs the declarations that its placeholders meet in other files, one after the
other.  What one need does to a plan is said once: a pair of producer and name that is bound stays
as it is, any other pair gets a new spec.  So a plan serves the declarations it was asked for: it
lists their pairs, in the order of first use, and binds them to names that differ from each other
and from those taken from the start.  A pair is aliased exactly when its plain name was taken when
it was first met.
-/

namespace DeclLinker

/-- The producer and the exported name of a declaration, by which a plan knows it. -/
def Entry.pair (entry : Entry) : Path × Text :=
  (entry.path, entry.exportName)

/-- An item is kept at the end of a list without repetitions unless it is there. -/
theorem eraseDups_concat {α : Type} [BEq α] [LawfulBEq α] (items : List α) (item : α)
    [Decidable (item ∈ items.eraseDups)] :
    (items ++ [item]).eraseDups =
      if item ∈ items.eraseDups then items.eraseDups else items.eraseDups ++ [item] := by
  rw [List.eraseDups_append]
  by_cases inside : item ∈ items
  · simp [List.removeAll, inside]
  · simp [List.removeAll, inside, List.eraseDups_cons]

namespace Plan

variable {plan : Plan} {entry other : Entry} {spec first second : ImportSpec} {taken : List Text}
  {hits : List Entry}

theorem binds_iff_of_pair_eq (same : entry.pair = other.pair) :
    plan.Binds entry spec ↔ plan.Binds other spec := by
  obtain ⟨path_eq, name_eq⟩ := Prod.mk.inj same
  rw [Binds, Binds, path_eq, name_eq]

theorem Binds.unique (one : plan.Binds entry first) (another : plan.Binds entry second) :
    first = second :=
  Option.some.inj (one.symm.trans another)

theorem exists_binds_iff_mem_keys :
    (∃ spec, plan.Binds entry spec) ↔
      entry.exportName ∈ Dict.keys (plan.specsOf entry.path) := by
  rw [← not_iff_not, ← Dict.get?_eq_none_iff, Option.eq_none_iff_forall_ne_some, not_exists]
  rfl

theorem Binds.producer_mem_keys (binds : plan.Binds entry spec) :
    entry.path ∈ Dict.keys plan.schedule := by
  by_contra absent
  rw [Binds, specsOf, Dict.get?_eq_none_iff.mpr absent] at binds
  cases binds

/-! ## What one need does -/

/-- A declaration is bound already, and then nothing happens, or it is put with a new spec. -/
theorem need_cases (plan : Plan) (entry : Entry) :
    (∃ spec, plan.Binds entry spec ∧ plan.need entry = plan) ∨
      ((∀ spec, ¬plan.Binds entry spec) ∧
        plan.need entry = ⟨(plan.newSpec entry).localName :: plan.reserved,
          Dict.put entry.path
            (Dict.put entry.exportName (plan.newSpec entry) (plan.specsOf entry.path))
            plan.schedule⟩) := by
  cases held : Dict.get? entry.exportName (plan.specsOf entry.path) with
  | some spec =>
      left
      refine ⟨spec, held, ?_⟩
      simp [need, Dict.has, held]
  | none =>
      right
      constructor
      · intro spec binds
        rw [Binds, held] at binds
        cases binds
      · simp [need, Dict.has, held]

/-- After a need, a declaration is bound as before, or it is of the pair that was new. -/
theorem binds_need_iff (plan : Plan) (entry other : Entry) (spec : ImportSpec) :
    (plan.need entry).Binds other spec ↔
      plan.Binds other spec ∨
        (∀ held, ¬plan.Binds entry held) ∧ other.pair = entry.pair ∧ spec = plan.newSpec entry := by
  constructor
  · intro binds
    rcases need_cases plan entry with ⟨held, bound, need_eq⟩ | ⟨unbound, need_eq⟩
    · rw [need_eq] at binds
      exact .inl binds
    · rw [need_eq, Binds, specsOf_put] at binds
      split at binds
      · rename_i samePath
        rw [Dict.get?_put] at binds
        split at binds
        · rename_i sameName
          right
          exact ⟨unbound, Prod.ext samePath.symm sameName.symm, (Option.some.inj binds).symm⟩
        · rw [samePath] at binds
          exact .inl binds
      · exact .inl binds
  · rintro (binds | ⟨unbound, same, rfl⟩)
    · exact binds.need entry
    · rcases need_cases plan entry with ⟨held, bound, -⟩ | ⟨-, need_eq⟩
      · exact absurd bound (unbound held)
      · rw [binds_iff_of_pair_eq same, need_eq, Binds, specsOf_put, if_pos rfl, Dict.get?_put,
          if_pos rfl]

/-- The producer of a needed declaration comes last among the producers unless it is there. -/
theorem keys_schedule_need (plan : Plan) (entry : Entry) :
    Dict.keys (plan.need entry).schedule =
      if entry.path ∈ Dict.keys plan.schedule then Dict.keys plan.schedule
      else Dict.keys plan.schedule ++ [entry.path] := by
  rcases need_cases plan entry with ⟨spec, bound, need_eq⟩ | ⟨-, need_eq⟩
  · rw [need_eq, if_pos bound.producer_mem_keys]
  · rw [need_eq, Dict.keys_put]

/-- So does its name among those of its producer; the other producers keep their names. -/
theorem keys_specsOf_need (plan : Plan) (entry : Entry) (producer : Path) :
    Dict.keys ((plan.need entry).specsOf producer) =
      if entry.path = producer ∧ entry.exportName ∉ Dict.keys (plan.specsOf producer) then
        Dict.keys (plan.specsOf producer) ++ [entry.exportName]
      else Dict.keys (plan.specsOf producer) := by
  rcases need_cases plan entry with ⟨spec, bound, need_eq⟩ | ⟨-, need_eq⟩
  · rw [need_eq, if_neg]
    rintro ⟨rfl, absent⟩
    exact absent (exists_binds_iff_mem_keys.mp ⟨spec, bound⟩)
  · rw [need_eq, specsOf_put]
    by_cases samePath : entry.path = producer
    · subst samePath
      rw [if_pos rfl, Dict.keys_put]
      by_cases inside : entry.exportName ∈ Dict.keys (plan.specsOf entry.path)
      · simp [inside]
      · simp [inside]
    · simp [samePath]

theorem mem_reserved_need (plan : Plan) (entry : Entry) (name : Text) :
    name ∈ (plan.need entry).reserved ↔
      name ∈ plan.reserved ∨
        (∀ held, ¬plan.Binds entry held) ∧ name = (plan.newSpec entry).localName := by
  rcases need_cases plan entry with ⟨spec, bound, need_eq⟩ | ⟨unbound, need_eq⟩
  · rw [need_eq]
    constructor
    · exact .inl
    · rintro (reserved | ⟨unbound, -⟩)
      · exact reserved
      · exact absurd bound (unbound spec)
  · rw [need_eq, List.mem_cons, or_comm]
    simp [unbound]

/-- A new spec is aliased when the name of its declaration is reserved. -/
theorem isSome_alias?_newSpec (plan : Plan) (entry : Entry) :
    (plan.newSpec entry).alias?.isSome ↔ entry.exportName ∈ plan.reserved := by
  unfold newSpec
  split
  · rename_i taken
    simpa using taken
  · rename_i free
    simpa using free

/-! ## What a run of needs does -/

/-- A plan as it should be after the given declarations were needed, some names being taken. -/
structure Serves (taken : List Text) (hits : List Entry) (plan : Plan) : Prop where
  /-- The producers, in the order of first use. -/
  producers : Dict.keys plan.schedule = (hits.map Entry.path).eraseDups
  /-- The names of every producer, in the order of first use. -/
  names : ∀ producer, Dict.keys (plan.specsOf producer) =
    ((hits.filter fun hit => hit.path = producer).map Entry.exportName).eraseDups
  /-- A spec imports the name it is listed under. -/
  exported : ∀ entry spec, plan.Binds entry spec → spec.exportName = entry.exportName
  /-- A name is reserved when it was taken from the start or is bound. -/
  reserved : ∀ name, name ∈ plan.reserved ↔
    name ∈ taken ∨ ∃ entry spec, plan.Binds entry spec ∧ spec.localName = name
  /-- No name is bound that was taken from the start. -/
  apart : ∀ entry spec, plan.Binds entry spec → spec.localName ∉ taken
  /-- Different pairs have different names. -/
  distinct : ∀ one other first second, plan.Binds one first → plan.Binds other second →
    first.localName = second.localName → one.pair = other.pair

theorem serves_start (taken : List Text) : (start taken).Serves taken [] where
  producers := rfl
  names _ := rfl
  exported _ _ binds := by cases binds
  reserved name := by simp [start, Binds, specsOf]
  apart _ _ binds := by cases binds
  distinct _ _ _ _ binds := by cases binds

theorem Serves.exists_binds_iff (serves : plan.Serves taken hits) (entry : Entry) :
    (∃ spec, plan.Binds entry spec) ↔ entry.pair ∈ hits.map Entry.pair := by
  rw [exists_binds_iff_mem_keys, serves.names, List.mem_eraseDups]
  simp [Entry.pair, and_assoc]

/-- Every bound name is reserved. -/
theorem Serves.localName_mem_reserved (serves : plan.Serves taken hits)
    (binds : plan.Binds entry spec) : spec.localName ∈ plan.reserved :=
  (serves.reserved _).mpr (.inr ⟨entry, spec, binds, rfl⟩)

theorem Serves.need (serves : plan.Serves taken hits) (entry : Entry) :
    (plan.need entry).Serves taken (hits ++ [entry]) := by
  have fresh := plan.localName_newSpec_not_mem entry
  constructor
  case producers =>
    rw [keys_schedule_need, List.map_append, List.map_singleton, eraseDups_concat,
      serves.producers]
  case names =>
    intro producer
    rw [keys_specsOf_need, List.filter_append, serves.names]
    by_cases samePath : entry.path = producer
    · simp only [samePath, true_and, ite_not, List.filter_singleton, decide_true, cond_true,
        List.map_append, List.map_singleton, eraseDups_concat]
    · simp [samePath]
  case exported =>
    intro other spec binds
    rcases (binds_need_iff plan entry other spec).mp binds with old | ⟨-, same, rfl⟩
    · exact serves.exported other spec old
    · rw [exportName_newSpec]
      exact (Prod.mk.inj same).2.symm
  case reserved =>
    intro name
    rw [mem_reserved_need, serves.reserved, or_assoc]
    apply or_congr_right
    constructor
    · rintro (⟨other, spec, binds, rfl⟩ | ⟨unbound, rfl⟩)
      · exact ⟨other, spec, binds.need entry, rfl⟩
      · exact ⟨entry, _, (binds_need_iff ..).mpr (.inr ⟨unbound, rfl, rfl⟩), rfl⟩
    · rintro ⟨other, spec, binds, rfl⟩
      rcases (binds_need_iff plan entry other spec).mp binds with old | ⟨unbound, -, rfl⟩
      · exact .inl ⟨other, spec, old, rfl⟩
      · exact .inr ⟨unbound, rfl⟩
  case apart =>
    intro other spec binds
    rcases (binds_need_iff plan entry other spec).mp binds with old | ⟨-, -, rfl⟩
    · exact serves.apart other spec old
    · intro isTaken
      exact fresh ((serves.reserved _).mpr (.inl isTaken))
  case distinct =>
    -- A new name is not reserved, but every name bound before is.
    intro one other first second bindsOne bindsOther same
    rcases (binds_need_iff plan entry one first).mp bindsOne with oldOne | ⟨-, pairOne, rfl⟩
    · rcases (binds_need_iff plan entry other second).mp bindsOther with oldOther | ⟨-, -, rfl⟩
      · exact serves.distinct one other first second oldOne oldOther same
      · exact absurd (same ▸ serves.localName_mem_reserved oldOne) fresh
    · rcases (binds_need_iff plan entry other second).mp bindsOther with
        oldOther | ⟨-, pairOther, rfl⟩
      · exact absurd (same ▸ serves.localName_mem_reserved oldOther) fresh
      · exact pairOne.trans pairOther.symm

/-- A run of needs serves what was needed, one declaration after the other. -/
theorem Serves.foldl_need (serves : plan.Serves taken hits) (more : List Entry) :
    (more.foldl Plan.need plan).Serves taken (hits ++ more) := by
  induction more generalizing plan hits with
  | nil => simpa using serves
  | cons hit rest ih =>
      have later := ih (serves.need hit)
      rwa [List.append_assoc, List.singleton_append] at later

theorem Binds.foldl_need (binds : plan.Binds entry spec) (more : List Entry) :
    (more.foldl Plan.need plan).Binds entry spec := by
  induction more generalizing plan with
  | nil => exact binds
  | cons hit rest ih => exact ih (binds.need hit)

/-- A pair is aliased exactly when, as it is first needed, its plain name is taken from the start or
by a pair needed before. -/
theorem isSome_alias?_iff_taken {before after : List Entry} {hit : Entry}
    (new : hit.pair ∉ before.map Entry.pair)
    (binds : ((before ++ hit :: after).foldl Plan.need (start taken)).Binds hit spec) :
    spec.alias?.isSome ↔ hit.exportName ∈ taken ∨ ∃ earlier ∈ before, ∃ held,
      ((before ++ hit :: after).foldl Plan.need (start taken)).Binds earlier held ∧
        held.localName = hit.exportName := by
  let early := before.foldl Plan.need (start taken)
  have final_eq : (before ++ hit :: after).foldl Plan.need (start taken) =
      after.foldl Plan.need (early.need hit) := by
    rw [List.foldl_append, List.foldl_cons]
  rw [final_eq] at binds ⊢
  have serves : early.Serves taken before := (serves_start taken).foldl_need before
  -- The pair got its spec from the plan it was first needed in, and has kept it since.
  have spec_eq : spec = early.newSpec hit := by
    have unbound : ∀ held, ¬early.Binds hit held := fun held bound =>
      new ((serves.exists_binds_iff hit).mp ⟨held, bound⟩)
    have bound := (binds_need_iff early hit hit _).mpr (.inr ⟨unbound, rfl, rfl⟩)
    exact binds.unique (bound.foldl_need after)
  have kept : ∀ entry held, early.Binds entry held →
      (after.foldl Plan.need (early.need hit)).Binds entry held := fun entry held bound =>
    (bound.need hit).foldl_need after
  rw [spec_eq, isSome_alias?_newSpec, serves.reserved]
  apply or_congr_right
  constructor
  · rintro ⟨entry, held, bound, name_eq⟩
    have needed := (serves.exists_binds_iff entry).mp ⟨held, bound⟩
    rcases List.mem_map.mp needed with ⟨earlier, member, same⟩
    have boundEarlier := (binds_iff_of_pair_eq same).mpr bound
    exact ⟨earlier, member, held, kept earlier held boundEarlier, name_eq⟩
  · rintro ⟨earlier, member, held, bound, name_eq⟩
    have needed := List.mem_map_of_mem (f := Entry.pair) member
    rcases (serves.exists_binds_iff earlier).mpr needed with ⟨first, boundFirst⟩
    have held_eq := bound.unique (kept earlier first boundFirst)
    exact ⟨earlier, first, boundFirst, held_eq ▸ name_eq⟩

end Plan

namespace Resolution

/-- The declaration in another file that a reference meets. -/
def crossing? (tables : Tables) (index : Index) (consumer : Path) (reference : Reference) :
    Option Entry :=
  match Target.find? tables index reference with
  | some (.declaration entry) => if entry.path = consumer then none else some entry
  | some (.expression _) => none
  | none => none

/-- The declarations that the placeholders of a file meet in other files, in file order. -/
def crossings (tables : Tables) (index : Index) (analysis : Analysis) : List Entry :=
  analysis.placeholders.filterMap fun placeholder =>
    crossing? tables index analysis.path placeholder.toReference

variable {tables : Tables} {index : Index} {consumer : Path} {reference : Reference}

theorem path_ne_of_crossing? {entry : Entry}
    (met : crossing? tables index consumer reference = some entry) : entry.path ≠ consumer := by
  unfold crossing? at met
  split at met
  · split at met
    · cases met
    · rename_i apart
      exact Option.some.inj met ▸ apart
  · cases met
  · cases met

/-- A decision imports a declaration exactly when the reference meets it in another file. -/
theorem settle_eq_crossFile_iff (plan : Plan) (entry : Entry) (name : Text) :
    (settle tables index consumer plan reference).1 = .crossFile entry name ↔
      crossing? tables index consumer reference = some entry ∧ plan.localName entry = name := by
  unfold settle crossing?
  cases Target.find? tables index reference with
  | none => simp
  | some target =>
      cases target with
      | expression expression => simp
      | declaration found =>
          by_cases inside : found.path = consumer
          · simp [inside]
          · simp only [inside, if_false, Decision.crossFile.injEq, Option.some.injEq]
            constructor
            · rintro ⟨rfl, rfl⟩
              exact ⟨rfl, rfl⟩
            · rintro ⟨rfl, rfl⟩
              exact ⟨rfl, rfl⟩

theorem settle_plan_eq (plan : Plan) :
    (settle tables index consumer plan reference).2 =
      (crossing? tables index consumer reference).elim plan plan.need := by
  unfold settle crossing?
  cases Target.find? tables index reference with
  | none => rfl
  | some target =>
      cases target with
      | expression expression => rfl
      | declaration found =>
          by_cases inside : found.path = consumer
          · simp [inside]
          · simp [inside]

/-- The plan of a run needs what the references meet in other files. -/
theorem settleAll_plan_eq (plan : Plan) (placeholders : List Placeholder) :
    (settleAll tables index consumer plan placeholders).plan =
      (placeholders.filterMap fun placeholder =>
        crossing? tables index consumer placeholder.toReference).foldl Plan.need plan := by
  induction placeholders generalizing plan with
  | nil => rfl
  | cons placeholder rest ih =>
      rw [settleAll, ih, settle_plan_eq]
      cases met : crossing? tables index consumer placeholder.toReference with
      | none => simp [met]
      | some entry => simp [met]

theorem ofAnalysis_plan_eq (tables : Tables) (index : Index) (analysis : Analysis) :
    (ofAnalysis tables index analysis).plan =
      (crossings tables index analysis).foldl Plan.need
        (Plan.start (analysis.exports ++ syntheticExports tables analysis.fileName)) :=
  settleAll_plan_eq _ _

/-- The plan of a file serves what its placeholders meet in other files, which is never the file
itself.  A placeholder is replaced by the name its pair is bound to, and a pair is aliased exactly
when its plain name was taken when it was first met. -/
theorem plan_serves_crossings (tables : Tables) (index : Index) (analysis : Analysis) :
    let resolution := ofAnalysis tables index analysis
    let taken := analysis.exports ++ syntheticExports tables analysis.fileName
    let hits := crossings tables index analysis
    resolution.plan.Serves taken hits ∧
      analysis.path ∉ Dict.keys resolution.plan.schedule ∧
      (∀ step ∈ resolution.steps, ∀ entry,
        crossing? tables index analysis.path step.reference = some entry ↔
          ∃ spec, resolution.plan.Binds entry spec ∧
            step.decision = .crossFile entry spec.localName) ∧
      ∀ before hit after spec, hits = before ++ hit :: after →
        hit.pair ∉ before.map Entry.pair → resolution.plan.Binds hit spec →
          (spec.alias?.isSome ↔ hit.exportName ∈ taken ∨ ∃ earlier ∈ before, ∃ held,
            resolution.plan.Binds earlier held ∧ held.localName = hit.exportName) := by
  intro resolution taken hits
  have plan_eq : resolution.plan = hits.foldl Plan.need (Plan.start taken) :=
    ofAnalysis_plan_eq tables index analysis
  have serves : resolution.plan.Serves taken hits := by
    rw [plan_eq]
    exact (Plan.serves_start taken).foldl_need hits
  refine ⟨serves, ?_, ?_, ?_⟩
  · rw [serves.producers, List.mem_eraseDups]
    intro member
    rcases List.mem_map.mp member with ⟨entry, met, path_eq⟩
    rcases List.mem_filterMap.mp met with ⟨placeholder, -, found⟩
    exact path_ne_of_crossing? found path_eq
  · intro step member entry
    have decided : step.decision =
        (settle tables index analysis.path resolution.plan step.reference).1 :=
      decision_eq_settle member
    constructor
    · intro met
      have listed : entry ∈ hits :=
        List.mem_filterMap.mpr ⟨step.placeholder, placeholder_mem member, met⟩
      have needed := List.mem_map_of_mem (f := Entry.pair) listed
      rcases (serves.exists_binds_iff entry).mpr needed with ⟨spec, binds⟩
      refine ⟨spec, binds, ?_⟩
      rw [decided, settle_eq_crossFile_iff]
      exact ⟨met, binds.localName_eq⟩
    · rintro ⟨spec, -, imported⟩
      rw [decided, settle_eq_crossFile_iff] at imported
      exact imported.1
  · intro before hit after spec split new binds
    rw [plan_eq, split] at binds ⊢
    exact Plan.isSome_alias?_iff_taken new binds

/-- A declaration whose name the importing file exports itself. -/
def aclGate : Entry :=
  ⟨.ofText "gen/authcrunch-acl.ts".toList, "Gate".toList, "acl".toList⟩

/-- A declaration whose name is the alias that the other one gets. -/
def uiAclGate : Entry :=
  ⟨.ofText "gen/authcrunch-ui.ts".toList, "AclGate".toList, "ui".toList⟩

/-- A file that refers to both, to the first of them twice. -/
def gateFile : Analysis :=
  ⟨.ofText "gen/caddy-web.ts".toList, "web".toList, .core, ["Gate".toList],
    [⟨⟨"acl".toList, "Gate".toList⟩, 2⟩, ⟨⟨"ui".toList, "AclGate".toList⟩, 3⟩,
      ⟨⟨"acl".toList, "Gate".toList⟩, 4⟩]⟩

/-- An alias takes the plain name of a declaration that is met later. -/
theorem plan_serves_crossings_of_gates :
    let index : Index := ⟨[("acl.Gate".toList, aclGate), ("ui.AclGate".toList, uiAclGate)]⟩
    let plan := (ofAnalysis Tables.default index gateFile).plan
    plan.Serves ["Gate".toList] [aclGate, uiAclGate, aclGate] ∧
      plan.Binds uiAclGate ⟨"AclGate".toList, some "UiAclGate".toList⟩ ∧
      ∃ held, plan.Binds aclGate held ∧ held.localName = "AclGate".toList := by
  intro index plan
  have planned := plan_serves_crossings Tables.default index gateFile
  have taken_eq : gateFile.exports ++ syntheticExports Tables.default gateFile.fileName =
      ["Gate".toList] := by
    decide +kernel
  have hits_eq : crossings Tables.default index gateFile = [aclGate, uiAclGate, aclGate] := by
    rw [Tables.default_eq_decoded]
    decide +kernel
  have bound : plan.Binds uiAclGate ⟨"AclGate".toList, some "UiAclGate".toList⟩ := by
    simp only [plan, Plan.Binds, Tables.default_eq_decoded]
    decide +kernel
  rw [taken_eq, hits_eq] at planned
  rcases planned with ⟨serves, -, -, aliased⟩
  refine ⟨serves, bound, ?_⟩
  have taken := (aliased [aclGate] uiAclGate [aclGate] _ rfl (by decide +kernel) bound).mp rfl
  rcases taken.resolve_left (by decide +kernel) with ⟨earlier, member, held⟩
  exact List.mem_singleton.mp member ▸ held

end Resolution

end DeclLinker
