import DeclLinker.Proofs.Import.Bound
import Mathlib.Data.List.Nodup
import Mathlib.Data.List.Perm.Subperm

/-!
# The local names of a plan

An alias is never reserved, because there are more candidates than reserved names.  So every name
that a plan binds differs from those that were taken from the start and from those it bound before.
The import statements of the plan bind exactly its names.
-/

namespace DeclLinker

open Text

namespace Alias

theorem candidate_injective (base : Text) : Function.Injective (candidate base) := by
  have digits : ∀ first second, Text.ofNat first = Text.ofNat second → first = second := by
    intro first second same
    have values := congrArg (Nat.ofDigitChars 10 · 0) same
    simpa [Text.ofNat, Nat.ofDigitChars_ten_toDigits] using values
  have numbered : ∀ number, Text.ofNat number ≠ [] := fun number => Nat.toDigits_ne_nil
  intro first second same
  cases first with
  | zero =>
      cases second with
      | zero => rfl
      | succ second => exact absurd (List.self_eq_append_right.1 same) (numbered _)
  | succ first =>
      cases second with
      | zero => exact absurd (List.append_right_eq_self.1 same) (numbered _)
      | succ second =>
          have number_eq := digits _ _ (List.append_cancel_left same)
          omega

/-- Some candidate is not reserved. -/
theorem exists_found (base : Text) (reserved : List Text) :
    ∃ name, (((List.range (reserved.length + 1)).map (candidate base)).find? fun name =>
      !reserved.contains name) = some name := by
  have candidates : ((List.range (reserved.length + 1)).map (candidate base)).Nodup :=
    List.Nodup.map (candidate_injective base) List.nodup_range
  cases found : ((List.range (reserved.length + 1)).map (candidate base)).find? fun name =>
      !reserved.contains name with
  | some name => exact ⟨name, rfl⟩
  | none =>
      -- More candidates than reserved names cannot all be reserved.
      have taken : (List.range (reserved.length + 1)).map (candidate base) ⊆ reserved := by
        intro name member
        have held := List.find?_eq_none.1 found name member
        simpa using held
      have short := (candidates.subperm taken).length_le
      rw [List.length_map, List.length_range] at short
      omega

/-- An alias is not reserved. -/
theorem mint_not_mem (base : Text) (reserved : List Text) : mint base reserved ∉ reserved := by
  obtain ⟨name, found⟩ := exists_found base reserved
  have free := List.find?_some found
  rw [mint, found]
  simpa using free

end Alias

namespace Plan

/-- The local names that a plan binds. -/
def planned (plan : Plan) : List Text :=
  plan.schedule.flatMap fun pair => pair.2.map fun pair => pair.2.localName

/-- A declaration that is not planned yet adds its local name. -/
theorem planned_need {plan : Plan} {entry : Entry}
    (new : Dict.has entry.exportName (plan.specsOf entry.path) = false) :
    (plan.need entry).planned.Perm ((plan.newSpec entry).localName :: plan.planned) := by
  let names : Dict Text ImportSpec → List Text := fun specs =>
    specs.map fun pair => pair.2.localName
  let specs := plan.specsOf entry.path
  let added := Dict.put entry.exportName (plan.newSpec entry) specs
  have addedNames : (names added).Perm ((plan.newSpec entry).localName :: names specs) := by
    obtain ⟨rest, before, after⟩ :=
      Dict.exists_perm_put entry.exportName (plan.newSpec entry) specs
    have absent : Dict.get? entry.exportName specs = none := by
      simpa [Dict.has] using new
    rw [absent] at before
    exact (after.map _).trans ((before.map _).symm.cons _)
  obtain ⟨rest, before, after⟩ := Dict.exists_perm_put entry.path added plan.schedule
  have old : plan.planned.Perm (names specs ++ rest.flatMap fun pair => names pair.2) := by
    refine (before.flatMap_right _).trans ?_
    change List.Perm _ (names ((Dict.get? entry.path plan.schedule).getD []) ++ _)
    cases Dict.get? entry.path plan.schedule with
    | none => exact .refl _
    | some held => exact .refl _
  have unplanned : ¬Dict.has entry.exportName specs = true := by simp [specs, new]
  rw [need, if_neg unplanned]
  calc
    (Plan.mk _ (Dict.put entry.path added plan.schedule)).planned.Perm
        (names added ++ rest.flatMap fun pair => names pair.2) := after.flatMap_right _
    List.Perm _ ((plan.newSpec entry).localName ::
        (names specs ++ rest.flatMap fun pair => names pair.2)) := addedNames.append_right _
    List.Perm _ ((plan.newSpec entry).localName :: plan.planned) := old.symm.cons _

theorem localName_newSpec_not_mem (plan : Plan) (entry : Entry) :
    (plan.newSpec entry).localName ∉ plan.reserved := by
  unfold newSpec
  split
  · exact Alias.mint_not_mem _ _
  · rename_i free
    exact fun member => free (List.contains_iff_mem.2 member)

theorem named_newSpec (plan : Plan) {entry : Entry} (named : entry.Named) :
    (plan.newSpec entry).Named := by
  have naming : ∀ char ∈ entry.exportName, isNaming char = true := fun char member =>
    isNaming_of_isWord (named.exportName_word char member)
  unfold newSpec
  split
  · exact ⟨naming, Alias.mint_ne_nil named _, Alias.mint_naming named _⟩
  · exact ⟨naming, named.exportName_ne, naming⟩

/-- The names of a plan differ from each other and from those that were taken, and all of them are
reserved. -/
structure Distinct (taken : List Text) (plan : Plan) : Prop where
  nodup : plan.planned.Nodup
  apart : ∀ name ∈ plan.planned, name ∉ taken
  reserved : ∀ name, name ∈ plan.planned ∨ name ∈ taken → name ∈ plan.reserved

theorem distinct_start (taken : List Text) : (start taken).Distinct taken where
  nodup := List.nodup_nil
  apart _ member := absurd member List.not_mem_nil
  reserved _ member := member.resolve_left List.not_mem_nil

theorem Distinct.need {taken : List Text} {plan : Plan} (distinct : plan.Distinct taken)
    (entry : Entry) : (plan.need entry).Distinct taken := by
  by_cases planned : Dict.has entry.exportName (plan.specsOf entry.path) = true
  · rw [Plan.need, if_pos planned]
    exact distinct
  · have new := planned_need (Bool.not_eq_true _ ▸ planned)
    have fresh := plan.localName_newSpec_not_mem entry
    have reserved_eq : (plan.need entry).reserved =
        (plan.newSpec entry).localName :: plan.reserved := by
      rw [Plan.need, if_neg planned]
    have unplanned : (plan.newSpec entry).localName ∉ plan.planned := fun member =>
      fresh (distinct.reserved _ (.inl member))
    refine ⟨new.nodup_iff.2 (List.nodup_cons.2 ⟨unplanned, distinct.nodup⟩),
      fun name member => ?_, fun name member => ?_⟩
    · rcases List.mem_cons.1 (new.mem_iff.1 member) with rfl | old
      · exact fun isTaken => fresh (distinct.reserved _ (.inr isTaken))
      · exact distinct.apart name old
    · rw [reserved_eq, List.mem_cons]
      rw [new.mem_iff, List.mem_cons, or_assoc] at member
      exact member.imp_right (distinct.reserved name)

end Plan

/-- The plan of a file binds different names, none of which the file or its hand-written
declarations export. -/
theorem Resolution.distinct_ofAnalysis (tables : Tables) (index : Index) (analysis : Analysis) :
    (ofAnalysis tables index analysis).plan.Distinct
      (analysis.exports ++ syntheticExports tables analysis.fileName) :=
  plan_induction (Plan.distinct_start _) fun _ _ entry distinct _ => distinct.need entry

namespace Plan

/-- Every spec of a plan is named when the entries of the index are. -/
theorem DrawnFrom.named {index : Index} {plan : Plan} (drawn : plan.DrawnFrom index)
    (entries : ∀ name entry, (name, entry) ∈ index.entries → entry.Named) {producer : Path}
    {specs : Dict Text ImportSpec} (member : (producer, specs) ∈ plan.schedule) :
    ∀ spec ∈ specs.map Prod.snd, spec.Named := by
  intro spec inside
  obtain ⟨⟨key, spec⟩, listed, rfl⟩ := List.mem_map.1 inside
  obtain ⟨name, entry, earlier, held, -, rfl⟩ := (drawn producer specs member).2 key spec listed
  exact earlier.named_newSpec (entries name entry held)

/-- Every producer of a plan has a statement. -/
theorem DrawnFrom.filter_schedule {index : Index} {plan : Plan} (drawn : plan.DrawnFrom index) :
    plan.schedule.filter (fun pair => !pair.2.isEmpty) = plan.schedule := by
  refine List.filter_eq_self.2 fun pair member => ?_
  simpa using (drawn pair.1 pair.2 member).1

/-- The statements of a plan bind its names. -/
theorem DrawnFrom.bound_statements {index : Index} {plan : Plan} (drawn : plan.DrawnFrom index)
    (entries : ∀ name entry, (name, entry) ∈ index.entries → entry.Named) (here : Location)
    (consumer : Path) (suffix : Text) :
    ((Import.statements here consumer suffix plan.schedule).flatMap Import.bound).Perm
      plan.planned := by
  rw [Import.statements, drawn.filter_schedule, List.flatMap_map, planned]
  refine List.Perm.flatMap_left _ fun pair member => ?_
  have some : pair.2.map Prod.snd ≠ [] := by simpa using (drawn pair.1 pair.2 member).1
  have bound := Import.bound_statement some (drawn.named entries member)
    (Path.specifier here consumer pair.1 suffix)
  rwa [List.map_map] at bound

end Plan

end DeclLinker
