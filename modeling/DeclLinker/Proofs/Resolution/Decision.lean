import DeclLinker.Proofs.Source.Scan
import DeclLinker.Resolution

/-!
# Decisions depend on the reference alone

The decisions for a file are taken one after the other, each in view of the plan the earlier ones
left.  A plan only grows, and a declaration that is in it keeps its local name.  So every decision
is the one that the final plan would give, and placeholders of one text are decided alike.
-/

namespace DeclLinker

/-- The reference a step is about. -/
def Step.reference (step : Step) : Reference :=
  step.placeholder.toReference

namespace Plan

/-- A plan binds a declaration when it imports it under some local name. -/
def Binds (plan : Plan) (entry : Entry) (spec : ImportSpec) : Prop :=
  Dict.get? entry.exportName (plan.specsOf entry.path) = some spec

theorem Binds.localName_eq {plan : Plan} {entry : Entry} {spec : ImportSpec}
    (binds : plan.Binds entry spec) : plan.localName entry = spec.localName := by
  rw [Binds] at binds
  simp [localName, binds]

theorem specsOf_put (plan : Plan) (reserved : List Text) (producer other : Path)
    (specs : Dict Text ImportSpec) :
    specsOf ⟨reserved, Dict.put producer specs plan.schedule⟩ other =
      if producer = other then specs else plan.specsOf other := by
  rw [specsOf, Dict.get?_put]
  split
  · rfl
  · rfl

/-- A declaration that is needed is bound, to the name that was announced for it. -/
theorem binds_need (plan : Plan) (entry : Entry) :
    ∃ spec, (plan.need entry).Binds entry spec ∧ spec.localName = plan.localName entry := by
  cases held : Dict.get? entry.exportName (plan.specsOf entry.path) with
  | some spec =>
      have has : Dict.has entry.exportName (plan.specsOf entry.path) = true := by
        simp [Dict.has, held]
      refine ⟨spec, ?_, ?_⟩
      · rw [need, if_pos has, Binds, held]
      · simp [localName, held]
  | none =>
      have absent : ¬Dict.has entry.exportName (plan.specsOf entry.path) = true := by
        simp [Dict.has, held]
      refine ⟨plan.newSpec entry, ?_, ?_⟩
      · rw [need, if_neg absent, Binds, specsOf_put, if_pos rfl, Dict.get?_put, if_pos rfl]
      · simp [localName, held]

/-- What a plan binds stays bound. -/
theorem Binds.need {plan : Plan} {entry : Entry} {spec : ImportSpec}
    (binds : plan.Binds entry spec) (other : Entry) : (plan.need other).Binds entry spec := by
  by_cases has : Dict.has other.exportName (plan.specsOf other.path) = true
  · rwa [Plan.need, if_pos has]
  · rw [Plan.need, if_neg has, Binds, specsOf_put]
    split
    · rename_i samePath
      rw [Dict.get?_put]
      split
      · -- The other declaration would be bound already.
        rename_i sameName
        rw [Binds, ← samePath, ← sameName] at binds
        simp [Dict.has, binds] at has
      · rwa [samePath]
    · exact binds

end Plan

namespace Resolution

open Text

variable {tables : Tables} {index : Index} {path : Path}

theorem binds_settle {plan : Plan} {entry : Entry} {spec : ImportSpec}
    (binds : plan.Binds entry spec) (reference : Reference) :
    (settle tables index path plan reference).2.Binds entry spec := by
  unfold Resolution.settle
  split
  · exact binds
  · exact binds
  · split
    · exact binds
    · exact binds.need _

theorem binds_settleAll {plan : Plan} {entry : Entry} {spec : ImportSpec}
    (binds : plan.Binds entry spec) (placeholders : List Placeholder) :
    (settleAll tables index path plan placeholders).plan.Binds entry spec := by
  induction placeholders generalizing plan with
  | nil => exact binds
  | cons placeholder rest ih => exact ih (binds_settle binds placeholder.toReference)

/-- A decision is the one that any plan grown from it gives again. -/
theorem settle_later (plan : Plan) (reference : Reference) (placeholders : List Placeholder) :
    (settle tables index path
        (settleAll tables index path (settle tables index path plan reference).2
          placeholders).plan reference).1 =
      (settle tables index path plan reference).1 := by
  cases target : Target.find? tables index reference with
  | none => simp [settle, target]
  | some found =>
      cases found with
      | expression expression => simp [settle, target]
      | declaration entry =>
          by_cases inside : entry.path = path
          · simp [settle, target, inside]
          · simp only [settle, target, inside, if_false]
            obtain ⟨spec, binds, name_eq⟩ := plan.binds_need entry
            have later : (settleAll tables index path (plan.need entry)
                placeholders).plan.Binds entry spec := binds_settleAll binds placeholders
            rw [later.localName_eq, name_eq]

/-- Every step is decided as the final plan decides it. -/
theorem decision_eq_settle {plan : Plan} {placeholders : List Placeholder} {step : Step}
    (member : step ∈ (settleAll tables index path plan placeholders).steps) :
    step.decision = (settle tables index path
      (settleAll tables index path plan placeholders).plan step.placeholder.toReference).1 := by
  induction placeholders generalizing plan with
  | nil => cases member
  | cons placeholder rest ih =>
      rcases List.mem_cons.1 member with rfl | later
      · exact (settle_later plan placeholder.toReference rest).symm
      · exact ih later

theorem settleAll_map_placeholder (plan : Plan) (placeholders : List Placeholder) :
    (settleAll tables index path plan placeholders).steps.map Step.placeholder = placeholders := by
  induction placeholders generalizing plan with
  | nil => rfl
  | cons placeholder rest ih => simp [settleAll, ih]

/-- The steps go through the placeholders of the analysis in order. -/
theorem ofAnalysis_map_placeholder (tables : Tables) (index : Index) (analysis : Analysis) :
    (ofAnalysis tables index analysis).steps.map Step.placeholder = analysis.placeholders :=
  settleAll_map_placeholder _ _

theorem placeholder_mem {tables : Tables} {index : Index} {analysis : Analysis} {step : Step}
    (member : step ∈ (ofAnalysis tables index analysis).steps) :
    step.placeholder ∈ analysis.placeholders := by
  rw [← ofAnalysis_map_placeholder tables index analysis]
  exact List.mem_map_of_mem member

/-- Steps for one reference are decided alike. -/
theorem decision_eq_of_reference_eq {tables : Tables} {index : Index} {analysis : Analysis}
    {first second : Step} (one : first ∈ (ofAnalysis tables index analysis).steps)
    (other : second ∈ (ofAnalysis tables index analysis).steps)
    (same : first.reference = second.reference) :
    first.decision = second.decision := by
  have sameName : first.placeholder.toReference = second.placeholder.toReference := same
  rw [decision_eq_settle one, decision_eq_settle other, sameName]

theorem resolved_add_length_unresolved (resolution : Resolution) :
    resolution.resolved + resolution.unresolved.length = resolution.steps.length := by
  have parts := List.length_eq_countP_add_countP (fun step : Step => step.decision.isResolved)
    (l := resolution.steps)
  simp only [Bool.not_eq_true, Bool.decide_eq_false] at parts
  rw [resolved, unresolved, List.length_map, ← List.countP_eq_length_filter, parts]

section OwnAnalysis

variable {tables : Tables} {index : Index} {families : List Text} {path : Path} {tier : Tier}
  {text : Text} {step : Step}

theorem placeholder_mem_scan
    (member : step ∈ (ofAnalysis tables index (Analysis.ofText families path tier text)).steps) :
    step.placeholder ∈ (Scan.ofText text).placeholders :=
  placeholder_mem member

theorem reference_spelled
    (member : step ∈ (ofAnalysis tables index (Analysis.ofText families path tier text)).steps) :
    step.reference.Spelled :=
  Scan.spelled_of_mem_placeholders (placeholder_mem_scan member)

/-- The steps of a file's own analysis go through the references recognised in its text. -/
theorem ofAnalysis_map_reference (tables : Tables) (index : Index) (families : List Text)
    (path : Path) (tier : Tier) (text : Text) :
    (ofAnalysis tables index (Analysis.ofText families path tier text)).steps.map Step.reference =
      findAll Reference.recognise text := by
  have inOrder := ofAnalysis_map_placeholder tables index (Analysis.ofText families path tier text)
  calc
    (ofAnalysis tables index (Analysis.ofText families path tier text)).steps.map Step.reference
      = ((ofAnalysis tables index (Analysis.ofText families path tier text)).steps.map
          Step.placeholder).map Placeholder.toReference := by
        rw [List.map_map]
        rfl
    _ = (Scan.ofText text).placeholders.map Placeholder.toReference := by
        rw [inOrder]
        rfl
    _ = findAll Reference.recognise text := Scan.placeholders_map_toReference text

end OwnAnalysis

end Resolution

end DeclLinker
