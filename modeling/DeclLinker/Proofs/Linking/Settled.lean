import DeclLinker.Linked
import DeclLinker.Proofs.Repair.Mending
import DeclLinker.Proofs.Resolution.Decision

/-!
# Texts that linking leaves alone

A text is settled when no stage has anything to do: no rule would change a stretch of it, its
hand-written declarations are there, and no reference recognised in it denotes anything.  Linking
reports a change exactly for the texts that are not settled, and a settled text comes out as it went
in.
-/

namespace DeclLinker

open Text

namespace Resolution

variable {tables : Tables} {index : Index}

/-- A reference is resolved exactly when it denotes something. -/
theorem settle_isResolved (path : Path) (plan : Plan) (reference : Reference) :
    (settle tables index path plan reference).1.isResolved =
      (Target.find? tables index reference).isSome := by
  unfold settle
  cases target : Target.find? tables index reference with
  | none => rfl
  | some found =>
      cases found with
      | expression expression => rfl
      | declaration entry =>
          dsimp only
          split
          · rfl
          · rfl

theorem isResolved_of_mem {analysis : Analysis} {step : Step}
    (member : step ∈ (ofAnalysis tables index analysis).steps) :
    step.decision.isResolved = (Target.find? tables index step.reference).isSome := by
  rw [decision_eq_settle member, settle_isResolved]
  rfl

/-- Without anything resolved, nothing is planned. -/
theorem settleAll_plan_of_unknown {path : Path} {placeholders : List Placeholder}
    (unknown : ∀ placeholder ∈ placeholders,
      Target.find? tables index placeholder.toReference = none) (plan : Plan) :
    (settleAll tables index path plan placeholders).plan = plan := by
  induction placeholders generalizing plan with
  | nil => rfl
  | cons placeholder rest ih =>
      have first := unknown placeholder List.mem_cons_self
      have later := ih (fun other member => unknown other (.tail placeholder member)) plan
      simpa [settleAll, settle, first] using later

theorem foldl_edit_of_unresolved {steps : List Step}
    (stays : ∀ step ∈ steps, step.decision.isResolved = false) (text : Text) :
    steps.foldl Step.edit text = text := by
  induction steps with
  | nil => rfl
  | cons step steps ih =>
      have nothing : step.decision.replacement? = none := by
        simpa [Decision.isResolved] using stays step List.mem_cons_self
      rw [List.foldl_cons, Step.edit, nothing]
      exact ih fun other member => stays other (.tail step member)

end Resolution

namespace Linked

/-- A text of a file in which no stage finds anything to do. -/
structure Settled (tables : Tables) (index : Index) (fileName text : Text) : Prop where
  rules : ∀ rule ∈ tables.rules, rule.count text = 0
  declared : (Dict.get? fileName tables.synthetic).isSome = true →
    tables.marker.occursIn text = true
  unknown : ∀ reference ∈ findAll Reference.recognise text,
    Target.find? tables index reference = none

instance (tables : Tables) (index : Index) (fileName text : Text) :
    Decidable (Settled tables index fileName text) :=
  decidable_of_iff
    ((∀ rule ∈ tables.rules, rule.count text = 0) ∧
      ((Dict.get? fileName tables.synthetic).isSome = true →
        tables.marker.occursIn text = true) ∧
      ∀ reference ∈ findAll Reference.recognise text, Target.find? tables index reference = none)
    ⟨fun ⟨rules, declared, unknown⟩ => ⟨rules, declared, unknown⟩,
      fun settled => ⟨settled.rules, settled.declared, settled.unknown⟩⟩

variable {tables : Tables} {index : Index} (here : Location) (suffix : Text)
  (families : List Text) (path : Path) (tier : Tier)

theorem resolved_eq_zero_iff (text : Text) :
    (Resolution.ofAnalysis tables index (Analysis.ofText families path tier text)).resolved = 0 ↔
      ∀ reference ∈ findAll Reference.recognise text,
        Target.find? tables index reference = none := by
  have inOrder := Resolution.ofAnalysis_map_reference tables index families path tier text
  rw [Resolution.resolved, List.countP_eq_zero, ← inOrder, List.forall_mem_map]
  refine forall₂_congr fun step member => ?_
  rw [Resolution.isResolved_of_mem member]
  simp

theorem added_eq_zero_iff (fileName text : Text) :
    (Placed.declarations tables fileName text).added = 0 ↔
      ((Dict.get? fileName tables.synthetic).isSome = true →
        tables.marker.occursIn text = true) := by
  unfold Placed.declarations
  split
  · rename_i absent
    simp [absent]
  · rename_i block listed
    split
    · rename_i marked
      simp [listed, marked]
    · rename_i unmarked
      simp [listed, unmarked]

theorem changed_eq_false_iff_counts (analysis : Analysis) (text : Text) :
    (ofText here tables suffix index analysis text).report.changed = false ↔
      (Resolution.ofAnalysis tables index analysis).resolved = 0 ∧
        (Repaired.ofRules tables.rules text).count = 0 ∧
        (Placed.declarations tables analysis.fileName
          (Repaired.ofRules tables.rules text).text).added = 0 := by
  have changed_eq : (ofText here tables suffix index analysis text).report.changed =
      (decide (0 < ((Resolution.ofAnalysis tables index analysis).resolved : Int)) ||
        decide (0 < ((Repaired.ofRules tables.rules text).count : Int)) ||
        decide (0 < (Placed.declarations tables analysis.fileName
          (Repaired.ofRules tables.rules text).text).added)) := rfl
  rw [changed_eq, Bool.or_eq_false_iff, Bool.or_eq_false_iff, decide_eq_false_iff_not,
    decide_eq_false_iff_not, decide_eq_false_iff_not]
  omega

/-- Linking reports a change exactly for the texts that are not settled. -/
theorem changed_eq_false_iff (regular : ∀ rule ∈ tables.rules, rule.isRegular = true)
    (text : Text) :
    (ofText here tables suffix index (Analysis.ofText families path tier text)
        text).report.changed = false ↔ Settled tables index path.name text := by
  have name_eq : (Analysis.ofText families path tier text).fileName = path.name := rfl
  rw [changed_eq_false_iff_counts, resolved_eq_zero_iff, Repaired.count_ofRules_eq_zero_iff regular,
    name_eq]
  constructor
  · rintro ⟨unknown, rules, added⟩
    rw [Repaired.ofRules_eq_self regular rules] at added
    exact ⟨rules, (added_eq_zero_iff _ _).1 added, unknown⟩
  · intro settled
    refine ⟨settled.unknown, settled.rules, ?_⟩
    rw [Repaired.ofRules_eq_self regular settled.rules]
    exact (added_eq_zero_iff _ _).2 settled.declared

theorem declarations_text_of_added {fileName text : Text}
    (nothing : (Placed.declarations tables fileName text).added = 0) :
    (Placed.declarations tables fileName text).text = text := by
  unfold Placed.declarations at nothing ⊢
  split at nothing
  · rfl
  · split at nothing
    · rename_i marked
      rw [if_pos marked]
    · cases nothing

/-- A settled text comes out as it went in. -/
theorem text_of_settled (regular : ∀ rule ∈ tables.rules, rule.isRegular = true) {text : Text}
    (settled : Settled tables index path.name text) :
    (ofText here tables suffix index (Analysis.ofText families path tier text) text).text =
      text := by
  have repaired := Repaired.ofRules_eq_self regular settled.rules
  have declared : (Placed.declarations tables path.name text).text = text :=
    declarations_text_of_added ((added_eq_zero_iff _ _).2 settled.declared)
  have edited : (Resolution.ofAnalysis tables index
      (Analysis.ofText families path tier text)).edit text = text := by
    refine Resolution.foldl_edit_of_unresolved (fun step member => ?_) text
    have recognised : step.reference ∈ findAll Reference.recognise text := by
      rw [← Resolution.ofAnalysis_map_reference tables index families path tier text]
      exact List.mem_map_of_mem member
    rw [Resolution.isResolved_of_mem member, settled.unknown _ recognised]
    rfl
  have planned : (Resolution.ofAnalysis tables index
      (Analysis.ofText families path tier text)).plan.schedule = [] := by
    rw [Resolution.ofAnalysis, Resolution.settleAll_plan_of_unknown]
    · rfl
    · intro placeholder member
      refine settled.unknown _ ?_
      rw [← Scan.placeholders_map_toReference]
      exact List.mem_map_of_mem member
  have name_eq : (Analysis.ofText families path tier text).fileName = path.name := rfl
  simp only [ofText, repaired, name_eq, declared, edited, planned]
  rfl

end Linked

end DeclLinker
