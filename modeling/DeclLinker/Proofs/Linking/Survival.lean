import DeclLinker.Linked
import DeclLinker.Proofs.Repair.Mending
import DeclLinker.Proofs.Resolution.Decision
import DeclLinker.Proofs.Source.Occurrence
import DeclLinker.Settings.Basic

/-!
# Placeholders survive until their turn

The analysis of a file is taken before the repairs and before any block is placed, and every edit
replaces the first remaining occurrence of a placeholder text.  Repairs keep the recognised
references, a placed block can only add to them, and an edit takes away one reference at most.  So
the text always holds every reference that is still to be edited, as often as it is to be edited.
-/

namespace DeclLinker

namespace Reference

open Text

theorem findAll_tail (char : Char) (rest : Text) :
    (findAll recognise rest).Sublist (findAll recognise (char :: rest)) := by
  cases answer : recognise (char :: rest) with
  | none =>
      have same : findAll recognise (char :: rest) = findAll recognise rest := by
        rw [findAll, pieces_cons_of_none answer]
        rfl
      rw [same]
  | some found =>
      obtain ⟨reference, covered⟩ := found
      obtain ⟨spelled, -, after, whole⟩ := recognise_eq_some_iff.1 answer
      have rest_eq : rest = reference.text.tail ++ after := by
        rw [text_eq] at whole ⊢
        exact (List.cons.inj whole).2
      have tailApart : Recogniser.Apart recognise reference.text.tail after :=
        (spelled.apart_after after).mono_left (List.tail_suffix _)
      have tailEmpty : findAll recognise reference.text.tail = [] := by
        refine Recogniser.Clear.findAll_eq_nil (Recogniser.clear_of_not_infix recognise_isLocal ?_)
        rintro stretch other reads ⟨before, behind, tail_eq⟩
        -- The whole placeholder would run over the start of the inner one.
        obtain ⟨-, rfl⟩ := reads_iff.1 reads
        refine other.apart_before ('a' :: before) behind List.suffix_rfl List.prefix_rfl (by simp)
          (by simp [other.text_ne_nil]) (reads_iff.2 ⟨spelled, ?_⟩)
        rw [List.cons_append, ← List.append_assoc before, tail_eq, text_eq]
        rfl
      rw [whole, findAll_of_reads (reads_iff.2 ⟨spelled, rfl⟩), rest_eq,
        findAll_append recognise_isLocal tailApart, tailEmpty, List.nil_append]
      exact List.sublist_cons_self _ _

theorem findAll_behind (left right : Text) :
    (findAll recognise right).Sublist (findAll recognise (left ++ right)) := by
  induction left with
  | nil => exact List.Sublist.refl _
  | cons char left ih => exact ih.trans (findAll_tail char (left ++ right))

/-- Joining two texts loses no reference. -/
theorem findAll_sublist_append (left right : Text) :
    (findAll recognise left ++ findAll recognise right).Sublist
      (findAll recognise (left ++ right)) := by
  induction left using hits_induction recognise_isLocal with
  | clear text isClear =>
      rw [isClear.findAll_eq_nil, List.nil_append]
      exact findAll_behind text right
  | hit before stretch reference rest isClear reads apart ih =>
      obtain ⟨spelled, rfl⟩ := reads_iff.1 reads
      have whole : before ++ (reference.text ++ rest) ++ right =
          before ++ (reference.text ++ (rest ++ right)) := by simp
      rw [whole, spelled.findAll_around, spelled.findAll_around, List.append_assoc,
        List.cons_append]
      exact (List.append_sublist_append_left _).2 (ih.cons_cons reference)

/-- Nor does a text put between them. -/
theorem findAll_sublist_around (left middle right : Text) :
    (findAll recognise left ++ findAll recognise right).Sublist
      (findAll recognise (left ++ (middle ++ right))) :=
  ((List.append_sublist_append_left _).2 (findAll_behind middle right)).trans
    (findAll_sublist_append left (middle ++ right))

end Reference

open Text

/-- A block behind the banner line, or at the top, cuts no placeholder. -/
theorem Spliced.findAll_behind (banner block text : Text) :
    (findAll Reference.recognise text).Sublist
      (findAll Reference.recognise (behind banner block text).text) := by
  cases found : cut? (banner ++ ['\n']) text with
  | none =>
      simp only [behind, found]
      exact Reference.findAll_behind block text
  | some halves =>
      obtain ⟨before, rest⟩ := halves
      have boundary := Reference.apart_of_foreign_before
        (fun _ => Reference.Spelled.feed_not_mem) (before ++ banner) rest
      have text_eq : text = (before ++ banner ++ ['\n']) ++ rest := by
        rw [eq_append_of_cut? found]
        simp
      have placed_eq : (behind banner block text).text =
          (before ++ banner ++ ['\n']) ++ (block ++ rest) := by
        simp [behind, found]
      rw [placed_eq, text_eq, findAll_append Reference.recognise_isLocal boundary]
      exact Reference.findAll_sublist_around _ block rest

namespace Placed

theorem findAll_declarations (tables : Tables) (fileName text : Text) :
    (findAll Reference.recognise text).Sublist
      (findAll Reference.recognise (declarations tables fileName text).text) := by
  unfold declarations
  split
  · exact List.Sublist.refl _
  · split
    · exact List.Sublist.refl _
    · exact Spliced.findAll_behind _ _ text

theorem findAll_imports (here : Location) (banner suffix : Text) (consumer : Path)
    (schedule : Schedule) (text : Text) :
    (findAll Reference.recognise text).Sublist
      (findAll Reference.recognise (imports here banner suffix consumer schedule text).text) := by
  unfold imports
  dsimp only
  split
  · exact List.Sublist.refl _
  · exact Spliced.findAll_behind _ _ text

end Placed

namespace Step

/-- An edit takes away its own reference at most, and at most once. -/
theorem count_le_edit {step : Step} (spelled : step.reference.Spelled) (text : Text)
    (other : Reference) :
    (findAll Reference.recognise text).count other ≤
      (findAll Reference.recognise (step.edit text)).count other +
        [step.reference].count other := by
  cases replaced : step.decision.replacement? with
  | none =>
      simp only [edit, replaced]
      omega
  | some replacement =>
      simp only [edit, replaced]
      rcases replaceFirst_cases step.placeholder.text replacement text with
        ⟨-, same⟩ | ⟨before, rest, text_eq, edited_eq⟩
      · rw [same]
        omega
      · have kept := (Reference.findAll_sublist_around before replacement rest).count_le other
        have counted : (findAll Reference.recognise text).count other =
            (findAll Reference.recognise before).count other +
              ([step.reference].count other + (findAll Reference.recognise rest).count other) := by
          rw [text_eq]
          simp only [reference] at spelled ⊢
          rw [spelled.findAll_around, List.count_append, ← List.singleton_append, List.count_append]
        rw [List.count_append] at kept
        rw [edited_eq, counted]
        omega

theorem edit_of_unresolved {step : Step} (stays : step.decision.isResolved = false)
    (text : Text) : step.edit text = text := by
  have nothing : step.decision.replacement? = none := by
    simpa [Decision.isResolved] using stays
  simp [edit, nothing]

/-- The text holds every reference of the steps at least as often as the steps name it. -/
def Covered (steps : List Step) (text : Text) : Prop :=
  ∀ other, (steps.map reference).count other ≤ (findAll Reference.recognise text).count other

theorem Covered.edit {step : Step} {steps : List Step} {text : Text}
    (spelled : step.reference.Spelled) (covered : Covered (step :: steps) text) :
    Covered steps (step.edit text) := by
  intro other
  have before := covered other
  have lost := count_le_edit spelled text other
  rw [List.map_cons, ← List.singleton_append, List.count_append] at before
  omega

/-- Editing some of the steps leaves the rest of them covered. -/
theorem Covered.foldl_edit {done todo : List Step} {text : Text}
    (spelled : ∀ step ∈ done, step.reference.Spelled) (covered : Covered (done ++ todo) text) :
    Covered todo (done.foldl Step.edit text) := by
  induction done generalizing text with
  | nil => exact covered
  | cons step done ih =>
      have next : Covered (done ++ todo) (step.edit text) :=
        Covered.edit (spelled step List.mem_cons_self) covered
      exact ih (fun other member => spelled other (.tail step member)) next

theorem Covered.occursIn {step : Step} {steps : List Step} {text : Text}
    (covered : Covered (step :: steps) text) :
    step.placeholder.text.occursIn text = true := by
  have once := covered step.reference
  rw [List.map_cons, List.count_cons_self] at once
  have member : step.reference ∈ findAll Reference.recognise text :=
    List.count_pos_iff.1 (by omega)
  obtain ⟨-, before, after, text_eq⟩ := Reference.mem_findAll_iff.1 member
  rw [occursIn_iff, text_eq]
  exact ⟨before, after, by simp [reference]⟩

/-- A step that finds its placeholder puts the replacement in the place of one occurrence. -/
theorem exists_edit {step : Step} {replacement text : Text}
    (replaced : step.decision.replacement? = some replacement)
    (occurs : step.placeholder.text.occursIn text = true) :
    ∃ before after, text = before ++ (step.placeholder.text ++ after) ∧
      step.edit text = before ++ (replacement ++ after) := by
  rcases replaceFirst_cases step.placeholder.text replacement text with
    ⟨absent, -⟩ | ⟨before, after, text_eq, edited_eq⟩
  · exact absurd (occursIn_iff.1 occurs) absent
  · refine ⟨before, after, text_eq, ?_⟩
    simp only [edit, replaced]
    exact edited_eq

/-- Behind the steps before it, a resolved step finds its placeholder, and puts the replacement in
the place of one occurrence. -/
theorem Covered.exists_edit {done todo : List Step} {step : Step} {text : Text}
    (spelled : ∀ step ∈ done, step.reference.Spelled)
    (covered : Covered (done ++ step :: todo) text) (resolved : step.decision.isResolved = true) :
    step.placeholder.text.occursIn (done.foldl Step.edit text) = true ∧
      ∃ replacement before after, step.decision.replacement? = some replacement ∧
        done.foldl Step.edit text = before ++ (step.placeholder.text ++ after) ∧
        (done ++ [step]).foldl Step.edit text = before ++ (replacement ++ after) := by
  have occurs := (covered.foldl_edit spelled).occursIn
  obtain ⟨replacement, replaced⟩ := Option.isSome_iff_exists.1 resolved
  obtain ⟨before, after, text_eq, edited_eq⟩ := Step.exists_edit replaced occurs
  refine ⟨occurs, replacement, before, after, replaced, text_eq, ?_⟩
  rw [List.foldl_append]
  exact edited_eq

/-- Edits for other references, and steps that stay, take nothing away from a reference. -/
theorem count_le_foldl_edit {steps : List Step} {other : Reference}
    (spelled : ∀ step ∈ steps, step.reference.Spelled)
    (spared : ∀ step ∈ steps, step.reference = other → step.decision.isResolved = false)
    (text : Text) :
    (findAll Reference.recognise text).count other ≤
      (findAll Reference.recognise (steps.foldl Step.edit text)).count other := by
  induction steps generalizing text with
  | nil => exact Nat.le_refl _
  | cons step steps ih =>
      have later := ih (fun other member => spelled other (.tail step member))
        (fun other member => spared other (.tail step member)) (step.edit text)
      rw [List.foldl_cons]
      refine Nat.le_trans ?_ later
      by_cases same : step.reference = other
      · rw [edit_of_unresolved (spared step List.mem_cons_self same)]
      · have lost := count_le_edit (spelled step List.mem_cons_self) text other
        rwa [List.count_singleton, if_neg (by simpa using same), Nat.add_zero] at lost

end Step

namespace Linked

/-- The text that the edits of a file start from: repaired, with its hand-written declarations. -/
def prepared (tables : Tables) (fileName text : Text) : Text :=
  (Placed.declarations tables fileName (Repaired.ofRules tables.rules text).text).text

theorem findAll_prepared {tables : Tables} (rules_eq : tables.rules = Rule.builtin)
    (fileName text : Text) :
    (findAll Reference.recognise text).Sublist
      (findAll Reference.recognise (prepared tables fileName text)) := by
  rw [prepared, rules_eq, ← Repaired.findAll_ofRules text]
  exact Placed.findAll_declarations tables fileName _

/-- Linking a file accounts for every placeholder of its text.  There is one step for each, in file
order, and steps for one text are decided alike; a step that resolves its placeholder finds it in
the text it edits, and puts the replacement in its place; and a placeholder that stays occurs in the
linked text no less often than before. -/
theorem steps_account_for_placeholders (here : Location) (settings : Settings) (index : Index)
    (path : Path) (tier : Tier) (text : Text) :
    let tables := settings.tables
    let analysis := Analysis.ofText settings.corpus.families path tier text
    let resolution := Resolution.ofAnalysis tables index analysis
    let start := prepared tables analysis.fileName text
    let linked := ofText here tables settings.corpus.suffix index analysis text
    (resolution.steps.map Step.placeholder = (Scan.ofText text).placeholders ∧
      linked.report.resolved + linked.report.unresolved.length =
        (Scan.ofText text).placeholders.length ∧
      ∀ first ∈ resolution.steps, ∀ second ∈ resolution.steps,
        first.placeholder.text = second.placeholder.text → first.decision = second.decision) ∧
    (linked.text = (Placed.imports here tables.banner settings.corpus.suffix path
        resolution.plan.schedule (resolution.steps.foldl Step.edit start)).text ∧
      ∀ done step todo, resolution.steps = done ++ step :: todo →
        step.decision.isResolved = true →
          step.placeholder.text.occursIn (done.foldl Step.edit start) = true ∧
          ∃ replacement before after, step.decision.replacement? = some replacement ∧
            done.foldl Step.edit start = before ++ (step.placeholder.text ++ after) ∧
            (done ++ [step]).foldl Step.edit start = before ++ (replacement ++ after)) ∧
    ∀ step ∈ resolution.steps, step.decision.isResolved = false →
      step.placeholder.text.timesIn text ≤ step.placeholder.text.timesIn linked.text := by
  intro tables analysis resolution start linked
  have spelled : ∀ step ∈ resolution.steps, step.reference.Spelled :=
    fun step member => Resolution.reference_spelled member
  have inOrder : resolution.steps.map Step.placeholder = (Scan.ofText text).placeholders :=
    Resolution.ofAnalysis_map_placeholder tables index analysis
  have alike : ∀ first ∈ resolution.steps, ∀ second ∈ resolution.steps,
      first.placeholder.text = second.placeholder.text → first.decision = second.decision := by
    intro first one second other same
    refine Resolution.decision_eq_of_reference_eq one other ?_
    exact (spelled first one).eq_of_text_eq (spelled second other) same
  have kept : (findAll Reference.recognise text).Sublist (findAll Reference.recognise start) :=
    findAll_prepared rfl analysis.fileName text
  refine ⟨⟨inOrder, ?_, alike⟩, ⟨rfl, ?_⟩, ?_⟩
  · have total := resolution.resolved_add_length_unresolved
    rw [← inOrder, List.length_map, ← total]
    exact (Int.natCast_add _ _).symm
  · intro done step todo steps_eq resolved
    have references : resolution.steps.map Step.reference = findAll Reference.recognise text :=
      Resolution.ofAnalysis_map_reference tables index settings.corpus.families path tier text
    have covered : Step.Covered resolution.steps start := fun other =>
      references ▸ kept.count_le other
    rw [steps_eq] at covered spelled
    exact covered.exists_edit (fun other member => spelled other (List.mem_append_left _ member))
      resolved
  · intro step member stays
    have stepSpelled := spelled step member
    have spared : ∀ other ∈ resolution.steps, other.reference = step.reference →
        other.decision.isResolved = false := by
      intro other otherMember same
      rw [Resolution.decision_eq_of_reference_eq otherMember member same, stays]
    have edited := Step.count_le_foldl_edit spelled spared start
    have imported := (Placed.findAll_imports here tables.banner settings.corpus.suffix path
      resolution.plan.schedule (resolution.steps.foldl Step.edit start)).count_le step.reference
    have counts : ∀ source, step.placeholder.text.timesIn source =
        (findAll Reference.recognise source).count step.reference :=
      stepSpelled.timesIn_eq_count
    rw [counts, counts]
    exact (kept.count_le step.reference).trans (edited.trans imported)

/-- A file with one unknown type and two platform types: the third step finds its placeholder behind
what the second one put in, and the unknown type stays. -/
theorem steps_account_for_three_placeholders :
    let text := "a: any /* x.Y */; b: any /* time.Time */ | any /* url.URL */;".toList
    let path : Path := ⟨.relative, ["a.ts".toList]⟩
    let start := prepared Settings.default.tables path.name text
    let unknown : Step := ⟨⟨⟨"x".toList, "Y".toList⟩, 1⟩, .unresolved⟩
    let clock : Step := ⟨⟨⟨"time".toList, "Time".toList⟩, 1⟩, .builtin "string".toList⟩
    let address : Step := ⟨⟨⟨"url".toList, "URL".toList⟩, 1⟩, .builtin "string".toList⟩
    [unknown, clock].foldl Step.edit start =
        "a: any /* x.Y */; b: string | any /* url.URL */;".toList ∧
      address.placeholder.text.occursIn ([unknown, clock].foldl Step.edit start) = true ∧
      (∃ replacement before after, address.decision.replacement? = some replacement ∧
        [unknown, clock].foldl Step.edit start = before ++ (address.placeholder.text ++ after) ∧
        [unknown, clock, address].foldl Step.edit start = before ++ (replacement ++ after)) ∧
      unknown.placeholder.text.timesIn text ≤
        unknown.placeholder.text.timesIn (ofText [] Settings.default.tables ".ts".toList Index.empty
          (Analysis.ofText Settings.default.corpus.families path .core text) text).text := by
  intro text path start unknown clock address
  have account := steps_account_for_placeholders [] Settings.default Index.empty path .core text
  have steps_eq : (Resolution.ofAnalysis Settings.default.tables Index.empty
      (Analysis.ofText Settings.default.corpus.families path .core text)).steps =
        [unknown, clock, address] := by
    decide +kernel
  obtain ⟨occurs, edited⟩ := account.2.1.2 [unknown, clock] address [] steps_eq rfl
  refine ⟨by decide +kernel, occurs, edited, account.2.2 unknown ?_ rfl⟩
  rw [steps_eq]
  exact List.mem_cons_self

end Linked

end DeclLinker
