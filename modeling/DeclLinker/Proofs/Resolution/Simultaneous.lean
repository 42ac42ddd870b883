import DeclLinker.Proofs.Resolution.Replacement
import DeclLinker.Proofs.Source.Occurrence

/-!
# Edits one after the other and all at once

The edits of a file are made one after the other, each at the first remaining occurrence of its
placeholder text, in a text that the earlier edits have changed.  Where all placeholders are
isolated and all replacements inert, the outcome is the one of replacing every placeholder at its
own place at once.

The proof goes along the placeholders of the text.  What lies before the next one holds only
placeholders that stay, so the next edit meets exactly the next placeholder.
-/

namespace DeclLinker

namespace Text

/-- Stretches with other texts between them. -/
def weave : (gaps fills : List Text) → Text
  | [], _ => []
  | gap :: gaps, [] => gap ++ weave gaps []
  | gap :: gaps, fill :: fills => gap ++ (fill ++ weave gaps fills)

theorem weave_cons_char (char : Char) (gap : Text) (gaps fills : List Text) :
    weave ((char :: gap) :: gaps) fills = char :: weave (gap :: gaps) fills := by
  cases fills <;> rfl

theorem foldr_addPiece_ne_nil {α : Type} (pieces : List (Piece α)) :
    pieces.foldr addPiece [[]] ≠ [] := by
  cases pieces with
  | nil => simp
  | cons piece pieces =>
      cases piece with
      | single char => cases gaps : pieces.foldr addPiece [[]] <;> simp [addPiece, gaps]
      | hit text value => simp [addPiece]

end Text

namespace Step

open Text

/-- What stands in the place of a placeholder in the end: its replacement, or itself. -/
def shown (step : Step) : Text :=
  step.decision.replacement?.getD step.placeholder.text

/-- The pieces of a text with every hit that a step resolves replaced, in order. -/
def settled : List Step → List (Piece Reference) → List (Piece Reference)
  | _, [] => []
  | steps, .single char :: rest => .single char :: settled steps rest
  | [], .hit text reference :: rest => .hit text reference :: settled [] rest
  | step :: steps, .hit text reference :: rest =>
      match step.decision.replacement? with
      | some replacement => replacement.map .single ++ settled steps rest
      | none => .hit text reference :: settled steps rest

theorem settled_singles (steps : List Step) (text : Text) (rest : List (Piece Reference)) :
    settled steps (text.map .single ++ rest) = text.map .single ++ settled steps rest := by
  induction text with
  | nil => rfl
  | cons char text ih => simp [settled, ih]

theorem edit_of_some {step : Step} {replacement : Text}
    (replaced : step.decision.replacement? = some replacement) (text : Text) :
    step.edit text = replaceFirst step.reference.text replacement text := by
  simp [edit, replaced, reference]

theorem edit_of_none {step : Step} (stays : step.decision.replacement? = none) (text : Text) :
    step.edit text = text := by
  simp [edit, stays]

/-- Steps that decide by the reference alone, with inert replacements. -/
structure Uniform (decide : Reference → Decision) (steps : List Step) : Prop where
  decided : ∀ step ∈ steps, step.decision = decide step.reference
  inert : ∀ step ∈ steps, ∀ replacement, step.decision.replacement? = some replacement →
    Reference.Inert replacement

theorem Uniform.tail {decide : Reference → Decision} {step : Step} {steps : List Step}
    (uniform : Uniform decide (step :: steps)) : Uniform decide steps :=
  ⟨fun other member => uniform.decided other (.tail step member),
    fun other member => uniform.inert other (.tail step member)⟩

/-- A part of a text that the edits have passed: everything that it holds stays. -/
structure Passed (decide : Reference → Decision) (done todo : Text) : Prop where
  apart : Recogniser.Apart Reference.recognise done todo
  isolated : Reference.Isolated (done ++ todo)
  kept : ∀ other ∈ findAll Reference.recognise done, (decide other).replacement? = none

namespace Passed

variable {decide : Reference → Decision} {done gap rest : Text} {reference : Reference}

/-- The edits pass the text before the next placeholder. -/
theorem skip (passed : Passed decide done (gap ++ (reference.text ++ rest)))
    (isClear : Recogniser.Clear Reference.recognise gap) :
    Passed decide (done ++ gap) (reference.text ++ rest) ∧
      pieces Reference.recognise (done ++ gap) =
        pieces Reference.recognise done ++ gap.map .single := by
  have isLocal := Reference.recognise_isLocal
  have apart := passed.apart.mono_right (List.prefix_append gap _)
  refine ⟨⟨reference.apart_before _ rest, ?_, ?_⟩, ?_⟩
  · rw [List.append_assoc]
    exact passed.isolated
  · rw [findAll_append isLocal apart, isClear.findAll_eq_nil, List.append_nil]
    exact passed.kept
  · rw [pieces_append isLocal apart, isClear]

/-- The edits pass a placeholder that stays. -/
theorem stay (passed : Passed decide done (reference.text ++ rest)) (spelled : reference.Spelled)
    (stays : (decide reference).replacement? = none) :
    Passed decide (done ++ reference.text) rest ∧
      pieces Reference.recognise (done ++ reference.text) =
        pieces Reference.recognise done ++ [.hit reference.text reference] := by
  have found := spelled.findAll_around done []
  have around := spelled.pieces_around done []
  rw [List.append_nil] at found around
  refine ⟨⟨passed.apart.append_left (spelled.apart_after rest), ?_, ?_⟩, around⟩
  · rw [List.append_assoc]
    exact passed.isolated
  · rw [found]
    intro other member
    rcases List.mem_append.1 member with old | new
    · exact passed.kept other old
    · rw [List.mem_singleton.1 new, stays]

/-- The edit for a placeholder that is replaced finds it there, and passes the replacement. -/
theorem replace (passed : Passed decide done (reference.text ++ rest))
    (spelled : reference.Spelled) {replacement : Text} (inert : Reference.Inert replacement)
    (replaced : (decide reference).replacement? = some replacement) :
    Passed decide (done ++ replacement) rest ∧
      pieces Reference.recognise (done ++ replacement) =
        pieces Reference.recognise done ++ replacement.map .single ∧
      replaceFirst reference.text replacement (done ++ (reference.text ++ rest)) =
        (done ++ replacement) ++ rest := by
  have absent : reference ∉ findAll Reference.recognise done := by
    intro member
    have stays := passed.kept reference member
    rw [replaced] at stays
    cases stays
  obtain ⟨left, right⟩ :=
    Reference.isolated_iff.1 passed.isolated reference spelled done rest rfl
  have apart : Recogniser.Apart Reference.recognise (done ++ replacement) rest :=
    (inert.apart_left left rest).append_left (inert.apart_right right)
  have pieces_eq : pieces Reference.recognise (done ++ replacement) =
      pieces Reference.recognise done ++ replacement.map .single := by
    have cut := passed.isolated.pieces_replace spelled inert
    rw [← List.append_assoc, pieces_append Reference.recognise_isLocal apart,
      ← List.append_assoc] at cut
    exact List.append_cancel_right cut
  refine ⟨⟨apart, ?_, ?_⟩, pieces_eq, ?_⟩
  · rw [List.append_assoc]
    exact passed.isolated.replace spelled inert
  · have found : findAll Reference.recognise (done ++ replacement) =
        findAll Reference.recognise done := by
      simp only [findAll, pieces_eq, List.filterMap_append, List.filterMap_map]
      simp [Function.comp_def, Piece.value?]
    rw [found]
    exact passed.kept
  · rw [spelled.replaceFirst_of_absent absent, List.append_assoc]

end Passed

/-- The edits for the placeholders of a text behind a part that they have passed settle the text. -/
theorem Uniform.pieces_foldl_edit {decide : Reference → Decision} {steps : List Step}
    (uniform : Uniform decide steps) {done todo : Text} (passed : Passed decide done todo)
    (inOrder : steps.map reference = findAll Reference.recognise todo) :
    pieces Reference.recognise (steps.foldl edit (done ++ todo)) =
      pieces Reference.recognise done ++ settled steps (pieces Reference.recognise todo) := by
  induction todo using hits_induction Reference.recognise_isLocal generalizing done steps with
  | clear todo isClear =>
      rw [isClear.findAll_eq_nil, List.map_eq_nil_iff] at inOrder
      subst inOrder
      have singles := settled_singles [] todo []
      simp only [List.append_nil, settled] at singles
      rw [List.foldl_nil, pieces_append Reference.recognise_isLocal passed.apart, isClear, singles]
  | hit gap stretch found rest isClear reads gapApart ih =>
      obtain ⟨spelled, rfl⟩ := Reference.reads_iff.1 reads
      rw [spelled.findAll_around, isClear.findAll_eq_nil, List.nil_append] at inOrder
      obtain ⟨step, later, rfl, rfl, laterInOrder⟩ := List.map_eq_cons_iff.1 inOrder
      obtain ⟨ready, front⟩ := passed.skip isClear
      have decision_eq := uniform.decided step List.mem_cons_self
      rw [spelled.pieces_around, isClear, settled_singles, List.foldl_cons,
        ← List.append_assoc done]
      cases replaced : step.decision.replacement? with
      | none =>
          obtain ⟨next, nextPieces⟩ := ready.stay spelled (decision_eq ▸ replaced)
          rw [edit_of_none replaced, ← List.append_assoc (done ++ gap),
            ih uniform.tail next laterInOrder, nextPieces, front]
          simp [settled, replaced]
      | some replacement =>
          have inert := uniform.inert step List.mem_cons_self replacement replaced
          obtain ⟨next, nextPieces, edited⟩ := ready.replace spelled inert (decision_eq ▸ replaced)
          rw [edit_of_some replaced, edited, ih uniform.tail next laterInOrder, nextPieces, front]
          simp [settled, replaced]

theorem settled_of_unresolved {steps : List Step}
    (stays : ∀ step ∈ steps, step.decision.replacement? = none)
    (pieces : List (Piece Reference)) : settled steps pieces = pieces := by
  induction pieces generalizing steps with
  | nil => cases steps <;> rfl
  | cons piece pieces ih =>
      cases piece with
      | single char => rw [settled, ih stays]
      | hit text reference =>
          cases steps with
          | nil => rw [settled, ih stays]
          | cons step steps =>
              simp only [settled, stays step List.mem_cons_self]
              rw [ih fun other member => stays other (.tail step member)]

/-- The settled pieces hold the gaps of the text and, between them, what is shown. -/
theorem flatMap_settled {steps : List Step} {pieces : List (Piece Reference)}
    (honest : ∀ text reference, .hit text reference ∈ pieces → text = reference.text)
    (inOrder : steps.map reference = pieces.filterMap Piece.value?) :
    (settled steps pieces).flatMap Piece.text =
      weave (pieces.foldr addPiece [[]]) (steps.map shown) := by
  induction pieces generalizing steps with
  | nil =>
      have none_left : steps = [] := by simpa using inOrder
      simp [none_left, settled, weave]
  | cons piece pieces ih =>
      have honestRest : ∀ text reference, .hit text reference ∈ pieces → text = reference.text :=
        fun text reference member => honest text reference (.tail piece member)
      cases piece with
      | single char =>
          have inner := ih honestRest inOrder
          rw [List.foldr_cons]
          cases gaps : pieces.foldr addPiece [[]] with
          | nil => exact absurd gaps (foldr_addPiece_ne_nil pieces)
          | cons gap gaps =>
              rw [gaps] at inner
              rw [addPiece, weave_cons_char, ← inner]
              rfl
      | hit text found =>
          obtain ⟨step, later, rfl, rfl, laterInOrder⟩ := List.map_eq_cons_iff.1 inOrder
          have inner := ih honestRest laterInOrder
          have text_eq := honest text step.reference List.mem_cons_self
          rw [List.foldr_cons, addPiece, List.map_cons, weave, ← inner, List.nil_append]
          cases replaced : step.decision.replacement? with
          | none =>
              simp only [settled, replaced, shown]
              rw [text_eq, List.flatMap_cons]
              rfl
          | some replacement =>
              simp only [settled, replaced, shown]
              rw [List.flatMap_append, Piece.flatMap_singles]
              rfl

/-- A placeholder that stays keeps its line. -/
theorem located_settled {steps : List Step} {pieces : List (Piece Reference)}
    (inert : ∀ step ∈ steps, ∀ replacement, step.decision.replacement? = some replacement →
      Reference.Inert replacement) {line : Nat}
    (inOrder : steps.map placeholder = Placeholder.located line pieces) :
    Placeholder.located line (settled steps pieces) =
      (steps.filter fun step => !step.decision.isResolved).map placeholder := by
  induction pieces generalizing steps line with
  | nil =>
      have none_left : steps = [] := by simpa [Placeholder.located] using inOrder
      simp [none_left, settled, Placeholder.located]
  | cons piece pieces ih =>
      cases piece with
      | single char => exact ih inert inOrder
      | hit text found =>
          obtain ⟨step, later, rfl, place_eq, laterInOrder⟩ := List.map_eq_cons_iff.1 inOrder
          have inner := ih (fun other member => inert other (.tail step member)) laterInOrder
          cases replaced : step.decision.replacement? with
          | none =>
              simp only [settled, replaced, Placeholder.located, inner]
              simp [Decision.isResolved, replaced, ← place_eq]
          | some replacement =>
              have flat : ∀ piece ∈ replacement.map (Piece.single (α := Reference)),
                  '\n' ∉ piece.text := by
                intro piece member
                obtain ⟨char, inside, rfl⟩ := List.mem_map.1 member
                have noFeed := (inert step List.mem_cons_self replacement replaced).feed
                simpa [Piece.text] using fun same : '\n' = char => noFeed (same ▸ inside)
              simp only [settled, replaced]
              rw [Placeholder.located_append flat, inner]
              simp [Decision.isResolved, replaced, Piece.value?, Function.comp_def]

end Step

namespace Resolution

open Text

/-- Edits of isolated placeholders by inert replacements settle the pieces of the text. -/
theorem pieces_edit {tables : Tables} {index : Index} {analysis : Analysis}
    (supplies : Supplies tables index Reference.Inert) {text : Text}
    (isolated : Reference.Isolated text)
    (inOrder : (ofAnalysis tables index analysis).steps.map Step.reference =
      findAll Reference.recognise text) :
    pieces Reference.recognise ((ofAnalysis tables index analysis).edit text) =
      Step.settled (ofAnalysis tables index analysis).steps (pieces Reference.recognise text) := by
  have uniform : Step.Uniform
      (fun reference => (settle tables index analysis.path
        (ofAnalysis tables index analysis).plan reference).1)
      (ofAnalysis tables index analysis).steps :=
    ⟨fun step member => decision_eq_settle member,
      fun step member replacement replaced => replacement_of_supplies supplies member replaced⟩
  exact uniform.pieces_foldl_edit ⟨Recogniser.Apart.nil_left text, isolated,
    fun other member => absurd member List.not_mem_nil⟩ inOrder

theorem honest_pieces (text : Text) (stretch : Text) (reference : Reference)
    (member : .hit stretch reference ∈ pieces Reference.recognise text) :
    stretch = reference.text :=
  (Reference.spelled_of_hit_mem_pieces member).2

/-- A text is its gaps with the texts of its placeholders between them. -/
theorem eq_weave_placeholders {steps : List Step} {text : Text}
    (inOrder : steps.map Step.reference = findAll Reference.recognise text) :
    text = weave (splitAtHits Reference.recognise text)
      (steps.map fun step => step.placeholder.text) := by
  -- Steps that all stay show the placeholders themselves.
  have inOrderStill : (steps.map fun step => (⟨step.placeholder, .unresolved⟩ : Step)).map
      Step.reference = findAll Reference.recognise text := by
    rw [List.map_map]
    exact inOrder
  have woven := Step.flatMap_settled (honest_pieces text) inOrderStill
  rw [Step.settled_of_unresolved (by simp [Decision.replacement?]),
    flatMap_text_pieces Reference.recognise_isLocal, List.map_map] at woven
  exact woven

/-- Simultaneous substitution.  Where every placeholder of a text is isolated, the entries of the
index are named and the built-in expressions plain, the edits made one after the other leave the
gaps between the placeholders as they are and put every replacement in its own place; and what is
scanned afterwards are the placeholders that stay, in order and on their lines. -/
theorem edit_eq_weave_shown (tables : Tables) (index : Index) (families : List Text) (path : Path)
    (tier : Tier) (text : Text) (isolated : Reference.Isolated text)
    (named : ∀ key entry, (key, entry) ∈ index.entries → entry.Named)
    (plain : ∀ key expression, (key, expression) ∈ tables.builtins →
      Reference.isPlain expression = true) :
    let resolution := ofAnalysis tables index (Analysis.ofText families path tier text)
    let gaps := splitAtHits Reference.recognise text
    resolution.steps.map Step.placeholder = (Scan.ofText text).placeholders ∧
      text = weave gaps (resolution.steps.map fun step => step.placeholder.text) ∧
      resolution.edit text = weave gaps (resolution.steps.map Step.shown) ∧
      (Scan.ofText (resolution.edit text)).placeholders =
        (resolution.steps.filter fun step => !step.decision.isResolved).map Step.placeholder := by
  intro resolution gaps
  have supplies := Supplies.inert plain named
  have inOrder : resolution.steps.map Step.reference = findAll Reference.recognise text :=
    ofAnalysis_map_reference tables index families path tier text
  have scanned : resolution.steps.map Step.placeholder = (Scan.ofText text).placeholders :=
    ofAnalysis_map_placeholder tables index _
  have settled := pieces_edit supplies isolated inOrder
  refine ⟨scanned, eq_weave_placeholders inOrder, ?_, ?_⟩
  · calc
      resolution.edit text =
          (pieces Reference.recognise (resolution.edit text)).flatMap Piece.text :=
        (flatMap_text_pieces Reference.recognise_isLocal _).symm
      _ = weave gaps (resolution.steps.map Step.shown) := by
        rw [settled, Step.flatMap_settled (honest_pieces text) inOrder]
        rfl
  · rw [Scan.placeholders_eq] at scanned ⊢
    rw [settled, Step.located_settled
      (fun step member replacement replaced => replacement_of_supplies supplies member replaced)
      scanned]

/-- A platform type twice, a declaration of another file and a type that no table knows, on two
lines. -/
theorem edit_eq_weave_shown_of_four :
    let text :=
      "a: any /* time.Time */ | any /* x.Y */;\nb: any /* time.Time */ | any /* b.C */;".toList
    let entry : Entry := ⟨⟨.relative, ["b.ts".toList]⟩, "C".toList, "b".toList⟩
    let steps := (ofAnalysis Tables.default ⟨[("b.C".toList, entry)]⟩
      (Analysis.ofText [] ⟨.relative, ["a.ts".toList]⟩ .core text)).steps
    Reference.Isolated text ∧ entry.Named ∧
      steps.foldl Step.edit text =
        weave (splitAtHits Reference.recognise text) (steps.map Step.shown) := by
  intro text entry steps
  have isolated : Reference.Isolated text := by decide +kernel
  have named : entry.Named := ⟨by decide, by decide, by decide⟩
  have plain : ∀ pair ∈ Tables.default.builtins, Reference.isPlain pair.2 = true := by
    decide +kernel
  have substituted := edit_eq_weave_shown Tables.default ⟨[("b.C".toList, entry)]⟩ []
    ⟨.relative, ["a.ts".toList]⟩ .core text isolated
    (fun key other member => by
      cases List.mem_singleton.1 member
      exact named)
    (fun key expression member => plain (key, expression) member)
  exact ⟨isolated, named, substituted.2.2.1⟩

end Resolution

end DeclLinker
