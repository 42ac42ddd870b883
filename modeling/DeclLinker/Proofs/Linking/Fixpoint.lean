import DeclLinker.Proofs.Import.Reach
import DeclLinker.Proofs.Linking.Layout
import DeclLinker.Proofs.Linking.Settled

/-!
# Linked texts are fixed points

A fair text is one whose placeholders are isolated and whose exports are not reserved.  Linking a
fair text under an index of names that are not reserved gives a sound text that exports what the
text exported and what its hand-written declarations export, in which no reference denotes anything:
a settled text, which linking leaves as it is.

There is one exception.  A replacement that ends in `export`, put before the rest of a constant with
the value `any`, completes a match that no stage of the same run repairs.  A text in which this
happens is not settled.
-/

namespace DeclLinker

open Text

/-- A match for constants anywhere in a text is counted. -/
theorem Rule.constant_count_ne_zero {stretch repair text : Text}
    (matched : Rule.constant.Matches stretch repair) (inside : stretch <:+: text) :
    Rule.constant.count text ≠ 0 := by
  have isLocal : Recogniser.IsLocal Rule.constant.recognise := Rule.recognise_isLocal rfl
  rcases clear_or_first_hit isLocal text with isClear |
    ⟨before, first, firstRepair, rest, rfl, isClear, reads, apart⟩
  · exact absurd inside (isClear.not_infix isLocal ((Rule.reads_iff rfl).2 matched))
  · have firstMatch := (Rule.reads_iff rfl).1 reads
    obtain ⟨front, first_eq, -, unstopped⟩ := Rule.constant_front firstMatch
    have noColon : ':' ∉ front := fun member => absurd (unstopped ':' member) (by decide)
    obtain ⟨lead, back, repair_eq, -⟩ := firstMatch.repair_edge rfl
    have changed : firstRepair ≠ first := by
      intro same
      have colon : ':' ∈ first := by simp [← same, repair_eq]
      simp [first_eq, noColon] at colon
    rw [Rule.count, countChanges_append isLocal apart, countChanges, countChanges,
      pieces_of_reads reads, List.countP_cons]
    simp [Piece.changes, changed]

namespace Step

/-- Settling two lists of pieces with the steps of each. -/
theorem settled_append {one two : List Step} {first second : List (Piece Reference)}
    (inOrder : one.map reference = first.filterMap Piece.value?) :
    settled (one ++ two) (first ++ second) = settled one first ++ settled two second := by
  induction first generalizing one with
  | nil =>
      have nothing : one = [] := by simpa using inOrder
      rw [nothing]
      cases two <;> rfl
  | cons piece first ih =>
      cases piece with
      | single char =>
          rw [List.cons_append, settled, settled, ih inOrder, List.cons_append]
      | hit text found =>
          obtain ⟨step, later, rfl, -, laterInOrder⟩ := List.map_eq_cons_iff.1 inOrder
          have rest := ih laterInOrder
          rw [List.cons_append, List.cons_append, settled, settled, rest]
          split <;> simp

/-- The references among settled pieces are those of the steps that did not resolve them. -/
theorem references_settled {steps : List Step} {pieces : List (Piece Reference)}
    (inOrder : steps.map reference = pieces.filterMap Piece.value?) :
    (settled steps pieces).filterMap Piece.value? =
      (steps.filter fun step => !step.decision.isResolved).map reference := by
  induction pieces generalizing steps with
  | nil =>
      have nothing : steps = [] := by simpa using inOrder
      simp [nothing, settled]
  | cons piece pieces ih =>
      cases piece with
      | single char =>
          rw [settled, List.filterMap_cons]
          exact ih inOrder
      | hit text found =>
          obtain ⟨step, later, rfl, rfl, laterInOrder⟩ := List.map_eq_cons_iff.1 inOrder
          have inner := ih laterInOrder
          cases replaced : step.decision.replacement? with
          | some replacement =>
              simp only [settled, replaced, List.filterMap_append, Piece.value_singles, inner]
              simp [Decision.isResolved, replaced]
          | none =>
              simp only [settled, replaced, List.filterMap_cons, Piece.value?, inner]
              simp [Decision.isResolved, replaced]

/-- A line comment of a text with isolated placeholders is still there when its pieces are settled,
if the letter that placeholders start with does not occur in it. -/
theorem infix_settled_comment {steps : List Step} {comment text : Text}
    (opens : ['/', '/'] <+: comment) (noLetter : 'a' ∉ comment)
    (isolated : Reference.Isolated text)
    (inOrder : steps.map reference = findAll Reference.recognise text)
    (inside : comment <:+: text) :
    comment <:+: (settled steps (pieces Reference.recognise text)).flatMap Piece.text := by
  obtain ⟨before, after, whole⟩ := inside
  rw [List.append_assoc] at whole
  subst whole
  have pieces_eq := isolated.pieces_comment opens noLetter
  rw [findAll, pieces_eq, List.filterMap_append] at inOrder
  obtain ⟨one, others, rfl, oneInOrder, -⟩ := List.map_eq_append_iff.1 inOrder
  rw [pieces_eq, settled_append oneInOrder, settled_singles, List.flatMap_append,
    List.flatMap_append, Piece.flatMap_singles]
  exact List.infix_append _ _ _ |>.trans (by rw [List.append_assoc])

end Step

/-! ## Blocks at their places -/

/-- A block is put at a place for it. -/
theorem Spliced.behind_cases (block text : Text) :
    ∃ before rest, Import.Place before ∧ text = before ++ rest ∧
      (behind Tables.default.banner block text).text = before ++ (block ++ rest) := by
  obtain ⟨front, banner_eq⟩ : ∃ front, Tables.default.banner = front ++ ['.'] :=
    ⟨"// Code generated by tygo. DO NOT EDIT".toList, rfl⟩
  unfold behind
  dsimp only
  split
  · rename_i before rest found
    refine ⟨before ++ (Tables.default.banner ++ ['\n']), rest, .inr ⟨before ++ front, ?_⟩, ?_, ?_⟩
    · simp [banner_eq]
    · rw [eq_append_of_cut? found]
    · simp
  · exact ⟨[], text, .inl rfl, rfl, rfl⟩

/-- Import statements are spliced in at a place for them, or there are none. -/
theorem Placed.imports_cases {here : Location} {consumer : Path} {suffix : Text} {plan : Plan}
    {known : Path → Prop} (tidy : plan.Tidy known)
    (reached : ∀ producer, known producer →
      ∀ char ∈ Path.specifier here consumer producer suffix, Import.isStatementChar char = true)
    (text : Text) :
    (imports here Tables.default.banner suffix consumer plan.schedule text).text = text ∨
      ∃ before body rest, Import.Place before ∧ Import.Plain body ∧ text = before ++ rest ∧
        (imports here Tables.default.banner suffix consumer plan.schedule text).text =
          before ++ (('\n' :: (body ++ ['\n'])) ++ rest) := by
  have plain := Import.plain_intercalate (Import.stated_statements tidy reached)
  unfold imports
  dsimp only
  split
  · exact .inl rfl
  · rename_i nonempty
    obtain ⟨before, rest, place, text_eq, spliced_eq⟩ := Spliced.behind_cases
      (Import.block (Import.statements here consumer suffix plan.schedule)) text
    rw [Import.block, if_neg nonempty] at spliced_eq
    refine .inr ⟨before, _, rest, place, plain, text_eq, ?_⟩
    rw [Import.block, if_neg nonempty]
    exact spliced_eq

/-- The lines of hand-written declarations: an idle block with the words that mark it, which does
not export `any`. -/
structure HandWritten (body : Text) : Prop extends Import.Idle body where
  marked : Tables.defaultMarker <:+: body
  carriage : '\r' ∉ body
  noAny : "any".toList ∉ (Scan.ofText body).exports

theorem Tables.exists_handWritten :
    ∃ body, missingDeclarations = '\n' :: (body ++ ['\n']) ∧ HandWritten body := by
  refine ⟨decodedDeclarations.val.tail.dropLast, ?_, ⟨?_, fun rule known => ?_⟩, ?_, ?_, ?_⟩
  · refine decodedDeclarations.property.trans ?_
    decide +kernel
  · decide +kernel
  · have table : ∀ rule ∈ Rule.builtin,
        ∀ ending ∈ ('\n' :: (decodedDeclarations.val.tail.dropLast ++ ['\n'])).tails,
          ending ≠ [] → rule.deaf ending = true := by
      decide +kernel
    exact Rule.misses_of_deaf (Rule.isRegular_of_mem_builtin known) (table rule known)
  · rw [← occursIn_iff]
    decide +kernel
  · decide +kernel
  · decide +kernel

theorem Tables.eq_missingDeclarations {fileName block : Text}
    (listed : Dict.get? fileName default.synthetic = some block) : block = missingDeclarations := by
  simp only [default, extended, Dict.get?] at listed
  split at listed
  · exact (Option.some.inj listed).symm
  · cases listed

/-- Hand-written declarations are spliced in at a place for them, or the text lacks none. -/
theorem Placed.declarations_cases (fileName text : Text) :
    let declared := (declarations Tables.default fileName text).text
    let block := Tables.default.lacking fileName text
    (block = [] ∧ declared = text) ∨
      ∃ before body rest, Import.Place before ∧ HandWritten body ∧ text = before ++ rest ∧
        block = '\n' :: (body ++ ['\n']) ∧
        declared = before ++ (('\n' :: (body ++ ['\n'])) ++ rest) := by
  unfold declarations Tables.lacking
  cases listed : Dict.get? fileName Tables.default.synthetic with
  | none => exact .inl ⟨ite_self _, rfl⟩
  | some found =>
      obtain rfl := Tables.eq_missingDeclarations listed
      dsimp only
      split
      · exact .inl ⟨rfl, rfl⟩
      · obtain ⟨before, rest, place, text_eq, spliced_eq⟩ :=
          Spliced.behind_cases Tables.missingDeclarations text
        obtain ⟨body, block_eq, handWritten⟩ := Tables.exists_handWritten
        refine .inr ⟨before, body, rest, place, handWritten, text_eq, block_eq, ?_⟩
        rw [spliced_eq, block_eq]

/-- A file with hand-written declarations holds the words that mark them once they are placed. -/
theorem Placed.marked_declarations {fileName : Text}
    (listed : (Dict.get? fileName Tables.default.synthetic).isSome = true) (text : Text) :
    Tables.defaultMarker <:+: (declarations Tables.default fileName text).text := by
  rcases declarations_cases fileName text with ⟨block_eq, same⟩ |
    ⟨before, body, rest, -, handWritten, -, -, declared_eq⟩
  · rw [same, ← occursIn_iff]
    by_contra unmarked
    have unmarkedToo : ¬Tables.default.marker.occursIn text = true := unmarked
    obtain ⟨block, found⟩ := Option.isSome_iff_exists.1 listed
    obtain ⟨body, missing_eq, -⟩ := Tables.exists_handWritten
    have lacking_eq : Tables.default.lacking fileName text = '\n' :: (body ++ ['\n']) := by
      rw [Tables.lacking, if_neg unmarkedToo, found, Tables.eq_missingDeclarations found]
      exact missing_eq
    rw [block_eq] at lacking_eq
    cases lacking_eq
  · rw [declared_eq]
    exact handWritten.marked.trans ⟨before ++ ['\n'], '\n' :: rest, by simp⟩

namespace Linked

/-- A text whose placeholders are isolated and are no names of constants, and whose exports are not
reserved. -/
structure Fair (text : Text) : Prop where
  isolated : Reference.Isolated text
  unnamed : Reference.NeverBehind "const ".toList text
  exports_free : ∀ name ∈ (Scan.ofText text).exports, name ∉ reservedWords

/-- An index of names that are not reserved, in files that a file can reach. -/
structure Fitting (here : Location) (suffix : Text) (path : Path) (index : Index) : Prop where
  named : ∀ key entry, (key, entry) ∈ index.entries →
    entry.Named ∧ entry.exportName ∉ reservedWords
  reached : ∀ key entry, (key, entry) ∈ index.entries →
    ∀ char ∈ Path.specifier here path entry.path suffix, Import.isStatementChar char = true

/-- A placeholder of a text whose replacement ends in `export` stands, once the text is repaired,
before the rest of a constant with the value `any`. -/
def Slips (index : Index) (analysis : Analysis) (text : Text) : Prop :=
  ∃ step ∈ (Resolution.ofAnalysis Tables.default index analysis).steps, ∃ replacement,
    step.decision.replacement? = some replacement ∧ "export".toList <:+ replacement ∧
      ∃ before after, (Repaired.ofRules Rule.builtin text).text =
        before ++ (step.reference.text ++ after) ∧ Rule.Unexported after

/-- A placeholder of a text stands before the rest of a constant exactly when the two occur joined.
-/
theorem exists_unexported_iff {reference : Reference} {text : Text} :
    (∃ before after, text = before ++ (reference.text ++ after) ∧ Rule.Unexported after) ↔
      ∃ name, name ≠ [] ∧ (∀ char ∈ name, isWord char = true) ∧
        reference.text ++ (" const ".toList ++ (name ++ Rule.constantValue)) <:+: text := by
  constructor
  · rintro ⟨before, after, rfl, name, rest, name_ne, nameWord, rfl⟩
    exact ⟨name, name_ne, nameWord, before, rest, by simp only [List.append_assoc]⟩
  · rintro ⟨name, name_ne, nameWord, before, rest, rfl⟩
    exact ⟨before, " const ".toList ++ (name ++ (Rule.constantValue ++ rest)),
      by simp only [List.append_assoc], name, rest, name_ne, nameWord, rfl⟩

variable {here : Location} {suffix : Text} {index : Index} {families : List Text} {path : Path}
  {tier : Tier} {text : Text}

/-- A prepared text is the repaired one, or it has the lines of hand-written declarations more at a
place for them. -/
theorem prepared_cases (fileName text : Text) :
    let repaired := (Repaired.ofRules Rule.builtin text).text
    let start := prepared Tables.default fileName text
    let block := Tables.default.lacking fileName text
    (block = [] ∧ start = repaired) ∨
      ∃ before body rest, Import.Place before ∧ HandWritten body ∧ repaired = before ++ rest ∧
        block = '\n' :: (body ++ ['\n']) ∧
        start = before ++ (('\n' :: (body ++ ['\n'])) ++ rest) := by
  have cases := Placed.declarations_cases fileName (Repaired.ofRules Rule.builtin text).text
  have lacking : Tables.default.lacking fileName (Repaired.ofRules Rule.builtin text).text =
      Tables.default.lacking fileName text := Settings.default.lacking_ofRules fileName text
  rwa [lacking] at cases

theorem findAll_prepared_eq (fileName text : Text) :
    findAll Reference.recognise (prepared Tables.default fileName text) =
      findAll Reference.recognise text := by
  rw [← Repaired.findAll_ofRules text]
  rcases prepared_cases fileName text with ⟨-, start_eq⟩ |
    ⟨before, body, rest, place, handWritten, repaired_eq, -, start_eq⟩
  · rw [start_eq]
  · rw [start_eq, repaired_eq, handWritten.findAll_eq place]

/-- Hand-written declarations stand in no placeholder before the rest of a constant. -/
theorem exists_unexported_prepared_iff {reference : Reference} (spelled : reference.Spelled)
    (fileName text : Text) :
    (∃ before after, prepared Tables.default fileName text =
        before ++ (reference.text ++ after) ∧ Rule.Unexported after) ↔
      ∃ before after, (Repaired.ofRules Rule.builtin text).text =
        before ++ (reference.text ++ after) ∧ Rule.Unexported after := by
  rcases prepared_cases fileName text with ⟨-, start_eq⟩ |
    ⟨before, body, rest, place, handWritten, repaired_eq, -, start_eq⟩
  · rw [start_eq]
  · rw [start_eq, repaired_eq]
    simp only [exists_unexported_iff]
    refine exists_congr fun name => and_congr_right fun _ => and_congr_right fun nameWord => ?_
    have nameFlat : '\n' ∉ name := fun member => absurd (nameWord '\n' member) (by decide)
    refine place.infix_spliced_iff ?_ fun inside => ?_
    · simp [spelled.feed_not_mem, nameFlat, Rule.constantValue_eq]
    · exact handWritten.star (inside.subset (by simp [reference.star_mem_text]))

/-- A prepared text exports what the text exports and what the declarations export that the text is
still without. -/
theorem exports_prepared_perm (fileName text : Text) :
    (Scan.ofText (prepared Tables.default fileName text)).exports.Perm
      ((Scan.ofText (Tables.default.lacking fileName text)).exports ++
        (Scan.ofText text).exports) := by
  rw [← Repaired.exports_ofRules text]
  rcases prepared_cases fileName text with ⟨block_eq, start_eq⟩ |
    ⟨before, body, rest, place, -, repaired_eq, block_eq, start_eq⟩
  · have nothing : (Scan.ofText []).exports = [] := rfl
    rw [block_eq, start_eq, nothing, List.nil_append]
  · rw [block_eq, start_eq, repaired_eq, Scan.exports_lines]
    exact place.collect_perm (fun text => (Scan.ofText text).exports) Scan.exports_append_feed rfl

/-- A prepared text exports what the text exports if the text lacks no declarations. -/
theorem exports_prepared_eq {fileName : Text}
    (nothing : Tables.default.lacking fileName text = []) :
    (Scan.ofText (prepared Tables.default fileName text)).exports = (Scan.ofText text).exports := by
  rcases prepared_cases fileName text with ⟨-, start_eq⟩ | ⟨-, body, -, -, -, -, block_eq, -⟩
  · rw [start_eq, Repaired.exports_ofRules]
  · rw [nothing] at block_eq
    cases block_eq

theorem inOrder_prepared (index : Index) (families : List Text) (path : Path) (tier : Tier)
    (text : Text) :
    (Resolution.ofAnalysis Tables.default index
        (Analysis.ofText families path tier text)).steps.map Step.reference =
      findAll Reference.recognise (prepared Tables.default path.name text) := by
  rw [Resolution.ofAnalysis_map_reference, findAll_prepared_eq]

/-- A prepared text is sound when the text was fair. -/
theorem Fair.sound (fair : Fair text) (fileName : Text) :
    Sound (Scan.ofText (prepared Tables.default fileName text)).exports
      (prepared Tables.default fileName text) := by
  have repaired := Sound.ofRules fair.isolated (fair.unnamed.of_suffix ⟨[' '], rfl⟩)
  rcases prepared_cases fileName text with ⟨-, start_eq⟩ |
    ⟨before, body, rest, place, handWritten, repaired_eq, -, start_eq⟩
  · rw [start_eq]
    exact ⟨repaired.isolated, repaired.unnamed, repaired.steady, rfl⟩
  · rw [start_eq]
    rw [repaired_eq] at repaired
    exact handWritten.sound place repaired

/-- A prepared text does not export `any` when the text was fair. -/
theorem Fair.noAny (fair : Fair text) (fileName : Text) :
    "any".toList ∉ (Scan.ofText (prepared Tables.default fileName text)).exports := by
  intro member
  rcases List.mem_append.1 ((exports_prepared_perm fileName text).subset member) with
    declared | exported
  · rcases prepared_cases fileName text with ⟨block_eq, -⟩ |
      ⟨-, body, -, -, handWritten, -, block_eq, -⟩
    · rw [block_eq] at declared
      cases declared
    · rw [block_eq, Scan.exports_lines] at declared
      exact handWritten.noAny declared
  · exact fair.exports_free _ exported (by decide)

theorem return_not_mem_prepared (fileName : Text) (absent : '\r' ∉ text) :
    '\r' ∉ prepared Tables.default fileName text := by
  have repaired := Repaired.return_not_mem_ofRules absent
  rcases prepared_cases fileName text with ⟨-, start_eq⟩ |
    ⟨before, body, rest, -, handWritten, repaired_eq, -, start_eq⟩
  · rwa [start_eq]
  · rw [repaired_eq, List.mem_append, not_or] at repaired
    rw [start_eq]
    simp [repaired.1, repaired.2, handWritten.carriage]

/-- The pieces of the edited text are the settled pieces of the prepared one. -/
theorem pieces_edit_prepared (fair : Fair text) (fitting : Fitting here suffix path index) :
    let resolution := Resolution.ofAnalysis Tables.default index
      (Analysis.ofText families path tier text)
    let start := prepared Tables.default path.name text
    pieces Reference.recognise (resolution.edit start) =
      Step.settled resolution.steps (pieces Reference.recognise start) := by
  intro resolution start
  have supplies := Supplies.harmless fitting.named
  have inert : Supplies Tables.default index Reference.Inert :=
    ⟨fun reference expression found => (supplies.builtin reference expression found).inert,
      fun key entry member => (supplies.declared key entry member).inert,
      fun key entry member taken => (supplies.aliased key entry member taken).inert⟩
  exact Resolution.pieces_edit inert (fair.sound path.name).isolated
    (inOrder_prepared index families path tier text)

/-- Editing a fair text that does not slip leaves a sound text. -/
theorem sound_edit (fair : Fair text) (fitting : Fitting here suffix path index)
    (noSlip : ¬Slips index (Analysis.ofText families path tier text) text) :
    Sound (Scan.ofText (prepared Tables.default path.name text)).exports
      ((Resolution.ofAnalysis Tables.default index (Analysis.ofText families path tier text)).edit
        (prepared Tables.default path.name text)) := by
  have supplies := Supplies.harmless fitting.named
  have sound : Sound (Scan.ofText (prepared Tables.default path.name text)).exports
      ([] ++ prepared Tables.default path.name text) := by
    rw [List.nil_append]
    exact fair.sound path.name
  have edited := Sound.settled (fair.noAny path.name) sound
    (inOrder_prepared index families path tier text)
    (fun step member replacement replaced =>
      Resolution.replacement_of_supplies supplies member replaced)
    fun step member replacement replaced ends before after whole unexported =>
      noSlip ⟨step, member, replacement, replaced, ends,
        (exists_unexported_prepared_iff (Resolution.reference_spelled member) path.name text).1
          ⟨before, after, whole, unexported⟩⟩
  rw [List.nil_append, ← pieces_edit_prepared fair fitting,
    flatMap_text_pieces Reference.recognise_isLocal] at edited
  exact edited

/-- What stays in the edited text are the references of the text that denote nothing. -/
theorem mem_findAll_edit_iff (families : List Text) (tier : Tier) (fair : Fair text)
    (fitting : Fitting here suffix path index) {reference : Reference} :
    reference ∈ findAll Reference.recognise ((Resolution.ofAnalysis Tables.default index
        (Analysis.ofText families path tier text)).edit
          (prepared Tables.default path.name text)) ↔
      reference ∈ findAll Reference.recognise text ∧
        Target.find? Tables.default index reference = none := by
  let steps := (Resolution.ofAnalysis Tables.default index
    (Analysis.ofText families path tier text)).steps
  have references : steps.map Step.reference = findAll Reference.recognise text :=
    Resolution.ofAnalysis_map_reference Tables.default index families path tier text
  have stays : ∀ step ∈ steps, step.decision.isResolved = false ↔
      Target.find? Tables.default index step.reference = none := by
    intro step member
    rw [Resolution.isResolved_of_mem member, Option.isSome_eq_false_iff, Option.isNone_iff_eq_none]
  rw [findAll, pieces_edit_prepared fair fitting,
    Step.references_settled (inOrder_prepared index families path tier text), ← references]
  constructor
  · intro member
    obtain ⟨step, kept, rfl⟩ := List.mem_map.1 member
    obtain ⟨listed, unresolved⟩ := List.mem_filter.1 kept
    exact ⟨List.mem_map_of_mem listed, (stays step listed).1 (by simpa using unresolved)⟩
  · rintro ⟨member, unknown⟩
    obtain ⟨step, listed, rfl⟩ := List.mem_map.1 member
    exact List.mem_map_of_mem
      (List.mem_filter.2 ⟨listed, by simpa using (stays step listed).2 unknown⟩)

/-- The words that mark hand-written declarations are in the edited text of a file that has them. -/
theorem marked_edit (families : List Text) (tier : Tier) (fair : Fair text)
    (fitting : Fitting here suffix path index)
    (listed : (Dict.get? path.name Tables.default.synthetic).isSome = true) :
    Tables.defaultMarker <:+: (Resolution.ofAnalysis Tables.default index
      (Analysis.ofText families path tier text)).edit (prepared Tables.default path.name text) := by
  have there : Tables.defaultMarker <:+: prepared Tables.default path.name text :=
    Placed.marked_declarations listed _
  have kept := Step.infix_settled_comment (by decide) (by decide) (fair.sound path.name).isolated
    (inOrder_prepared index families path tier text) there
  rwa [← pieces_edit_prepared fair fitting, flatMap_text_pieces Reference.recognise_isLocal] at kept

theorem tidy_plan (fitting : Fitting here suffix path index) (analysis : Analysis) :
    (Resolution.ofAnalysis Tables.default index analysis).plan.Tidy
      fun producer => ∃ key entry, (key, entry) ∈ index.entries ∧ entry.path = producer :=
  (Resolution.drawnFrom_ofAnalysis _ index analysis).tidy
    fun key entry member => ⟨⟨key, entry, member, rfl⟩, (fitting.named key entry member).1⟩

/-- The linked text is the edited text, or it has a plain block more at a place for it. -/
theorem text_cases (families : List Text) (tier : Tier) (text : Text)
    (fitting : Fitting here suffix path index) :
    let edited := (Resolution.ofAnalysis Tables.default index
      (Analysis.ofText families path tier text)).edit (prepared Tables.default path.name text)
    let linked := (ofText here Tables.default suffix index (Analysis.ofText families path tier text)
      text).text
    linked = edited ∨ ∃ before body rest, Import.Place before ∧ Import.Plain body ∧
      edited = before ++ rest ∧ linked = before ++ (('\n' :: (body ++ ['\n'])) ++ rest) := by
  intro edited linked
  refine Placed.imports_cases (tidy_plan fitting _) ?_ edited
  rintro producer ⟨key, entry, member, rfl⟩
  exact fitting.reached key entry member

/-- Linking a fair text that does not slip leaves a sound text that exports what the prepared one
exports. -/
theorem sound_linked (fair : Fair text) (fitting : Fitting here suffix path index)
    (noSlip : ¬Slips index (Analysis.ofText families path tier text) text) :
    Sound (Scan.ofText (prepared Tables.default path.name text)).exports
      (ofText here Tables.default suffix index (Analysis.ofText families path tier text)
        text).text := by
  have sound := sound_edit fair fitting noSlip
  rcases text_cases families tier text fitting with
    same | ⟨before, body, rest, place, plain, edited_eq, linked_eq⟩
  · rw [same]
    exact sound
  · rw [edited_eq] at sound
    rw [linked_eq]
    exact plain.sound place sound

/-- What stays in the linked text are the references of the text that denote nothing. -/
theorem mem_findAll_linked_iff (families : List Text) (tier : Tier) (fair : Fair text)
    (fitting : Fitting here suffix path index) {reference : Reference} :
    reference ∈ findAll Reference.recognise (ofText here Tables.default suffix index
        (Analysis.ofText families path tier text) text).text ↔
      reference ∈ findAll Reference.recognise text ∧
        Target.find? Tables.default index reference = none := by
  rw [← mem_findAll_edit_iff families tier fair fitting]
  rcases text_cases families tier text fitting with
    same | ⟨before, body, rest, place, plain, edited_eq, linked_eq⟩
  · rw [same]
  · rw [linked_eq, edited_eq, plain.idle.findAll_eq place]

/-- The linked text of a file that has hand-written declarations holds the words that mark them. -/
theorem marked_linked (families : List Text) (tier : Tier) (fair : Fair text)
    (fitting : Fitting here suffix path index)
    (listed : (Dict.get? path.name Tables.default.synthetic).isSome = true) :
    Tables.defaultMarker <:+: (ofText here Tables.default suffix index
      (Analysis.ofText families path tier text) text).text := by
  have kept := marked_edit families tier fair fitting listed
  rcases text_cases families tier text fitting with
    same | ⟨before, body, rest, place, -, edited_eq, linked_eq⟩
  · rwa [same]
  · rw [edited_eq] at kept
    rw [linked_eq]
    exact place.infix_spliced (by decide) kept

/-- A linked text of a fair text that does not slip is settled under every index that has nothing
for the references that stay in it. -/
theorem settled_linked_iff (fair : Fair text) (fitting : Fitting here suffix path index)
    (noSlip : ¬Slips index (Analysis.ofText families path tier text) text) (later : Index) :
    Settled Tables.default later path.name
        (ofText here Tables.default suffix index (Analysis.ofText families path tier text)
          text).text ↔
      ∀ reference ∈ findAll Reference.recognise text,
        Target.find? Tables.default index reference = none →
          Target.find? Tables.default later reference = none := by
  have sound := sound_linked fair fitting noSlip
  constructor
  · intro settled reference member unknown
    exact settled.unknown reference
      ((mem_findAll_linked_iff families tier fair fitting).2 ⟨member, unknown⟩)
  · intro unknown
    refine ⟨fun rule known => ?_, fun listed => ?_, fun reference member => ?_⟩
    · exact (sound.steady rule known).count_eq_zero (Rule.isRegular_of_mem_builtin known)
    · exact occursIn_iff.2 (marked_linked families tier fair fitting listed)
    · obtain ⟨inText, nothing⟩ := (mem_findAll_linked_iff families tier fair fitting).1 member
      exact unknown reference inText nothing

theorem return_not_mem_settled {steps : List Step} {pieces : List (Piece Reference)}
    (absent : '\r' ∉ pieces.flatMap Piece.text)
    (harmless : ∀ step ∈ steps, ∀ replacement, step.decision.replacement? = some replacement →
      Harmless replacement) :
    '\r' ∉ (Step.settled steps pieces).flatMap Piece.text := by
  induction pieces generalizing steps with
  | nil => cases steps <;> exact absent
  | cons piece pieces ih =>
      rw [List.flatMap_cons, List.mem_append, not_or] at absent
      cases piece with
      | single char =>
          rw [Step.settled, List.flatMap_cons, List.mem_append, not_or]
          exact ⟨absent.1, ih absent.2 harmless⟩
      | hit stretch reference =>
          cases steps with
          | nil =>
              rw [Step.settled, List.flatMap_cons, List.mem_append, not_or]
              exact ⟨absent.1, ih absent.2 harmless⟩
          | cons step steps =>
              have rest := ih absent.2 fun other member => harmless other (.tail step member)
              rw [Step.settled]
              split
              · rename_i replacement replaced
                rw [List.flatMap_append, Piece.flatMap_singles, List.mem_append, not_or]
                exact ⟨(harmless step List.mem_cons_self replacement replaced).carriage, rest⟩
              · rw [List.flatMap_cons, List.mem_append, not_or]
                exact ⟨absent.1, rest⟩

/-- Linking brings no carriage return into a text. -/
theorem return_not_mem_linked (families : List Text) (tier : Tier) (fair : Fair text)
    (fitting : Fitting here suffix path index) (absent : '\r' ∉ text) :
    '\r' ∉ (ofText here Tables.default suffix index (Analysis.ofText families path tier text)
      text).text := by
  have isLocal := Reference.recognise_isLocal
  have supplies := Supplies.harmless fitting.named
  have start := return_not_mem_prepared path.name absent
  have edited : '\r' ∉ (Resolution.ofAnalysis Tables.default index
      (Analysis.ofText families path tier text)).edit
        (prepared Tables.default path.name text) := by
    rw [← flatMap_text_pieces isLocal (prepared _ _ _)] at start
    rw [← flatMap_text_pieces isLocal (Resolution.edit _ _), pieces_edit_prepared fair fitting]
    exact return_not_mem_settled start fun step member replacement replaced =>
      Resolution.replacement_of_supplies supplies member replaced
  rcases text_cases families tier text fitting with
    same | ⟨before, body, rest, -, plain, edited_eq, linked_eq⟩
  · rwa [same]
  · have inBody := plain.not_mem (show Import.isStatementChar '\r' = false by decide) (by decide)
    rw [edited_eq] at edited
    rw [linked_eq]
    simp only [List.mem_append, not_or] at edited
    simp [edited.1, edited.2, inBody]

/-! ## Texts that slip -/

/-- What stands behind `export` in a constant with the value `any` holds no placeholder and cuts
none. -/
theorem pieces_unexported {name : Text} (nameWord : ∀ char ∈ name, isWord char = true)
    (rest : Text) :
    pieces Reference.recognise (" const ".toList ++ (name ++ (Rule.constantValue ++ rest))) =
      (" const ".toList ++ (name ++ Rule.constantValue)).map .single ++
        pieces Reference.recognise rest := by
  have closer : ';' ∈ Rule.closers := by decide
  have noSlash : '/' ∉ " const ".toList ++ (name ++ Rule.constantValue) := by
    simp [Rule.slash_not_mem_of_word nameWord, Rule.constantValue_eq]
  have phrase_eq : " const ".toList ++ (name ++ Rule.constantValue) =
      (" const ".toList ++ (name ++ " = any".toList)) ++ [';'] := by
    simp [Rule.constantValue_eq]
  have apart : Recogniser.Apart Reference.recognise
      (" const ".toList ++ (name ++ Rule.constantValue)) rest := by
    rw [phrase_eq]
    exact Reference.apart_of_foreign_before (Rule.foreign_of_mem_closers closer) _ rest
  have regroup : " const ".toList ++ (name ++ (Rule.constantValue ++ rest)) =
      (" const ".toList ++ (name ++ Rule.constantValue)) ++ rest := by simp
  rw [regroup, pieces_append Reference.recognise_isLocal apart,
    Reference.clear_of_slash_not_mem noSlash]

/-- Editing puts the replacement of a step in the place of any of its placeholders; what stands
behind that is settled by later steps. -/
theorem exists_edit_around (fair : Fair text) (fitting : Fitting here suffix path index)
    {step : Step} (member : step ∈ (Resolution.ofAnalysis Tables.default index
      (Analysis.ofText families path tier text)).steps)
    {replacement : Text} (replaced : step.decision.replacement? = some replacement)
    {before after : Text} (start_eq : prepared Tables.default path.name text =
      before ++ (step.reference.text ++ after)) :
    ∃ front later, (Resolution.ofAnalysis Tables.default index
        (Analysis.ofText families path tier text)).edit (prepared Tables.default path.name text) =
      front ++ (replacement ++
        (Step.settled later (pieces Reference.recognise after)).flatMap Piece.text) := by
  have pieces_eq : pieces Reference.recognise (prepared Tables.default path.name text) =
      pieces Reference.recognise before ++ (.hit step.reference.text step.reference ::
        pieces Reference.recognise after) := by
    rw [start_eq, (Resolution.reference_spelled member).pieces_around]
  have inOrder := inOrder_prepared index families path tier text
  rw [findAll, pieces_eq, List.filterMap_append, List.filterMap_cons] at inOrder
  obtain ⟨one, others, steps_eq, oneInOrder, othersInOrder⟩ := List.map_eq_append_iff.1 inOrder
  obtain ⟨found, later, rfl, found_eq, -⟩ := List.map_eq_cons_iff.1 othersInOrder
  -- The step for this place decides like the given one.
  have foundMember : found ∈ (Resolution.ofAnalysis Tables.default index
      (Analysis.ofText families path tier text)).steps := by simp [steps_eq]
  have foundReplaced : found.decision.replacement? = some replacement := by
    rw [Resolution.decision_eq_of_reference_eq foundMember member found_eq, replaced]
  refine ⟨(Step.settled one (pieces Reference.recognise before)).flatMap Piece.text, later, ?_⟩
  rw [← flatMap_text_pieces Reference.recognise_isLocal (Resolution.edit _ _),
    pieces_edit_prepared fair fitting, pieces_eq, steps_eq, Step.settled_append oneInOrder,
    List.flatMap_append]
  simp only [Step.settled, foundReplaced, List.flatMap_append, Piece.flatMap_singles]

/-- A slip leaves a match for constants in the edited text. -/
theorem exists_match_of_slips (fair : Fair text) (fitting : Fitting here suffix path index)
    (slips : Slips index (Analysis.ofText families path tier text) text) :
    ∃ stretch repair, Rule.constant.Matches stretch repair ∧
      stretch <:+: (Resolution.ofAnalysis Tables.default index
        (Analysis.ofText families path tier text)).edit
          (prepared Tables.default path.name text) := by
  obtain ⟨step, member, replacement, replaced, ⟨lead, replacement_eq⟩, slipped⟩ := slips
  -- The placeholder stands before the rest of the constant in the prepared text too.
  obtain ⟨before, after, start_eq, name, rest, name_ne, nameWord, rfl⟩ :=
    (exists_unexported_prepared_iff (Resolution.reference_spelled member) path.name text).2 slipped
  obtain ⟨front, later, edited_eq⟩ := exists_edit_around fair fitting member replaced start_eq
  rw [pieces_unexported nameWord, Step.settled_singles, List.flatMap_append,
    Piece.flatMap_singles] at edited_eq
  refine ⟨_, _, .constant name_ne nameWord, front ++ lead,
    (Step.settled later (pieces Reference.recognise rest)).flatMap Piece.text, ?_⟩
  rw [edited_eq, ← replacement_eq, Rule.constantOpening_split]
  simp only [List.append_assoc]

/-- A text that slips has something to repair after it was linked. -/
theorem count_ne_zero_of_slips (fair : Fair text) (fitting : Fitting here suffix path index)
    (slips : Slips index (Analysis.ofText families path tier text) text) :
    Rule.constant.count (ofText here Tables.default suffix index
      (Analysis.ofText families path tier text) text).text ≠ 0 := by
  obtain ⟨stretch, repair, matched, inside⟩ := exists_match_of_slips fair fitting slips
  refine Rule.constant_count_ne_zero matched ?_
  have flat : '\n' ∉ stretch := by
    rcases matched.colon_or_sign with ⟨tail, same⟩ | ⟨-, -, flat⟩
    · cases matched with
      | constant name_ne nameWord => cases same
    · exact flat
  rcases text_cases families tier text fitting with
    same | ⟨before, body, rest, place, -, edited_eq, linked_eq⟩
  · rw [same]
    exact inside
  · rw [linked_eq]
    rw [edited_eq] at inside
    exact place.infix_spliced flat inside

end Linked

end DeclLinker
