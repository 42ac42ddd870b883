import DeclLinker.Proofs.Import.Schedule
import DeclLinker.Proofs.Linking.Splice
import DeclLinker.Proofs.Linking.Survival
import DeclLinker.Proofs.Repair.Independence
import DeclLinker.Proofs.Repair.Surroundings
import DeclLinker.Proofs.Tables

/-!
# The layout of a linked file

A file that starts with the banner line is linked behind it.  The repairs and the edits are stages
that leave a line without their marks as it is and do to the rest what they would do to it alone.
The two blocks go right behind the first banner line, which is the first line of the file.  So a
linked file is the banner, the imports, the hand-written declarations and the generated content, in
this order, whatever the content repeats of the others.
-/

namespace DeclLinker

open Text

/-! ## Stages that work behind a line -/

namespace Text

/-- The stage leaves the line as it is and does to what follows what it does to it alone. -/
def WorksBehind (line : Text) (stage : Text → Text) : Prop :=
  ∀ rest, stage (line ++ '\n' :: rest) = line ++ '\n' :: stage rest

theorem WorksBehind.foldl {κ : Type} {line : Text} {stage : Text → κ → Text} {items : List κ}
    (each : ∀ item ∈ items, WorksBehind line fun text => stage text item) :
    WorksBehind line fun text => items.foldl stage text := by
  induction items with
  | nil => exact fun rest => rfl
  | cons item items ih =>
      intro rest
      have first : stage (line ++ '\n' :: rest) item = line ++ '\n' :: stage rest item :=
        each item List.mem_cons_self rest
      have later := ih fun other member => each other (.tail item member)
      calc
        (item :: items).foldl stage (line ++ '\n' :: rest)
          = items.foldl stage (line ++ '\n' :: stage rest item) := by rw [List.foldl_cons, first]
        _ = line ++ '\n' :: (item :: items).foldl stage rest := later (stage rest item)

end Text

/-- A match holds a colon or an equals sign, so a rule works behind a line without them. -/
theorem Rule.worksBehind_apply {rule : Rule} (known : rule ∈ Rule.builtin) {line : Text}
    (noColon : ':' ∉ line) (noSign : '=' ∉ line) : WorksBehind line rule.apply := by
  have misses : rule.Misses (line ++ ['\n']) :=
    misses_of_unmarked (by simp [noColon]) (by simp [noSign]) (by simp) rule
  intro rest
  have nothing : rule.apply [] = [] := rfl
  have around := apply_around (isRegular_of_mem_builtin known)
    (Recogniser.Apart.nil_left ((line ++ ['\n']) ++ rest)) misses
  simpa [nothing] using around

theorem Repaired.worksBehind_ofRules {line : Text} (noColon : ':' ∉ line) (noSign : '=' ∉ line) :
    WorksBehind line fun text => (ofRules Rule.builtin text).text := by
  have all : WorksBehind line fun text =>
      Rule.builtin.foldl (fun text rule => rule.apply text) text :=
    WorksBehind.foldl fun rule known => rule.worksBehind_apply known noColon noSign
  intro rest
  simpa only [text_ofRules] using all rest

/-- The text of a reference holds a star and no line feed, so none starts in a line without stars.
-/
theorem Reference.Spelled.worksBehind_replaceFirst {reference : Reference}
    (spelled : reference.Spelled) {line : Text} (noStar : '*' ∉ line) (replacement : Text) :
    WorksBehind line (replaceFirst reference.text replacement) := by
  intro rest
  have skipped : ∀ before back, line ++ ['\n'] = before ++ back → back ≠ [] →
      ¬reference.text <+: back ++ rest := by
    intro before back line_eq back_ne starts
    have ends : back <:+ line ++ ['\n'] := ⟨before, line_eq.symm⟩
    obtain ⟨inner, rfl, innerEnds⟩ := (List.suffix_concat_iff.1 ends).resolve_left back_ne
    rw [List.append_assoc, List.singleton_append] at starts
    have inside := prefix_of_not_mem spelled.feed_not_mem starts
    exact noStar (innerEnds.subset (inside.subset reference.star_mem_text))
  rw [List.append_cons, replaceFirst_append replacement skipped, List.append_assoc,
    List.singleton_append]

/-- The edits of a file work behind a line without stars. -/
theorem Step.worksBehind_foldl_edit {steps : List Step}
    (spelled : ∀ step ∈ steps, step.reference.Spelled) {line : Text} (noStar : '*' ∉ line) :
    WorksBehind line fun text => steps.foldl Step.edit text := by
  refine WorksBehind.foldl fun step member rest => ?_
  unfold Step.edit
  split
  · rename_i replacement replaced
    exact (spelled step member).worksBehind_replaceFirst noStar replacement rest
  · rfl

/-- They also work behind a line and a block of lines that follows it. -/
theorem Step.foldl_edit_block {steps : List Step}
    (spelled : ∀ step ∈ steps, step.reference.Spelled) {line block : Text} (lineStar : '*' ∉ line)
    (blockStar : '*' ∉ block) (closed : block = [] ∨ block.getLast? = some '\n') (rest : Text) :
    steps.foldl Step.edit (line ++ '\n' :: (block ++ rest)) =
      line ++ '\n' :: (block ++ steps.foldl Step.edit rest) := by
  rcases closed with rfl | closed
  · exact worksBehind_foldl_edit spelled lineStar rest
  · obtain ⟨inner, rfl⟩ := List.getLast?_eq_some_iff.1 closed
    have noStar : '*' ∉ line ++ '\n' :: inner := by simpa [lineStar] using blockStar
    simpa using worksBehind_foldl_edit spelled noStar rest

/-! ## Blocks behind the banner line -/

/-- A block goes between the banner line and the rest of a file that starts with it. -/
theorem Spliced.behind_banner (banner block rest : Text) :
    (behind banner block (banner ++ '\n' :: rest)).text = banner ++ '\n' :: (block ++ rest) := by
  have cut := cut?_phrase (banner ++ ['\n']) rest
  rw [List.append_assoc, List.singleton_append] at cut
  simp [behind, cut]

/-- The hand-written declarations that a file is still without. -/
def Tables.lacking (tables : Tables) (fileName text : Text) : Text :=
  if tables.marker.occursIn text then [] else (Dict.get? fileName tables.synthetic).getD []

namespace Placed

theorem declarations_banner (tables : Tables) (fileName rest : Text) :
    let text := tables.banner ++ '\n' :: rest
    (declarations tables fileName text).text =
      tables.banner ++ '\n' :: (tables.lacking fileName text ++ rest) := by
  intro text
  unfold declarations Tables.lacking
  split
  · rename_i unlisted
    simp [unlisted, text]
  · rename_i block listed
    split
    · rfl
    · rw [listed]
      exact Spliced.behind_banner tables.banner block rest

theorem imports_banner (here : Location) (banner suffix : Text) (consumer : Path)
    (schedule : Schedule) (rest : Text) :
    (imports here banner suffix consumer schedule (banner ++ '\n' :: rest)).text =
      banner ++ '\n' ::
        (Import.block (Import.statements here consumer suffix schedule) ++ rest) := by
  unfold imports
  dsimp only
  split
  · rename_i none
    simp [Import.block, none]
  · exact Spliced.behind_banner _ _ _

end Placed

theorem Import.block_eq_nil_iff {statements : List Text} :
    block statements = [] ↔ statements = [] := by
  unfold block
  split
  · rename_i none
    simpa using none
  · rename_i some
    simpa using some

/-- A file has import statements exactly when a placeholder of it meets a declaration in another
file. -/
theorem Resolution.statements_eq_nil_iff (tables : Tables) (index : Index) (analysis : Analysis)
    (here : Location) (consumer : Path) (suffix : Text) :
    Import.statements here consumer suffix (ofAnalysis tables index analysis).plan.schedule = [] ↔
      crossings tables index analysis = [] := by
  have drawn := drawnFrom_ofAnalysis tables index analysis
  have serves := (Plan.serves_start (analysis.exports ++
    syntheticExports tables analysis.fileName)).foldl_need (crossings tables index analysis)
  rw [← ofAnalysis_plan_eq, List.nil_append] at serves
  have producers := serves.producers
  rw [Import.statements, drawn.filter_schedule, List.map_eq_nil_iff]
  constructor
  · intro nothing
    rw [nothing] at producers
    refine List.eq_nil_iff_forall_not_mem.2 fun entry member => ?_
    have listed := List.mem_eraseDups.2 (List.mem_map_of_mem (f := Entry.path) member)
    rw [← producers] at listed
    cases listed
  · intro nothing
    rw [nothing] at producers
    exact List.map_eq_nil_iff.1 producers

namespace Settings

/-- Repairs leave the words alone that mark a file with its hand-written declarations. -/
theorem lacking_ofRules (settings : Settings) (fileName text : Text) :
    settings.tables.lacking fileName (Repaired.ofRules Rule.builtin text).text =
      settings.tables.lacking fileName text := by
  have remark : Rule.Remark Tables.defaultMarker := ⟨by decide, by decide, by decide⟩
  have marked : settings.tables.marker.occursIn (Repaired.ofRules Rule.builtin text).text =
      settings.tables.marker.occursIn text := by
    rw [Bool.eq_iff_iff, occursIn_iff, occursIn_iff]
    exact Repaired.infix_ofRules_iff remark text
  rw [Tables.lacking, Tables.lacking, marked]

/-- The hand-written declarations of every settings are whole lines without stars. -/
theorem lacking_spec (settings : Settings) (fileName text : Text) :
    let block := settings.tables.lacking fileName text
    '*' ∉ block ∧ (block = [] ∨ block.getLast? = some '\n') := by
  unfold Tables.lacking
  split
  · decide
  · simp only [Settings.tables, Tables.extended, Dict.get?]
    split
    · simp only [Tables.decodedDeclarations.property]
      decide +kernel
    · decide

end Settings

/-! ## The layout -/

namespace Linked

/-- A file that starts with the banner is prepared behind it. -/
theorem prepared_banner (settings : Settings) (fileName body : Text)
    (noColon : ':' ∉ settings.corpus.banner) (noSign : '=' ∉ settings.corpus.banner) :
    let tables := settings.tables
    let text := tables.banner ++ '\n' :: body
    prepared tables fileName text = tables.banner ++ '\n' ::
      (tables.lacking fileName text ++ (Repaired.ofRules tables.rules body).text) := by
  intro tables text
  let mended := (Repaired.ofRules Rule.builtin body).text
  have repaired : (Repaired.ofRules Rule.builtin text).text = tables.banner ++ '\n' :: mended :=
    Repaired.worksBehind_ofRules noColon noSign body
  have declared := Placed.declarations_banner tables fileName mended
  dsimp only at declared
  rw [← repaired, settings.lacking_ofRules] at declared
  exact declared

/-- A file that starts with a banner without the marks of rules and placeholders stays in order when
it is linked: the banner, the import statements, the hand-written declarations, and the content with
its repairs and edits.  There are import statements exactly when a placeholder meets a declaration
in another file, and the edits are those of the placeholders of the content. -/
theorem text_eq_layout (here : Location) (settings : Settings) (index : Index) (path : Path)
    (tier : Tier) (body : Text)
    (unmarked : ∀ mark ∈ [':', '=', '*'], mark ∉ settings.corpus.banner) :
    let tables := settings.tables
    let file := tables.banner ++ '\n' :: body
    let analysis := Analysis.ofText settings.corpus.families path tier file
    let resolution := Resolution.ofAnalysis tables index analysis
    let imports := Import.block
      (Import.statements here path settings.corpus.suffix resolution.plan.schedule)
    let declarations := tables.lacking path.name file
    let content := resolution.edit (Repaired.ofRules tables.rules body).text
    (ofText here tables settings.corpus.suffix index analysis file).text =
        tables.banner ++ '\n' :: (imports ++ (declarations ++ content)) ∧
      (imports = [] ↔ Resolution.crossings tables index analysis = []) ∧
      resolution.steps.map Step.reference = findAll Reference.recognise body := by
  intro tables file analysis resolution imports declarations content
  have noColon : ':' ∉ tables.banner := unmarked ':' (by decide)
  have noSign : '=' ∉ tables.banner := unmarked '=' (by decide)
  have noStar : '*' ∉ tables.banner := unmarked '*' (by decide)
  refine ⟨?_, ?_, ?_⟩
  · have spelled : ∀ step ∈ resolution.steps, step.reference.Spelled :=
      fun step member => Resolution.reference_spelled member
    obtain ⟨blockStar, closed⟩ := settings.lacking_spec path.name file
    have edited : resolution.edit (prepared tables path.name file) =
        tables.banner ++ '\n' :: (declarations ++ content) := by
      rw [prepared_banner settings path.name body noColon noSign]
      exact Step.foldl_edit_block spelled noStar blockStar closed _
    calc
      (ofText here tables settings.corpus.suffix index analysis file).text
        = (Placed.imports here tables.banner settings.corpus.suffix path resolution.plan.schedule
            (resolution.edit (prepared tables path.name file))).text := rfl
      _ = tables.banner ++ '\n' :: (imports ++ (declarations ++ content)) := by
          rw [edited, Placed.imports_banner]
  · rw [Import.block_eq_nil_iff]
    exact Resolution.statements_eq_nil_iff tables index analysis here path settings.corpus.suffix
  · have references : resolution.steps.map Step.reference = findAll Reference.recognise file :=
      Resolution.ofAnalysis_map_reference tables index settings.corpus.families path tier file
    rw [references, Reference.findAll_append_feed, Reference.findAll_of_star_not_mem noStar,
      List.nil_append]

/-- A file whose content repeats the banner, with an import, hand-written declarations, a repair and
an edit. -/
theorem text_eq_layout_of_repeated_banner :
    let settings := Settings.default
    let index : Index := ⟨[("acl.Gate".toList, Resolution.aclGate)]⟩
    let path : Path := .ofText "gen/caddy-rewrite.ts".toList
    let banner := Tables.defaultBanner
    let file := banner ++ '\n' :: (banner ++ "\na: any /* acl.Gate */; b: error;".toList)
    (∀ mark ∈ [':', '=', '*'], mark ∉ settings.corpus.banner) ∧
      (ofText [] settings.tables settings.corpus.suffix index
        (Analysis.ofText settings.corpus.families path .core file) file).text =
          banner ++ '\n' ::
            ("\nimport type \x7b Gate \x7d from \x22./authcrunch-acl\x22;\n".toList ++
              (Tables.missingDeclarations ++ (banner ++ "\na: Gate; b: Error;".toList))) := by
  intro settings index path banner file
  have unmarked : ∀ mark ∈ [':', '=', '*'], mark ∉ settings.corpus.banner := by decide
  refine ⟨unmarked, ?_⟩
  have layout := (text_eq_layout [] settings index path .core
    (banner ++ "\na: any /* acl.Gate */; b: error;".toList) unmarked).1
  refine layout.trans ?_
  have tables_eq : settings.tables = Tables.decodedDefault := Tables.default_eq_decoded
  rw [tables_eq, Tables.decodedDeclarations.property]
  decide +kernel

end Linked

end DeclLinker
