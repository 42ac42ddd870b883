import DeclLinker.Layout
import DeclLinker.Proofs.Import.Bound
import DeclLinker.Proofs.Source.Occurrence
import DeclLinker.Proofs.Text.Order
import Mathlib.Data.List.Sort

/-!
# Import statements tell what they import

The names of a statement are sorted without regard to case and then by code point.  This order is
total, and names of which none comes after the other are equal, so a statement does not depend on
the order in which the specs were planned.

A statement can be read back.  No word holds a closing brace, a comma or a blank: the first brace
ends the list, the commas separate its items, and the first blank of an item ends the exported name.
So a statement determines its specs and its specifier, whatever the specifier holds.
-/

namespace DeclLinker

open Text

namespace ImportSpec

/-! ## The order of the names -/

theorem le_iff {first second : ImportSpec} :
    first.le second = true ↔
      first.exportName.fold < second.exportName.fold ∨
        first.exportName.fold = second.exportName.fold ∧
          Text.le first.exportName second.exportName = true := by
  simp [le]

theorem le_total (first second : ImportSpec) : (first.le second || second.le first) = true := by
  rw [Bool.or_eq_true, le_iff, le_iff]
  rcases lt_trichotomy first.exportName.fold second.exportName.fold with before | same | after
  · exact .inl (.inl before)
  · rcases Text.le_total first.exportName second.exportName with before | after
    · exact .inl (.inr ⟨same, before⟩)
    · exact .inr (.inr ⟨same.symm, after⟩)
  · exact .inr (.inl after)

theorem le_trans (first second third : ImportSpec) (one : first.le second = true)
    (two : second.le third = true) : first.le third = true := by
  rw [le_iff] at one two ⊢
  rcases one with before | ⟨same, before⟩
  · rcases two with later | ⟨sameLater, -⟩
    · exact .inl (before.trans later)
    · exact .inl (sameLater ▸ before)
  · rcases two with later | ⟨sameLater, later⟩
    · exact .inl (same ▸ later)
    · exact .inr ⟨same.trans sameLater, Text.le_trans before later⟩

/-- Case folding does not tell all names apart, but the names themselves are compared after it. -/
theorem exportName_eq_of_le {first second : ImportSpec} (one : first.le second = true)
    (two : second.le first = true) : first.exportName = second.exportName := by
  rw [le_iff] at one two
  rcases one with before | ⟨same, before⟩
  · rcases two with after | ⟨same, -⟩
    · exact absurd after before.not_gt
    · exact absurd same before.ne'
  · rcases two with after | ⟨-, after⟩
    · exact absurd same after.ne'
    · exact Text.le_antisymm before after

/-- Specs with different exported names are sorted in one way. -/
theorem mergeSort_eq_of_perm {specs order : List ImportSpec}
    (once : (specs.map exportName).Nodup) (perm : order.Perm specs) :
    order.mergeSort le = specs.mergeSort le := by
  have sorted := List.pairwise_mergeSort le_trans le_total specs
  have orderSorted := List.pairwise_mergeSort le_trans le_total order
  apply List.Perm.eq_of_pairwise _ orderSorted sorted
  · exact (List.mergeSort_perm order le).trans (perm.trans (List.mergeSort_perm specs le).symm)
  · intro first second firstListed secondListed before after
    have firstMember := perm.subset (List.mem_mergeSort.mp firstListed)
    have secondMember := List.mem_mergeSort.mp secondListed
    exact List.inj_on_of_nodup_map once firstMember secondMember (exportName_eq_of_le before after)

/-! ## Items -/

/-- The exported name and the alias, if there is one, are nonempty words. -/
structure Worded (spec : ImportSpec) : Prop where
  exportName_ne : spec.exportName ≠ []
  exportName_word : ∀ char ∈ spec.exportName, isWord char = true
  alias_ne : ∀ localName ∈ spec.alias?, localName ≠ []
  alias_word : ∀ localName ∈ spec.alias?, ∀ char ∈ localName, isWord char = true

theorem Worded.named {spec : ImportSpec} (worded : spec.Worded) : spec.Named := by
  rcases spec with ⟨exportName, alias?⟩
  have exportName_naming : ∀ char ∈ exportName, isNaming char = true :=
    fun char member => isNaming_of_isWord (worded.exportName_word char member)
  cases alias? with
  | none => exact ⟨exportName_naming, worded.exportName_ne, exportName_naming⟩
  | some localName =>
      constructor
      · exact exportName_naming
      · exact worded.alias_ne localName rfl
      · exact fun char member => isNaming_of_isWord (worded.alias_word localName rfl char member)

/-- The spec that an item of a statement stands for. -/
def ofText (item : Text) : ImportSpec :=
  match cut? " as ".toList item with
  | none => ⟨item, none⟩
  | some (exportName, localName) => ⟨exportName, some localName⟩

/-- An item whose exported name holds no blank is read back. -/
theorem ofText_toText {spec : ImportSpec} (solid : ' ' ∉ spec.exportName) :
    ofText spec.toText = spec := by
  rcases spec with ⟨exportName, alias?⟩
  cases alias? with
  | none =>
      have uncut : cut? " as ".toList exportName = none := by
        rw [cut?_eq_none_iff]
        intro inside
        exact solid (inside.subset List.mem_cons_self)
      simp only [toText, ofText, uncut]
  | some localName =>
      -- The separator starts with a blank, so it does not start inside the exported name.
      have skipped : ∀ before back, exportName = before ++ back → back ≠ [] →
          ¬" as ".toList <+: back ++ (" as ".toList ++ localName) := by
        intro before back name_eq back_ne starts
        rcases List.exists_cons_of_ne_nil back_ne with ⟨char, rest, rfl⟩
        have blank : ' ' = char := (List.cons_prefix_cons.mp starts).1
        apply solid
        rw [name_eq, ← blank]
        simp
      have cut_eq : cut? " as ".toList (exportName ++ " as ".toList ++ localName) =
          some (exportName, localName) := by
        rw [List.append_assoc, cut?_append skipped, cut?_phrase]
        simp
      simp only [toText, ofText, cut_eq]

end ImportSpec

namespace Import

/-- A list of items without commas is taken apart at its commas. -/
theorem splitOn_commaList {items : List Text} (items_ne : items ≠ [])
    (absent : ∀ item ∈ items, ',' ∉ item) :
    splitOn ',' (' ' :: commaList items) = items.map (' ' :: ·) := by
  -- With a blank in front of the first item too, the separators are single commas.
  have joined : ∀ {items : List Text}, items ≠ [] →
      ' ' :: commaList items = [','].intercalate (items.map (' ' :: ·)) := by
    intro items items_ne
    induction items with
    | nil => exact absurd rfl items_ne
    | cons item rest ih =>
        cases rest with
        | nil => simp [commaList]
        | cons next rest =>
            have later := ih (List.cons_ne_nil next rest)
            simp only [commaList, List.map_cons, List.intercalate_cons_cons] at later ⊢
            rw [← later]
            simp
  rw [joined items_ne, splitOn_intercalate (by simpa using items_ne)]
  intro piece member
  rcases List.mem_map.mp member with ⟨item, listed, rfl⟩
  simpa using absent item listed

/-- The specs that a list of items stands for. -/
def specsOf (items : Text) : List ImportSpec :=
  (splitOn ',' (' ' :: items)).map fun item => ImportSpec.ofText item.tail

/-- A list of items is read back as the specs it was written for. -/
theorem specsOf_commaList {specs : List ImportSpec} (specs_ne : specs ≠ [])
    (named : ∀ spec ∈ specs, spec.Named) :
    specsOf (commaList (specs.map ImportSpec.toText)) = specs := by
  have itemTexts_ne : specs.map ImportSpec.toText ≠ [] := by simpa using specs_ne
  have noComma : ∀ item ∈ specs.map ImportSpec.toText, ',' ∉ item := by
    intro item member
    rcases List.mem_map.mp member with ⟨spec, listed, rfl⟩
    exact (named spec listed).comma_not_mem
  have readBack : ∀ spec ∈ specs, ImportSpec.ofText spec.toText = spec := by
    intro spec listed
    apply ImportSpec.ofText_toText
    intro blank
    exact absurd ((named spec listed).exportName_naming ' ' blank) (by decide)
  rw [specsOf, splitOn_commaList itemTexts_ne noComma, List.map_map, List.map_map]
  exact (List.map_congr_left readBack).trans (List.map_id specs)

/-! ## Statements -/

/-- The list between the braces of a statement. -/
def names (specs : List ImportSpec) : Text :=
  commaList ((specs.mergeSort ImportSpec.le).map ImportSpec.toText)

theorem names_chars {specs : List ImportSpec} (named : ∀ spec ∈ specs, spec.Named) {char : Char}
    (member : char ∈ names specs) : isListing char = true := by
  rcases mem_intercalate member with inSeparator | ⟨item, listed, inItem⟩
  · have marks : ∀ char ∈ [',', ' '], isListing char = true := by decide
    exact marks char inSeparator
  · rcases List.mem_map.mp listed with ⟨spec, sorted, rfl⟩
    rcases (named spec (List.mem_mergeSort.mp sorted)).toText_chars char inItem with naming | rfl
    · simp [isListing, naming]
    · decide

theorem statement_eq (specs : List ImportSpec) (specifier : Text) :
    statement specs specifier = "import type \x7b ".toList ++ ((names specs ++ [' ']) ++
      '\x7d' :: (" from \x22".toList ++ (specifier ++ "\x22;".toList))) := by
  have regroup : ∀ first list last target close : Text,
      first ++ list ++ (' ' :: '\x7d' :: last) ++ target ++ close =
        first ++ ((list ++ [' ']) ++ '\x7d' :: (last ++ (target ++ close))) := by simp
  exact regroup _ (names specs) _ specifier _

theorem feed_not_mem_statement {specs : List ImportSpec} (named : ∀ spec ∈ specs, spec.Named)
    {specifier : Text} (flat : '\n' ∉ specifier) : '\n' ∉ statement specs specifier := by
  have noFeed : '\n' ∉ names specs := fun member => absurd (names_chars named member) (by decide)
  have opened : '\n' ∉ "import type \x7b ".toList := by decide
  have joined : '\n' ∉ " from \x22".toList := by decide
  have closed : '\n' ∉ "\x22;".toList := by decide
  rw [statement_eq]
  simp only [List.mem_append, List.mem_cons, List.not_mem_nil]
  grind

/-- Statements of the same text have the same names and the same specifier: the first closing brace
ends the list of names. -/
theorem names_eq_of_statement_eq {first second : List ImportSpec} {one two : Text}
    (firstNamed : ∀ spec ∈ first, spec.Named) (secondNamed : ∀ spec ∈ second, spec.Named)
    (same : statement first one = statement second two) :
    names first = names second ∧ one = two := by
  have braceless : ∀ {specs : List ImportSpec}, (∀ spec ∈ specs, spec.Named) →
      '\x7d' ∉ names specs ++ [' '] := by
    intro specs named member
    rcases List.mem_append.mp member with inNames | blank
    · exact absurd (names_chars named inNames) (by decide)
    · exact absurd (List.mem_singleton.mp blank) (by decide)
  rw [statement_eq, statement_eq] at same
  have behind := List.append_cancel_left same
  have pieces_eq := congrArg (splitOn '\x7d') behind
  rw [splitOn_append_cons (braceless firstNamed),
    splitOn_append_cons (braceless secondNamed)] at pieces_eq
  have names_eq := (List.cons.inj pieces_eq).1
  constructor
  · exact List.append_cancel_right names_eq
  · rw [names_eq] at behind
    have target_eq := (List.cons.inj (List.append_cancel_left behind)).2
    exact List.append_cancel_right (List.append_cancel_left target_eq)

/-- A statement determines its specifier and, in their order, its specs. -/
theorem mergeSort_eq_of_statement_eq {first second : List ImportSpec} {one two : Text}
    (first_ne : first ≠ []) (second_ne : second ≠ [])
    (firstNamed : ∀ spec ∈ first, spec.Named) (secondNamed : ∀ spec ∈ second, spec.Named)
    (same : statement first one = statement second two) :
    first.mergeSort ImportSpec.le = second.mergeSort ImportSpec.le ∧ one = two := by
  have readBack : ∀ {specs : List ImportSpec}, specs ≠ [] → (∀ spec ∈ specs, spec.Named) →
      specsOf (names specs) = specs.mergeSort ImportSpec.le := by
    intro specs specs_ne named
    apply specsOf_commaList
    · intro sorted_nil
      have perm := List.mergeSort_perm specs ImportSpec.le
      rw [sorted_nil] at perm
      exact specs_ne (List.nil_perm.mp perm)
    · exact fun spec sorted => named spec (List.mem_mergeSort.mp sorted)
  rcases names_eq_of_statement_eq firstNamed secondNamed same with ⟨names_eq, target_eq⟩
  constructor
  · rw [← readBack first_ne firstNamed, names_eq, readBack second_ne secondNamed]
  · exact target_eq

/-! ## Spec maps -/

/-- Specs by exported name, every name listed once, all names nonempty words. -/
structure SpecMap (specs : Dict Text ImportSpec) : Prop where
  once : (Dict.keys specs).Nodup
  keyed : ∀ pair ∈ specs, pair.1 = pair.2.exportName
  worded : ∀ pair ∈ specs, pair.2.Worded

/-- The specs of a map. -/
def values (specs : Dict Text ImportSpec) : List ImportSpec :=
  specs.map Prod.snd

namespace SpecMap

variable {specs : Dict Text ImportSpec} (map : SpecMap specs)

include map

theorem named : ∀ spec ∈ values specs, spec.Named := by
  intro spec member
  rcases List.mem_map.mp member with ⟨pair, listed, rfl⟩
  exact (map.worded pair listed).named

theorem exportNames_eq : (values specs).map ImportSpec.exportName = Dict.keys specs := by
  rw [values, List.map_map]
  apply List.map_congr_left
  intro pair listed
  exact (map.keyed pair listed).symm

/-- A map is made of its specs. -/
theorem eq_map_values : (values specs).map (fun spec => (spec.exportName, spec)) = specs := by
  rw [values, List.map_map]
  have same : ∀ pair ∈ specs, (pair.2.exportName, pair.2) = pair := by
    intro pair listed
    rw [← map.keyed pair listed]
  exact (List.map_congr_left same).trans (List.map_id specs)

/-- The order of a map does not matter for its statement. -/
theorem statement_eq_of_perm {order : Dict Text ImportSpec} (perm : order.Perm specs)
    (specifier : Text) :
    statement (values order) specifier = statement (values specs) specifier := by
  have once : ((values specs).map ImportSpec.exportName).Nodup := by
    rw [map.exportNames_eq]
    exact map.once
  have sorted : (values order).mergeSort ImportSpec.le = (values specs).mergeSort ImportSpec.le :=
    ImportSpec.mergeSort_eq_of_perm once (perm.map Prod.snd)
  rw [statement_eq, statement_eq, names, names, sorted]

/-- Maps with the same statement hold the same pairs. -/
theorem perm_of_statement_eq {other : Dict Text ImportSpec} (otherMap : SpecMap other)
    (specs_ne : specs ≠ []) (other_ne : other ≠ []) {one two : Text}
    (same : statement (values specs) one = statement (values other) two) :
    one = two ∧ specs.Perm other := by
  have values_ne : values specs ≠ [] := by simpa [values] using specs_ne
  have otherValues_ne : values other ≠ [] := by simpa [values] using other_ne
  rcases mergeSort_eq_of_statement_eq values_ne otherValues_ne map.named otherMap.named same
    with ⟨sorted_eq, target_eq⟩
  have perm : (values specs).Perm (values other) := by
    have sorted := (List.mergeSort_perm (values specs) ImportSpec.le).symm
    rw [sorted_eq] at sorted
    exact sorted.trans (List.mergeSort_perm (values other) ImportSpec.le)
  constructor
  · exact target_eq
  · rw [← map.eq_map_values, ← otherMap.eq_map_values]
    exact perm.map _

end SpecMap

/-! ## Blocks -/

/-- A block starts with a line feed and closes every statement with one. -/
theorem block_eq {statements : List Text} (statements_ne : statements ≠ []) :
    block statements = '\n' :: statements.flatMap (· ++ ['\n']) := by
  have notEmpty : ¬statements.isEmpty = true := by simpa using statements_ne
  rw [block, if_neg notEmpty, List.cons_append, List.cons_inj_right]
  clear notEmpty
  induction statements with
  | nil => exact absurd rfl statements_ne
  | cons statement rest ih =>
      cases rest with
      | nil => simp
      | cons next rest =>
          have later := ih (List.cons_ne_nil next rest)
          rw [List.intercalate_cons_cons, List.append_assoc, later]
          simp

/-- Texts without line feeds, each closed by one, are the lines of the whole. -/
theorem lines_flatMap_feed {texts : List Text} (flat : ∀ text ∈ texts, '\n' ∉ text) :
    Text.lines (texts.flatMap (· ++ ['\n'])) = texts ++ [[]] := by
  induction texts with
  | nil => rfl
  | cons text rest ih =>
      have later := ih fun other member => flat other (.tail text member)
      rw [List.flatMap_cons, List.append_assoc, List.singleton_append,
        lines_append_feed (flat text List.mem_cons_self), later, List.cons_append]

end Import

/-- A block is put behind the banner line, or at the top. -/
theorem Spliced.exists_place (banner block text : Text) :
    ∃ before after, text = before ++ after ∧ (before = [] ∨ banner ++ ['\n'] <:+ before) ∧
      (behind banner block text).text = before ++ (block ++ after) := by
  unfold behind
  dsimp only
  split
  · rename_i before rest found
    refine ⟨before ++ (banner ++ ['\n']), rest, eq_append_of_cut? found, ?_, ?_⟩
    · exact .inr (List.suffix_append before _)
    · simp
  · exact ⟨[], text, rfl, .inl rfl, rfl⟩

namespace Placed

variable (here : Location) (banner suffix : Text) (consumer : Path) (schedule : Schedule)
  (text : Text)

theorem added_imports :
    (imports here banner suffix consumer schedule text).added =
      (Import.statements here consumer suffix schedule).length := by
  unfold imports
  dsimp only
  split
  · rename_i unwritten
    rw [List.isEmpty_iff.mp unwritten]
    rfl
  · rfl

theorem text_imports_of_unwritten
    (unwritten : Import.statements here consumer suffix schedule = []) :
    (imports here banner suffix consumer schedule text).text = text := by
  simp [imports, unwritten]

theorem text_imports_of_written
    (written_ne : Import.statements here consumer suffix schedule ≠ []) :
    (imports here banner suffix consumer schedule text).text =
      (Spliced.behind banner (Import.block (Import.statements here consumer suffix schedule))
        text).text := by
  simp [imports, written_ne]

end Placed

namespace Import

/-- Import statements lose nothing of what they are made of.  The statement of a spec map does not
depend on the order of the map; a statement determines the specifier and the pairs of its map; and
the block that is placed in a text closes one statement for each producer with a nonempty map, in
the order of the schedule, with a line feed, and their number is returned. -/
theorem rendering_loses_nothing :
    (∀ specs order : Dict Text ImportSpec, SpecMap specs → order.Perm specs → ∀ specifier,
      statement (values order) specifier = statement (values specs) specifier) ∧
    (∀ (first second : Dict Text ImportSpec) (one two : Text), SpecMap first → SpecMap second →
      first ≠ [] → second ≠ [] →
        statement (values first) one = statement (values second) two →
          one = two ∧ first.Perm second) ∧
    ∀ (here : Location) (banner suffix : Text) (consumer : Path) (schedule : Schedule)
        (text : Text),
      let supplying := schedule.filter fun pair => !pair.2.isEmpty
      let written := supplying.map fun pair =>
        statement (values pair.2) (Path.specifier here consumer pair.1 suffix)
      let block := '\n' :: written.flatMap (· ++ ['\n'])
      let placed := Placed.imports here banner suffix consumer schedule text
      placed.added = supplying.length ∧
        (supplying = [] → placed.text = text) ∧
        (supplying ≠ [] → ∃ before after, text = before ++ after ∧
          (before = [] ∨ banner ++ ['\n'] <:+ before) ∧
            placed.text = before ++ (block ++ after)) ∧
        ((∀ pair ∈ supplying, SpecMap pair.2 ∧
            '\n' ∉ Path.specifier here consumer pair.1 suffix) →
          Text.lines block = [] :: (written ++ [[]])) := by
  refine ⟨?_, ?_, ?_⟩
  · intro specs order map perm specifier
    exact map.statement_eq_of_perm perm specifier
  · intro first second one two firstMap secondMap first_ne second_ne same
    exact firstMap.perm_of_statement_eq secondMap first_ne second_ne same
  · intro here banner suffix consumer schedule text supplying written block placed
    have written_eq : statements here consumer suffix schedule = written := rfl
    have written_eq_nil : written = [] ↔ supplying = [] := List.map_eq_nil_iff
    refine ⟨?_, ?_, ?_, ?_⟩
    · rw [Placed.added_imports, written_eq]
      exact List.length_map _
    · intro unsupplied
      apply Placed.text_imports_of_unwritten
      rw [written_eq, written_eq_nil]
      exact unsupplied
    · intro supplying_ne
      have written_ne : written ≠ [] := fun nothing => supplying_ne (written_eq_nil.mp nothing)
      rcases Spliced.exists_place banner (Import.block written) text with
        ⟨before, after, text_eq, place, placed_eq⟩
      refine ⟨before, after, text_eq, place, ?_⟩
      rw [Placed.text_imports_of_written here banner suffix consumer schedule text written_ne,
        written_eq, placed_eq, block_eq written_ne]
    · intro flat
      have flatWritten : ∀ line ∈ written, '\n' ∉ line := by
        intro line member
        rcases List.mem_map.mp member with ⟨pair, listed, rfl⟩
        rcases flat pair listed with ⟨map, flatTarget⟩
        exact feed_not_mem_statement map.named flatTarget
      have closed := lines_flatMap_feed flatWritten
      rw [lines] at closed ⊢
      simp [block, splitOn, closed]

/-- Names that differ in case only, and names that are also words of a statement. -/
def keywordSpecs : Dict Text ImportSpec :=
  [("as".toList, ⟨"as".toList, some "from".toList⟩),
    ("from".toList, ⟨"from".toList, some "as".toList⟩), ("Type".toList, ⟨"Type".toList, none⟩),
    ("type".toList, ⟨"type".toList, none⟩)]

theorem specMap_keywordSpecs : SpecMap keywordSpecs := by
  have exportNames : ∀ pair ∈ keywordSpecs, pair.2.exportName ≠ [] ∧
      ∀ char ∈ pair.2.exportName, isWord char = true := by decide
  have aliases : ∀ pair ∈ keywordSpecs, ∀ localName ∈ pair.2.alias?, localName ≠ [] ∧
      ∀ char ∈ localName, isWord char = true := by decide
  constructor
  · decide
  · decide
  · intro pair listed
    constructor
    · exact (exportNames pair listed).1
    · exact (exportNames pair listed).2
    · exact fun localName given => (aliases pair listed localName given).1
    · exact fun localName given => (aliases pair listed localName given).2

theorem statement_keywordSpecs : statement (values keywordSpecs) "../a b".toList =
    "import type \x7b as as from, from as as, Type, type \x7d from \x22../a b\x22;".toList := by
  have sorted : (values keywordSpecs).mergeSort ImportSpec.le = values keywordSpecs :=
    List.mergeSort_of_pairwise (by decide +kernel)
  unfold statement
  simp only [sorted]
  decide +kernel

/-- The statement is the same for the reverse order, no other map has it, and it is the one line of
the block for its producer; a producer with an empty map has none. -/
theorem rendering_loses_nothing_of_keywords :
    let written :=
      "import type \x7b as as from, from as as, Type, type \x7d from \x22../a b\x22;".toList
    let schedule : Schedule := [(.ofText "/gen/x.ts".toList, []),
      (.ofText "/gen/a b.ts".toList, keywordSpecs)]
    let placed := Placed.imports [] "// top".toList ".ts".toList
      (.ofText "/gen/plugins/c.ts".toList) schedule "// top\nrest".toList
    SpecMap keywordSpecs ∧ statement (values keywordSpecs) "../a b".toList = written ∧
      statement (values keywordSpecs.reverse) "../a b".toList = written ∧
      (∀ (other : Dict Text ImportSpec) (target : Text), SpecMap other → other ≠ [] →
        statement (values other) target = written →
          target = "../a b".toList ∧ other.Perm keywordSpecs) ∧
      placed.added = 1 ∧ ∃ before after, "// top\nrest".toList = before ++ after ∧
        placed.text = before ++ ('\n' :: (written ++ ['\n']) ++ after) := by
  intro written schedule placed
  rcases rendering_loses_nothing with ⟨orderFree, injective, block⟩
  have rendered := statement_keywordSpecs
  have reversed := orderFree keywordSpecs keywordSpecs.reverse specMap_keywordSpecs
    (List.reverse_perm keywordSpecs) "../a b".toList
  rcases block [] "// top".toList ".ts".toList (.ofText "/gen/plugins/c.ts".toList)
    schedule "// top\nrest".toList with ⟨added, -, placed_eq, -⟩
  have supplying : schedule.filter (fun pair => !pair.2.isEmpty) =
    [(.ofText "/gen/a b.ts".toList, keywordSpecs)] := by decide
  have target : Path.specifier [] (.ofText "/gen/plugins/c.ts".toList)
    (.ofText "/gen/a b.ts".toList) ".ts".toList = "../a b".toList := by decide
  refine ⟨specMap_keywordSpecs, rendered, reversed.trans rendered, ?_, ?_, ?_⟩
  · intro other target otherMap other_ne same
    exact injective other keywordSpecs target _ otherMap specMap_keywordSpecs other_ne (by decide)
      (same.trans rendered.symm)
  · rw [added, supplying]
    rfl
  · rw [supplying] at placed_eq
    rcases placed_eq (by simp) with ⟨before, after, text_eq, -, placed_eq⟩
    refine ⟨before, after, text_eq, ?_⟩
    rw [placed_eq, List.map_singleton, target, rendered, List.flatMap_singleton]

end Import

end DeclLinker
