import DeclLinker.Proofs.Import.Block

/-!
# The names that import statements bind

An import statement lists its names between braces, separated by commas, and every item of the list
binds its last word.  Reading a statement back gives the local names it was made of.  What a line
binds is read off its heading, like what it exports.
-/

namespace DeclLinker

open Text

namespace Import

/-- The start of an import statement. -/
def opening : Text := "import type \x7b".toList

/-- What stands between the names and the specifier of an import statement. -/
def joint : Text := "\x7d from \x22".toList

/-- The characters of a list of imported names. -/
def isListing (char : Char) : Bool :=
  isNaming char || char == ' ' || char == ','

/-- The list of names in an import statement. -/
def listing? (line : Text) : Option Text :=
  match after? opening line with
  | none => none
  | some rest =>
      if joint.isPrefixOf (rest.dropWhile isListing) then some (rest.takeWhile isListing) else none

/-- The last word of an item. -/
def lastWord (item : Text) : Text :=
  ((item.reverse.dropWhile (· == ' ')).takeWhile (· != ' ')).reverse

/-- The local names that a line binds when it is an import statement. -/
def bound (line : Text) : List Text :=
  match listing? line with
  | none => []
  | some names => (splitOn ',' names).map lastWord

theorem joint_eq : joint = '\x7d' :: " from \x22".toList :=
  rfl

theorem listing?_eq_some_iff {line names : Text} :
    listing? line = some names ↔
      (∀ char ∈ names, isListing char = true) ∧
        opening ++ (names ++ joint) <+: line := by
  constructor
  · intro listed
    unfold listing? at listed
    split at listed
    · cases listed
    · rename_i rest found
      split at listed
      · rename_i joined
        cases listed
        obtain ⟨more, rest_eq⟩ := List.isPrefixOf_iff_prefix.1 joined
        refine ⟨fun char member => List.mem_takeWhile_imp member, more, ?_⟩
        rw [after?_eq_some_iff.1 found]
        simp [rest_eq]
      · cases listed
  · rintro ⟨names_listing, more, rfl⟩
    have closes : isListing '\x7d' = false := by decide
    have shape : opening ++ (names ++ joint) ++ more =
        opening ++ (names ++ '\x7d' :: (" from \x22".toList ++ more)) := by simp [joint_eq]
    have joined : joint.isPrefixOf ('\x7d' :: (" from \x22".toList ++ more)) = true :=
      List.isPrefixOf_iff_prefix.2 ⟨more, by simp [joint_eq]⟩
    rw [shape, listing?, after?_append]
    simp only [dropWhile_append_cons names_listing closes,
      takeWhile_append_cons names_listing closes, if_pos joined]

/-- The fixed parts of an import statement and its names hold no guard character. -/
theorem guard_not_mem {names : Text} (listing : ∀ char ∈ names, isListing char = true) {char : Char}
    (guard : isGuard char = true) : char ∉ opening ++ (names ++ joint) := by
  have fixed : ∀ char ∈ opening ++ joint, isGuard char = false := by decide
  intro member
  simp only [List.mem_append] at member
  rcases member with inOpening | inNames | inJoint
  · exact ne_of_isGuard guard (fixed char (List.mem_append_left _ inOpening)) rfl
  · have listed := listing char inNames
    simp only [isListing, Bool.or_eq_true, beq_iff_eq] at listed
    rcases listed with (naming | blank) | comma
    · simp [isGuard, naming] at guard
    · exact ne_of_isGuard guard (by decide) blank
    · exact ne_of_isGuard guard (by decide) comma
  · exact ne_of_isGuard guard (fixed char (List.mem_append_right _ inJoint)) rfl

/-- Lines that start with the same lists of names bind the same names. -/
theorem bound_congr {line other : Text}
    (same : ∀ names, (∀ char ∈ names, isListing char = true) →
      (opening ++ (names ++ joint) <+: line ↔ opening ++ (names ++ joint) <+: other)) :
    bound line = bound other := by
  have listing_eq : listing? line = listing? other := by
    refine Option.ext fun names => ?_
    rw [listing?_eq_some_iff, listing?_eq_some_iff]
    exact and_congr_right (same names)
  rw [bound, listing_eq, bound]

/-- What a line binds is read off the heading of a line that starts with its announcement. -/
theorem readsAnnounced_bound : ReadsAnnounced bound where
  guard guard line rest := bound_congr fun names listing =>
    ⟨prefix_of_not_mem (guard_not_mem listing guard),
      fun starts => starts.trans (List.prefix_append _ _)⟩
  blank line := by
    refine bound_congr fun names listing => ?_
    rw [List.prefix_concat_iff]
    refine or_iff_right fun whole => ?_
    have last := congrArg List.getLast? whole
    simp [joint_eq] at last
  announced line found := by
    refine ⟨"import".toList, by decide, ?_⟩
    unfold bound at found
    split at found
    · exact absurd rfl found
    · rename_i names listed
      have starts := (listing?_eq_some_iff.1 listed).2
      have announcement : "import".toList <+: opening := by decide
      exact announcement.trans ((List.prefix_append _ _).trans starts)

end Import

/-! ## Reading a statement back -/

/-- A spec whose names consist of naming characters. -/
structure ImportSpec.Named (spec : ImportSpec) : Prop where
  exportName_naming : ∀ char ∈ spec.exportName, isNaming char = true
  localName_ne : spec.localName ≠ []
  localName_naming : ∀ char ∈ spec.localName, isNaming char = true

namespace ImportSpec.Named

variable {spec : ImportSpec}

/-- The local name is the last word of an item. -/
theorem exists_front (named : spec.Named) :
    ∃ front, (∀ char ∈ front, isNaming char = true ∨ char = ' ') ∧
      ' ' :: spec.toText = front ++ ' ' :: spec.localName := by
  obtain ⟨exportName, alias?⟩ := spec
  cases alias? with
  | none => exact ⟨[], fun _ member => absurd member List.not_mem_nil, rfl⟩
  | some localName =>
      refine ⟨' ' :: (exportName ++ " as".toList), fun char member => ?_, ?_⟩
      · have joint : ∀ char ∈ " as".toList, isNaming char = true ∨ char = ' ' := by decide
        rcases List.mem_cons.1 member with rfl | member
        · exact .inr rfl
        · rcases List.mem_append.1 member with inName | inJoint
          · exact .inl (named.exportName_naming char inName)
          · exact joint char inJoint
      · have joint_eq : " as ".toList = " as".toList ++ [' '] := rfl
        simp [toText, ImportSpec.localName, joint_eq]

theorem toText_chars (named : spec.Named) :
    ∀ char ∈ spec.toText, isNaming char = true ∨ char = ' ' := by
  obtain ⟨front, front_chars, item_eq⟩ := named.exists_front
  intro char member
  have inItem : char ∈ front ++ ' ' :: spec.localName := item_eq ▸ .tail _ member
  rcases List.mem_append.1 inItem with inFront | inName
  · exact front_chars char inFront
  · rcases List.mem_cons.1 inName with blank | inName
    · exact .inr blank
    · exact .inl (named.localName_naming char inName)

theorem comma_not_mem (named : spec.Named) : ',' ∉ spec.toText := by
  intro member
  rcases named.toText_chars ',' member with naming | blank
  · exact absurd naming (by decide)
  · exact absurd blank (by decide)

end ImportSpec.Named

namespace Import

/-- The last word of an item that ends in a word behind a blank. -/
theorem lastWord_eq {word : Text} (word_ne : word ≠ []) (solid : ' ' ∉ word) (front : Text)
    {trail : Text} (blank : ∀ char ∈ trail, char = ' ') :
    lastWord (front ++ ' ' :: (word ++ trail)) = word := by
  have blanks : ∀ char ∈ trail.reverse, (char == ' ') = true := by simpa using blank
  have solidReverse : ∀ char ∈ word.reverse, (char != ' ') = true := by
    intro char member
    rw [List.mem_reverse] at member
    simpa using fun same : char = ' ' => solid (same ▸ member)
  obtain ⟨last, rest, reverse_eq⟩ := List.exists_cons_of_ne_nil (List.reverse_ne_nil_iff.2 word_ne)
  have stops : ¬(last == ' ') = true := by
    simpa using solidReverse last (by simp [reverse_eq])
  have shape : (front ++ ' ' :: (word ++ trail)).reverse =
      trail.reverse ++ (word.reverse ++ ' ' :: front.reverse) := by simp
  rw [lastWord, shape, List.dropWhile_append_of_pos blanks]
  have kept : (word.reverse ++ ' ' :: front.reverse).dropWhile (· == ' ') =
      word.reverse ++ ' ' :: front.reverse := by
    rw [reverse_eq, List.cons_append, List.dropWhile_cons, if_neg stops]
  rw [kept, takeWhile_append_cons solidReverse (by decide), List.reverse_reverse]

theorem lastWord_item {spec : ImportSpec} (named : spec.Named) {trail : Text}
    (blank : ∀ char ∈ trail, char = ' ') : lastWord (' ' :: (spec.toText ++ trail)) =
      spec.localName := by
  obtain ⟨front, -, item_eq⟩ := named.exists_front
  have solid : ' ' ∉ spec.localName := fun member =>
    absurd (named.localName_naming ' ' member) (by decide)
  rw [← List.cons_append, item_eq, List.append_assoc, List.cons_append]
  exact lastWord_eq named.localName_ne solid front blank

/-- Every item of a list of names binds the local name of its spec. -/
theorem map_lastWord_items {specs : List ImportSpec} (some : specs ≠ [])
    (named : ∀ spec ∈ specs, spec.Named) :
    (splitOn ',' (' ' :: (commaList (specs.map ImportSpec.toText) ++ [' ']))).map lastWord =
      specs.map ImportSpec.localName := by
  match specs with
  | [spec] =>
      have specNamed := named spec List.mem_cons_self
      have noComma : ',' ∉ ' ' :: (spec.toText ++ [' ']) := by simp [specNamed.comma_not_mem]
      rw [List.map_singleton, commaList, List.intercalate_singleton, splitOn_of_not_mem noComma,
        List.map_singleton, lastWord_item specNamed (by simp), List.map_singleton]
  | spec :: next :: rest =>
      have specNamed := named spec List.mem_cons_self
      have noComma : ',' ∉ ' ' :: spec.toText := by simp [specNamed.comma_not_mem]
      have first := lastWord_item specNamed (fun char member => absurd member List.not_mem_nil)
      rw [List.append_nil] at first
      have later := map_lastWord_items (List.cons_ne_nil next rest) fun other member =>
        named other (.tail spec member)
      have shape : ' ' :: (commaList ((spec :: next :: rest).map ImportSpec.toText) ++ [' ']) =
          (' ' :: spec.toText) ++
            ',' :: ' ' :: (commaList ((next :: rest).map ImportSpec.toText) ++ [' ']) := by
        simp [commaList, List.intercalate_cons_cons]
      rw [shape, splitOn_append_cons noComma, List.map_cons, first, later]
      rfl

/-- A statement binds the local names of its specs. -/
theorem bound_statement {specs : List ImportSpec} (some : specs ≠ [])
    (named : ∀ spec ∈ specs, spec.Named) (specifier : Text) :
    (bound (statement specs specifier)).Perm (specs.map ImportSpec.localName) := by
  have sorted := List.mergeSort_perm specs ImportSpec.le
  have sortedNamed : ∀ spec ∈ specs.mergeSort ImportSpec.le, spec.Named := fun spec member =>
    named spec (sorted.subset member)
  have sortedSome : specs.mergeSort ImportSpec.le ≠ [] := fun none =>
    some (List.nil_perm.1 (none ▸ sorted))
  have listing : ∀ char ∈
      ' ' :: (commaList ((specs.mergeSort ImportSpec.le).map ImportSpec.toText) ++ [' ']),
      isListing char = true := by
    intro char member
    simp only [List.mem_cons, List.mem_append, List.not_mem_nil, or_false] at member
    rcases member with rfl | inList | rfl
    · decide
    · rcases mem_intercalate inList with inSeparator | ⟨item, listed, inItem⟩
      · have marks : ∀ char ∈ [',', ' '], isListing char = true := by decide
        exact marks char inSeparator
      · obtain ⟨spec, specListed, rfl⟩ := List.mem_map.1 listed
        rcases (sortedNamed spec specListed).toText_chars char inItem with naming | rfl
        · simp [isListing, naming]
        · decide
    · decide
  have regroup : ∀ first list last target close : Text,
      (first ++ [' ']) ++ list ++ (' ' :: last) ++ target ++ close =
        first ++ (' ' :: (list ++ [' ']) ++ last) ++ (target ++ close) := by simp
  have shape : statement specs specifier = opening ++
      (' ' :: (commaList ((specs.mergeSort ImportSpec.le).map ImportSpec.toText) ++ [' ']) ++
        joint) ++ (specifier ++ "\x22;".toList) :=
    regroup opening _ joint specifier _
  have items := map_lastWord_items sortedSome sortedNamed
  generalize ' ' :: (commaList ((specs.mergeSort ImportSpec.le).map ImportSpec.toText) ++ [' ']) =
    names at listing shape items
  have starts : opening ++ (names ++ joint) <+: statement specs specifier := by
    rw [shape]
    exact List.prefix_append _ _
  rw [bound, listing?_eq_some_iff.2 ⟨listing, starts⟩]
  dsimp only
  rw [items]
  exact sorted.map _

end Import

end DeclLinker
