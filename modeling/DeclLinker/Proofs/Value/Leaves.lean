import DeclLinker.Proofs.Value.Merge
import Mathlib.Data.List.Basic

/-!
# Leaves of merged mappings

A way of keys leads through mappings inside mappings to a leaf, to a mapping, or nowhere.  In a
merged mapping it leads to the leaf of the mapping on top when that has one there.  Where the one on
top has a mapping, or a leaf before the end of the way, the way leads to no leaf, whatever the
mapping below has; and everywhere else it leads to the leaf of the mapping below.  Where both sides
have a mapping the keys of the lower one come first.
-/

namespace DeclLinker

/-! ## Mappings inside mappings -/

mutual

/-- Whether the mappings a value is made of list every key once and none contains itself. -/
def Value.isNested : Value → Bool
  | .dict fields => Fields.isNested fields
  | .cyclic _ value => value.fields?.isNone
  | _ => true

/-- Whether the fields of a mapping list every key once, with mappings that do so inside it. -/
def Fields.isNested : List (Scalar × Value) → Bool
  | [] => true
  | (key, value) :: rest =>
      (Fields.get? key rest).isNone && Value.isNested value && Fields.isNested rest

end

namespace Fields

variable {fields base top : Fields} {key wanted : Scalar} {value : Value}

theorem isNested_cons_iff {rest : Fields} :
    isNested ((key, value) :: rest) = true ↔
      get? key rest = none ∧ value.isNested = true ∧ isNested rest = true := by
  rw [isNested, Bool.and_eq_true, Bool.and_eq_true, Option.isNone_iff_eq_none, and_assoc]

theorem listsOnce_of_isNested (nested : isNested fields = true) (wanted : Scalar) :
    ListsOnce wanted fields := by
  induction fields with
  | nil => exact List.Pairwise.nil
  | cons pair rest ih =>
      obtain ⟨fresh, -, later⟩ := isNested_cons_iff.mp nested
      refine List.pairwise_cons.mpr ⟨fun other member hit => ?_, ih later⟩
      rw [← Scalar.sameKey_congr hit]
      exact get?_eq_none_iff.mp fresh other.1 (List.mem_map_of_mem member)

theorem isNested_of_get? (nested : isNested fields = true) (found : get? key fields = some value) :
    value.isNested = true := by
  induction fields with
  | nil => cases found
  | cons pair rest ih =>
      obtain ⟨-, here, later⟩ := isNested_cons_iff.mp nested
      rw [get?] at found
      split at found
      · cases found
        exact here
      · exact ih later found

end Fields

namespace Value

variable {value : Value} {key : Scalar}

theorem isNested_of_fields? {fields : Fields} (nested : value.isNested = true)
    (isDict : value.fields? = some fields) : Fields.isNested fields = true := by
  cases value with
  | dict held =>
      cases isDict
      rwa [isNested] at nested
  | cyclic name inner =>
      rw [isNested, Option.isNone_iff_eq_none] at nested
      rw [← fields?_bare, bare, fields?_bare, nested] at isDict
      cases isDict
  | _ => cases isDict

theorem isNested_of_valueAt? {held : Value} (nested : value.isNested = true)
    (found : value.valueAt? key = some held) : held.isNested = true := by
  obtain ⟨fields, isDict, inside⟩ := Option.bind_eq_some_iff.mp found
  exact Fields.isNested_of_get? (isNested_of_fields? nested isDict) inside

/-! ## Ways of keys -/

/-- What a way of keys leads to from a value. -/
def at? : List Scalar → Value → Option Value
  | [], value => some value
  | key :: way, value => (value.valueAt? key).bind (at? way)

theorem at?_append (front rest : List Scalar) (value : Value) :
    value.at? (front ++ rest) = (value.at? front).bind (at? rest) := by
  induction front generalizing value with
  | nil => rfl
  | cons key front ih =>
      rw [List.cons_append, at?, at?, Option.bind_assoc]
      exact congrArg _ (funext ih)

theorem isNested_of_at? {way : List Scalar} {held : Value} (nested : value.isNested = true)
    (found : value.at? way = some held) : held.isNested = true := by
  induction way generalizing value with
  | nil =>
      cases found
      exact nested
  | cons key way ih =>
      obtain ⟨inner, first, later⟩ := Option.bind_eq_some_iff.mp found
      exact ih (isNested_of_valueAt? nested first) later

/-- A way goes no further than a value that is no mapping. -/
theorem at?_of_fields?_eq_none (noDict : value.fields? = none) {way : List Scalar}
    (way_ne : way ≠ []) : value.at? way = none := by
  obtain ⟨key, rest, rfl⟩ := List.exists_cons_of_ne_nil way_ne
  rw [at?, valueAt?, noDict, Option.bind_none, Option.bind_none]

end Value

namespace Fields

/-- What a way of keys leads to in a mapping. -/
def at? (way : List Scalar) (fields : Fields) : Option Value :=
  (Value.dict fields).at? way

/-- The leaf at the end of a way: what is no mapping, without the name that a list has for
containing itself. -/
def leaf? (way : List Scalar) (fields : Fields) : Option Value :=
  (at? way fields).bind fun value => if value.isDict then none else some value.bare

/-- The mapping at the end of a way. -/
def mapping? (way : List Scalar) (fields : Fields) : Option Fields :=
  (at? way fields).bind Value.fields?

/-- Whether a mapping has a leaf on a way before its end, or a mapping at its end. -/
def Hides (fields : Fields) (way : List Scalar) : Prop :=
  (∃ length < way.length, (leaf? (way.take length) fields).isSome) ∨ (mapping? way fields).isSome

instance (fields : Fields) (way : List Scalar) : Decidable (fields.Hides way) :=
  inferInstanceAs (Decidable (_ ∨ _))

variable {fields base top : Fields} {way : List Scalar} {value : Value}

theorem isNested_of_mapping? {inner : Fields} (nested : isNested fields = true)
    (isMapping : mapping? way fields = some inner) : isNested inner = true := by
  obtain ⟨value, found, isDict⟩ := Option.bind_eq_some_iff.mp isMapping
  rw [← Value.isNested] at nested
  exact Value.isNested_of_fields? (Value.isNested_of_at? nested found) isDict

theorem hides_iff :
    fields.Hides way ↔
      (∃ front, front <+: way ∧ front ≠ way ∧ (leaf? front fields).isSome) ∨
        (mapping? way fields).isSome := by
  apply or_congr_left
  constructor
  · rintro ⟨length, short, isLeaf⟩
    refine ⟨way.take length, way.take_prefix length, fun same => ?_, isLeaf⟩
    have lengths := congrArg List.length same
    rw [List.length_take] at lengths
    omega
  · rintro ⟨front, isFront, shorter, isLeaf⟩
    have short : front.length < way.length :=
      Nat.lt_of_le_of_ne isFront.length_le (mt isFront.eq_of_length shorter)
    exact ⟨front.length, short, List.prefix_iff_eq_take.mp isFront ▸ isLeaf⟩

theorem leaf?_eq_some_of_at? (found : at? way fields = some value) (noDict : value.fields? = none) :
    leaf? way fields = some value.bare := by
  simp [leaf?, found, Value.isDict, noDict]

theorem leaf?_eq_some_iff {leaf : Value} :
    leaf? way fields = some leaf ↔
      ∃ value, at? way fields = some value ∧ value.fields? = none ∧ value.bare = leaf := by
  rw [leaf?, Option.bind_eq_some_iff]
  apply exists_congr
  intro value
  apply and_congr_right
  intro _
  cases isDict : value.fields? <;> simp [Value.isDict, isDict]

/-- A way that has led to a leaf leads no further. -/
theorem at?_eq_none_of_leaf? {front : List Scalar} (isFront : front <+: way) (shorter : front ≠ way)
    (isLeaf : (leaf? front fields).isSome) : at? way fields = none := by
  obtain ⟨leaf, found⟩ := Option.isSome_iff_exists.mp isLeaf
  obtain ⟨value, at_eq, noDict, -⟩ := leaf?_eq_some_iff.mp found
  obtain ⟨rest, rfl⟩ := isFront
  have rest_ne : rest ≠ [] := by
    rintro rfl
    exact shorter (List.append_nil front).symm
  rw [at?, Value.at?_append, show (Value.dict fields).at? front = some value from at_eq,
    Option.bind_some, Value.at?_of_fields?_eq_none noDict rest_ne]

end Fields

/-! ## Ways through merged mappings -/

namespace Value

open Fields

/-- A way along which the value on top has no leaf before its end leads in the overlaid value to
what both lead to, overlaid. -/
theorem at?_overlay? (way : List Scalar) (base top : Option Value)
    (nested : ∀ value, top = some value → value.isNested = true)
    (passes : ∀ front, front <+: way → front ≠ way → ∀ value, top.bind (at? front) = some value →
      value.fields? ≠ none) :
    (overlay? base top).bind (at? way) = overlay? (base.bind (at? way)) (top.bind (at? way)) := by
  induction way generalizing base top with
  | nil => cases base <;> cases top <;> rfl
  | cons key way ih =>
      have first (way : List Scalar) (value? : Option Value) :
          value?.bind (at? (key :: way)) = (value?.bind (valueAt? key)).bind (at? way) :=
        (Option.bind_assoc value? (valueAt? key) (at? way)).symm
      have step : (overlay? base top).bind (valueAt? key) =
          overlay? (base.bind (valueAt? key)) (top.bind (valueAt? key)) := by
        cases top with
        | none => rfl
        | some value =>
            have isDict := passes [] List.nil_prefix (List.cons_ne_nil key way).symm value rfl
            obtain ⟨inner, fields_eq⟩ := Option.ne_none_iff_exists'.mp isDict
            have once :=
              listsOnce_of_isNested (isNested_of_fields? (nested value rfl) fields_eq) key
            exact valueAt?_overlay_of_once fields_eq once base
      rw [first, first, first, step]
      apply ih
      · intro value found
        obtain ⟨outer, isTop, inside⟩ := Option.bind_eq_some_iff.mp found
        exact isNested_of_valueAt? (nested outer isTop) inside
      · intro front isFront shorter value found
        apply passes (key :: front) ((List.prefix_cons_inj key).mpr isFront)
        · simpa using shorter
        · rw [← found]
          exact first front top

end Value

namespace Fields

variable {fields base top : Fields} {way : List Scalar} {value : Value}

/-- A way along which the mapping on top has no leaf before its end leads in the merged mapping to
what both lead to, overlaid. -/
theorem at?_merge (nested : isNested top = true) (base : Fields)
    (passes : ∀ front, front <+: way → front ≠ way → leaf? front top = none) :
    at? way (merge base top) = overlay? (at? way base) (at? way top) := by
  have overlaid := Value.at?_overlay? way (some (.dict base)) (some (.dict top))
    (fun value isTop => by cases isTop; rwa [Value.isNested])
    (fun front isFront shorter value found noDict => by
      have isLeaf : leaf? front top = some value.bare := leaf?_eq_some_of_at? found noDict
      rw [passes front isFront shorter] at isLeaf
      cases isLeaf)
  rwa [overlay?, overlay, Option.bind_some] at overlaid

/-- Before the end of a way that leads anywhere there is no leaf. -/
theorem passes_of_at? (found : at? way top = some value) :
    ∀ front, front <+: way → front ≠ way → leaf? front top = none := by
  intro front isFront shorter
  by_contra isLeaf
  have nowhere := at?_eq_none_of_leaf? isFront shorter (Option.isSome_iff_ne_none.mpr isLeaf)
  rw [nowhere] at found
  cases found

theorem leaf?_merge_of_leaf? (nested : isNested top = true) (base : Fields) {leaf : Value}
    (isLeaf : leaf? way top = some leaf) : leaf? way (merge base top) = some leaf := by
  obtain ⟨value, found, noDict, rfl⟩ := leaf?_eq_some_iff.mp isLeaf
  have merged := at?_merge nested base (passes_of_at? found)
  rw [found, overlay?] at merged
  have bare_eq := bare_overlay noDict (at? way base)
  rw [← bare_eq]
  apply leaf?_eq_some_of_at? merged
  rw [← Value.fields?_bare, bare_eq, Value.fields?_bare, noDict]

/-- Where the mapping on top has a mapping, the merged one has one: what both have, merged. -/
theorem mapping?_merge (nested : isNested top = true) {inner : Fields}
    (isMapping : mapping? way top = some inner) :
    mapping? way (merge base top) =
      some (((mapping? way base).map fun held => merge held inner).getD inner) := by
  obtain ⟨value, found, isDict⟩ := Option.bind_eq_some_iff.mp isMapping
  rw [mapping?, at?_merge nested base (passes_of_at? found), found, overlay?, Option.bind_some,
    fields?_overlay isDict]
  rfl

theorem leaf?_eq_none_of_mapping? (isMapping : (mapping? way fields).isSome) :
    leaf? way fields = none := by
  obtain ⟨inner, found⟩ := Option.isSome_iff_exists.mp isMapping
  obtain ⟨value, at_eq, isDict⟩ := Option.bind_eq_some_iff.mp found
  simp [leaf?, at_eq, Value.isDict, isDict]

theorem leaf?_merge_of_hides (nested : isNested top = true) (hides : top.Hides way) :
    leaf? way (merge base top) = none := by
  rcases hides_iff.mp hides with ⟨front, isFront, shorter, isLeaf⟩ | isMapping
  · obtain ⟨leaf, found⟩ := Option.isSome_iff_exists.mp isLeaf
    have merged := leaf?_merge_of_leaf? nested base found
    rw [leaf?, at?_eq_none_of_leaf? isFront shorter (by rw [merged]; rfl), Option.bind_none]
  · obtain ⟨inner, found⟩ := Option.isSome_iff_exists.mp isMapping
    apply leaf?_eq_none_of_mapping?
    rw [mapping?_merge nested found]
    rfl

theorem leaf?_merge_of_not_hides (nested : isNested top = true) (noLeaf : leaf? way top = none)
    (shows : ¬top.Hides way) : leaf? way (merge base top) = leaf? way base := by
  rw [hides_iff, not_or] at shows
  obtain ⟨noFront, noMapping⟩ := shows
  have passes : ∀ front, front <+: way → front ≠ way → leaf? front top = none := by
    intro front isFront shorter
    by_contra isLeaf
    exact noFront ⟨front, isFront, shorter, Option.isSome_iff_ne_none.mpr isLeaf⟩
  have nowhere : at? way top = none := by
    by_contra somewhere
    obtain ⟨value, found⟩ := Option.ne_none_iff_exists'.mp somewhere
    cases isDict : value.fields? with
    | none =>
        rw [leaf?_eq_some_of_at? found isDict] at noLeaf
        cases noLeaf
    | some inner => exact noMapping (by rw [mapping?, found, Option.bind_some, isDict]; rfl)
  rw [leaf?, at?_merge nested base passes, nowhere, overlay?]
  rfl

/-! ## The order of keys -/

theorem get?_put_of_get? {key other : Scalar} {held : Value} (present : get? key fields = some held)
    (value : Value) : (get? other (put key value fields)).isNone = (get? other fields).isNone := by
  rw [get?_put]
  split
  · rename_i same
    rw [← get?_congr same, present]
    rfl
  · rfl

/-- The keys of a merged mapping: those of the one below, and then the new ones of the one on
top. -/
theorem keys_merge (nested : isNested top = true) (base : Fields) :
    Dict.keys (merge base top) =
      Dict.keys base ++ (Dict.keys top).filter fun key => (get? key base).isNone := by
  induction top generalizing base with
  | nil => simp [merge, Dict.keys]
  | cons pair rest ih =>
      obtain ⟨key, value⟩ := pair
      obtain ⟨fresh, -, later⟩ := isNested_cons_iff.mp nested
      rw [merge, ih later, keys_put, Dict.keys, Dict.keys, Dict.keys, List.map_cons,
        List.filter_cons]
      cases present : get? key base with
      | some held => simp [get?_put_of_get? present]
      | none =>
          have apart : ∀ other ∈ Dict.keys rest, key.sameKey other = false := by
            intro other member
            rw [Scalar.sameKey_comm]
            exact get?_eq_none_iff.mp fresh other member
          have same : (Dict.keys rest).filter
                (fun other => (get? other (put key (overlay none value) base)).isNone) =
              (Dict.keys rest).filter fun other => (get? other base).isNone := by
            apply List.filter_congr
            intro other member
            rw [get?_put, if_neg (by simp [apart other member])]
          simp only [Dict.keys] at same
          simp [same]

/-! ## Laws -/

theorem put_of_get?_eq_none {key : Scalar} (absent : get? key fields = none) (value : Value) :
    put key value fields = fields ++ [(key, value)] := by
  induction fields with
  | nil => rfl
  | cons pair rest ih =>
      obtain ⟨other, held⟩ := pair
      rw [get?] at absent
      split at absent
      · cases absent
      · rename_i apart
        rw [put, if_neg apart, ih absent, List.cons_append]

theorem put_of_get? {key : Scalar} (present : get? key fields = some value) :
    put key value fields = fields := by
  induction fields with
  | nil => cases present
  | cons pair rest ih =>
      obtain ⟨other, held⟩ := pair
      rw [get?] at present
      rw [put]
      split at present
      · rename_i same
        cases present
        rw [if_pos same]
      · rename_i apart
        rw [if_neg apart, ih present]

/-- A mapping none of whose keys are there is merged as it stands. -/
theorem merge_of_absent (nested : isNested top = true)
    (absent : ∀ key ∈ Dict.keys top, get? key base = none) : merge base top = base ++ top := by
  induction top generalizing base with
  | nil => rw [merge, List.append_nil]
  | cons pair rest ih =>
      obtain ⟨key, value⟩ := pair
      obtain ⟨fresh, -, later⟩ := isNested_cons_iff.mp nested
      have here := absent key List.mem_cons_self
      rw [merge, here, overlay_none]
      have absentLater : ∀ other ∈ Dict.keys rest, get? other (put key value base) = none := by
        intro other member
        have apart := get?_eq_none_iff.mp fresh other member
        rw [Scalar.sameKey_comm] at apart
        rw [get?_put, if_neg (by simp [apart])]
        exact absent other (.tail _ member)
      rw [ih later absentLater, put_of_get?_eq_none here, List.append_assoc, List.singleton_append]

/-- Every pair of a mapping that lists its keys once is read from it. -/
theorem get?_of_mem (nested : isNested fields = true) {key : Scalar}
    (member : (key, value) ∈ fields) :
    get? key fields = some value := by
  induction fields with
  | nil => cases member
  | cons pair rest ih =>
      obtain ⟨fresh, -, later⟩ := isNested_cons_iff.mp nested
      rw [get?]
      rcases List.mem_cons.mp member with rfl | inRest
      · rw [if_pos (Scalar.sameKey_refl key)]
      · split
        · rename_i same
          have absent := get?_eq_none_iff.mp fresh key (List.mem_map_of_mem inRest)
          rw [Scalar.sameKey_comm, same] at absent
          cases absent
        · exact ih later inRest

mutual

/-- A value put over itself stays as it is. -/
theorem overlay_self : (value : Value) → value.isNested = true → overlay (some value) value = value
  | .dict fields, nested => by
      rw [Value.isNested] at nested
      rw [overlay]
      exact congrArg Value.dict (merge_of_held fields nested fields fun pair => get?_of_mem nested)
  | .cyclic name value, nested => by
      rw [Value.isNested, Option.isNone_iff_eq_none] at nested
      have noDict : (Value.cyclic name value).fields? = none := by
        rw [← Value.fields?_bare, Value.bare, Value.fields?_bare, nested]
      rw [overlay, Option.bind_some, noDict]
  | .scalar _, _ => rfl
  | .list _, _ => rfl
  | .tuple _, _ => rfl
  | .set _, _ => rfl

/-- Merging what a mapping holds already changes nothing. -/
theorem merge_of_held : (top : List (Scalar × Value)) → isNested top = true →
    (base : Fields) → (∀ pair ∈ top, get? pair.1 base = some pair.2) → merge base top = base
  | [], _, base, _ => by rw [merge]
  | (key, value) :: rest, nested, base, held => by
      obtain ⟨-, inside, later⟩ := isNested_cons_iff.mp nested
      have here := held (key, value) List.mem_cons_self
      rw [merge, here, overlay_self value inside, put_of_get? here]
      exact merge_of_held rest later base fun pair member => held pair (.tail _ member)

end

/-! ## The merged mapping -/

/-- A merged mapping by ways of keys.  A way leads to the leaf of the mapping on top if that has one
there, to none if that has a leaf before the end of the way or a mapping at its end, and otherwise
to the leaf of the mapping below, if there is one.  Where both have a mapping, the keys of the one
below come first, in its order, and then the new ones of the one on top, in theirs.  The empty
mapping changes nothing on either side, and a mapping merged with itself is itself. -/
theorem merge_by_ways (base top : Fields) (baseNested : isNested base = true)
    (topNested : isNested top = true) :
    (∀ way : List Scalar, way ≠ [] →
      (∀ leaf, leaf? way top = some leaf → leaf? way (merge base top) = some leaf) ∧
      (leaf? way top = none → top.Hides way → leaf? way (merge base top) = none) ∧
      (leaf? way top = none → ¬top.Hides way → leaf? way (merge base top) = leaf? way base)) ∧
    (∀ (way : List Scalar) (lower upper : Fields),
      mapping? way base = some lower → mapping? way top = some upper →
        ∃ merged, mapping? way (merge base top) = some merged ∧
          Dict.keys merged =
            Dict.keys lower ++ (Dict.keys upper).filter fun key => (get? key lower).isNone) ∧
    merge base [] = base ∧ merge [] base = base ∧ merge base base = base := by
  refine ⟨fun way _ => ⟨fun leaf => leaf?_merge_of_leaf? topNested base, ?_, ?_⟩, ?_, ?_, ?_, ?_⟩
  · exact fun _ hides => leaf?_merge_of_hides topNested hides
  · exact fun noLeaf shows => leaf?_merge_of_not_hides topNested noLeaf shows
  · intro way lower upper inBase inTop
    refine ⟨merge lower upper, ?_, keys_merge (isNested_of_mapping? topNested inTop) lower⟩
    rw [mapping?_merge topNested inTop, inBase]
    rfl
  · rw [merge]
  · exact merge_of_absent baseNested fun _ _ => rfl
  · exact merge_of_held base baseNested base fun pair => get?_of_mem baseNested

/-- A mapping with a leaf, with mappings, and with a number for a key. -/
def lowerFields : Fields :=
  [(.str "a".toList, .dict
      [(.str "b".toList, .int 1), (.str "c".toList, .dict [(.str "d".toList, .int 2)])]),
    (.int 1, .int 3)]

/-- A mapping that has a leaf where the other one has a mapping, and a mapping where that has a
leaf; the truth value is the same key as the number one. -/
def upperFields : Fields :=
  [(.bool true, .dict [(.str "e".toList, .int 4)]),
    (.str "a".toList, .dict [(.str "f".toList, .dict []), (.str "c".toList, .null)])]

theorem merge_by_ways_of_conflicts :
    isNested lowerFields = true ∧ isNested upperFields = true ∧
      leaf? [.str "a".toList, .str "b".toList] (merge lowerFields upperFields) = some (.int 1) ∧
      leaf? [.str "a".toList, .str "c".toList] (merge lowerFields upperFields) = some .null ∧
      leaf? [.str "a".toList, .str "c".toList, .str "d".toList] (merge lowerFields upperFields) =
        none ∧
      leaf? [.int 1] (merge lowerFields upperFields) = none ∧
      ∃ merged, mapping? [.str "a".toList] (merge lowerFields upperFields) = some merged ∧
        Dict.keys merged = [.str "b".toList, .str "c".toList, .str "f".toList] := by
  have lowerNested : isNested lowerFields = true := by decide
  have upperNested : isNested upperFields = true := by decide
  obtain ⟨leaves, levels, -⟩ := merge_by_ways lowerFields upperFields lowerNested upperNested
  refine ⟨lowerNested, upperNested, ?_, ?_, ?_, ?_, ?_⟩
  · exact (leaves _ (List.cons_ne_nil _ _)).2.2 rfl (by decide)
  · exact (leaves _ (List.cons_ne_nil _ _)).1 _ rfl
  · exact (leaves _ (List.cons_ne_nil _ _)).2.1 rfl (by decide)
  · exact (leaves _ (List.cons_ne_nil _ _)).2.1 rfl (by decide)
  · exact levels [.str "a".toList] _ _ rfl rfl

end Fields

end DeclLinker
