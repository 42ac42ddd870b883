import DeclLinker.Value.Basic

/-!
# Reading merged mappings

A text as a key of a merged mapping reads as the value of the second mapping put over that of the
first, and where only one of them has the key, as that value.  What is read inside a value that was
put over another follows the same rule, so it holds along every way of keys: reading and merging
commute.
Along a way that ends in anything but a mapping the last value counts as it is.
-/

namespace DeclLinker

/-! ## Keys -/

namespace Scalar

/-- What equal keys have in common: a minute of the common clock, or the form as a number. -/
def keyClass (scalar : Scalar) : Scalar ⊕ (Int × Nat × Nat) :=
  match scalar with
  | .moment value =>
      match value.offset? with
      | some offset => .inr (value.commonMinute offset, value.second, value.micro)
      | none => .inl scalar
  | _ => .inl scalar.keyForm

/-- Whether a scalar is a moment. -/
def isMoment : Scalar → Bool
  | .moment _ => true
  | _ => false

theorem moment_or_not (scalar : Scalar) :
    (∃ value, scalar = .moment value) ∨ scalar.isMoment = false := by
  cases scalar with
  | moment value => exact .inl ⟨value, rfl⟩
  | _ => exact .inr rfl

theorem keyForm_ne_moment {scalar : Scalar} (other : scalar.isMoment = false) (value : Moment) :
    scalar.keyForm ≠ .moment value := by
  unfold keyForm
  split
  · exact nofun
  · split <;> exact nofun
  · rintro rfl
    cases other

theorem keyClass_of_not_moment {scalar : Scalar} (other : scalar.isMoment = false) :
    scalar.keyClass = .inl scalar.keyForm := by
  unfold keyClass
  split
  · cases other
  · rfl

theorem keyClass_moment_ne {scalar : Scalar} (other : scalar.isMoment = false) (value : Moment) :
    keyClass (.moment value) ≠ .inl scalar.keyForm := by
  unfold keyClass
  dsimp only
  split
  · exact nofun
  · exact fun same => keyForm_ne_moment other value (Sum.inl.inj same).symm

theorem sameKey_of_not_moment {first second : Scalar}
    (other : first.isMoment = false ∨ second.isMoment = false) :
    first.sameKey second = true ↔ first.keyForm = second.keyForm := by
  unfold sameKey
  split
  · simp [isMoment] at other
  · rw [beq_iff_eq]

theorem sameKey_moment (first second : Moment) :
    sameKey (.moment first) (.moment second) = true ↔
      keyClass (.moment first) = keyClass (.moment second) := by
  have apart : first.offset? ≠ second.offset? → first ≠ second := by
    rintro differ rfl
    exact differ rfl
  simp only [sameKey, Moment.same, keyClass]
  cases one : first.offset? with
  | none =>
      cases other : second.offset? with
      | none => simp
      | some offset => simpa [one, other] using apart
  | some offset =>
      cases other : second.offset? with
      | none => simpa [one, other] using apart
      | some offset' => simp [and_assoc]

/-- Two scalars are one key when they are of one class. -/
theorem sameKey_iff {first second : Scalar} :
    first.sameKey second = true ↔ first.keyClass = second.keyClass := by
  -- Two moments compare by the common clock; a moment and anything else are never one key.
  rcases moment_or_not first with ⟨value, rfl⟩ | one
  · rcases moment_or_not second with ⟨other, rfl⟩ | other
    · exact sameKey_moment value other
    · rw [sameKey_of_not_moment (.inr other), keyClass_of_not_moment other]
      exact ⟨fun same => absurd same.symm (keyForm_ne_moment other value),
        fun same => absurd same (keyClass_moment_ne other value)⟩
  · rw [sameKey_of_not_moment (.inl one), keyClass_of_not_moment one]
    rcases moment_or_not second with ⟨value, rfl⟩ | other
    · exact ⟨fun same => absurd same (keyForm_ne_moment one value),
        fun same => absurd same.symm (keyClass_moment_ne one value)⟩
    · rw [keyClass_of_not_moment other, Sum.inl.injEq]

theorem sameKey_refl (key : Scalar) : key.sameKey key = true :=
  sameKey_iff.mpr rfl

theorem sameKey_comm (first second : Scalar) : first.sameKey second = second.sameKey first := by
  rw [Bool.eq_iff_iff, sameKey_iff, sameKey_iff, eq_comm]

theorem sameKey_congr {first second : Scalar} (same : first.sameKey second = true)
    (other : Scalar) : other.sameKey first = other.sameKey second := by
  rw [Bool.eq_iff_iff, sameKey_iff, sameKey_iff, sameKey_iff.mp same]

/-- Whether a scalar is a text, or bytes that may spell one. -/
def isTextual : Scalar → Bool
  | .str _ | .halved _ | .bytes _ => true
  | _ => false

/-- A text is one key with itself only. -/
theorem sameKey_iff_eq {key other : Scalar} (textual : key.isTextual = true) :
    other.sameKey key = true ↔ other = key := by
  have keyForm_eq : key.keyForm = key ∧ key.isMoment = false := by
    cases key <;> simp_all [isTextual, keyForm, isMoment]
  rw [sameKey_of_not_moment (.inr keyForm_eq.2), keyForm_eq.1]
  unfold keyForm
  split
  · cases key <;> simp_all [isTextual]
  · split <;> cases key <;> simp_all [isTextual]
  · rfl

end Scalar

/-! ## Mappings -/

namespace Fields

/-- A mapping lists no text twice.  Of other keys that are one it may have several: a number that is
none is a key each time it is written. -/
def Distinct (fields : Fields) : Prop :=
  fields.Pairwise fun first second => first.1.isTextual = true → first.1 ≠ second.1

instance (fields : Fields) : Decidable (Distinct fields) :=
  inferInstanceAs (Decidable (fields.Pairwise _))

/-- At most one key of a mapping is the wanted one. -/
def ListsOnce (wanted : Scalar) (fields : Fields) : Prop :=
  fields.Pairwise fun first second =>
    first.1.sameKey wanted = true → second.1.sameKey wanted = false

variable {fields base top : Fields} {key wanted : Scalar} {value : Value}

theorem get?_congr (same : key.sameKey wanted = true) (fields : Fields) :
    get? key fields = get? wanted fields := by
  induction fields with
  | nil => rfl
  | cons pair rest ih =>
      obtain ⟨other, held⟩ := pair
      rw [get?, get?, Scalar.sameKey_congr same, ih]

/-- Among texts a key reads as itself only. -/
theorem get?_eq_dict_get? (textual : key.isTextual = true) (fields : Fields) :
    get? key fields = Dict.get? key fields := by
  induction fields with
  | nil => rfl
  | cons pair rest ih =>
      obtain ⟨other, held⟩ := pair
      by_cases same : other = key
      · simp [get?, Dict.get?, same, Scalar.sameKey_refl]
      · have apart : ¬other.sameKey key = true := mt (Scalar.sameKey_iff_eq textual).mp same
        rw [get?, Dict.get?, if_neg apart, if_neg same, ih]

theorem get?_put (key wanted : Scalar) (value : Value) (fields : Fields) :
    get? wanted (put key value fields) =
      if key.sameKey wanted then some value else get? wanted fields := by
  induction fields with
  | nil => simp [put, get?]
  | cons pair rest ih =>
      obtain ⟨other, held⟩ := pair
      rw [put]
      split
      · rename_i same
        have one : other.sameKey wanted = key.sameKey wanted := by
          rw [Scalar.sameKey_comm, Scalar.sameKey_congr same, Scalar.sameKey_comm]
        rw [get?, get?, one]
        split <;> rfl
      · rename_i apart
        rw [get?, get?, ih]
        by_cases hit : other.sameKey wanted = true
        · have miss : ¬key.sameKey wanted = true := by
            rw [← Scalar.sameKey_congr hit, Scalar.sameKey_comm]
            exact apart
          rw [if_pos hit, if_neg miss, if_pos hit]
        · rw [if_neg hit, if_neg hit]

/-- Putting a key adds it at the end unless it is there. -/
theorem keys_put (key : Scalar) (value : Value) (fields : Fields) :
    Dict.keys (put key value fields) =
      if (get? key fields).isSome then Dict.keys fields else Dict.keys fields ++ [key] := by
  induction fields with
  | nil => simp [put, get?, Dict.keys]
  | cons pair rest ih =>
      obtain ⟨other, held⟩ := pair
      simp only [Dict.keys] at ih
      rw [put, get?]
      split
      · simp [Dict.keys]
      · simp only [Dict.keys, List.map_cons, ih]
        split <;> simp

theorem get?_eq_none_iff :
    get? key fields = none ↔ ∀ other ∈ Dict.keys fields, other.sameKey key = false := by
  induction fields with
  | nil => simp [get?, Dict.keys]
  | cons pair rest ih =>
      obtain ⟨other, held⟩ := pair
      simp only [Dict.keys] at ih
      by_cases same : other.sameKey key = true
      · simp [get?, Dict.keys, same]
      · rw [Bool.not_eq_true] at same
        simp [get?, Dict.keys, same, ih]

theorem distinct_iff_keys :
    Distinct fields ↔ (Dict.keys fields).Pairwise fun first second =>
      first.isTextual = true → first ≠ second := by
  rw [Distinct, Dict.keys, List.pairwise_map]

theorem Distinct.listsOnce (distinct : Distinct fields) (textual : wanted.isTextual = true) :
    ListsOnce wanted fields := by
  apply distinct.imp
  intro first second apart hit
  rw [Scalar.sameKey_iff_eq textual] at hit
  rw [← Bool.not_eq_true, Scalar.sameKey_iff_eq textual, ← hit]
  exact (apart (hit ▸ textual)).symm

theorem Distinct.put (distinct : Distinct fields) (key : Scalar) (value : Value) :
    Distinct (Fields.put key value fields) := by
  rw [distinct_iff_keys] at distinct ⊢
  rw [keys_put]
  split
  · exact distinct
  · rename_i absent
    rw [Bool.not_eq_true, Option.isSome_eq_false_iff, Option.isNone_iff_eq_none,
      get?_eq_none_iff] at absent
    apply List.pairwise_append.mpr
    refine ⟨distinct, by simp, ?_⟩
    rintro other inside added member - rfl
    have apart := absent other inside
    rw [List.mem_singleton.mp member, Scalar.sameKey_refl] at apart
    cases apart

theorem Distinct.merge (distinct : Distinct base) (top : Fields) :
    Distinct (Fields.merge base top) := by
  induction top generalizing base with
  | nil => rwa [Fields.merge]
  | cons pair rest ih =>
      obtain ⟨key, value⟩ := pair
      rw [Fields.merge]
      exact ih (distinct.put key _)

theorem mem_keys_merge (member : key ∈ Dict.keys (merge base top)) :
    key ∈ Dict.keys base ∨ key ∈ Dict.keys top := by
  induction top generalizing base with
  | nil =>
      rw [merge] at member
      exact .inl member
  | cons pair rest ih =>
      obtain ⟨other, value⟩ := pair
      rw [merge] at member
      rcases ih member with inPut | inRest
      · rw [keys_put] at inPut
        split at inPut
        · exact .inl inPut
        · rcases List.mem_append.mp inPut with old | new
          · exact .inl old
          · rw [List.mem_singleton.mp new]
            exact .inr List.mem_cons_self
      · exact .inr (.tail _ inRest)

/-- A value that may be missing, put over another that may be missing. -/
def overlay? (base top : Option Value) : Option Value :=
  match top with
  | some value => some (overlay base value)
  | none => base

/-- A key of a merged mapping reads as the one value put over the other. -/
theorem get?_merge (once : ListsOnce wanted top) (base : Fields) :
    get? wanted (merge base top) = overlay? (get? wanted base) (get? wanted top) := by
  induction top generalizing base with
  | nil => simp [merge, get?, overlay?]
  | cons pair rest ih =>
      obtain ⟨key, value⟩ := pair
      obtain ⟨apart, later⟩ := List.pairwise_cons.mp once
      rw [merge, ih later, get?_put, get?]
      split
      · rename_i same
        -- The value put here stays, since no later key is the wanted one.
        have absent : get? wanted rest = none := by
          rw [get?_eq_none_iff]
          intro other inside
          obtain ⟨pair, member, rfl⟩ := List.mem_map.mp inside
          exact apart pair member same
        rw [absent, get?_congr same]
        rfl
      · rfl

end Fields

/-! ## Values put over values -/

namespace Value

theorem bare_bare (value : Value) : value.bare.bare = value.bare := by
  induction value using Value.bare.induct with
  | case1 name value ih => exact ih
  | case2 value bare =>
      cases value with
      | cyclic name inner => exact absurd rfl (bare name inner)
      | _ => rfl

theorem fields?_bare (value : Value) : value.bare.fields? = value.fields? := by
  rw [fields?, fields?, bare_bare]

theorem items?_bare (value : Value) : value.bare.items? = value.items? := by
  rw [items?, items?, bare_bare]

/-- A value with items is no mapping. -/
theorem fields?_of_items? {value : Value} {items : List Value} (found : value.items? = some items) :
    value.fields? = none := by
  unfold items? at found
  unfold fields?
  split at found <;> simp_all

/-- The value of a key of a mapping. -/
def valueAt? (key : Scalar) (value : Value) : Option Value :=
  value.fields?.bind (Fields.get? key)

/-- A mapping as it should be. -/
def IsMapping (value : Value) : Prop :=
  ∃ fields, value.fields? = some fields ∧ Fields.Distinct fields

instance (value : Value) : Decidable value.IsMapping :=
  decidable_of_iff (value.fields?.any fun fields => decide (Fields.Distinct fields)) (by
    simp [IsMapping, Option.any_eq_true])

/-- The keys of a mapping. -/
def keys (value : Value) : List Scalar :=
  (value.fields?.map Dict.keys).getD []

end Value

namespace Fields

open Value

variable {base top : Option Value} {value : Value}

theorem overlay_none (value : Value) : overlay none value = value := by
  cases value <;> simp [overlay]

/-- A mapping put over anything is a mapping: merged with a mapping, and itself otherwise. -/
theorem fields?_overlay {inner : Fields} (isDict : value.fields? = some inner)
    (base : Option Value) :
    (overlay base value).fields? =
      some (((base.bind Value.fields?).map fun held => merge held inner).getD inner) := by
  induction value using Value.bare.induct with
  | case1 name value ih =>
      rw [overlay]
      cases held : base.bind Value.fields? with
      | none => exact isDict
      | some fields =>
          rw [held] at ih
          exact ih isDict
  | case2 value bare =>
      cases value with
      | dict fields =>
          cases isDict
          rw [overlay]
          cases base.bind Value.fields? with
          | none => rfl
          | some held => rfl
      | cyclic name inner => exact absurd rfl (bare name inner)
      | _ => cases isDict

/-- Anything but a mapping replaces what it is put over. -/
theorem bare_overlay (noDict : value.fields? = none) (base : Option Value) :
    (overlay base value).bare = value.bare := by
  induction value using Value.bare.induct with
  | case1 name value ih =>
      rw [overlay]
      split
      · exact ih noDict
      · rfl
  | case2 value bare =>
      cases value with
      | dict fields => cases noDict
      | cyclic name inner => exact absurd rfl (bare name inner)
      | _ => rfl

/-- Reading a key, which is listed once, inside a mapping that was put over a value. -/
theorem valueAt?_overlay_of_once {inner : Fields} (isDict : value.fields? = some inner)
    {key : Scalar} (once : ListsOnce key inner) (base : Option Value) :
    (overlay base value).valueAt? key =
      overlay? (base.bind (valueAt? key)) (value.valueAt? key) := by
  have base_eq : base.bind (valueAt? key) = (base.bind Value.fields?).bind (get? key) := by
    rw [Option.bind_assoc]
    rfl
  rw [base_eq, valueAt?, valueAt?, fields?_overlay isDict, isDict]
  cases base.bind Value.fields? with
  | none =>
      simp only [Option.map_none, Option.getD_none, Option.bind_some, Option.bind_none]
      cases get? key inner with
      | none => rfl
      | some held => rw [overlay?, overlay_none]
  | some held =>
      simp only [Option.map_some, Option.getD_some, Option.bind_some]
      exact get?_merge once held

/-- Reading a key inside a mapping that was put over a value. -/
theorem valueAt?_overlay (isMapping : value.IsMapping) (base : Option Value) {key : Scalar}
    (textual : key.isTextual = true) :
    (overlay base value).valueAt? key =
      overlay? (base.bind (valueAt? key)) (value.valueAt? key) := by
  obtain ⟨inner, isDict, distinct⟩ := isMapping
  exact valueAt?_overlay_of_once isDict (distinct.listsOnce textual) base

/-- Reading a key commutes with putting a mapping over a value. -/
theorem valueAt?_overlay? (isMapping : ∀ value, top = some value → value.IsMapping)
    (base : Option Value) {key : Scalar} (textual : key.isTextual = true) :
    (overlay? base top).bind (valueAt? key) =
      overlay? (base.bind (valueAt? key)) (top.bind (valueAt? key)) := by
  cases top with
  | none => rfl
  | some value => exact valueAt?_overlay (isMapping value rfl) base textual

theorem isMapping_overlay? (baseMapping : ∀ value, base = some value → value.IsMapping)
    (topMapping : ∀ value, top = some value → value.IsMapping) :
    ∀ value, overlay? base top = some value → value.IsMapping := by
  intro value merged
  cases top with
  | none => exact baseMapping value merged
  | some held =>
      cases merged
      obtain ⟨inner, isDict, distinct⟩ := topMapping held rfl
      refine ⟨_, fields?_overlay isDict base, ?_⟩
      cases base with
      | none => exact distinct
      | some other =>
          obtain ⟨fields, otherDict, otherDistinct⟩ := baseMapping other rfl
          simp only [Option.bind_some, otherDict, Option.map_some, Option.getD_some]
          exact otherDistinct.merge inner

/-- The keys of a mapping that was put over another are keys of one of them. -/
theorem mem_keys_overlay? {key : Scalar}
    (topMapping : ∀ value, top = some value → value.IsMapping) {value : Value}
    (merged : overlay? base top = some value) (member : key ∈ value.keys) :
    (∃ held, base = some held ∧ key ∈ held.keys) ∨ ∃ held, top = some held ∧ key ∈ held.keys := by
  cases top with
  | none => exact .inl ⟨value, merged, member⟩
  | some held =>
      cases merged
      obtain ⟨inner, isDict, -⟩ := topMapping held rfl
      have keys_eq : held.keys = Dict.keys inner := by simp [Value.keys, isDict]
      rw [Value.keys, fields?_overlay isDict] at member
      cases base with
      | none => exact .inr ⟨held, rfl, keys_eq ▸ member⟩
      | some other =>
          cases otherDict : other.fields? with
          | none =>
              rw [Option.bind_some, otherDict] at member
              exact .inr ⟨held, rfl, keys_eq ▸ member⟩
          | some fields =>
              rw [Option.bind_some, otherDict] at member
              rcases mem_keys_merge member with inBase | inTop
              · exact .inl ⟨other, rfl, by simpa [Value.keys, otherDict] using inBase⟩
              · exact .inr ⟨held, rfl, keys_eq ▸ inTop⟩

/-- What is no mapping after all values were put is the last of them, without the name it may have
for containing itself. -/
theorem bare_overlay? (merged : overlay? base top = some value) (noDict : value.fields? = none) :
    some value.bare = (top.or base).map Value.bare := by
  cases top with
  | none => simp only [overlay?] at merged; simp [merged]
  | some held =>
      cases merged
      cases isDict : held.fields? with
      | none => simp [bare_overlay isDict]
      | some inner =>
          rw [fields?_overlay isDict] at noDict
          cases noDict

end Fields

end DeclLinker
