import DeclLinker.Dict

/-!
# Dictionaries as mappings

Reading a dictionary finds one of its pairs, and putting a key touches no other pair.  A dictionary
that lists every key once is a mapping: a pair is in it exactly when its key reads as its value, so
the order of the pairs does not matter for reading.
-/

namespace DeclLinker.Dict

variable {κ α : Type} [DecidableEq κ] {key other : κ} {value held : α} {dict : Dict κ α}

theorem mem_of_get? (found : get? key dict = some value) : (key, value) ∈ dict := by
  induction dict with
  | nil => cases found
  | cons pair rest ih =>
      obtain ⟨other, held⟩ := pair
      rw [get?] at found
      split at found
      · rename_i same
        cases found
        rw [same]
        exact List.mem_cons_self
      · exact .tail _ (ih found)

theorem mem_of_mem_put (member : (other, held) ∈ put key value dict) :
    (other = key ∧ held = value) ∨ (other, held) ∈ dict := by
  induction dict with
  | nil =>
      rw [put, List.mem_singleton, Prod.mk.injEq] at member
      exact .inl member
  | cons pair rest ih =>
      obtain ⟨first, old⟩ := pair
      rw [put] at member
      split at member
      · rename_i same
        rcases List.mem_cons.1 member with here | later
        · rw [Prod.mk.injEq] at here
          exact .inl ⟨here.1.trans same, here.2⟩
        · exact .inr (.tail _ later)
      · rcases List.mem_cons.1 member with here | later
        · exact .inr (here ▸ List.mem_cons_self)
        · exact (ih later).imp_right (.tail _)

theorem mem_putAll {pair : κ × α} {more : Dict κ α} (member : pair ∈ putAll dict more) :
    pair ∈ dict ∨ pair ∈ more := by
  unfold putAll at member
  induction more generalizing dict with
  | nil => exact .inl member
  | cons first more ih =>
      rcases ih member with put | later
      · rcases mem_of_mem_put put with ⟨key_eq, value_eq⟩ | old
        · exact .inr (List.mem_cons.2 (.inl (Prod.ext key_eq value_eq)))
        · exact .inl old
      · exact .inr (.tail first later)

theorem put_ne_nil (key : κ) (value : α) (dict : Dict κ α) : put key value dict ≠ [] := by
  cases dict with
  | nil => simp [put]
  | cons pair rest =>
      rw [put]
      split <;> simp

/-- Putting a key replaces the value it had, if any, and leaves the rest. -/
theorem exists_perm_put (key : κ) (value : α) (dict : Dict κ α) :
    ∃ rest, dict.Perm ((get? key dict).toList.map (Prod.mk key) ++ rest) ∧
      (put key value dict).Perm ((key, value) :: rest) := by
  induction dict with
  | nil => exact ⟨[], .refl _, .refl _⟩
  | cons pair dict ih =>
      obtain ⟨other, old⟩ := pair
      by_cases same : other = key
      · subst same
        refine ⟨dict, ?_, ?_⟩
        · simp [get?]
        · simp [put]
      · obtain ⟨rest, before, after⟩ := ih
        refine ⟨(other, old) :: rest, ?_, ?_⟩
        · rw [get?, if_neg same]
          exact (before.cons _).trans List.perm_middle.symm
        · rw [put, if_neg same]
          exact (after.cons _).trans (.swap _ _ _)

theorem mem_keys_putAll {more : Dict κ α} :
    key ∈ keys (putAll dict more) ↔ key ∈ keys dict ∨ key ∈ keys more := by
  unfold putAll
  induction more generalizing dict with
  | nil => simp [keys]
  | cons pair more ih =>
      rw [List.foldl_cons, ih, keys_put]
      by_cases inside : pair.1 ∈ keys dict
      · rw [if_pos inside]
        constructor
        · exact Or.imp_right (.tail _)
        · rintro (old | new)
          · exact .inl old
          · rcases List.mem_cons.mp new with rfl | later
            · exact .inl inside
            · exact .inr later
      · rw [if_neg inside, List.mem_append, List.mem_singleton, or_assoc]
        simp only [keys, List.map_cons, List.mem_cons]

/-! ## Keys that are listed once -/

theorem get?_eq_none_iff : get? key dict = none ↔ key ∉ keys dict := by
  induction dict with
  | nil => simp [keys]
  | cons pair rest ih =>
      by_cases same : pair.1 = key
      · simp [get?, keys, same]
      · simp only [keys] at ih
        simp [get?, keys, same, Ne.symm same, ih]

/-- A key that pairs give one value only has that value. -/
theorem get?_ofPairs_of_unique {pairs : List (κ × α)} (member : (key, value) ∈ pairs)
    (unique : ∀ other, (key, other) ∈ pairs → other = value) :
    get? key (ofPairs pairs) = some value := by
  cases found : get? key (ofPairs pairs) with
  | none =>
      rw [get?_eq_none_iff, ofPairs, mem_keys_putAll, not_or] at found
      exact absurd (List.mem_map_of_mem (f := Prod.fst) member) found.2
  | some held =>
      have listed := mem_putAll (mem_of_get? found)
      rw [unique held (listed.resolve_left List.not_mem_nil)]

theorem get?_ofPairs_eq_none {pairs : List (κ × α)} (absent : key ∉ keys pairs) :
    get? key (ofPairs pairs) = none := by
  rw [get?_eq_none_iff, ofPairs, mem_keys_putAll, not_or]
  exact ⟨List.not_mem_nil, absent⟩

theorem nodup_keys_put (once : (keys dict).Nodup) (key : κ) (value : α) :
    (keys (put key value dict)).Nodup := by
  rw [keys_put]
  split
  · exact once
  · rename_i absent
    apply List.nodup_append.mpr
    refine ⟨once, by simp, ?_⟩
    rintro first inside second single rfl
    exact absent (List.mem_singleton.mp single ▸ inside)

theorem nodup_keys_putAll (once : (keys dict).Nodup) (more : Dict κ α) :
    (keys (putAll dict more)).Nodup := by
  unfold putAll
  induction more generalizing dict with
  | nil => exact once
  | cons pair more ih => exact ih (nodup_keys_put once pair.1 pair.2)

theorem put_of_not_mem (absent : key ∉ keys dict) :
    put key value dict = dict ++ [(key, value)] := by
  induction dict with
  | nil => rfl
  | cons pair rest ih =>
      rw [keys, List.map_cons, List.mem_cons, not_or] at absent
      rw [put, if_neg (Ne.symm absent.1), ih absent.2, List.cons_append]

/-- Pairs that repeat no key are put as they stand. -/
theorem putAll_of_nodup {more : Dict κ α} (once : (keys (dict ++ more)).Nodup) :
    putAll dict more = dict ++ more := by
  unfold putAll
  induction more generalizing dict with
  | nil => simp
  | cons pair more ih =>
      have fresh : pair.1 ∉ keys dict := by
        rw [keys, List.map_append, List.map_cons, List.nodup_append] at once
        intro member
        exact once.2.2 _ member _ List.mem_cons_self rfl
      have regrouped : (keys (dict ++ [pair] ++ more)).Nodup := by
        rwa [List.append_assoc, List.singleton_append]
      rw [List.foldl_cons, put_of_not_mem fresh, ih regrouped, List.append_assoc,
        List.singleton_append]

theorem ofPairs_of_nodup (once : (keys dict).Nodup) : ofPairs dict = dict :=
  putAll_of_nodup once

theorem get?_eq_some_iff_mem (once : (keys dict).Nodup) :
    get? key dict = some value ↔ (key, value) ∈ dict := by
  constructor
  · exact mem_of_get?
  · intro member
    induction dict with
    | nil => cases member
    | cons pair rest ih =>
        rcases List.nodup_cons.mp once with ⟨fresh, later⟩
        rcases List.mem_cons.mp member with rfl | inRest
        · simp [get?]
        · have apart : pair.1 ≠ key := by
            rintro rfl
            exact fresh (List.mem_map.mpr ⟨_, inRest, rfl⟩)
          rw [get?, if_neg apart]
          exact ih later inRest

/-- The order of the pairs does not matter for reading. -/
theorem get?_eq_of_perm (once : (keys dict).Nodup) {order : Dict κ α} (perm : order.Perm dict)
    (key : κ) : get? key order = get? key dict := by
  have orderOnce : (keys order).Nodup := (perm.map Prod.fst).nodup_iff.mpr once
  apply Option.ext
  intro value
  rw [get?_eq_some_iff_mem orderOnce, get?_eq_some_iff_mem once, perm.mem_iff]

end DeclLinker.Dict
