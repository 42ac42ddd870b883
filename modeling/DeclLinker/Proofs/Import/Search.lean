import DeclLinker.Proofs.Import.Fresh
import Mathlib.Order.Bounds.Basic

/-!
# The search for an alias

A search tries the alias without a number first and then, as long as what it tries is reserved, the
numbers from 2 on.  Nothing in the search bounds how long it goes on.  It ends because different
numbers make different names, even behind a name that ends in digits itself, and only finitely many
names are reserved; and it ends with the alias that is minted, which has the least number that makes
a free name.
-/

namespace DeclLinker.Alias

/-- The search that has come to a number, and tries a candidate now, ends with a result. -/
inductive SearchEnds (base : Text) (reserved : List Text) :
    (number : Nat) → (tried result : Text) → Prop
  | free {number : Nat} {tried : Text} (unreserved : tried ∉ reserved) :
      SearchEnds base reserved number tried tried
  | taken {number : Nat} {tried result : Text} (isReserved : tried ∈ reserved)
      (next : SearchEnds base reserved (number + 1) (base ++ Text.ofNat (number + 1)) result) :
      SearchEnds base reserved number tried result

variable {base : Text} {reserved : List Text}

/-- A search ends in one way only. -/
theorem SearchEnds.unique {number : Nat} {tried first second : Text}
    (one : SearchEnds base reserved number tried first)
    (other : SearchEnds base reserved number tried second) : first = second := by
  induction one with
  | free unreserved =>
      cases other with
      | free _ => rfl
      | taken isReserved _ => exact absurd isReserved unreserved
  | taken isReserved _ ih =>
      cases other with
      | free unreserved => exact absurd isReserved unreserved
      | taken _ next => exact ih next

/-- A search that tries a candidate ends with the first one from there on that is free. -/
theorem searchEnds_candidate {index last : Nat} (reached : index ≤ last)
    (reservedBefore : ∀ earlier, index ≤ earlier → earlier < last →
      candidate base earlier ∈ reserved)
    (unreserved : candidate base last ∉ reserved) :
    SearchEnds base reserved (index + 1) (candidate base index) (candidate base last) := by
  -- The induction is on the candidates that are still to be tried, from the last one back.
  induction reached using Nat.decreasingInduction with
  | self => exact .free unreserved
  | of_succ index before ih =>
      apply SearchEnds.taken (reservedBefore index (Nat.le_refl index) before)
      apply ih
      intro earlier later
      exact reservedBefore earlier (Nat.le_of_succ_le later)

/-- What is minted is the first candidate that is not reserved. -/
theorem exists_first_unreserved (base : Text) (reserved : List Text) :
    ∃ index, mint base reserved = candidate base index ∧ candidate base index ∉ reserved ∧
      ∀ earlier < index, candidate base earlier ∈ reserved := by
  obtain ⟨name, found⟩ := exists_found base reserved
  have mint_eq : mint base reserved = name := by rw [mint, found, Option.getD_some]
  rw [List.find?_map, Option.map_eq_some_iff] at found
  obtain ⟨index, first, rfl⟩ := found
  rw [List.find?_range_eq_some] at first
  obtain ⟨free, -, before⟩ := first
  refine ⟨index, mint_eq, by simpa using free, fun earlier less => ?_⟩
  simpa using before earlier less

/-- The number of a candidate is the least one that makes a free name. -/
theorem isLeast_of_first {index : Nat} (unreserved : candidate base (index + 1) ∉ reserved)
    (before : ∀ earlier < index + 1, candidate base earlier ∈ reserved) :
    IsLeast {number | 2 ≤ number ∧ base ++ Text.ofNat number ∉ reserved} (index + 2) := by
  refine ⟨⟨by omega, unreserved⟩, ?_⟩
  rintro number ⟨atLeast, free⟩
  by_contra less
  obtain ⟨earlier, rfl⟩ : ∃ earlier, number = earlier + 2 := ⟨number - 2, by omega⟩
  exact free (before (earlier + 1) (by omega))

/-- The search for an alias of a declaration ends, whatever is reserved, and it ends with the minted
alias: the one without a number when that is free, and otherwise the one with the least number from
2 on that makes a free name. -/
theorem search_ends_at_least_number (entry : Entry) (reserved : List Text) :
    let plain := Alias.base entry.tag entry.exportName
    (∀ result, SearchEnds plain reserved 1 plain result ↔ result = mint plain reserved) ∧
      (plain ∉ reserved → mint plain reserved = plain) ∧
      (plain ∈ reserved → ∃ number,
        IsLeast {number | 2 ≤ number ∧ plain ++ Text.ofNat number ∉ reserved} number ∧
          mint plain reserved = plain ++ Text.ofNat number) ∧
      mint plain reserved ∉ reserved := by
  intro plain
  obtain ⟨index, mint_eq, unreserved, before⟩ := exists_first_unreserved plain reserved
  have ends : SearchEnds plain reserved 1 plain (mint plain reserved) := by
    rw [mint_eq]
    exact searchEnds_candidate (Nat.zero_le index) (fun earlier _ => before earlier) unreserved
  refine ⟨fun result => ⟨fun other => other.unique ends, fun same => same ▸ ends⟩, ?_, ?_,
    mint_not_mem plain reserved⟩
  · intro free
    cases index with
    | zero => exact mint_eq
    | succ index => exact absurd (before 0 (Nat.succ_pos index)) free
  · intro taken
    cases index with
    | zero => exact absurd taken unreserved
    | succ index => exact ⟨index + 2, isLeast_of_first unreserved before, mint_eq⟩

/-- A number behind a name that ends in digits is a number of its own. -/
example : mint (Alias.base "oauth".toList "V1".toList)
    ["OauthV1".toList, "OauthV12".toList, "OauthV14".toList] = "OauthV13".toList := by
  decide +kernel

end DeclLinker.Alias
