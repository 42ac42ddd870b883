/-!
# Ordered dictionaries

A dictionary is a list of keys and values in the order in which the keys were first put.  Putting a
key again replaces its value and keeps its place.
-/

namespace DeclLinker

universe u v

/-- Keys and values in the order of first insertion. -/
abbrev Dict (κ : Type u) (α : Type v) := List (κ × α)

namespace Dict

variable {κ : Type u} {α : Type v} [DecidableEq κ]

/-- The value of a key. -/
def get? (key : κ) : Dict κ α → Option α
  | [] => none
  | (other, value) :: rest => if other = key then some value else get? key rest

/-- The dictionary with a key set to a value: in place when the key is there, else at the end. -/
def put (key : κ) (value : α) : Dict κ α → Dict κ α
  | [] => [(key, value)]
  | (other, old) :: rest =>
      if other = key then (other, value) :: rest else (other, old) :: put key value rest

/-- Whether a key has a value. -/
def has (key : κ) (dict : Dict κ α) : Bool :=
  (get? key dict).isSome

/-- The keys in order. -/
def keys (dict : Dict κ α) : List κ :=
  dict.map Prod.fst

/-- The dictionary with the pairs of another put one after the other. -/
def putAll (dict more : Dict κ α) : Dict κ α :=
  more.foldl (fun dict pair => put pair.1 pair.2 dict) dict

/-- A dictionary from pairs that may repeat a key; the last value wins. -/
def ofPairs (pairs : List (κ × α)) : Dict κ α :=
  putAll [] pairs

@[simp]
theorem get?_nil (key : κ) : get? key ([] : Dict κ α) = none :=
  rfl

/-- Reading after writing: the written key has the new value, every other key its old one. -/
theorem get?_put (key wanted : κ) (value : α) (dict : Dict κ α) :
    get? wanted (put key value dict) = if key = wanted then some value else get? wanted dict := by
  induction dict with
  | nil => simp [put, get?]
  | cons pair rest ih =>
      obtain ⟨other, old⟩ := pair
      by_cases same : other = key
      · subst same
        by_cases hit : other = wanted <;> simp [put, get?, hit]
      · by_cases hit : other = wanted
        · subst hit
          simp [put, get?, same, Ne.symm same]
        · simp [put, get?, same, hit, ih]

/-- Putting a key adds it at the end unless it is there. -/
theorem keys_put (key : κ) (value : α) (dict : Dict κ α) :
    keys (put key value dict) = if key ∈ keys dict then keys dict else keys dict ++ [key] := by
  induction dict with
  | nil => simp [put, keys]
  | cons pair rest ih =>
      obtain ⟨other, old⟩ := pair
      by_cases same : other = key
      · simp [put, keys, same]
      · have apart : ¬key = other := fun h => same h.symm
        simp only [keys] at ih
        by_cases inside : key ∈ rest.map Prod.fst
        · simp [put, keys, same, apart, inside, ih]
        · simp [put, keys, same, apart, inside, ih]

end Dict

end DeclLinker
