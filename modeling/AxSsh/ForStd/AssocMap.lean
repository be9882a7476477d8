import Mathlib.Data.List.AList

/-!
# Association maps

`AssocMap K V` is Mathlib's association list at a constant value type: the finite
map with distinct keys that stands for a hash map.  This file adds what `AList`
lacks: `retain`, `adjust` and `values`, and lookups in the `if` form that `simp`
can split.
-/

universe u v

/-- A finite map from `K` to `V` with distinct keys. -/
abbrev AssocMap (K : Type u) (V : Type v) := AList (fun _ : K => V)

namespace AssocMap

variable {K : Type u} {V : Type v}

/-- Keep the entries that satisfy `p`. -/
def retain (p : K → V → Bool) (m : AssocMap K V) : AssocMap K V :=
  ⟨m.entries.filter fun e => p e.1 e.2, m.nodupKeys.sublist List.filter_sublist⟩

/-- The values of the map, in entry order. -/
def values (m : AssocMap K V) : List V :=
  m.entries.map fun e => e.2

/-- Rewrite every value. -/
def mapValues (f : K → V → V) (m : AssocMap K V) : AssocMap K V :=
  ⟨m.entries.map fun e => ⟨e.1, f e.1 e.2⟩, by
    have h := m.nodupKeys
    unfold List.NodupKeys List.keys at h ⊢
    rw [List.map_map]
    exact h⟩

variable [DecidableEq K]

/-- Rewrite the value at `k`, if there is one. -/
def adjust (k : K) (f : V → V) (m : AssocMap K V) : AssocMap K V :=
  match m.lookup k with
  | some v => m.insert k (f v)
  | none => m

/-! ## Lookups -/

theorem lookup_insert_ite (m : AssocMap K V) (k k' : K) (v : V) :
    (m.insert k v).lookup k' = if k' = k then some v else m.lookup k' := by
  split
  · rename_i h
    subst h
    exact AList.lookup_insert m
  · rename_i h
    exact AList.lookup_insert_ne h

theorem lookup_erase_ite (m : AssocMap K V) (k k' : K) :
    (m.erase k).lookup k' = if k' = k then none else m.lookup k' := by
  split
  · rename_i h
    subst h
    exact AList.lookup_erase _ m
  · rename_i h
    exact AList.lookup_erase_ne h

/-- Retaining filters each lookup. -/
theorem lookup_retain (p : K → V → Bool) (m : AssocMap K V) (k : K) :
    (m.retain p).lookup k = (m.lookup k).filter (p k) := by
  apply Option.ext
  intro v
  rw [Option.filter_eq_some_iff, ← Option.mem_def, ← Option.mem_def, AList.mem_lookup_iff,
    AList.mem_lookup_iff]
  simp [retain]

/-- Adjusting is seen at its own key only. -/
theorem lookup_adjust_ite (m : AssocMap K V) (k k' : K) (f : V → V) :
    (adjust k f m).lookup k' = if k' = k then (m.lookup k).map f else m.lookup k' := by
  unfold adjust
  split
  · rename_i v hk
    rw [lookup_insert_ite, hk]
    rfl
  · rename_i hk
    split
    · rename_i h
      rw [h, hk]
      rfl
    · rfl

/-- Rewriting every value rewrites each lookup. -/
theorem lookup_mapValues (f : K → V → V) (m : AssocMap K V) (k : K) :
    (mapValues f m).lookup k = (m.lookup k).map (f k) := by
  apply Option.ext
  intro v
  rw [Option.map_eq_some_iff, ← Option.mem_def, AList.mem_lookup_iff]
  constructor
  · intro h
    obtain ⟨⟨k', w⟩, hmem, he⟩ := List.mem_map.mp h
    cases he
    exact ⟨w, AList.mem_lookup_iff.mpr hmem, rfl⟩
  · rintro ⟨w, hw, rfl⟩
    exact List.mem_map.mpr ⟨⟨k, w⟩, AList.mem_lookup_iff.mp hw, rfl⟩

/-- A key survives `retain` exactly when its value passes. -/
theorem mem_retain {p : K → V → Bool} {m : AssocMap K V} {k : K} :
    k ∈ m.retain p ↔ ∃ v, m.lookup k = some v ∧ p k v := by
  rw [← AList.lookup_isSome, lookup_retain, Option.isSome_iff_exists]
  simp [Option.filter_eq_some_iff]

/-- A key is in the map exactly when its lookup finds something. -/
theorem mem_iff_lookup {m : AssocMap K V} {k : K} : k ∈ m ↔ ∃ v, m.lookup k = some v := by
  rw [← AList.lookup_isSome, Option.isSome_iff_exists]

/-- The values are what the lookups find. -/
theorem mem_values {m : AssocMap K V} {v : V} : v ∈ m.values ↔ ∃ k, m.lookup k = some v := by
  simp only [values, List.mem_map, ← Option.mem_def, AList.mem_lookup_iff]
  constructor
  · rintro ⟨⟨k, w⟩, hmem, rfl⟩
    exact ⟨k, hmem⟩
  · rintro ⟨k, hmem⟩
    exact ⟨⟨k, v⟩, hmem, rfl⟩

/-- Inserting a key adds one entry at most. -/
theorem length_entries_insert_le (m : AssocMap K V) (k : K) (v : V) :
    (m.insert k v).entries.length ≤ m.entries.length + 1 := by
  rw [AList.entries_insert, List.length_cons]
  exact Nat.succ_le_succ (List.kerase_sublist k m.entries).length_le

/-- Erasing a key never adds an entry. -/
theorem length_entries_erase_le (m : AssocMap K V) (k : K) :
    (m.erase k).entries.length ≤ m.entries.length :=
  (List.kerase_sublist k m.entries).length_le

/-- Erasing a key of the map removes one entry. -/
theorem length_entries_erase {m : AssocMap K V} {k : K} (h : k ∈ m) :
    (m.erase k).entries.length + 1 = m.entries.length := by
  obtain ⟨v, l₁, l₂, -, hentries, herase⟩ := List.exists_of_kerase (AList.mem_keys.mp h)
  have herase' : (m.erase k).entries = l₁ ++ l₂ := herase
  rw [herase', hentries, List.length_append, List.length_append, List.length_cons]
  omega

/-- Adjusting a value keeps the number of entries. -/
theorem length_entries_adjust (m : AssocMap K V) (k : K) (f : V → V) :
    (adjust k f m).entries.length = m.entries.length := by
  unfold adjust
  split
  · rename_i v hlookup
    have hmem : k ∈ m := AList.lookup_isSome.mp (by rw [hlookup]; rfl)
    have hlength := length_entries_erase hmem
    rw [AList.entries_insert, List.length_cons]
    exact hlength
  · rfl

/-- Erasing a key that is not in the map changes nothing. -/
theorem erase_of_notMem {m : AssocMap K V} {k : K} (h : k ∉ m) : m.erase k = m :=
  AList.ext (List.kerase_of_notMem_keys h)

/-- Adjusting a value changes no key. -/
@[simp] theorem mem_adjust {k k' : K} {f : V → V} {m : AssocMap K V} :
    k' ∈ adjust k f m ↔ k' ∈ m := by
  rw [mem_iff_lookup, mem_iff_lookup, lookup_adjust_ite]
  split
  · rename_i h
    rw [h]
    simp
  · rfl

end AssocMap
