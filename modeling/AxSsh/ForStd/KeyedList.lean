import Mathlib.Data.List.Nodup
import Mathlib.Data.List.Perm.Basic

/-!
# Lists of records under a key

A list whose elements carry a key, searched and updated at the first element that
has it: `findKey` reads it, `modifyKey` rewrites it in place.  The lemmas say what
each list operation does to a later `findKey`, so that proofs about such a list
never look at positions.

## Key results
- `findKey_modifyKey`: an in-place update is seen at its own key only
- `findKey_filter_ne`: a filter of one key is seen at that key only
- `findKey_eq_some_iff`: under distinct keys a lookup is membership
-/

namespace List

universe u v w

variable {α : Type u} {κ : Type v} (key : α → κ)

section Lookup

variable [DecidableEq κ]

/-- The first element with key `k`. -/
def findKey (k : κ) (l : List α) : Option α :=
  l.find? fun x => decide (key x = k)

/-- Rewrite the first element with key `k`. -/
def modifyKey (k : κ) (f : α → α) : List α → List α
  | [] => []
  | x :: xs => if key x = k then f x :: xs else x :: modifyKey k f xs

variable {key}

/-! ## Reading -/

@[simp] theorem findKey_nil (k : κ) : findKey key k ([] : List α) = none := rfl

theorem findKey_cons (k : κ) (x : α) (l : List α) :
    findKey key k (x :: l) = if key x = k then some x else findKey key k l := by
  unfold findKey
  by_cases h : key x = k
  · rw [find?_cons_of_pos (by simpa using h), if_pos h]
  · rw [find?_cons_of_neg (by simpa using h), if_neg h]

/-- What a lookup finds has the key it was asked for. -/
theorem key_of_findKey {k : κ} {l : List α} {x : α} (h : findKey key k l = some x) :
    key x = k := by
  simpa using find?_some h

/-- What a lookup finds is in the list. -/
theorem mem_of_findKey {k : κ} {l : List α} {x : α} (h : findKey key k l = some x) : x ∈ l :=
  mem_of_find?_eq_some h

/-- A lookup fails exactly when no element has the key. -/
theorem findKey_eq_none {k : κ} {l : List α} :
    findKey key k l = none ↔ k ∉ l.map key := by
  simp [findKey]

/-- A lookup succeeds exactly when some element has the key. -/
theorem findKey_isSome {k : κ} {l : List α} :
    (findKey key k l).isSome ↔ k ∈ l.map key := by
  simp [findKey]

/-- Under distinct keys, a lookup finds exactly the elements of the list. -/
theorem findKey_eq_some_iff {l : List α} (hl : (l.map key).Nodup) {k : κ} {x : α} :
    findKey key k l = some x ↔ x ∈ l ∧ key x = k := by
  constructor
  · intro h
    exact ⟨mem_of_findKey h, key_of_findKey h⟩
  · rintro ⟨hx, rfl⟩
    induction l with
    | nil => exact nomatch hx
    | cons y ys ih =>
      rw [map_cons, nodup_cons] at hl
      rw [findKey_cons]
      rcases mem_cons.mp hx with rfl | hx
      · rw [if_pos rfl]
      · have hne : key y ≠ key x := fun h => hl.1 (h ▸ mem_map_of_mem hx)
        rw [if_neg hne]
        exact ih hl.2 hx

/-- Under distinct keys, the order does not matter to a lookup. -/
theorem findKey_perm {l l' : List α} (h : l.Perm l') (hl : (l.map key).Nodup) (k : κ) :
    findKey key k l' = findKey key k l := by
  have hl' : (l'.map key).Nodup := (h.map key).nodup_iff.mp hl
  ext x
  rw [findKey_eq_some_iff hl', findKey_eq_some_iff hl, h.mem_iff]

/-! ## Appending -/

/-- An appended element is found only where nothing was found before. -/
theorem findKey_append_singleton (k : κ) (l : List α) (x : α) :
    findKey key k (l ++ [x]) =
      (findKey key k l).or (if key x = k then some x else none) := by
  unfold findKey
  rw [find?_append]
  congr 1
  by_cases h : key x = k <;> simp [h]

/-! ## In-place updates -/

/-- An update that keeps the key it was asked for is seen at that key only. -/
theorem findKey_modifyKey_of_key {f : α → α} {k : κ} (hf : ∀ x, key x = k → key (f x) = k)
    (k' : κ) (l : List α) :
    findKey key k' (modifyKey key k f l) =
      if k' = k then (findKey key k l).map f else findKey key k' l := by
  induction l with
  | nil => simp [modifyKey]
  | cons x xs ih =>
    rw [modifyKey, findKey_cons k x xs, findKey_cons k' x xs]
    by_cases hx : key x = k
    · rw [if_pos hx, if_pos hx, findKey_cons, hf x hx, hx]
      by_cases hk : k' = k
      · simp [hk]
      · simp [hk, Ne.symm hk]
    · rw [if_neg hx, findKey_cons, ih]
      by_cases hk : k' = k
      · subst hk
        simp [hx]
      · simp [hk]

/-- An update that keeps the key is seen at its own key only. -/
theorem findKey_modifyKey {f : α → α} (hf : ∀ x, key (f x) = key x) (k k' : κ) (l : List α) :
    findKey key k' (modifyKey key k f l) =
      if k' = k then (findKey key k l).map f else findKey key k' l :=
  findKey_modifyKey_of_key (fun x hx => (hf x).trans hx) k' l

/-- An update that keeps the key keeps every key in its place. -/
theorem map_key_modifyKey {f : α → α} (hf : ∀ x, key (f x) = key x) (k : κ) (l : List α) :
    (modifyKey key k f l).map key = l.map key := by
  induction l with
  | nil => rfl
  | cons x xs ih =>
    rw [modifyKey]
    split
    · simp [hf]
    · simp [ih]

/-- An update rewrites the element that a lookup finds, where it stands. -/
theorem exists_modifyKey {k : κ} {l : List α} {x : α} (h : findKey key k l = some x)
    (f : α → α) : ∃ l₁ l₂, l = l₁ ++ x :: l₂ ∧ modifyKey key k f l = l₁ ++ f x :: l₂ := by
  induction l with
  | nil => exact nomatch h
  | cons y ys ih =>
    rw [findKey_cons] at h
    rw [modifyKey]
    split at h
    · rename_i hy
      cases h
      exact ⟨[], ys, rfl, if_pos hy⟩
    · rename_i hy
      obtain ⟨l₁, l₂, rfl, hmod⟩ := ih h
      exact ⟨y :: l₁, l₂, rfl, by rw [if_neg hy, hmod]; rfl⟩

/-- What is in an updated list was there before, or is the update of what was there. -/
theorem mem_modifyKey {k : κ} {l : List α} {f : α → α} {y : α} (h : y ∈ modifyKey key k f l) :
    y ∈ l ∨ ∃ x ∈ l, y = f x := by
  induction l with
  | nil => exact nomatch h
  | cons x xs ih =>
    rw [modifyKey] at h
    split at h
    · rcases mem_cons.mp h with rfl | h
      · exact .inr ⟨x, mem_cons_self, rfl⟩
      · exact .inl (mem_cons_of_mem x h)
    · rcases mem_cons.mp h with rfl | h
      · exact .inl mem_cons_self
      · rcases ih h with h | ⟨z, hz, rfl⟩
        · exact .inl (mem_cons_of_mem x h)
        · exact .inr ⟨z, mem_cons_of_mem x hz, rfl⟩

/-- An update that keeps the key leaves the elements of the other keys as they are. -/
theorem filter_modifyKey_ne {f : α → α} (hf : ∀ x, key (f x) = key x) (k : κ) (l : List α) :
    (modifyKey key k f l).filter (fun x => decide (key x ≠ k)) =
      l.filter fun x => decide (key x ≠ k) := by
  induction l with
  | nil => rfl
  | cons x xs ih =>
    rw [modifyKey]
    split
    · rename_i hx
      rw [filter_cons_of_neg (by simp [hf, hx]), filter_cons_of_neg (by simp [hx])]
    · rename_i hx
      rw [filter_cons_of_pos (by simpa using hx), filter_cons_of_pos (by simpa using hx), ih]

/-- What an update does to a count is what it does to the element it rewrites. -/
theorem countP_modifyKey {k : κ} {l : List α} {x : α} (h : findKey key k l = some x)
    (f : α → α) (p : α → Bool) :
    (modifyKey key k f l).countP p + (if p x then 1 else 0) =
      l.countP p + (if p (f x) then 1 else 0) := by
  obtain ⟨l₁, l₂, rfl, hmod⟩ := exists_modifyKey h f
  rw [hmod, countP_append, countP_append, countP_cons, countP_cons]
  omega

/-- An update that keeps a property of every element keeps its count. -/
theorem countP_modifyKey_of_eq (k : κ) (l : List α) {f : α → α} {p : α → Bool}
    (hf : ∀ x, p (f x) = p x) : (modifyKey key k f l).countP p = l.countP p := by
  induction l with
  | nil => rfl
  | cons x xs ih =>
    rw [modifyKey]
    split
    · rw [countP_cons, countP_cons, hf]
    · rw [countP_cons, countP_cons, ih]

/-! ## Maps, filters and removals -/

/-- A map that keeps every key commutes with lookup. -/
theorem findKey_map {f : α → α} (hf : ∀ x, key (f x) = key x) (k : κ) (l : List α) :
    findKey key k (l.map f) = (findKey key k l).map f := by
  induction l with
  | nil => rfl
  | cons x xs ih =>
    rw [map_cons, findKey_cons, findKey_cons, hf, ih]
    by_cases h : key x = k <;> simp [h]

/-- Under distinct keys, filtering commutes with lookup. -/
theorem findKey_filter {p : α → Bool} {l : List α} (hl : (l.map key).Nodup) (k : κ) :
    findKey key k (l.filter p) = (findKey key k l).filter p := by
  have hl' : ((l.filter p).map key).Nodup := hl.sublist (filter_sublist.map key)
  apply Option.ext
  intro x
  rw [findKey_eq_some_iff hl', Option.filter_eq_some_iff, findKey_eq_some_iff hl, mem_filter]
  tauto

/-- Removing the elements of one key is seen at that key only. -/
theorem findKey_filter_ne (k k' : κ) (l : List α) :
    findKey key k' (l.filter fun x => decide (key x ≠ k)) =
      if k' = k then none else findKey key k' l := by
  induction l with
  | nil => simp
  | cons x xs ih =>
    by_cases hx : key x = k
    · rw [filter_cons_of_neg (by simpa using hx), ih, findKey_cons]
      by_cases hk : k' = k
      · simp [hk]
      · simp [hk, hx, Ne.symm hk]
    · rw [filter_cons_of_pos (by simpa using hx), findKey_cons, findKey_cons, ih]
      by_cases hk : k' = k
      · subst hk
        simp [hx]
      · simp [hk]

/-- What a partial map keeps under its key is found there. -/
theorem findKey_filterMap {β : Type w} {key' : β → κ} {g : α → Option β}
    (hg : ∀ x y, g x = some y → key' y = key x) {l : List α} (hl : (l.map key).Nodup) (k : κ) :
    findKey key' k (l.filterMap g) = (findKey key k l).bind g := by
  induction l with
  | nil => rfl
  | cons x xs ih =>
    rw [map_cons, nodup_cons] at hl
    rw [filterMap_cons, findKey_cons]
    split
    · rename_i hnone
      rw [ih hl.2]
      split
      · rename_i hk
        rw [findKey_eq_none.mpr (hk ▸ hl.1), Option.bind_some, hnone]
        rfl
      · rfl
    · rename_i y hsome
      rw [findKey_cons, hg x y hsome, ih hl.2]
      split
      · rw [Option.bind_some, hsome]
      · rfl

end Lookup

/-! ## Distinct keys -/

variable {key}

/-- A map that keeps every key keeps the list of keys. -/
theorem map_key_map {f : α → α} (hf : ∀ x, key (f x) = key x) (l : List α) :
    (l.map f).map key = l.map key := by
  simp [hf]

/-- Two counts add up to a third when the conditions do at every element. -/
theorem countP_add_countP {p q r : α → Bool}
    (h : ∀ x, (if p x then 1 else 0) + (if q x then 1 else 0) = if r x then 1 else 0)
    (l : List α) : l.countP p + l.countP q = l.countP r := by
  induction l with
  | nil => rfl
  | cons x xs ih =>
    have hx := h x
    rw [countP_cons, countP_cons, countP_cons]
    omega

/-- Removing the first match takes one match out of a count. -/
theorem countP_eraseP {p q : α → Bool} {l : List α} (h : ∃ x ∈ l, p x) :
    ∃ x ∈ l, p x ∧ (l.eraseP p).countP q + (if q x then 1 else 0) = l.countP q := by
  obtain ⟨x, hx, hpx⟩ := h
  obtain ⟨y, l₁, l₂, _, hy, rfl, heq⟩ := exists_of_eraseP hx hpx
  refine ⟨y, by simp, hy, ?_⟩
  rw [heq, countP_append, countP_append, countP_cons]
  omega

/-- Under distinct keys, removing the first match among the elements of one key is filtering. -/
theorem eraseP_eq_filter {p : α → Bool} {k : κ} {l : List α} (hl : (l.map key).Nodup)
    (hp : ∀ x, p x → key x = k) : l.eraseP p = l.filter fun x => !p x := by
  induction l with
  | nil => rfl
  | cons x xs ih =>
    rw [map_cons, nodup_cons] at hl
    by_cases hx : p x
    · rw [eraseP_cons_of_pos hx, filter_cons_of_neg (by simpa using hx)]
      refine (filter_eq_self.mpr fun y hy => ?_).symm
      have hne : key y ≠ key x := fun h => hl.1 (h ▸ mem_map_of_mem hy)
      cases hpy : p y with
      | false => rfl
      | true => exact absurd ((hp y hpy).trans (hp x hx).symm) hne
    · rw [eraseP_cons_of_neg hx, filter_cons_of_pos (by simpa using hx), ih hl.2]

end List
