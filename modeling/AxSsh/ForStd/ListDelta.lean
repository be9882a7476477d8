import Mathlib.Data.List.Basic

/-!
# Lists that differ at known positions

A small library for views that are kept up to date by deltas.  `AgreeOff D xs ys` says that
two lists have one length and differ at most at the positions in `D`; `patch D new old`
overwrites the positions in `D`.

## Key results
- `AgreeOff.patch_eq`: patching the positions that may differ makes the lists equal
- `AgreeOff.trans`: the positions of two changes in a row add up
- `AgreeOff.set`: overwriting one position is a change at that position
-/

universe u

namespace List

variable {α : Type u} {D E : List Nat} {xs ys zs : List α}

/-- The lists have one length and differ at most at the positions in `D`. -/
def AgreeOff (D : List Nat) (xs ys : List α) : Prop :=
  xs.length = ys.length ∧ ∀ i, i ∉ D → xs[i]? = ys[i]?

theorem AgreeOff.refl (D : List Nat) (xs : List α) : AgreeOff D xs xs :=
  ⟨rfl, fun _ _ => rfl⟩

theorem AgreeOff.mono (h : AgreeOff D xs ys) (hsub : ∀ i, i ∈ D → i ∈ E) : AgreeOff E xs ys :=
  ⟨h.1, fun i hi => h.2 i fun hmem => hi (hsub i hmem)⟩

/-- Two changes in a row change the positions of either. -/
theorem AgreeOff.trans (h : AgreeOff D xs ys) (h' : AgreeOff E ys zs) :
    AgreeOff (E ++ D) xs zs := by
  refine ⟨h.1.trans h'.1, fun i hi => ?_⟩
  rw [List.mem_append, not_or] at hi
  exact (h.2 i hi.2).trans (h'.2 i hi.1)

/-- Lists that differ nowhere are equal. -/
theorem AgreeOff.eq_of_nil (h : AgreeOff [] xs ys) : xs = ys :=
  List.ext_getElem? fun i => h.2 i (List.not_mem_nil)

/-- Overwriting a position changes the list at that position only. -/
theorem AgreeOff.set (xs : List α) (i : Nat) (x : α) : AgreeOff [i] xs (xs.set i x) := by
  refine ⟨by simp, fun j hj => ?_⟩
  have hne : i ≠ j := fun heq => hj (by simp [heq])
  rw [List.getElem?_set_ne hne]

/-! ## Patching -/

/-- Overwrite one position with what `new` has there. -/
def patchAt (new old : List α) (i : Nat) : List α :=
  match new[i]? with
  | some x => old.set i x
  | none => old

/-- Overwrite the positions in `D`, one after the other. -/
def patch (D : List Nat) (new old : List α) : List α := D.foldl (patchAt new) old

@[simp] theorem length_patchAt (new old : List α) (i : Nat) :
    (patchAt new old i).length = old.length := by
  unfold patchAt
  split <;> simp

/-- A position that was patched no longer differs. -/
theorem AgreeOff.patchAt {i : Nat} (h : AgreeOff (i :: D) xs ys) :
    AgreeOff D (List.patchAt ys xs i) ys := by
  refine ⟨by simpa using h.1, fun j hj => ?_⟩
  rcases eq_or_ne i j with rfl | hne
  · unfold List.patchAt
    cases hy : ys[i]? with
    | none =>
      have hlen : xs.length ≤ i := h.1 ▸ List.getElem?_eq_none_iff.mp hy
      simp [hlen]
    | some y =>
      have hlen : i < xs.length := h.1 ▸ (List.getElem?_eq_some_iff.mp hy).1
      simp [hlen]
  · have hold : (List.patchAt ys xs i)[j]? = xs[j]? := by
      unfold List.patchAt
      split
      · exact List.getElem?_set_ne hne
      · rfl
    rw [hold]
    exact h.2 j (by simp [hj, Ne.symm hne])

/-- Patching every position that may differ gives the new list. -/
theorem AgreeOff.patch_eq (h : AgreeOff D xs ys) : patch D ys xs = ys := by
  induction D generalizing xs with
  | nil => exact h.eq_of_nil
  | cons i D ih => exact ih h.patchAt

end List
