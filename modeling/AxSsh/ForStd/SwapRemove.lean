import Mathlib.Data.List.Perm.Basic

/-!
# `swap_remove`

`Vec::swap_remove` takes an element out of a vector and puts the last one in its place.
What is left is a permutation of the other elements, which is all a program can rely on
that uses it; this file states that once, for one removal and for the loop that removes
every element of a kind.

## Key results
- `swapRemoveFirst_perm`: one removal is an `eraseP` up to order
- `swapRemoveAll_perm`: the loop splits the vector
-/

namespace List

universe u

variable {α : Type u}

/-- Put the last element in front of the others. -/
def lastToFront (l : List α) : List α :=
  match l.getLast? with
  | some x => x :: l.dropLast
  | none => []

/-- `swap_remove` at the first element that satisfies `p`. -/
def swapRemoveFirst (p : α → Bool) : List α → List α
  | [] => []
  | x :: xs => if p x then lastToFront xs else x :: swapRemoveFirst p xs

/-- The loop that walks a vector and calls `swap_remove` at each element that satisfies
    `p`, without moving on: what it keeps, and what it removes in order.  `fuel` bounds the
    number of elements it looks at. -/
def swapRemoveAll (p : α → Bool) : Nat → List α → List α × List α
  | 0, l => (l, [])
  | _ + 1, [] => ([], [])
  | fuel + 1, x :: xs =>
    if p x then
      let (kept, removed) := swapRemoveAll p fuel (lastToFront xs)
      (kept, x :: removed)
    else
      let (kept, removed) := swapRemoveAll p fuel xs
      (x :: kept, removed)

theorem lastToFront_perm (l : List α) : (lastToFront l).Perm l := by
  unfold lastToFront
  split
  · rename_i x h
    obtain ⟨init, rfl⟩ := getLast?_eq_some_iff.mp h
    rw [dropLast_concat]
    show ([x] ++ init).Perm (init ++ [x])
    exact perm_append_comm
  · rename_i h
    rw [getLast?_eq_none_iff.mp h]

/-- One removal is an `eraseP` up to order. -/
theorem swapRemoveFirst_perm (p : α → Bool) (l : List α) :
    (swapRemoveFirst p l).Perm (l.eraseP p) := by
  induction l with
  | nil => exact .nil
  | cons x xs ih =>
    unfold swapRemoveFirst
    by_cases h : p x
    · rw [if_pos h, eraseP_cons_of_pos h]
      exact lastToFront_perm xs
    · rw [if_neg h, eraseP_cons_of_neg h]
      exact ih.cons x

/-- Given enough fuel, the loop keeps the elements that do not satisfy `p`, and removes the
    others. -/
theorem swapRemoveAll_perm (p : α → Bool) (fuel : Nat) (l : List α) (h : l.length ≤ fuel) :
    (swapRemoveAll p fuel l).1.Perm (l.filter fun x => !p x) ∧
      (swapRemoveAll p fuel l).2.Perm (l.filter p) := by
  induction fuel generalizing l with
  | zero =>
    have hnil : l = [] := length_eq_zero_iff.mp (by omega)
    subst hnil
    exact ⟨.nil, .nil⟩
  | succ fuel ih =>
    cases l with
    | nil => exact ⟨.nil, .nil⟩
    | cons x xs =>
      have hlen : xs.length ≤ fuel := by simpa using h
      unfold swapRemoveAll
      by_cases hx : p x
      · have hperm := lastToFront_perm xs
        obtain ⟨hkept, hremoved⟩ := ih (lastToFront xs) (by rw [hperm.length_eq]; exact hlen)
        rw [if_pos hx, filter_cons_of_neg (by simp [hx]), filter_cons_of_pos hx]
        exact ⟨hkept.trans (hperm.filter _), (hremoved.trans (hperm.filter _)).cons x⟩
      · obtain ⟨hkept, hremoved⟩ := ih xs hlen
        rw [if_neg hx, filter_cons_of_pos (by simpa using hx), filter_cons_of_neg hx]
        exact ⟨hkept.cons x, hremoved⟩

end List
