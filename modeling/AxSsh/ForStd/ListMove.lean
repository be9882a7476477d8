import AxSsh.ForStd.KeyedList
import Mathlib.Data.List.InsertIdx

/-!
# Moving an element past the visible ones

A filter shows some elements of a list.  An element that is put back next to a visible one, at the
place of that one in the whole list, has its place among the visible ones; an element that is not
shown leaves what is shown as it is.

## Key results
- `filter_insertIdx_findIdx`: in front of a visible element, or after it
- `filter_mem_of_sublist`: a list of distinct elements shows a sublist as it is
-/

namespace List

universe u v

variable {α : Type u} {κ : Type v} {p : α → Bool}

theorem insertIdx_length_append (l₁ l₂ : List α) (x : α) :
    (l₁ ++ l₂).insertIdx l₁.length x = l₁ ++ x :: l₂ := by
  induction l₁ with
  | nil => rfl
  | cons a l₁ ih =>
    rw [cons_append, length_cons, insertIdx_succ_cons, ih, cons_append]

theorem filter_insertIdx_of_neg {x : α} (hx : p x = false) (i : Nat) (l : List α) :
    (l.insertIdx i x).filter p = l.filter p := by
  induction l generalizing i with
  | nil => cases i <;> simp [hx]
  | cons a l ih =>
    cases i with
    | zero => rw [insertIdx_zero, filter_cons_of_neg (by simp [hx])]
    | succ i => rw [insertIdx_succ_cons, filter_cons, filter_cons, ih]

theorem filter_eraseIdx_of_neg {l : List α} {i : Nat} {x : α} (hx : p x = false)
    (hi : l[i]? = some x) : (l.eraseIdx i).filter p = l.filter p := by
  obtain ⟨hlt, rfl⟩ := getElem?_eq_some_iff.mp hi
  have hback := filter_insertIdx_of_neg hx i (l.eraseIdx i)
  rw [insertIdx_eraseIdx_getElem hlt] at hback
  exact hback.symm

theorem filter_mem_of_sublist [DecidableEq α] {l visible : List α} (h : visible <+ l)
    (hl : l.Nodup) : l.filter (fun a => decide (a ∈ visible)) = visible := by
  have hsub := h.filter fun a => decide (a ∈ visible)
  rw [filter_eq_self.mpr (fun a ha => decide_eq_true ha)] at hsub
  refine (hsub.eq_of_length_le ?_).symm
  refine ((subperm_of_subset (hl.filter _) ?_).length_le)
  intro a ha
  exact of_decide_eq_true (mem_filter.mp ha).2

variable [DecidableEq κ] {key : α → κ}

theorem exists_of_findIdx?_key {k : κ} {l : List α} {j : Nat}
    (hj : l.findIdx? (fun a => key a == k) = some j) :
    ∃ l₁ y l₂, l = l₁ ++ y :: l₂ ∧ l₁.length = j ∧ key y = k := by
  obtain ⟨hlt, hkey, -⟩ := findIdx?_eq_some_iff_getElem.mp hj
  refine ⟨l.take j, l[j], l.drop (j + 1), ?_, ?_, by simpa using hkey⟩
  · rw [getElem_cons_drop, take_append_drop]
  · rw [length_take]
    omega

/-- Under distinct keys, what is put in front of the element of key `k`, or after it, is there
    among the visible elements too. -/
theorem filter_insertIdx_findIdx {l : List α} {k : κ} {i j : Nat} {x : α}
    (hkeys : (l.map key).Nodup) (hx : p x = true)
    (hj : l.findIdx? (fun a => key a == k) = some j)
    (hi : ((l.filter p).map key)[i]? = some k) :
    (l.insertIdx j x).filter p = (l.filter p).insertIdx i x ∧
      (l.insertIdx (j + 1) x).filter p = (l.filter p).insertIdx (i + 1) x := by
  obtain ⟨l₁, y, l₂, rfl, rfl, rfl⟩ := exists_of_findIdx?_key hj
  -- the visible element of this key is `y` itself
  have hy : p y = true := by
    obtain ⟨z, hz, hkey⟩ := mem_map.mp (mem_of_getElem? hi)
    obtain ⟨hmem, hpz⟩ := mem_filter.mp hz
    rwa [← inj_on_of_nodup_map hkeys hmem (by simp) hkey]
  have hfilter : (l₁ ++ y :: l₂).filter p = l₁.filter p ++ y :: l₂.filter p := by
    rw [filter_append, filter_cons_of_pos hy]
  have hvisible : ((l₁.filter p ++ y :: l₂.filter p).map key).Nodup := by
    rw [← hfilter]
    exact hkeys.sublist (filter_sublist.map key)
  -- so its place among the visible ones is after those of `l₁`
  have hplace : i = (l₁.filter p).length := by
    rw [hfilter] at hi
    obtain ⟨hlt, hget⟩ := getElem?_eq_some_iff.mp hi
    have hlt' : (l₁.filter p).length < ((l₁.filter p ++ y :: l₂.filter p).map key).length := by
      simp
    have hget' : ((l₁.filter p ++ y :: l₂.filter p).map key)[(l₁.filter p).length] = key y := by
      simp
    exact hvisible.getElem_inj_iff.mp (hget.trans hget'.symm)
  rw [hfilter, hplace]
  constructor
  · rw [insertIdx_length_append, insertIdx_length_append, filter_append, filter_cons_of_pos hx,
      filter_cons_of_pos hy]
  · have hafter (a b : List α) : (a ++ y :: b).insertIdx (a.length + 1) x = a ++ y :: x :: b := by
      have hone := insertIdx_length_append (a ++ [y]) b x
      rw [length_append, length_singleton, append_assoc, append_assoc] at hone
      exact hone
    rw [hafter, hafter, filter_append, filter_cons_of_pos hy, filter_cons_of_pos hx]

end List
