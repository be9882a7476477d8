import Mathlib.Data.List.Nodup

/-!
# The first of every key

A list is gone through from the front, and an element is kept unless one with its key was kept
before it.

## Key results
- `nodup_collect`: no two elements that are kept share a key
- `collect_eq_self_iff`: everything is kept, in order, exactly where no two share a key
-/

universe u v

namespace FirstSeen

variable {α : Type u} {κ : Type v} [DecidableEq κ] (key : α → κ)

/-- One more element after those that were kept. -/
def push (kept : List α) (a : α) : List α :=
  if key a ∈ kept.map key then kept else kept ++ [a]

/-- What is kept of a list. -/
def collect (l : List α) : List α := l.foldl (push key) []

variable {key}

theorem nodup_push {kept : List α} (h : (kept.map key).Nodup) (a : α) :
    ((push key kept a).map key).Nodup := by
  unfold push
  split
  · exact h
  · rename_i hnew
    rw [List.map_append, List.map_singleton]
    exact List.nodup_append.mpr
      ⟨h, List.nodup_singleton _, fun x hx y hy hxy => hnew ((List.mem_singleton.mp hy) ▸ hxy ▸ hx)⟩

theorem nodup_foldl_push (l : List α) {kept : List α} (h : (kept.map key).Nodup) :
    ((l.foldl (push key) kept).map key).Nodup := by
  induction l generalizing kept with
  | nil => exact h
  | cons a l ih => exact ih (nodup_push h a)

theorem nodup_collect (l : List α) : ((collect key l).map key).Nodup :=
  nodup_foldl_push l List.nodup_nil

theorem mem_of_mem_foldl_push {l kept : List α} {a : α} (h : a ∈ l.foldl (push key) kept) :
    a ∈ kept ∨ a ∈ l := by
  induction l generalizing kept with
  | nil => exact .inl h
  | cons b l ih =>
    rcases ih h with hkept | hl
    · unfold push at hkept
      split at hkept
      · exact .inl hkept
      · rcases List.mem_append.mp hkept with hold | hnew
        · exact .inl hold
        · exact .inr (List.mem_singleton.mp hnew ▸ List.mem_cons_self)
    · exact .inr (List.mem_cons_of_mem b hl)

/-- Only elements of the list are kept. -/
theorem mem_of_mem_collect {l : List α} {a : α} (h : a ∈ collect key l) : a ∈ l :=
  (mem_of_mem_foldl_push h).resolve_left List.not_mem_nil

theorem mem_foldl_push_of_mem (l : List α) {kept : List α} {a : α} (h : a ∈ kept) :
    a ∈ l.foldl (push key) kept := by
  induction l generalizing kept with
  | nil => exact h
  | cons b l ih =>
    refine ih ?_
    unfold push
    split
    · exact h
    · exact List.mem_append_left [b] h

theorem collect_ne_nil {l : List α} (h : l ≠ []) : collect key l ≠ [] := by
  obtain ⟨a, l, rfl⟩ := List.exists_cons_of_ne_nil h
  exact List.ne_nil_of_mem (mem_foldl_push_of_mem l (List.mem_singleton_self a))

theorem foldl_push_of_nodup {l kept : List α} (h : ((kept ++ l).map key).Nodup) :
    l.foldl (push key) kept = kept ++ l := by
  induction l generalizing kept with
  | nil => exact (List.append_nil kept).symm
  | cons a l ih =>
    -- the element's key is before it nowhere
    have hnew : key a ∉ kept.map key := by
      rw [List.map_append, List.map_cons, List.nodup_append] at h
      exact fun hmem => h.2.2 _ hmem _ List.mem_cons_self rfl
    rw [List.append_cons] at h
    rw [List.foldl_cons, push, if_neg hnew, ih h, List.append_assoc, List.singleton_append]

theorem collect_eq_self_iff {l : List α} : collect key l = l ↔ (l.map key).Nodup := by
  constructor
  · intro h
    rw [← h]
    exact nodup_collect l
  · intro h
    exact foldl_push_of_nodup (by rwa [List.nil_append])

end FirstSeen
