import Mathlib.Data.List.Basic

/-!
# Dropping until a goal is met

Elements are dropped one after the other, each changing a state, until the state meets a goal; an
element may refuse to be dropped, and then the next one is tried.

## Key results
- `met_or_all`: in the end the goal is met, or everything that can be dropped is
- `not_met_of_isPrefix`: no fewer would have done
- `exists_take`: what is dropped comes first
-/

universe u v

namespace Greedy

variable {α : Type u} {σ : Type v} (met : σ → Bool) (refuses : α → Bool) (drop : σ → α → σ)

/-- What is dropped of a list, in order. -/
def dropped : List α → σ → List α
  | [], _ => []
  | a :: l, s =>
    if met s then []
    else if refuses a then dropped l s
    else a :: dropped l (drop s a)

variable {met refuses drop}

theorem met_or_all (l : List α) (s : σ) :
    met ((dropped met refuses drop l s).foldl drop s) = true ∨
      dropped met refuses drop l s = l.filter (!refuses ·) := by
  induction l generalizing s with
  | nil => exact .inr rfl
  | cons a l ih =>
    rw [dropped]
    split
    · rename_i hmet
      exact .inl hmet
    · split
      · rename_i hrefuses
        rw [List.filter_cons_of_neg (by simp [hrefuses])]
        exact ih s
      · rename_i hrefuses
        rw [List.filter_cons_of_pos (by simp [hrefuses]), List.foldl_cons]
        exact (ih (drop s a)).imp_right (congrArg (a :: ·))

theorem not_met_of_isPrefix {l p : List α} {s : σ} (hp : p <+: dropped met refuses drop l s)
    (hne : p ≠ dropped met refuses drop l s) : met (p.foldl drop s) = false := by
  induction l generalizing s p with
  | nil => exact absurd (List.prefix_nil.mp hp) hne
  | cons a l ih =>
    rw [dropped] at hp hne
    split at hp
    · rename_i hmet
      rw [if_pos hmet] at hne
      exact absurd (List.prefix_nil.mp hp) hne
    · rename_i hmet
      rw [if_neg hmet] at hne
      split at hp
      · rename_i hrefuses
        rw [if_pos hrefuses] at hne
        exact ih hp hne
      · rename_i hrefuses
        rw [if_neg hrefuses] at hne
        cases p with
        | nil => simpa using hmet
        | cons b p =>
          obtain ⟨rfl, hp⟩ := List.cons_prefix_cons.mp hp
          rw [List.foldl_cons]
          exact ih hp fun heq => hne (congrArg (b :: ·) heq)

/-- What is dropped is what can be dropped of a first part. -/
theorem exists_take (l : List α) (s : σ) :
    ∃ n, dropped met refuses drop l s = (l.take n).filter (!refuses ·) := by
  induction l generalizing s with
  | nil => exact ⟨0, rfl⟩
  | cons a l ih =>
    rw [dropped]
    split
    · exact ⟨0, rfl⟩
    · split
      · rename_i hrefuses
        obtain ⟨n, hn⟩ := ih s
        refine ⟨n + 1, ?_⟩
        rw [List.take_succ_cons, List.filter_cons_of_neg (by simp [hrefuses]), hn]
      · rename_i hrefuses
        obtain ⟨n, hn⟩ := ih (drop s a)
        refine ⟨n + 1, ?_⟩
        rw [List.take_succ_cons, List.filter_cons_of_pos (by simp [hrefuses]), hn]

end Greedy
