import Mathlib.Tactic.Common

/-!
# Segments of an interval

Segments that lie one after the other between two points.  What lies between two of them is a gap,
point by point, so a scan that emits a segment or moves on by a point only has to say which of
the two it does.

## Key results
- `Fill.skips`: several gaps at once
- `Fill.mem`: every segment lies between the two points
- `Fill.pairwise`: the segments are disjoint and in order
- `Fill.covered`: a point between the two is a gap or in a segment
-/

universe u

namespace Segments

variable {R : Type u} {start length : R → Nat} {gap : Nat → Prop} {good : R → Prop}

/-- The segments of a list fill the points from one to another, but for gaps. -/
inductive Fill (start length : R → Nat) (gap : Nat → Prop) (good : R → Prop) :
    Nat → Nat → List R → Prop
  | nil (n : Nat) : Fill start length gap good n n []
  | skip {a n : Nat} {rs : List R} :
      gap a → Fill start length gap good (a + 1) n rs → Fill start length gap good a n rs
  | cons {a n : Nat} {r : R} {rs : List R} :
      start r = a → 0 < length r → good r →
      Fill start length gap good (a + length r) n rs → Fill start length gap good a n (r :: rs)

variable {a b n i : Nat} {r : R} {rs : List R}

theorem Fill.le (h : Fill start length gap good a n rs) : a ≤ n := by
  induction h with
  | nil n => exact Nat.le_refl n
  | skip _ _ ih => omega
  | cons _ _ _ _ ih => omega

/-- A stretch of gaps. -/
theorem Fill.skips (hab : a ≤ b) (hgap : ∀ i, a ≤ i → i < b → gap i)
    (h : Fill start length gap good b n rs) : Fill start length gap good a n rs := by
  obtain ⟨k, rfl⟩ := Nat.exists_eq_add_of_le hab
  induction k generalizing a with
  | zero => exact h
  | succ k ih =>
    have hrest : Fill start length gap good (a + 1 + k) n rs := by
      rwa [show a + 1 + k = a + (k + 1) by omega]
    exact .skip (hgap a (Nat.le_refl a) (by omega))
      (ih (by omega) (fun i hi hib => hgap i (by omega) (by omega)) hrest)

/-- A segment lies between the two points. -/
theorem Fill.mem (h : Fill start length gap good a n rs) (hr : r ∈ rs) :
    a ≤ start r ∧ 0 < length r ∧ start r + length r ≤ n ∧ good r := by
  induction h with
  | nil n => exact absurd hr List.not_mem_nil
  | skip _ _ ih =>
    obtain ⟨hle, hrest⟩ := ih hr
    exact ⟨by omega, hrest⟩
  | cons hstart hpos hgood hfill ih =>
    rcases List.mem_cons.mp hr with rfl | hr
    · have hle := hfill.le
      exact ⟨by omega, hpos, by omega, hgood⟩
    · obtain ⟨hle, hrest⟩ := ih hr
      exact ⟨by omega, hrest⟩

/-- The segments do not overlap and are in order. -/
theorem Fill.pairwise (h : Fill start length gap good a n rs) :
    rs.Pairwise fun r r' => start r + length r ≤ start r' := by
  induction h with
  | nil n => exact .nil
  | skip _ _ ih => exact ih
  | cons hstart _ _ hfill ih =>
    refine .cons (fun r' hr' => ?_) ih
    have hle := (hfill.mem hr').1
    omega

/-- Between the two points there are only gaps and segments. -/
theorem Fill.covered (h : Fill start length gap good a n rs) (hai : a ≤ i) (hin : i < n) :
    gap i ∨ ∃ r ∈ rs, start r ≤ i ∧ i < start r + length r := by
  induction h with
  | nil n => omega
  | @skip a n rs hgap _ ih =>
    rcases Nat.eq_or_lt_of_le hai with rfl | hlt
    · exact .inl hgap
    · exact ih hlt hin
  | @cons a n r rs hstart _ _ _ ih =>
    by_cases hi : i < a + length r
    · exact .inr ⟨r, List.mem_cons_self .., by omega, by omega⟩
    · refine (ih (by omega) hin).imp_right ?_
      rintro ⟨r', hr', hle⟩
      exact ⟨r', List.mem_cons_of_mem _ hr', hle⟩

end Segments
