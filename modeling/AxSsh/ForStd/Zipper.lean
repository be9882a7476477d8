import Mathlib.Data.List.Chain

/-!
# Bounded browsing histories

A place in a history with what lies behind and before it, newest last.  A history remembers
at most `limit` places and never the same place twice in a row.

## Key results
- `Zipper.Good.visit`, `Zipper.Good.goBack`, `Zipper.Good.goForward`: moves keep a history good
- `Zipper.Good.goForward_goBack`: going back and then forward changes nothing
-/

universe u

variable {α : Type u} [DecidableEq α]

/-- Add the newest place to a history that keeps at most `limit`. -/
def remember (limit : Nat) (history : List α) (x : α) : List α :=
  if history.getLast? = some x then history
  else if limit ≤ history.length then history.drop 1 ++ [x]
  else history ++ [x]

theorem getLast?_remember (limit : Nat) (history : List α) (x : α) :
    (remember limit history x).getLast? = some x := by
  simp only [remember]
  split
  · assumption
  · split <;> exact List.getLast?_concat

/-- A short history loses nothing. -/
theorem remember_of_lt {limit : Nat} {history : List α} {x : α}
    (hne : history.getLast? ≠ some x) (hlt : history.length < limit) :
    remember limit history x = history ++ [x] := by
  rw [remember, if_neg hne, if_neg (by omega)]

theorem length_remember_le (limit : Nat) (history : List α) (x : α) :
    (remember limit history x).length ≤ history.length + 1 := by
  simp only [remember]
  split
  · omega
  · split <;> simp only [List.length_append, List.length_drop, List.length_singleton] <;> omega

theorem length_remember_le_limit {limit : Nat} {history : List α} (x : α) (hpos : 0 < limit)
    (h : history.length ≤ limit) : (remember limit history x).length ≤ limit := by
  simp only [remember]
  split
  · exact h
  · split <;> simp only [List.length_append, List.length_drop, List.length_singleton] <;> omega

theorem isChain_remember {limit : Nat} {history : List α} (x : α)
    (h : history.IsChain (· ≠ ·)) : (remember limit history x).IsChain (· ≠ ·) := by
  simp only [remember]
  split
  · exact h
  · rename_i hne
    have hnew : ∀ l : List α, (∀ y, l.getLast? = some y → history.getLast? = some y) →
        l.IsChain (· ≠ ·) → (l ++ [x]).IsChain (· ≠ ·) := by
      intro l hlast hl
      refine List.isChain_append.mpr ⟨hl, List.isChain_singleton x, fun y hy z hz => ?_⟩
      cases hz
      rintro rfl
      exact hne (hlast y hy)
    split
    · refine hnew _ (fun y hy => ?_) (h.drop 1)
      rw [List.getLast?_drop] at hy
      split at hy
      · exact nomatch hy
      · exact hy
    · exact hnew history (fun y hy => hy) h

structure Zipper (α : Type u) where
  back : List α
  here : α
  forward : List α
deriving DecidableEq

namespace Zipper

/-- Go to a new place: what lay before is gone. -/
def visit (limit : Nat) (z : Zipper α) (x : α) : Zipper α :=
  if z.here = x then z else ⟨remember limit z.back z.here, x, []⟩

def goBack (limit : Nat) (z : Zipper α) : Zipper α :=
  match z.back.getLast? with
  | none => z
  | some x => ⟨z.back.dropLast, x, remember limit z.forward z.here⟩

def goForward (limit : Nat) (z : Zipper α) : Zipper α :=
  match z.forward.getLast? with
  | none => z
  | some x => ⟨remember limit z.back z.here, x, z.forward.dropLast⟩

/-- No place is next to itself, and the places behind and before are within the limit. -/
structure Good (limit : Nat) (z : Zipper α) : Prop where
  back : z.back.IsChain (· ≠ ·)
  forward : z.forward.IsChain (· ≠ ·)
  back_here : z.back.getLast? ≠ some z.here
  forward_here : z.forward.getLast? ≠ some z.here
  size : z.back.length + z.forward.length ≤ limit

omit [DecidableEq α] in
theorem good_new (limit : Nat) (x : α) : Good limit ⟨[], x, []⟩ where
  back := .nil
  forward := .nil
  back_here h := nomatch h
  forward_here h := nomatch h
  size := Nat.zero_le limit

variable {limit : Nat} {z : Zipper α}

theorem Good.visit (h : z.Good limit) (hpos : 0 < limit) (x : α) : (z.visit limit x).Good limit := by
  simp only [Zipper.visit]
  split
  · exact h
  · rename_i hne
    have hsize := h.size
    constructor
    · exact isChain_remember z.here h.back
    · exact .nil
    · show (remember limit z.back z.here).getLast? ≠ some x
      rw [getLast?_remember]
      exact fun he => hne (Option.some.inj he)
    · exact fun he => nomatch he
    · exact length_remember_le_limit z.here hpos (by omega)

omit [DecidableEq α] in
/-- The last two places of a history differ. -/
theorem getLast?_ne_of_isChain {history : List α} {x : α} (h : (history ++ [x]).IsChain (· ≠ ·)) :
    history.getLast? ≠ some x := by
  intro hlast
  exact (List.isChain_append.mp h).2.2 x hlast x rfl rfl

theorem Good.goBack (h : z.Good limit) : (z.goBack limit).Good limit := by
  simp only [Zipper.goBack]
  split
  · exact h
  · rename_i x hlast
    obtain ⟨history, hback⟩ := List.getLast?_eq_some_iff.mp hlast
    have hchain := h.back
    have hsize := h.size
    have hlength := length_remember_le limit z.forward z.here
    have hhere := h.back_here
    rw [hback] at hchain hsize
    rw [List.length_append, List.length_singleton] at hsize
    rw [hback, List.dropLast_concat]
    constructor
    · exact hchain.left_of_append
    · exact isChain_remember z.here h.forward
    · exact getLast?_ne_of_isChain hchain
    · show (remember limit z.forward z.here).getLast? ≠ some x
      rw [getLast?_remember, ← hlast]
      exact hhere.symm
    · show history.length + (remember limit z.forward z.here).length ≤ limit
      omega

theorem Good.goForward (h : z.Good limit) : (z.goForward limit).Good limit := by
  simp only [Zipper.goForward]
  split
  · exact h
  · rename_i x hlast
    obtain ⟨history, hforward⟩ := List.getLast?_eq_some_iff.mp hlast
    have hchain := h.forward
    have hsize := h.size
    have hlength := length_remember_le limit z.back z.here
    have hhere := h.forward_here
    rw [hforward] at hchain hsize
    rw [List.length_append, List.length_singleton] at hsize
    rw [hforward, List.dropLast_concat]
    constructor
    · exact isChain_remember z.here h.back
    · exact hchain.left_of_append
    · show (remember limit z.back z.here).getLast? ≠ some x
      rw [getLast?_remember, ← hlast]
      exact hhere.symm
    · exact getLast?_ne_of_isChain hchain
    · show (remember limit z.back z.here).length + history.length ≤ limit
      omega

/-- Going back and then forward changes nothing. -/
theorem Good.goForward_goBack (h : z.Good limit) (hback : z.back ≠ []) :
    (z.goBack limit).goForward limit = z := by
  obtain ⟨history, x, hsplit⟩ := List.eq_nil_or_concat z.back |>.resolve_left hback
  have hlast : z.back.getLast? = some x := by rw [hsplit, List.concat_eq_append, List.getLast?_concat]
  have hchain := h.back
  have hsize := h.size
  rw [hsplit, List.concat_eq_append] at hchain hsize
  rw [List.length_append, List.length_singleton] at hsize
  have hforward : remember limit z.forward z.here = z.forward ++ [z.here] :=
    remember_of_lt h.forward_here (by omega)
  have hgone : remember limit history x = history ++ [x] :=
    remember_of_lt (getLast?_ne_of_isChain hchain) (by omega)
  have hdrop : z.back.dropLast = history := by
    rw [hsplit, List.concat_eq_append, List.dropLast_concat]
  have hmoved : z.goBack limit = ⟨history, x, z.forward ++ [z.here]⟩ := by
    rw [Zipper.goBack, hlast]
    simp only [hdrop, hforward]
  rw [hmoved, Zipper.goForward]
  simp only [List.getLast?_concat, List.dropLast_concat, hgone]
  rw [← List.concat_eq_append, ← hsplit]

end Zipper
