import Mathlib.Logic.Basic

/-!
# Partial matchings

Links between pairs: `link a = some b` says that `a` is linked to `b`.  In a matching every
link is returned, and the two ends stand in a relation.

## Key results
- `Matching.cut`: giving up one end gives up the link
- `Matching.join`: two free ends can be linked
-/

universe u

variable {α : Type u}

/-- Every link is returned and joins elements that `R` relates. -/
def Matching (R : α → α → Prop) (link : α → Option α) : Prop :=
  ∀ a b, link a = some b → link b = some a ∧ R a b

namespace Matching

variable [DecidableEq α] {R : α → α → Prop} {link : α → Option α}

/-- The links without those of `x`. -/
def without (link : α → Option α) (x a : α) : Option α :=
  if a = x ∨ link a = some x then none else link a

/-- The links with `x` and `y` joined. -/
def joined (link : α → Option α) (x y a : α) : Option α :=
  if a = x then some y else if a = y then some x else link a

omit [DecidableEq α] in
/-- What is left is a matching for whatever relation its links have. -/
theorem mono {S : α → α → Prop} (h : Matching R link)
    (hRS : ∀ a b, link a = some b → R a b → S a b) : Matching S link :=
  fun a b hab => ⟨(h a b hab).1, hRS a b hab (h a b hab).2⟩

/-- Giving up one end gives up the link. -/
theorem cut (h : Matching R link) (x : α) : Matching R (without link x) := by
  intro a b hab
  simp only [without] at hab ⊢
  split at hab
  · exact nomatch hab
  · rename_i hfree
    obtain ⟨hback, hR⟩ := h a b hab
    refine ⟨?_, hR⟩
    rw [if_neg, hback]
    rintro (rfl | hb)
    · exact hfree (.inr hab)
    · exact hfree (.inl (Option.some.inj (hback.symm.trans hb)))

/-- Two free ends can be linked. -/
theorem join (h : Matching R link) {x y : α} (hx : link x = none) (hy : link y = none)
    (hxy : R x y) (hyx : R y x) : Matching R (joined link x y) := by
  intro a b hab
  simp only [joined] at hab ⊢
  by_cases hax : a = x
  · subst hax
    rw [if_pos rfl] at hab
    cases hab
    refine ⟨?_, hxy⟩
    split
    · rename_i he
      rw [he]
    · exact if_pos rfl
  · rw [if_neg hax] at hab
    by_cases hay : a = y
    · subst hay
      rw [if_pos rfl] at hab
      cases hab
      exact ⟨if_pos rfl, hyx⟩
    · rw [if_neg hay] at hab
      obtain ⟨hback, hR⟩ := h a b hab
      refine ⟨?_, hR⟩
      rw [if_neg, if_neg, hback]
      · rintro rfl
        exact nomatch hback.symm.trans hy
      · rintro rfl
        exact nomatch hback.symm.trans hx

end Matching
