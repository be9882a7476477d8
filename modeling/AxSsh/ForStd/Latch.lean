import Mathlib.Data.List.Induction
import Mathlib.Tactic.Common

/-!
# Latches

A flag that some events set and others clear.  Whether it is set after a sequence of events is
decided by the last event of either kind.

## Key results
- `latch_append_singleton`: the flag after one more event
- `latch_iff`: the flag is set iff an event set it and no event since set or cleared it
- `latch_exclusive`: of two flags whose setting clears the other at most one is set
- `last_split_unique`: a sequence has one last event of a kind
-/

universe u

namespace Latch

variable {A : Type u} (sets clears : A → Prop) [DecidablePred sets] [DecidablePred clears]

/-- The flag after an event. -/
def step (flag : Bool) (a : A) : Bool := if sets a then true else if clears a then false else flag

/-- The flag after a sequence of events. -/
def latch (events : List A) : Bool := events.foldl (step sets clears) false

@[simp] theorem latch_nil : latch sets clears [] = false := rfl

@[simp] theorem latch_append_singleton (events : List A) (a : A) :
    latch sets clears (events ++ [a]) = step sets clears (latch sets clears events) a := by
  simp [latch]

/-- The last event that set the flag, with no event after it that sets or clears. -/
theorem latch_iff {events : List A} :
    latch sets clears events = true ↔ ∃ before a after, events = before ++ a :: after ∧ sets a ∧
      ∀ b ∈ after, ¬sets b ∧ ¬clears b := by
  induction events using List.reverseRecOn with
  | nil =>
    refine iff_of_false Bool.false_ne_true ?_
    rintro ⟨before, a, after, heq, -⟩
    simp at heq
  | append_singleton events last ih =>
    rw [latch_append_singleton, step]
    split
    · rename_i hsets
      exact iff_of_true rfl ⟨events, last, [], rfl, hsets, nofun⟩
    · rename_i hsets
      -- neither does the last event set the flag, so the one that did is before it
      have hbefore : (∃ before a after, events ++ [last] = before ++ a :: after ∧ sets a ∧
          ∀ b ∈ after, ¬sets b ∧ ¬clears b) ↔
          ¬clears last ∧ ∃ before a after, events = before ++ a :: after ∧ sets a ∧
            ∀ b ∈ after, ¬sets b ∧ ¬clears b := by
        constructor
        · rintro ⟨before, a, after, heq, ha, hafter⟩
          rcases List.eq_nil_or_concat after with rfl | ⟨after, b, rfl⟩
          · obtain ⟨-, hlast⟩ := List.append_inj' heq rfl
            obtain rfl := List.singleton_inj.mp hlast
            exact absurd ha hsets
          · rw [List.concat_eq_append] at heq hafter
            rw [← List.cons_append, ← List.append_assoc] at heq
            obtain ⟨rfl, hlast⟩ := List.append_inj' heq rfl
            obtain rfl := List.singleton_inj.mp hlast
            exact ⟨(hafter last (by simp)).2, before, a, after, rfl, ha,
              fun c hc => hafter c (List.mem_append_left _ hc)⟩
        · rintro ⟨hlast, before, a, after, rfl, ha, hafter⟩
          refine ⟨before, a, after ++ [last], by simp, ha, fun b hb => ?_⟩
          rcases List.mem_append.mp hb with hb | hb
          · exact hafter b hb
          · rw [List.mem_singleton.mp hb]
            exact ⟨hsets, hlast⟩
      rw [hbefore, ← ih]
      split
      · rename_i hclears
        simp [hclears]
      · rename_i hclears
        simp [hclears]

/-- A flag that one event sets is set iff that event is there with no clearing event after its
last occurrence. -/
theorem latch_eq_iff [DecidableEq A] {a : A} {events : List A} :
    latch (· = a) clears events = true ↔ ∃ before after, events = before ++ a :: after ∧
      ∀ b ∈ after, b ≠ a ∧ ¬clears b := by
  rw [latch_iff]
  constructor
  · rintro ⟨before, _, after, rfl, rfl, hafter⟩
    exact ⟨before, after, rfl, hafter⟩
  · rintro ⟨before, after, rfl, hafter⟩
    exact ⟨before, a, after, rfl, rfl, hafter⟩

/-- Of two flags at most one is set when whatever sets the one clears the other. -/
theorem latch_exclusive {sets' clears' : A → Prop} [DecidablePred sets'] [DecidablePred clears']
    (hfirst : ∀ a, sets a → ¬sets' a ∧ clears' a) (hsecond : ∀ a, sets' a → ¬sets a ∧ clears a)
    (events : List A) : ¬(latch sets clears events = true ∧ latch sets' clears' events = true) := by
  induction events using List.reverseRecOn with
  | nil => simp
  | append_singleton events last ih =>
    simp only [latch_append_singleton, step]
    by_cases hsets : sets last
    · simp [hfirst last hsets]
    · by_cases hsets' : sets' last
      · simp [hsecond last hsets']
      · -- an event that sets neither flag leaves at most what was set
        simp only [hsets, hsets', if_false]
        rintro ⟨h, h'⟩
        exact ih ⟨by split at h <;> simp_all, by split at h' <;> simp_all⟩

omit [DecidablePred sets] in
/-- Two places of a sequence after which no event of a kind follows are the same place. -/
theorem last_split_unique {before before' after after' : List A} {a a' : A}
    (heq : before ++ a :: after = before' ++ a' :: after') (ha : sets a) (ha' : sets a')
    (hafter : ∀ b ∈ after, ¬sets b) (hafter' : ∀ b ∈ after', ¬sets b) : after = after' := by
  rcases List.append_eq_append_iff.mp heq with ⟨mid, hbefore, hcons⟩ | ⟨mid, hbefore, hcons⟩
  · cases mid with
    | nil => exact (List.cons.inj hcons).2
    | cons b mid =>
      obtain ⟨-, rfl⟩ := List.cons.inj hcons
      exact absurd ha' (hafter a' (by simp))
  · cases mid with
    | nil => exact (List.cons.inj hcons).2.symm
    | cons b mid =>
      obtain ⟨-, rfl⟩ := List.cons.inj hcons
      exact absurd ha (hafter' a (by simp))

end Latch
