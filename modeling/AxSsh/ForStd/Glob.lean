import Mathlib.Data.List.Forall2

/-!
# Glob patterns

In a glob pattern one element, the star, stands for any part of a value, another one for any single
element, and every other element for itself.  `Glob.Splits` says so.

A matcher that looks for an equal element first takes a star of the value for the star of the
pattern that meets it, and for nothing more.  `Glob.Eager` is what it finds.  It finds no more than
there is.

## Key results
- `Eager.splits`: the two relations
- `exists_suffix_of_eager_append`: the last star is the only one to return to
-/

universe u

namespace Glob

variable {α : Type u} {star one : α}

/-- A value can be split so that each star stands for any part, each `one` for one element, and
    each other element for itself. -/
def Splits (star one : α) (pattern value : List α) : Prop :=
  ∃ parts, List.Forall₂ (fun a part => a = star ∨ (a = one ∧ part.length = 1) ∨ part = [a])
    pattern parts ∧ value = parts.flatten

/-- A value can be split so, and each star of the pattern that meets a star of the value stands for
    that one only. -/
inductive Eager (star one : α) : List α → List α → Prop
  | nil : Eager star one [] []
  | take {a b : α} {pattern value : List α} (hab : a = b ∨ a = one)
      (h : Eager star one pattern value) : Eager star one (a :: pattern) (b :: value)
  | star {pattern value rest : List α} (hhead : value.head? ≠ some star) (hrest : rest <:+ value)
      (h : Eager star one pattern rest) : Eager star one (star :: pattern) value

theorem Eager.splits {pattern value : List α} (h : Eager star one pattern value) :
    Splits star one pattern value := by
  induction h with
  | nil => exact ⟨[], .nil, rfl⟩
  | @take a b pattern value hab _ ih =>
    obtain ⟨parts, hparts, rfl⟩ := ih
    refine ⟨[b] :: parts, .cons ?_ hparts, rfl⟩
    exact .inr (hab.symm.imp (fun ha => ⟨ha, rfl⟩) fun hab => by rw [hab])
  | @star pattern value rest _ hrest _ ih =>
    obtain ⟨parts, hparts, rfl⟩ := ih
    obtain ⟨part, rfl⟩ := hrest
    exact ⟨part :: parts, .cons (.inl rfl) hparts, rfl⟩

/-! ## Inversion -/

theorem eager_nil_iff {value : List α} : Eager star one [] value ↔ value = [] := by
  constructor
  · intro h
    cases h
    rfl
  · rintro rfl
    exact .nil

theorem eager_take_iff (hone : one ≠ star) {a b : α} {pattern value : List α}
    (hab : a = b ∨ a = one) :
    Eager star one (a :: pattern) (b :: value) ↔ Eager star one pattern value := by
  constructor
  · intro h
    cases h with
    | take _ h => exact h
    | star hhead _ _ =>
      obtain rfl | ha := hab
      · exact absurd rfl hhead
      · exact absurd ha.symm hone
  · exact .take hab

theorem eager_star_iff {pattern value : List α} (hhead : value.head? ≠ some star)
    (hone : one ≠ star) :
    Eager star one (star :: pattern) value ↔
      ∃ rest, rest <:+ value ∧ Eager star one pattern rest := by
  constructor
  · intro h
    cases h with
    | take hab _ =>
      obtain rfl | ha := hab
      · exact absurd rfl hhead
      · exact absurd ha.symm hone
    | star _ hrest h => exact ⟨_, hrest, h⟩
  · rintro ⟨rest, hrest, h⟩
    exact .star hhead hrest h

/-- An element that is neither a star nor what it meets matches nothing. -/
theorem not_eager_cons {a b : α} {pattern value : List α} (hab : ¬(a = b ∨ a = one))
    (ha : a ≠ star) : ¬Eager star one (a :: pattern) (b :: value) := by
  intro h
  cases h with
  | take h _ => exact hab h
  | star _ _ _ => exact ha rfl

theorem eager_empty_iff {pattern : List α} :
    Eager star one pattern [] ↔ ∀ a ∈ pattern, a = star := by
  induction pattern with
  | nil => simp [eager_nil_iff]
  | cons a pattern ih =>
    rw [List.forall_mem_cons, ← ih]
    constructor
    · intro h
      cases h with
      | star _ hrest h => exact ⟨rfl, List.suffix_nil.mp hrest ▸ h⟩
    · rintro ⟨rfl, h⟩
      exact .star nofun List.suffix_rfl h

/-! ## The last star -/

/-- The elements that a matcher has taken since the last star. -/
abbrev Taken (one : α) : List α → List α → Prop := List.Forall₂ fun a b => a = b ∨ a = one

theorem eager_append_iff (hone : one ≠ star) {literal taken pattern value : List α}
    (htaken : Taken one literal taken) :
    Eager star one (literal ++ pattern) (taken ++ value) ↔ Eager star one pattern value := by
  induction htaken with
  | nil => rfl
  | cons hab _ ih => rw [List.cons_append, List.cons_append, eager_take_iff hone hab, ih]

/-- However an end of the value matches, `pattern` begins in it no earlier than it does behind the
    elements taken. -/
theorem exists_suffix_of_eager_append {literal taken pattern value rest : List α}
    (hone : one ≠ star) (htaken : Taken one literal taken) (hrest : rest <:+ taken ++ value)
    (h : Eager star one (literal ++ pattern) rest) :
    ∃ tail, tail <:+ value ∧ Eager star one pattern tail := by
  induction htaken generalizing rest with
  | nil => exact ⟨rest, hrest, h⟩
  | @cons a b literal taken hab htaken ih =>
    rw [List.cons_append, List.suffix_cons_iff] at hrest
    obtain rfl | hrest := hrest
    · exact ih List.suffix_rfl ((eager_take_iff hone hab).mp h)
    · cases h with
      | take _ h => exact ih ((List.suffix_cons _ _).trans hrest) h
      | star _ hrest' h => exact ih (hrest'.trans hrest) h

/-- Where a star meets no star, what an earlier one could find can be found from there. -/
theorem exists_suffix_star_iff (hone : one ≠ star) {literal taken pattern value : List α}
    (htaken : Taken one literal taken) (hhead : value.head? ≠ some star) :
    (∃ rest, rest <:+ taken ++ value ∧ Eager star one (literal ++ star :: pattern) rest) ↔
      ∃ rest, rest <:+ value ∧ Eager star one pattern rest := by
  constructor
  · rintro ⟨rest, hrest, h⟩
    obtain ⟨tail, htail, h⟩ := exists_suffix_of_eager_append hone htaken hrest h
    cases h with
    | take _ h => exact ⟨_, (List.suffix_cons _ _).trans htail, h⟩
    | star _ hrest' h => exact ⟨_, hrest'.trans htail, h⟩
  · rintro ⟨rest, hrest, h⟩
    exact ⟨taken ++ value, List.suffix_rfl,
      (eager_append_iff hone htaken).mpr (.star hhead hrest h)⟩

/-- Where the value has ended, so has every end of it that matches. -/
theorem exists_suffix_empty_iff (hone : one ≠ star) {literal taken pattern : List α}
    (htaken : Taken one literal taken) :
    (∃ rest, rest <:+ taken ++ [] ∧ Eager star one (literal ++ pattern) rest) ↔
      Eager star one pattern [] := by
  constructor
  · rintro ⟨rest, hrest, h⟩
    obtain ⟨tail, htail, h⟩ := exists_suffix_of_eager_append hone htaken hrest h
    rwa [List.suffix_nil.mp htail] at h
  · intro h
    exact ⟨taken ++ [], List.suffix_rfl, (eager_append_iff hone htaken).mpr h⟩

end Glob
