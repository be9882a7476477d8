import Mathlib.Data.List.Basic

/-!
# Wildcard patterns

A pattern is a list in which one element, the wildcard, stands for any part of a value and every
other element for itself.  `Splits` says so, and `Matches` says it along the pattern.

A matcher that remembers only its last wildcard relies on `exists_suffix_matches_iff`: once a
value has got as far as a later wildcard, an earlier one need not be tried again.

## Key results
- `splits_iff_matches`: the two agree
- `exists_suffix_matches_iff`: the last wildcard is the only one to return to
-/

universe u

namespace Wildcard

variable {α : Type u} {star : α}

/-- A value can be split so that each wildcard stands for any part and each other element for
    itself. -/
def Splits (star : α) (pattern value : List α) : Prop :=
  ∃ parts, List.Forall₂ (fun a part => a = star ∨ part = [a]) pattern parts ∧
    value = parts.flatten

inductive Matches (star : α) : List α → List α → Prop
  | nil : Matches star [] []
  | cons {a : α} {pattern value : List α} (ha : a ≠ star) (h : Matches star pattern value) :
      Matches star (a :: pattern) (a :: value)
  | star {pattern part value : List α} (h : Matches star pattern value) :
      Matches star (star :: pattern) (part ++ value)

theorem splits_iff_matches {pattern value : List α} :
    Splits star pattern value ↔ Matches star pattern value := by
  constructor
  · rintro ⟨parts, hparts, rfl⟩
    induction hparts with
    | nil => exact .nil
    | @cons a part pattern parts hpart _ ih =>
      rw [List.flatten_cons]
      by_cases ha : a = star
      · subst ha
        exact .star ih
      · rw [hpart.resolve_left ha]
        exact .cons ha ih
  · intro h
    induction h with
    | nil => exact ⟨[], .nil, rfl⟩
    | @cons a pattern value ha _ ih =>
      obtain ⟨parts, hparts, rfl⟩ := ih
      exact ⟨[a] :: parts, .cons (.inr rfl) hparts, rfl⟩
    | @star pattern part value _ ih =>
      obtain ⟨parts, hparts, rfl⟩ := ih
      exact ⟨part :: parts, .cons (.inl rfl) hparts, rfl⟩

/-! ## Inversion -/

theorem matches_nil_iff {value : List α} : Matches star [] value ↔ value = [] := by
  constructor
  · intro h
    cases h
    rfl
  · rintro rfl
    exact .nil

theorem matches_star_iff {pattern value : List α} :
    Matches star (star :: pattern) value ↔ ∃ rest, rest <:+ value ∧ Matches star pattern rest := by
  constructor
  · intro h
    cases h with
    | cons ha _ => exact absurd rfl ha
    | star h => exact ⟨_, List.suffix_append _ _, h⟩
  · rintro ⟨rest, ⟨part, rfl⟩, h⟩
    exact .star h

theorem matches_cons_iff {a : α} {pattern value : List α} (ha : a ≠ star) :
    Matches star (a :: pattern) value ↔ ∃ rest, value = a :: rest ∧ Matches star pattern rest := by
  constructor
  · intro h
    cases h with
    | cons _ h => exact ⟨_, rfl, h⟩
    | star h => exact absurd rfl ha
  · rintro ⟨rest, rfl, h⟩
    exact .cons ha h

/-- A part without wildcards stands for itself. -/
theorem matches_append_iff {literal pattern value : List α} (hstar : star ∉ literal) :
    Matches star (literal ++ pattern) value ↔
      ∃ rest, value = literal ++ rest ∧ Matches star pattern rest := by
  induction literal generalizing value with
  | nil => simp
  | cons a literal ih =>
    rw [List.mem_cons, not_or] at hstar
    rw [List.cons_append, matches_cons_iff (Ne.symm hstar.1)]
    constructor
    · rintro ⟨rest, rfl, h⟩
      obtain ⟨rest', rfl, hrest⟩ := (ih hstar.2).mp h
      exact ⟨rest', rfl, hrest⟩
    · rintro ⟨rest, rfl, h⟩
      exact ⟨literal ++ rest, rfl, (ih hstar.2).mpr ⟨rest, rfl, h⟩⟩

theorem matches_empty_iff {pattern : List α} : Matches star pattern [] ↔ ∀ a ∈ pattern, a = star := by
  induction pattern with
  | nil => simp [matches_nil_iff]
  | cons a pattern ih =>
    rw [List.forall_mem_cons, ← ih]
    by_cases ha : a = star
    · subst ha
      rw [matches_star_iff]
      simp
    · rw [matches_cons_iff ha]
      simp [ha]

/-! ## The last wildcard -/

/-- An end of `literal ++ value` that matches a pattern beginning with `literal` begins with it
    too, and goes on with an end of `value`. -/
theorem exists_suffix_of_matches_append {literal pattern value rest : List α}
    (hstar : star ∉ literal) (hrest : rest <:+ literal ++ value)
    (h : Matches star (literal ++ pattern) rest) :
    ∃ tail, tail <:+ value ∧ rest = literal ++ tail ∧ Matches star pattern tail := by
  obtain ⟨tail, rfl, htail⟩ := (matches_append_iff hstar).mp h
  refine ⟨tail, ?_, rfl, htail⟩
  refine List.suffix_of_suffix_length_le ((List.suffix_append literal tail).trans hrest)
    (List.suffix_append literal value) ?_
  have hlen := hrest.length_le
  rw [List.length_append, List.length_append] at hlen
  exact Nat.le_of_add_le_add_left hlen

/-- After `literal`, a pattern goes on with a wildcard and `pattern`, and a value with `value`:
    some end of the whole value matches iff some end of `value` does. -/
theorem exists_suffix_matches_iff {literal pattern value : List α} (hstar : star ∉ literal) :
    (∃ rest, rest <:+ literal ++ value ∧ Matches star (literal ++ star :: pattern) rest) ↔
      ∃ rest, rest <:+ value ∧ Matches star pattern rest := by
  constructor
  · rintro ⟨rest, hrest, h⟩
    obtain ⟨tail, hsuffix, -, htail⟩ := exists_suffix_of_matches_append hstar hrest h
    obtain ⟨last, hlast, hmatch⟩ := matches_star_iff.mp htail
    exact ⟨last, hlast.trans hsuffix, hmatch⟩
  · rintro ⟨rest, hrest, h⟩
    exact ⟨literal ++ value, List.suffix_rfl,
      (matches_append_iff hstar).mpr ⟨value, rfl, matches_star_iff.mpr ⟨rest, hrest, h⟩⟩⟩

/-- Where the value ends after `literal`, so does every end of it that matches. -/
theorem exists_suffix_append_nil_iff {literal pattern : List α} (hstar : star ∉ literal) :
    (∃ rest, rest <:+ literal ++ [] ∧ Matches star (literal ++ pattern) rest) ↔
      Matches star pattern [] := by
  constructor
  · rintro ⟨rest, hrest, h⟩
    obtain ⟨tail, hsuffix, -, htail⟩ := exists_suffix_of_matches_append hstar hrest h
    rwa [List.suffix_nil.mp hsuffix] at htail
  · intro h
    exact ⟨literal ++ [], List.suffix_rfl, (matches_append_iff hstar).mpr ⟨[], rfl, h⟩⟩

/-- When the value as a whole is not looked for, only its proper ends can be. -/
theorem exists_suffix_cons_iff {P : List α → Prop} {a : α} {value : List α}
    (h : ¬P (a :: value)) :
    (∃ rest, rest <:+ a :: value ∧ P rest) ↔ ∃ rest, rest <:+ value ∧ P rest := by
  constructor
  · rintro ⟨rest, hrest, hmatch⟩
    obtain rfl | hrest := List.suffix_cons_iff.mp hrest
    · exact absurd hmatch h
    · exact ⟨rest, hrest, hmatch⟩
  · rintro ⟨rest, hrest, hmatch⟩
    exact ⟨rest, hrest.trans (List.suffix_cons a value), hmatch⟩

end Wildcard
