import Mathlib.Data.Finset.Card
import Mathlib.Data.List.Count
import Mathlib.Data.Nat.Find

/-!
# Numbered names

A name is copied by putting a number behind it, and the first number whose name is not taken is
used.  `Draws` does this for one name after the other, each result being taken for the next, and
`Resolves` does it for the names that are taken only.

## Key results
- `exists_firstFree`, `FirstFree.le_length`: there is a free name, after as many numbers as there
  are names at most
- `Draws.all_iff`: when all names that are drawn pass a test that larger numbers do not pass sooner
- `Draws.fresh`, `Resolves.fresh`: the names are different, and new
- `Resolves.eq_iff`: when all names are kept
-/

universe u v

namespace NumberedNames

variable {α : Type u} {β : Type v}

/-- `k` is the first number from `n` on whose name is not taken. -/
structure FirstFree (taken : α → Prop) (candidate : Nat → α) (n k : Nat) : Prop where
  le : n ≤ k
  free : ¬taken (candidate k)
  before : ∀ j, n ≤ j → j < k → taken (candidate j)

theorem exists_free {candidate : Nat → α} (hinj : candidate.Injective) (names : List α) (n : Nat) :
    ∃ k, n ≤ k ∧ k ≤ n + names.length ∧ candidate k ∉ names := by
  classical
  -- There are more numbers than names.
  have hcard : names.toFinset.card <
      ((Finset.range (names.length + 1)).image fun i => candidate (n + i)).card := by
    rw [Finset.card_image_of_injective _ fun i j hij => Nat.add_left_cancel (hinj hij),
      Finset.card_range]
    have hle := List.toFinset_card_le names
    omega
  obtain ⟨name, hmem, hnew⟩ := Finset.exists_mem_notMem_of_card_lt_card hcard
  obtain ⟨i, hi, rfl⟩ := Finset.mem_image.mp hmem
  rw [Finset.mem_range] at hi
  exact ⟨n + i, by omega, by omega, fun hold => hnew (List.mem_toFinset.mpr hold)⟩

theorem exists_firstFree {candidate : Nat → α} (hinj : candidate.Injective) (names : List α)
    (n : Nat) : ∃ k, FirstFree (· ∈ names) candidate n k := by
  classical
  have hfree : ∃ k, n ≤ k ∧ candidate k ∉ names := by
    obtain ⟨k, hn, -, hnew⟩ := exists_free hinj names n
    exact ⟨k, hn, hnew⟩
  refine ⟨Nat.find hfree, (Nat.find_spec hfree).1, (Nat.find_spec hfree).2, fun j hj hlt => ?_⟩
  by_contra hnot
  exact Nat.find_min hfree hlt ⟨hj, hnot⟩

theorem FirstFree.le_length {candidate : Nat → α} (hinj : candidate.Injective) {names : List α}
    {n k : Nat} (h : FirstFree (· ∈ names) candidate n k) : k ≤ n + names.length := by
  obtain ⟨j, hj, hle, hnew⟩ := exists_free hinj names n
  by_contra hlt
  exact hnew (h.before j hj (by omega))

/-- Names that are all different, and none of them taken. -/
structure Fresh (taken names : List α) : Prop where
  nodup : names.Nodup
  disjoint : ∀ name ∈ names, name ∉ taken

theorem fresh_nil {taken : List α} : Fresh taken [] := ⟨List.nodup_nil, nofun⟩

/-- A name that is used is taken for the next ones. -/
theorem fresh_cons_iff {taken names : List α} {name : α} :
    Fresh taken (name :: names) ↔ name ∉ taken ∧ Fresh (taken ++ [name]) names := by
  constructor
  · rintro ⟨hnodup, hdisjoint⟩
    obtain ⟨hnew, hnodup⟩ := List.nodup_cons.mp hnodup
    refine ⟨hdisjoint name List.mem_cons_self, hnodup, fun other hother hmem => ?_⟩
    rcases List.mem_append.mp hmem with hold | hlast
    · exact hdisjoint other (List.mem_cons_of_mem name hother) hold
    · exact hnew (List.mem_singleton.mp hlast ▸ hother)
  · rintro ⟨hfree, hnodup, hdisjoint⟩
    refine ⟨List.nodup_cons.mpr ⟨fun hmem => ?_, hnodup⟩, fun other hother => ?_⟩
    · exact hdisjoint name hmem (List.mem_append_right _ (List.mem_singleton_self name))
    · rcases List.mem_cons.mp hother with rfl | hother
      · exact hfree
      · exact fun hold => hdisjoint other hother (List.mem_append_left _ hold)

/-! ## Draws -/

/-- For each base in turn, the first free copy, counted from 1. -/
inductive Draws (candidate : β → Nat → α) : List α → List β → List α → Prop
  | nil (taken : List α) : Draws candidate taken [] []
  | cons {taken names : List α} {b : β} {bs : List β} {k : Nat} :
    FirstFree (· ∈ taken) (candidate b) 1 k →
      Draws candidate (taken ++ [candidate b k]) bs names →
      Draws candidate taken (b :: bs) (candidate b k :: names)

/-- There are at least `count` free copies of `b` that pass the test. -/
def Room (candidate : β → Nat → α) (taken : List α) (ok : α → Prop) (b : β) (count : Nat) : Prop :=
  ∃ ks : Finset Nat, count ≤ ks.card ∧
    ∀ k ∈ ks, 1 ≤ k ∧ candidate b k ∉ taken ∧ ok (candidate b k)

variable {candidate : β → Nat → α} {taken names : List α} {bs : List β} {ok : α → Prop}

theorem Draws.length (h : Draws candidate taken bs names) : names.length = bs.length := by
  induction h with
  | nil => rfl
  | cons _ _ ih => rw [List.length_cons, List.length_cons, ih]

theorem Draws.exists_base (h : Draws candidate taken bs names) :
    ∀ name ∈ names, ∃ b ∈ bs, ∃ k, name = candidate b k := by
  induction h with
  | nil => exact nofun
  | cons _ _ ih =>
    intro name hmem
    rcases List.mem_cons.mp hmem with rfl | hmem
    · exact ⟨_, List.mem_cons_self, _, rfl⟩
    · obtain ⟨b, hb, hk⟩ := ih name hmem
      exact ⟨b, List.mem_cons_of_mem _ hb, hk⟩

theorem Draws.fresh (h : Draws candidate taken bs names) : Fresh taken names := by
  induction h with
  | nil => exact fresh_nil
  | cons hfirst _ ih => exact fresh_cons_iff.mpr ⟨hfirst.free, ih⟩

theorem exists_draws (hinj : ∀ b, (candidate b).Injective) (taken : List α) (bs : List β) :
    ∃ names, Draws candidate taken bs names := by
  induction bs generalizing taken with
  | nil => exact ⟨[], .nil taken⟩
  | cons b bs ih =>
    obtain ⟨k, hfirst⟩ := exists_firstFree (hinj b) taken 1
    obtain ⟨names, hrest⟩ := ih (taken ++ [candidate b k])
    exact ⟨_, .cons hfirst hrest⟩

theorem room_zero (b : β) : Room candidate taken ok b 0 := ⟨∅, Nat.le_refl 0, nofun⟩

/-- A name that is taken only takes room. -/
theorem Room.of_append {name : α} {b : β} {count : Nat}
    (h : Room candidate (taken ++ [name]) ok b count) : Room candidate taken ok b count := by
  obtain ⟨ks, hcard, hks⟩ := h
  refine ⟨ks, hcard, fun k hk => ?_⟩
  obtain ⟨hpos, hfree, hok⟩ := hks k hk
  exact ⟨hpos, fun hold => hfree (List.mem_append_left _ hold), hok⟩

section Injective

variable (hinj : ∀ b k b' k', candidate b k = candidate b' k' → b = b' ∧ k = k')
include hinj

/-- A copy of another base leaves the room of `b`. -/
theorem room_append_of_ne {b b' : β} {k count : Nat} (hne : b ≠ b') :
    Room candidate (taken ++ [candidate b' k]) ok b count ↔ Room candidate taken ok b count := by
  refine ⟨Room.of_append, fun ⟨ks, hcard, hks⟩ => ⟨ks, hcard, fun j hj => ?_⟩⟩
  obtain ⟨hpos, hfree, hok⟩ := hks j hj
  refine ⟨hpos, fun hmem => ?_, hok⟩
  rcases List.mem_append.mp hmem with hold | hlast
  · exact hfree hold
  · exact hne (hinj b j b' k (List.mem_singleton.mp hlast)).1

/-- The first free copy takes the place of one, and it passes whenever there is room at all. -/
theorem room_succ_iff (hok : ∀ b j k, 1 ≤ j → j ≤ k → ok (candidate b k) → ok (candidate b j))
    {b : β} {k count : Nat} (hfirst : FirstFree (· ∈ taken) (candidate b) 1 k) :
    Room candidate taken ok b (count + 1) ↔
      ok (candidate b k) ∧ Room candidate (taken ++ [candidate b k]) ok b count := by
  classical
  constructor
  · rintro ⟨ks, hcard, hks⟩
    obtain ⟨j, hj⟩ := Finset.card_pos.mp (Nat.lt_of_lt_of_le (Nat.succ_pos count) hcard)
    -- the first free number is the least of them
    have hle : k ≤ j := by
      by_contra hlt
      exact (hks j hj).2.1 (hfirst.before j (hks j hj).1 (Nat.lt_of_not_le hlt))
    -- that number goes, and the others stay free
    refine ⟨hok b k j hfirst.le hle (hks j hj).2.2, ks.erase k, ?_, fun i hi => ?_⟩
    · have herase := Finset.pred_card_le_card_erase (s := ks) (a := k)
      omega
    · obtain ⟨hne, hi⟩ := Finset.mem_erase.mp hi
      obtain ⟨hpos, hfree, hpass⟩ := hks i hi
      refine ⟨hpos, fun hmem => ?_, hpass⟩
      rcases List.mem_append.mp hmem with hold | hlast
      · exact hfree hold
      · exact hne (hinj b i b k (List.mem_singleton.mp hlast)).2
  · rintro ⟨hpass, ks, hcard, hks⟩
    have hnew : k ∉ ks := fun hk =>
      (hks k hk).2.1 (List.mem_append_right _ (List.mem_singleton_self _))
    refine ⟨insert k ks, ?_, fun i hi => ?_⟩
    · rw [Finset.card_insert_of_notMem hnew]
      omega
    · rcases Finset.mem_insert.mp hi with rfl | hi
      · exact ⟨hfirst.le, hfirst.free, hpass⟩
      · obtain ⟨hpos, hfree, hpass⟩ := hks i hi
        exact ⟨hpos, fun hold => hfree (List.mem_append_left _ hold), hpass⟩

theorem Draws.all_iff [DecidableEq β]
    (hok : ∀ b j k, 1 ≤ j → j ≤ k → ok (candidate b k) → ok (candidate b j))
    (h : Draws candidate taken bs names) :
    (∀ name ∈ names, ok name) ↔ ∀ b, Room candidate taken ok b (bs.count b) := by
  induction h with
  | nil => exact ⟨fun _ b => by rw [List.count_nil]; exact room_zero b, fun _ => nofun⟩
  | @cons taken names b bs k hfirst _ ih =>
    rw [List.forall_mem_cons, ih]
    constructor
    · rintro ⟨hpass, hroom⟩ other
      by_cases heq : other = b
      · subst heq
        rw [List.count_cons_self]
        exact (room_succ_iff hinj hok hfirst).mpr ⟨hpass, hroom other⟩
      · rw [List.count_cons_of_ne (Ne.symm heq)]
        exact (room_append_of_ne hinj heq).mp (hroom other)
    · intro hroom
      have hself := hroom b
      rw [List.count_cons_self, room_succ_iff hinj hok hfirst] at hself
      refine ⟨hself.1, fun other => ?_⟩
      by_cases heq : other = b
      · exact heq ▸ hself.2
      · have hother := hroom other
        rw [List.count_cons_of_ne (Ne.symm heq)] at hother
        exact (room_append_of_ne hinj heq).mpr hother

end Injective

/-! ## Conflicts -/

/-- Each name in turn is kept where it is free, and replaced by its first free copy where it is
    not. -/
inductive Resolves (candidate : α → Nat → α) : List α → List α → List α → Prop
  | nil (taken : List α) : Resolves candidate taken [] []
  | keep {taken names bs : List α} {b : α} : b ∉ taken →
    Resolves candidate (taken ++ [b]) bs names → Resolves candidate taken (b :: bs) (b :: names)
  | copy {taken names bs : List α} {b : α} {k : Nat} : b ∈ taken →
    FirstFree (· ∈ taken) (candidate b) 1 k →
      Resolves candidate (taken ++ [candidate b k]) bs names →
      Resolves candidate taken (b :: bs) (candidate b k :: names)

section Resolves

variable {candidate : α → Nat → α} {taken names bs : List α}

theorem Resolves.length (h : Resolves candidate taken bs names) : names.length = bs.length := by
  induction h with
  | nil => rfl
  | keep _ _ ih => rw [List.length_cons, List.length_cons, ih]
  | copy _ _ _ ih => rw [List.length_cons, List.length_cons, ih]

theorem Resolves.fresh (h : Resolves candidate taken bs names) : Fresh taken names := by
  induction h with
  | nil => exact fresh_nil
  | keep hfree _ ih => exact fresh_cons_iff.mpr ⟨hfree, ih⟩
  | copy _ hfirst _ ih => exact fresh_cons_iff.mpr ⟨hfirst.free, ih⟩

/-- All names are kept if there is no conflict at all. -/
theorem Resolves.eq_iff (h : Resolves candidate taken bs names) :
    names = bs ↔ Fresh taken bs := by
  constructor
  · rintro rfl
    exact h.fresh
  · intro hfresh
    induction h with
    | nil => rfl
    | keep _ _ ih => rw [ih (fresh_cons_iff.mp hfresh).2]
    | copy htaken _ _ _ => exact absurd htaken (fresh_cons_iff.mp hfresh).1

end Resolves

end NumberedNames
