import Mathlib.Data.List.TakeWhile

/-!
# Successive matches in a text

`findIter` lists the matches of a pattern from left to right, each after the end of the one before,
as a regular expression engine does.  For a pattern that matches a run of elements of one kind,
as soon as a test on what follows holds, the matches are the positions where the test holds and
held nowhere before in the same run.

## Key results
- `mem_findIter_iff`: which matches are found
- `exists_begins`: where the test holds, a match has begun
- `Begins.unique`: two matches share no position
-/

universe u

namespace FindIter

variable {α : Type u}

/-- The matches of `matchLength` in a text that starts at `offset`, after `skip` elements. -/
def findFrom (matchLength : List α → Option Nat) : List α → Nat → Nat → List (Nat × List α)
  | [], _, _ => []
  | _ :: xs, offset, skip + 1 => findFrom matchLength xs (offset + 1) skip
  | x :: xs, offset, 0 =>
    match matchLength (x :: xs) with
    | some n => (offset, (x :: xs).take n) :: findFrom matchLength xs (offset + 1) (n - 1)
    | none => findFrom matchLength xs (offset + 1) 0

/-- The matches in a text, each with the position where it starts. -/
def findIter (matchLength : List α → Option Nat) (text : List α) : List (Nat × List α) :=
  findFrom matchLength text 0 0

/-- A pattern that matches the longest run wherever a test holds, and nothing elsewhere. -/
structure MatchesRuns (matchLength : List α → Option Nat) (starts : List α → Prop)
    (run : α → Bool) : Prop where
  of_starts : ∀ x, starts x → matchLength x = some (x.takeWhile run).length
  of_not_starts : ∀ x, ¬starts x → matchLength x = none
  head : ∀ x, starts x → ∃ a y, x = a :: y ∧ run a

/-- After `l`, a match starts at the beginning of `x`: the test holds there, and held nowhere before
    in the same run. -/
structure Begins (starts : List α → Prop) (run : α → Bool) (l x : List α) : Prop where
  here : starts x
  first : ∀ l₁ l₂, l = l₁ ++ l₂ → l₂ ≠ [] → (∀ a ∈ l₂, run a) → ¬starts (l₂ ++ x)

theorem findFrom_skip (matchLength : List α → Option Nat) (text : List α) (offset skip : Nat) :
    findFrom matchLength text offset skip =
      findFrom matchLength (text.drop skip) (offset + skip) 0 := by
  induction text generalizing offset skip with
  | nil => simp [findFrom]
  | cons x xs ih =>
    cases skip with
    | zero => rfl
    | succ skip =>
      rw [findFrom, ih, List.drop_succ_cons, Nat.add_right_comm, Nat.add_assoc]

variable {matchLength : List α → Option Nat} {starts : List α → Prop} {run : α → Bool}

theorem takeWhile_append_of_all {l x : List α} (h : ∀ a ∈ l, run a) :
    (l ++ x).takeWhile run = l ++ x.takeWhile run := by
  induction l with
  | nil => rfl
  | cons a l ih =>
    rw [List.cons_append, List.takeWhile_cons_of_pos (h a List.mem_cons_self),
      ih fun b hb => h b (List.mem_cons_of_mem a hb), List.cons_append]

theorem take_takeWhile_length (run : α → Bool) (x : List α) :
    x.take (x.takeWhile run).length = x.takeWhile run := by
  have h : (x.takeWhile run ++ x.dropWhile run).take (x.takeWhile run).length =
      x.takeWhile run := List.take_left' rfl
  rwa [List.takeWhile_append_dropWhile] at h

theorem drop_takeWhile_length (run : α → Bool) (x : List α) :
    x.drop (x.takeWhile run).length = x.dropWhile run := by
  have h : (x.takeWhile run ++ x.dropWhile run).drop (x.takeWhile run).length =
      x.dropWhile run := List.drop_left' rfl
  rwa [List.takeWhile_append_dropWhile] at h

/-- What follows the longest run does not continue it. -/
theorem not_run_of_dropWhile {x y : List α} {a : α} (h : x.dropWhile run = a :: y) :
    run a = false := by
  have hhead := List.head_dropWhile_not run (l := x) (by rw [h]; exact nofun)
  simpa [h] using hhead

/-- A match crosses no match before it, so it stands in what follows that one. -/
theorem Begins.takeWhile_append {l x text : List α} (htext : text = l ++ x)
    (hl : Begins starts run l x) (hstarts : starts text) :
    l = [] ∨ ∃ l', l = text.takeWhile run ++ l' ∧ text.dropWhile run = l' ++ x := by
  have hsplit : text.takeWhile run ++ text.dropWhile run = l ++ x := by
    rw [List.takeWhile_append_dropWhile, htext]
  obtain ⟨l', rfl, hx⟩ | ⟨d, hd, hx⟩ := List.append_eq_append_iff.mp hsplit
  · exact Or.inr ⟨l', rfl, hx⟩
  by_cases hne : l = []
  · exact Or.inl hne
  -- the run at the start of the text reaches the match
  have hrun : ∀ a ∈ l, run a = true := fun a ha =>
    List.mem_takeWhile_imp (hd ▸ List.mem_append_left d ha)
  exact absurd (htext ▸ hstarts) (hl.first [] l rfl hne hrun)

theorem Begins.of_append {l₀ l x : List α} (h : Begins starts run (l₀ ++ l) x) :
    Begins starts run l x :=
  ⟨h.here, fun l₁ l₂ hl hne hrun => h.first (l₀ ++ l₁) l₂ (by rw [hl, List.append_assoc]) hne hrun⟩

/-- What stands before the end of a run does not matter after it. -/
theorem Begins.append {l x text : List α} (h : MatchesRuns matchLength starts run)
    (hl : Begins starts run l x) (htext : text.dropWhile run = l ++ x) :
    Begins starts run (text.takeWhile run ++ l) x := by
  refine ⟨hl.here, fun l₁ l₂ heq hne hrun => ?_⟩
  obtain ⟨s, rfl, hs⟩ | ⟨s, hs, rfl⟩ := List.append_eq_append_iff.mp heq
  · exact hl.first s l₂ hs hne hrun
  cases s with
  | nil => exact hl.first [] l rfl hne hrun
  | cons b s =>
    -- the element after the run would have to belong to it
    cases l with
    | nil =>
      obtain ⟨a, y, rfl, ha⟩ := h.head x hl.here
      rw [not_run_of_dropWhile htext] at ha
      cases ha
    | cons a l =>
      have ha := hrun a (List.mem_append_right (b :: s) List.mem_cons_self)
      rw [not_run_of_dropWhile htext] at ha
      cases ha

theorem begins_cons_iff {a : α} {l x : List α} (h : ¬starts (a :: (l ++ x))) :
    Begins starts run (a :: l) x ↔ Begins starts run l x := by
  constructor
  · exact fun hb => (show Begins starts run ([a] ++ l) x from hb).of_append
  · refine fun hb => ⟨hb.here, fun l₁ l₂ heq hne hrun => ?_⟩
    cases l₁ with
    | nil =>
      obtain rfl : a :: l = l₂ := heq
      exact h
    | cons b l₁ => exact hb.first l₁ l₂ (List.cons.inj heq).2 hne hrun

theorem mem_findFrom_iff (h : MatchesRuns matchLength starts run) (text : List α) (offset i : Nat)
    (y : List α) :
    (i, y) ∈ findFrom matchLength text offset 0 ↔
      ∃ l x, text = l ++ x ∧ i = offset + l.length ∧ y = x.takeWhile run ∧
        Begins starts run l x := by
  induction hn : text.length using Nat.strong_induction_on generalizing text offset with
  | _ n ih =>
    cases text with
    | nil =>
      constructor
      · intro hmem
        cases hmem
      · rintro ⟨l, x, heq, -, -, hb⟩
        obtain ⟨a, z, rfl, -⟩ := h.head x hb.here
        simp at heq
    | cons a t =>
      by_cases hstarts : starts (a :: t)
      · -- the rest is searched from the end of the run
        obtain ⟨b, z, hbz, hb⟩ := h.head _ hstarts
        obtain ⟨rfl, rfl⟩ := List.cons.inj hbz
        have hlen : ((a :: t).takeWhile run).length = (t.takeWhile run).length + 1 := by
          rw [List.takeWhile_cons_of_pos hb, List.length_cons]
        have htake := take_takeWhile_length run (a :: t)
        have hdrop : t.drop (t.takeWhile run).length = (a :: t).dropWhile run := by
          rw [List.dropWhile_cons_of_pos hb, drop_takeWhile_length]
        have hshort : ((a :: t).dropWhile run).length < n := by
          have hle := (List.dropWhile_suffix run (l := t)).length_le
          rw [List.dropWhile_cons_of_pos hb, ← hn, List.length_cons]
          omega
        rw [findFrom, h.of_starts _ hstarts]
        dsimp only
        rw [htake, hlen, Nat.add_sub_cancel, findFrom_skip, hdrop, List.mem_cons,
          ih _ hshort _ _ rfl]
        constructor
        · rintro (heq | ⟨l, x, heq, rfl, rfl, hb⟩)
          · obtain ⟨rfl, rfl⟩ := Prod.mk.inj heq
            refine ⟨[], a :: t, rfl, rfl, rfl, hstarts, fun l₁ l₂ hnil hne => ?_⟩
            exact absurd (List.append_eq_nil_iff.mp hnil.symm).2 hne
          · refine ⟨(a :: t).takeWhile run ++ l, x, ?_, ?_, rfl, hb.append h heq⟩
            · rw [List.append_assoc, ← heq, List.takeWhile_append_dropWhile]
            · rw [List.length_append, hlen]
              omega
        · rintro ⟨l, x, heq, rfl, rfl, hb⟩
          obtain rfl | ⟨l', rfl, hrest⟩ := hb.takeWhile_append heq hstarts
          · left
            rw [heq]
            rfl
          · refine Or.inr ⟨l', x, hrest, ?_, rfl, hb.of_append⟩
            rw [List.length_append, hlen]
            omega
      · have hnone := h.of_not_starts _ hstarts
        rw [findFrom, hnone, ih t.length (by simp [← hn]) t (offset + 1) rfl]
        constructor
        · rintro ⟨l, x, rfl, rfl, rfl, hb⟩
          exact ⟨a :: l, x, rfl, by rw [List.length_cons]; omega, rfl,
            (begins_cons_iff hstarts).mpr hb⟩
        · rintro ⟨l, x, heq, rfl, rfl, hb⟩
          cases l with
          | nil =>
            obtain rfl : a :: t = x := heq
            exact absurd hb.here hstarts
          | cons c l =>
            obtain ⟨rfl, rfl⟩ := List.cons.inj heq
            exact ⟨l, x, rfl, by rw [List.length_cons]; omega, rfl,
              (begins_cons_iff hstarts).mp hb⟩

theorem mem_findIter_iff (h : MatchesRuns matchLength starts run) (text : List α) (i : Nat)
    (y : List α) :
    (i, y) ∈ findIter matchLength text ↔
      ∃ l x, text = l ++ x ∧ i = l.length ∧ y = x.takeWhile run ∧ Begins starts run l x := by
  rw [findIter, mem_findFrom_iff h]
  simp only [Nat.zero_add]

/-- Where the test holds, a match starts there or earlier in the same run. -/
theorem exists_begins {l x : List α} (hx : starts x) :
    ∃ l' d, l = l' ++ d ∧ (∀ a ∈ d, run a) ∧ Begins starts run l' (d ++ x) := by
  induction hn : l.length using Nat.strong_induction_on generalizing l x with
  | _ n ih =>
    by_cases hfirst : ∃ l₁ l₂, l = l₁ ++ l₂ ∧ l₂ ≠ [] ∧ (∀ a ∈ l₂, run a) ∧ starts (l₂ ++ x)
    · obtain ⟨l₁, l₂, rfl, hne, hrun, hstarts⟩ := hfirst
      have hlt : l₁.length < n := by
        have hpos := List.length_pos_iff.mpr hne
        rw [← hn, List.length_append]
        omega
      obtain ⟨l', d, rfl, hd, hb⟩ := ih l₁.length hlt hstarts rfl
      refine ⟨l', d ++ l₂, by rw [List.append_assoc], ?_, by rwa [List.append_assoc]⟩
      intro a ha
      exact (List.mem_append.mp ha).elim (hd a) (hrun a)
    · refine ⟨l, [], (List.append_nil l).symm, nofun, hx, ?_⟩
      intro l₁ l₂ heq hne hrun hstarts
      exact hfirst ⟨l₁, l₂, heq, hne, hrun, hstarts⟩

/-- A match does not begin inside the one before it. -/
theorem Begins.eq_of_length_le {l l' x x' : List α} (hl : Begins starts run l x)
    (hl' : Begins starts run l' x') (heq : l ++ x = l' ++ x') (hle : l.length ≤ l'.length)
    (hlt : l'.length < l.length + (x.takeWhile run).length) : l = l' := by
  obtain ⟨d, rfl, rfl⟩ | ⟨d, rfl, -⟩ := List.append_eq_append_iff.mp heq
  · by_cases hne : d = []
    · rw [hne, List.append_nil]
    have hd : d <+: (d ++ x').takeWhile run := by
      have htake : (d ++ x').takeWhile run <+: d ++ x' := List.takeWhile_prefix run
      refine List.prefix_of_prefix_length_le (List.prefix_append d x') htake ?_
      rw [List.length_append] at hlt
      omega
    have hrun : ∀ a ∈ d, run a = true := fun a ha => List.mem_takeWhile_imp (hd.subset ha)
    exact absurd hl.here (hl'.first l d rfl hne hrun)
  · rw [List.length_append] at hle
    rw [List.length_eq_zero_iff.mp (by omega : d.length = 0), List.append_nil]

/-- Two matches that share a position are one. -/
theorem Begins.unique {l l' x x' : List α} {i : Nat} (hl : Begins starts run l x)
    (hl' : Begins starts run l' x') (heq : l ++ x = l' ++ x') (hle : l.length ≤ i)
    (hlt : i < l.length + (x.takeWhile run).length) (hle' : l'.length ≤ i)
    (hlt' : i < l'.length + (x'.takeWhile run).length) : l = l' := by
  obtain h | h := Nat.le_total l.length l'.length
  · exact hl.eq_of_length_le hl' heq h (by omega)
  · exact (hl'.eq_of_length_le hl heq.symm h (by omega)).symm

end FindIter
