import Mathlib.Logic.Relation

/-!
# Sequences of labelled small steps

One step of a program is often a sequence of smaller ones.  `StepsVia R P s s'` says that
some sequence of `R`-steps leads from `s` to `s'`, all of them with labels that `P` allows.

## Key results
- `StepsVia.preserves`: what every allowed step preserves, the sequence preserves
- `StepsVia.simulates`: a simulation step by step is one of sequences
-/

universe u v w x

/-- Some sequence of `R`-steps, with labels that `P` allows, leads from one state to another. -/
def StepsVia {S : Type u} {L : Type v} (R : L → S → S → Prop) (P : L → Prop) : S → S → Prop :=
  Relation.ReflTransGen fun s s' => ∃ l, P l ∧ R l s s'

namespace StepsVia

variable {S : Type u} {L : Type v} {R : L → S → S → Prop} {P Q : L → Prop} {s s' s'' : S}

theorem refl (s : S) : StepsVia R P s s := Relation.ReflTransGen.refl

theorem of_eq (h : s' = s) : StepsVia R P s s' := h ▸ refl s'

theorem single {l : L} (hl : P l) (h : R l s s') : StepsVia R P s s' :=
  Relation.ReflTransGen.single ⟨l, hl, h⟩

theorem trans (h : StepsVia R P s s') (h' : StepsVia R P s' s'') : StepsVia R P s s'' :=
  Relation.ReflTransGen.trans h h'

theorem tail {l : L} (h : StepsVia R P s s') (hl : P l) (h' : R l s' s'') :
    StepsVia R P s s'' :=
  Relation.ReflTransGen.tail h ⟨l, hl, h'⟩

theorem head {l : L} (hl : P l) (h : R l s s') (h' : StepsVia R P s' s'') :
    StepsVia R P s s'' :=
  Relation.ReflTransGen.head ⟨l, hl, h⟩ h'

/-- What every allowed step preserves, the sequence preserves. -/
theorem preserves {I : S → Prop} (hstep : ∀ l s s', P l → R l s s' → I s → I s')
    (h : StepsVia R P s s') (hs : I s) : I s' := by
  induction h with
  | refl => exact hs
  | tail _ hlast ih =>
    obtain ⟨l, hl, hR⟩ := hlast
    exact hstep l _ _ hl hR ih

/-- A sequence allowed by `P` is allowed by whatever `P` implies. -/
theorem mono (hPQ : ∀ l, P l → Q l) (h : StepsVia R P s s') : StepsVia R Q s s' := by
  induction h with
  | refl => exact refl s
  | tail _ hlast ih =>
    obtain ⟨l, hl, hR⟩ := hlast
    exact ih.tail (hPQ l hl) hR

/-- If under an invariant every allowed step is matched by steps of another system, then so
    is the sequence. -/
theorem simulates {S' : Type w} {L' : Type x} {R' : L' → S' → S' → Prop} {P' : L' → Prop}
    {I : S → Prop} (f : S → S')
    (hstep : ∀ l s s', P l → R l s s' → I s → I s' ∧ StepsVia R' P' (f s) (f s'))
    (h : StepsVia R P s s') (hs : I s) : I s' ∧ StepsVia R' P' (f s) (f s') := by
  induction h with
  | refl => exact ⟨hs, refl _⟩
  | tail _ hlast ih =>
    obtain ⟨l, hl, hR⟩ := hlast
    obtain ⟨hI, hsim⟩ := hstep l _ _ hl hR ih.1
    exact ⟨hI, ih.2.trans hsim⟩

end StepsVia
