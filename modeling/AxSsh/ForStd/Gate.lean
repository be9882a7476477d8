import AxSsh.ForStd.AssocMap

/-!
# Tasks behind a gate

A pool of tasks that pass a gate one at a time.  `Owned` says that only the holder of the gate has
passed it, and that what the holder knows, `fits`, is true.  Since every other task still waits,
the holder may change whatever `fits` is about: only its own knowledge has to be proved again.

## Key results
- `Owned.wait`, `Owned.enter`, `Owned.advance`, `Owned.leave`: the moves of a task
- `Owned.mono`: a change that needs no gate
-/

namespace Gate

universe u v

variable {K : Type u} {V : Type v} [DecidableEq K] {passed fits fits' : V → Prop}
  {gate : Option K} {tasks : AssocMap K V} {k : K} {v : V}

/-- A task that passed the gate holds it and knows what is true. -/
def Owned (passed fits : V → Prop) (gate : Option K) (tasks : AssocMap K V) : Prop :=
  ∀ k v, tasks.lookup k = some v → passed v → gate = some k ∧ fits v

theorem owned_empty : Owned passed fits gate (∅ : AssocMap K V) := by
  intro k v hlookup
  simp at hlookup

/-- A task joins those that wait. -/
theorem Owned.wait (h : Owned passed fits gate tasks) (hv : ¬passed v) :
    Owned passed fits gate (tasks.insert k v) := by
  intro k' v' hlookup hpassed
  rw [AssocMap.lookup_insert_ite] at hlookup
  split at hlookup
  · cases hlookup
    exact absurd hpassed hv
  · exact h k' v' hlookup hpassed

/-- The free gate is taken. -/
theorem Owned.enter (h : Owned passed fits none tasks) (hv : fits' v) :
    Owned passed fits' (some k) (tasks.insert k v) := by
  intro k' v' hlookup hpassed
  rw [AssocMap.lookup_insert_ite] at hlookup
  split at hlookup
  · rename_i hk
    cases hlookup
    exact ⟨congrArg some hk.symm, hv⟩
  · exact nomatch (h k' v' hlookup hpassed).1

/-- The holder goes on: nobody else knows anything that could become false. -/
theorem Owned.advance (h : Owned passed fits (some k) tasks) (hv : fits' v) :
    Owned passed fits' (some k) (tasks.insert k v) := by
  intro k' v' hlookup hpassed
  rw [AssocMap.lookup_insert_ite] at hlookup
  split at hlookup
  · rename_i hk
    cases hlookup
    exact ⟨congrArg some hk.symm, hv⟩
  · rename_i hk
    obtain ⟨hgate, -⟩ := h k' v' hlookup hpassed
    exact absurd (Option.some.inj hgate).symm hk

/-- The holder is done. -/
theorem Owned.leave (h : Owned passed fits (some k) tasks) :
    Owned passed fits' none (tasks.erase k) := by
  intro k' v' hlookup hpassed
  rw [AssocMap.lookup_erase_ite] at hlookup
  split at hlookup
  · exact nomatch hlookup
  · rename_i hk
    obtain ⟨hgate, -⟩ := h k' v' hlookup hpassed
    exact absurd (Option.some.inj hgate).symm hk

/-- What the holder knows outlives a change made without the gate. -/
theorem Owned.mono (h : Owned passed fits gate tasks) (hfits : ∀ v, fits v → fits' v) :
    Owned passed fits' gate tasks := by
  intro k v hlookup hpassed
  obtain ⟨hgate, hv⟩ := h k v hlookup hpassed
  exact ⟨hgate, hfits v hv⟩

end Gate
