import Mathlib.Logic.Basic

/-!
# Programs whose calls may fail

`Faulty S α` is a program over a state `S` that calls a backend.  The list of faults says, call by
call, which of them fail; a call that fails changes nothing.  `Triple P m Q E` says what holds
after `m` for every list of faults: `Q` when it succeeds, `E` when it fails.

## Key results
- `Triple.bind`, `Triple.call`, `Triple.attempt`, `Triple.reliably`: one rule for each construct
- `Triple.run`: what a triple says of one run
-/

universe u v

/-- A program that calls a backend with state `S`. -/
def Faulty (S : Type u) (α : Type v) : Type (max u v) :=
  S → List Bool → Except String α × S × List Bool

namespace Faulty

variable {S : Type u} {α β : Type v}

instance : Monad (Faulty S) where
  pure a := fun s faults => (.ok a, s, faults)
  bind m k := fun s faults =>
    match m s faults with
    | (.ok a, s', rest) => k a s' rest
    | (.error e, s', rest) => (.error e, s', rest)

/-- The program gives up. -/
def fail (message : String) : Faulty S α := fun s faults => (.error message, s, faults)

/-- One call; a call that fails changes nothing. -/
def call (message : String) (f : S → Except String (α × S)) : Faulty S α := fun s faults =>
  match faults with
  | true :: rest => (.error message, s, rest)
  | faults =>
    match f s with
    | .ok (a, s') => (.ok a, s', faults.tail)
    | .error e => (.error e, s, faults.tail)

/-- A result that was computed without a call. -/
def lift : Except String α → Faulty S α
  | .ok a => pure a
  | .error e => fail e

/-- The program goes on after a failure, and looks at it. -/
def attempt (m : Faulty S α) : Faulty S (Except String α) := fun s faults =>
  match m s faults with
  | (r, s', rest) => (.ok r, s', rest)

/-- None of the calls fails. -/
def reliably (m : Faulty S α) : Faulty S α := fun s faults =>
  match m s [] with
  | (r, s', _) => (r, s', faults)

/-- A run goes on where its first part succeeded. -/
theorem bind_ok {m : Faulty S α} {k : α → Faulty S β} {s s' : S} {faults rest : List Bool} {a : α}
    (h : m s faults = (.ok a, s', rest)) : (m >>= k) s faults = k a s' rest := by
  show (match m s faults with
    | (.ok a, s', rest) => k a s' rest
    | (.error e, s', rest) => (.error e, s', rest)) = _
  rw [h]

/-- A run ends where its first part failed. -/
theorem bind_error {m : Faulty S α} {k : α → Faulty S β} {s s' : S} {faults rest : List Bool}
    {e : String} (h : m s faults = (.error e, s', rest)) :
    (m >>= k) s faults = (.error e, s', rest) := by
  show (match m s faults with
    | (.ok a, s', rest) => k a s' rest
    | (.error e, s', rest) => (.error e, s', rest)) = _
  rw [h]

private theorem id_map_eq (m : Faulty S α) : id <$> m = m := by
  funext s faults
  show (match m s faults with
    | (.ok a, s', rest) => (.ok a, s', rest)
    | (.error e, s', rest) => (.error e, s', rest)) = m s faults
  obtain ⟨_ | _, s', rest⟩ := m s faults <;> rfl

private theorem bind_bind {γ : Type v} (m : Faulty S α) (k : α → Faulty S β)
    (l : β → Faulty S γ) : m >>= k >>= l = m >>= fun a => k a >>= l := by
  funext s faults
  rcases hm : m s faults with ⟨_ | a, s', rest⟩
  · rw [bind_error hm, bind_error (bind_error hm)]
  · rw [bind_ok hm]
    rcases hk : k a s' rest with ⟨_ | b, s'', rest'⟩
    · rw [bind_error hk, bind_error ((bind_ok hm).trans hk)]
    · rw [bind_ok hk, bind_ok ((bind_ok hm).trans hk)]

instance : LawfulMonad (Faulty S) :=
  LawfulMonad.mk' (Faulty S) id_map_eq (fun _ _ => rfl) bind_bind

/-- The next `n` calls get no fault. -/
def Faultless (n : Nat) (faults : List Bool) : Prop := true ∉ faults.take n

theorem faultless_zero (faults : List Bool) : Faultless 0 faults := by simp [Faultless]

theorem faultless_succ_iff {n : Nat} {faults : List Bool} :
    Faultless (n + 1) faults ↔ faults.head? ≠ some true ∧ Faultless n faults.tail := by
  cases faults with
  | nil => simp [Faultless]
  | cons fault faults => cases fault <;> simp [Faultless]

theorem faultless_add_iff {n k : Nat} {faults : List Bool} :
    Faultless (n + k) faults ↔ Faultless n faults ∧ Faultless k (faults.drop n) := by
  rw [Faultless, List.take_add, List.mem_append, not_or]
  exact Iff.rfl

/-- A run that ends without an error. -/
def Succeeds (m : Faulty S α) (s : S) (faults : List Bool) : Prop :=
  ∃ a s' rest, m s faults = (.ok a, s', rest)

section Calls

variable {message : String} {f : S → Except String (α × S)} {k : α → Faulty S β} {s t : S}
  {a : α} {e : String} {faults : List Bool}

theorem call_of_ok (hfaults : faults.head? ≠ some true) (h : f s = .ok (a, t)) :
    call message f s faults = (.ok a, t, faults.tail) := by
  unfold call
  split
  · exact absurd rfl hfaults
  · rw [h]

theorem call_of_error (hfaults : faults.head? ≠ some true) (h : f s = .error e) :
    call message f s faults = (.error e, s, faults.tail) := by
  unfold call
  split
  · exact absurd rfl hfaults
  · rw [h]

theorem call_of_fault (h : faults.head? = some true) :
    call message f s faults = (.error message, s, faults.tail) := by
  obtain ⟨rest, rfl⟩ := List.head?_eq_some_iff.mp h
  rfl

theorem call_succeeds_iff :
    Succeeds (call message f) s faults ↔
      faults.head? ≠ some true ∧ ∃ a t, f s = .ok (a, t) := by
  unfold Succeeds
  by_cases hhead : faults.head? = some true
  · rw [call_of_fault hhead]
    simp [hhead]
  · cases hf : f s with
    | error e =>
      rw [call_of_error hhead hf]
      simp
    | ok result =>
      obtain ⟨a, t⟩ := result
      rw [call_of_ok hhead hf]
      simp [hhead]

/-- A program that starts with a call which its function does not refuse. -/
theorem call_bind_succeeds_iff (h : f s = .ok (a, t)) :
    Succeeds (call message f >>= k) s faults ↔
      faults.head? ≠ some true ∧ Succeeds (k a) t faults.tail := by
  unfold Succeeds
  by_cases hhead : faults.head? = some true
  · rw [bind_error (call_of_fault hhead)]
    simp [hhead]
  · rw [bind_ok (call_of_ok hhead h)]
    simp [hhead]

end Calls

/-! ## Triples -/

/-- What holds of an outcome. -/
def Post (Q : α → S → Prop) (E : S → Prop) : Except String α × S × List Bool → Prop
  | (.ok a, s, _) => Q a s
  | (.error _, s, _) => E s

/-- Where `P` holds before, `Q` holds after a success and `E` after a failure. -/
def Triple (P : S → Prop) (m : Faulty S α) (Q : α → S → Prop) (E : S → Prop) : Prop :=
  ∀ s faults, P s → Post Q E (m s faults)

variable {P : S → Prop} {m : Faulty S α} {Q : α → S → Prop} {E : S → Prop}

theorem Triple.run (h : Triple P m Q E) {s : S} (hs : P s) (faults : List Bool) :
    Post Q E (m s faults) :=
  h s faults hs

theorem Triple.pure {a : α} (h : ∀ s, P s → Q a s) : Triple P (pure a) Q E :=
  fun s _ hs => h s hs

theorem Triple.fail {message : String} (h : ∀ s, P s → E s) :
    Triple P (fail message : Faulty S α) Q E :=
  fun s _ hs => h s hs

theorem Triple.bind {k : α → Faulty S β} {R : β → S → Prop} (hm : Triple P m Q E)
    (hk : ∀ a, Triple (Q a) (k a) R E) : Triple P (m >>= k) R E := by
  intro s faults hs
  have hpost := hm s faults hs
  show Post R E (match m s faults with
    | (.ok a, s', rest) => k a s' rest
    | (.error e, s', rest) => (.error e, s', rest))
  split
  · rename_i a s' rest heq
    rw [heq] at hpost
    exact hk a s' rest hpost
  · rename_i e s' rest heq
    rw [heq] at hpost
    exact hpost

theorem Triple.call {message : String} {f : S → Except String (α × S)}
    (hfail : ∀ s, P s → E s)
    (hok : ∀ s a s', P s → f s = .ok (a, s') → Q a s') : Triple P (call message f) Q E := by
  intro s faults hs
  unfold Faulty.call
  split
  · exact hfail s hs
  · split
    · rename_i a s' heq
      exact hok s a s' hs heq
    · exact hfail s hs

theorem Triple.lift {r : Except String α} (hfail : ∀ s, P s → E s)
    (hok : ∀ s a, P s → r = .ok a → Q a s) : Triple P (lift r) Q E := by
  cases r with
  | ok a => exact Triple.pure fun s hs => hok s a hs rfl
  | error e => exact Triple.fail hfail

theorem Triple.attempt {F : S → Prop} (h : Triple P m Q E) :
    Triple P (attempt m) (fun r s => match r with | .ok a => Q a s | .error _ => E s) F := by
  intro s faults hs
  have hpost := h s faults hs
  unfold Faulty.attempt
  generalize m s faults = outcome at hpost
  obtain ⟨r, s', rest⟩ := outcome
  cases r with
  | ok a => exact hpost
  | error e => exact hpost

/-- A program whose calls succeed is judged by the run without faults. -/
theorem Triple.reliably (h : ∀ s, P s → Post Q E (m s [])) : Triple P (reliably m) Q E := by
  intro s faults hs
  have hpost := h s hs
  unfold Faulty.reliably
  generalize m s [] = outcome at hpost
  obtain ⟨r, s', rest⟩ := outcome
  cases r with
  | ok a => exact hpost
  | error e => exact hpost

/-- A fact that does not depend on the state may be taken out of the precondition. -/
theorem Triple.assume {φ : Prop} (h : φ → Triple P m Q E) :
    Triple (fun s => P s ∧ φ) m Q E :=
  fun s faults ⟨hs, hφ⟩ => h hφ s faults hs

/-- It is enough to look at one state at a time. -/
theorem Triple.of_forall (h : ∀ s₀, P s₀ → Triple (· = s₀) m Q E) : Triple P m Q E :=
  fun s faults hs => h s hs s faults rfl

/-- A stronger precondition, weaker postconditions. -/
theorem Triple.mono {P' : S → Prop} {Q' : α → S → Prop} {E' : S → Prop} (h : Triple P m Q E)
    (hP : ∀ s, P' s → P s) (hQ : ∀ a s, Q a s → Q' a s) (hE : ∀ s, E s → E' s) :
    Triple P' m Q' E' := by
  intro s faults hs
  have hpost := h s faults (hP s hs)
  generalize m s faults = outcome at hpost
  obtain ⟨r, s', rest⟩ := outcome
  cases r with
  | ok a => exact hQ a s' hpost
  | error e => exact hE s' hpost

end Faulty
