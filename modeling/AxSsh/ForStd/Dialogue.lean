import Mathlib.Data.List.Basic

/-!
# Programs that talk

A program that may fail and says things to its surroundings is its result together with what it
said, in order.  What comes back is known to the program beforehand, so a program that talks to
any server is a family of such values over the answers of the server.

## Key results
- `result_bind_eq_ok_iff`, `mem_said_bind`: the result and the events of a sequence
- `bind_of_ok`, `bind_of_error`: a sequence whose first part is known
- `Says.bind`: what holds of every event
- `split_unique`: the place of the only event of a kind
-/

universe u v w x

/-- A program: its result, and the events it causes, the oldest first. -/
structure Dialogue (ε : Type u) (E : Type v) (α : Type w) where
  result : Except ε α
  said : List E

namespace Dialogue

variable {ε : Type u} {E : Type v} {α β : Type w}

instance : Monad (Dialogue ε E) where
  pure a := ⟨.ok a, []⟩
  bind m k :=
    match m.result with
    | .ok a => ⟨(k a).result, m.said ++ (k a).said⟩
    | .error e => ⟨.error e, m.said⟩

def say (e : E) : Dialogue ε E PUnit := ⟨.ok ⟨⟩, [e]⟩

/-- A result that was computed without an event. -/
def lift (r : Except ε α) : Dialogue ε E α := ⟨r, []⟩

/-- The program goes on after a failure, and looks at it. -/
def attempt (m : Dialogue ε E α) : Dialogue ε E (Except ε α) := ⟨.ok m.result, m.said⟩

@[simp] theorem result_pure (a : α) : (pure a : Dialogue ε E α).result = .ok a := rfl
@[simp] theorem said_pure (a : α) : (pure a : Dialogue ε E α).said = [] := rfl
@[simp] theorem result_say (e : E) : (say e : Dialogue ε E PUnit).result = .ok ⟨⟩ := rfl
@[simp] theorem said_say (e : E) : (say e : Dialogue ε E PUnit).said = [e] := rfl
@[simp] theorem result_lift (r : Except ε α) : (lift r : Dialogue ε E α).result = r := rfl
@[simp] theorem said_lift (r : Except ε α) : (lift r : Dialogue ε E α).said = [] := rfl

variable {m : Dialogue ε E α} {k : α → Dialogue ε E β} {a : α} {b : β} {e : E}

@[simp] theorem result_attempt : (attempt m).result = .ok m.result := rfl
@[simp] theorem said_attempt : (attempt m).said = m.said := rfl

theorem bind_of_ok (h : m.result = .ok a) :
    m >>= k = ⟨(k a).result, m.said ++ (k a).said⟩ := by
  show (match m.result with
    | .ok a => (⟨(k a).result, m.said ++ (k a).said⟩ : Dialogue ε E β)
    | .error e => ⟨.error e, m.said⟩) = _
  rw [h]

theorem bind_of_error {err : ε} (h : m.result = .error err) : m >>= k = ⟨.error err, m.said⟩ := by
  show (match m.result with
    | .ok a => (⟨(k a).result, m.said ++ (k a).said⟩ : Dialogue ε E β)
    | .error e => ⟨.error e, m.said⟩) = _
  rw [h]

theorem said_bind_of_ok (h : m.result = .ok a) : (m >>= k).said = m.said ++ (k a).said := by
  rw [bind_of_ok h]

/-- A result that is known is passed on. -/
theorem lift_bind_of_ok {r : Except ε α} (h : r = .ok a) : lift r >>= k = k a := by
  rw [bind_of_ok (m := lift r) (a := a) h]
  rfl

/-- A check has only one way to succeed. -/
@[simp] theorem exists_punit {p : PUnit → Prop} : (∃ u, p u) ↔ p ⟨⟩ :=
  ⟨fun ⟨_, h⟩ => h, fun h => ⟨⟨⟩, h⟩⟩

theorem result_bind_eq_ok_iff :
    (m >>= k).result = .ok b ↔ ∃ a, m.result = .ok a ∧ (k a).result = .ok b := by
  cases h : m.result with
  | error err => simp [bind_of_error h]
  | ok a => simp [bind_of_ok h]

theorem result_bind_unit_iff {check : Dialogue ε E PUnit} {k : PUnit → Dialogue ε E β} :
    (check >>= k).result = .ok b ↔ check.result = .ok ⟨⟩ ∧ (k ⟨⟩).result = .ok b := by
  rw [result_bind_eq_ok_iff, exists_punit]

/-- A check that was computed without an event. -/
theorem lift_bind_unit_iff {check : Except ε PUnit} {k : PUnit → Dialogue ε E β} :
    (lift check >>= k).result = .ok b ↔ check = .ok ⟨⟩ ∧ (k ⟨⟩).result = .ok b :=
  result_bind_unit_iff

theorem lift_bind_eq_ok_iff {r : Except ε α} :
    (lift r >>= k).result = .ok b ↔ ∃ a, r = .ok a ∧ (k a).result = .ok b :=
  result_bind_eq_ok_iff

theorem mem_said_bind : e ∈ (m >>= k).said ↔ e ∈ m.said ∨ ∃ a, m.result = .ok a ∧ e ∈ (k a).said := by
  cases h : m.result with
  | error err => simp [bind_of_error h]
  | ok a => simp [bind_of_ok h]

/-- `P` holds of every event. -/
def Says (P : E → Prop) (m : Dialogue ε E α) : Prop := ∀ e ∈ m.said, P e

variable {P : E → Prop}

theorem Says.pure (a : α) : Says P (pure a : Dialogue ε E α) := nofun

theorem Says.lift (r : Except ε α) : Says P (lift r : Dialogue ε E α) := nofun

theorem Says.say (h : P e) : Says P (say e : Dialogue ε E PUnit) := by
  intro e' he
  obtain rfl := List.mem_singleton.mp he
  exact h

theorem Says.bind (hm : Says P m) (hk : ∀ a, m.result = .ok a → Says P (k a)) :
    Says P (m >>= k) := by
  intro e he
  rcases mem_said_bind.mp he with he | ⟨a, ha, he⟩
  · exact hm e he
  · exact hk a ha e he

theorem Says.mono {Q : E → Prop} (h : Says P m) (hPQ : ∀ e, P e → Q e) : Says Q m :=
  fun e he => hPQ e (h e he)

/-- An event of a kind that occurs once is that one. -/
theorem split_unique {pre post before after : List E} {e' : E}
    (h : pre ++ e :: post = before ++ e' :: after) (hpre : ∀ f ∈ pre, ¬P f)
    (hpost : ∀ f ∈ post, ¬P f) (he' : P e') : before = pre ∧ e' = e ∧ after = post := by
  induction pre generalizing before with
  | nil =>
    cases before with
    | nil =>
      obtain ⟨rfl, rfl⟩ := List.cons.inj h
      exact ⟨rfl, rfl, rfl⟩
    | cons head before =>
      have hmem : e' ∈ post := (List.cons.inj h).2 ▸ List.mem_append_right _ List.mem_cons_self
      exact absurd he' (hpost e' hmem)
  | cons head pre ih =>
    cases before with
    | nil =>
      obtain ⟨rfl, -⟩ := List.cons.inj h
      exact absurd he' (hpre _ List.mem_cons_self)
    | cons head' before =>
      obtain ⟨rfl, htail⟩ := List.cons.inj h
      obtain ⟨rfl, hrest⟩ := ih htail fun f hf => hpre f (List.mem_cons_of_mem _ hf)
      exact ⟨rfl, hrest⟩

end Dialogue
