import Mathlib.Logic.Basic

/-!
# Successful runs in `Except`

When a chain of checks and partial functions succeeds, every link of it did.

## Key results
- `Except.bind_eq_ok_iff`: the two parts of a sequence
- `Except.forM_eq_ok_iff`: a check of every element
- `Except.mapM_eq_map`, `Except.exists_of_mem_mapM`: a function applied to every element
-/

universe u v

namespace Except

variable {ε : Type u} {α β : Type v}

theorem bind_eq_ok_iff {x : Except ε α} {f : α → Except ε β} {b : β} :
    (x >>= f) = .ok b ↔ ∃ a, x = .ok a ∧ f a = .ok b := by
  cases x with
  | error e => exact ⟨nofun, fun ⟨_, h, _⟩ => nomatch h⟩
  | ok a =>
    constructor
    · exact fun h => ⟨a, rfl, h⟩
    · rintro ⟨a, ⟨⟩, h⟩
      exact h

theorem map_eq_ok_iff {x : Except ε α} {f : α → β} {b : β} :
    x.map f = .ok b ↔ ∃ a, x = .ok a ∧ f a = b := by
  cases x with
  | error e => exact ⟨nofun, fun ⟨_, h, _⟩ => nomatch h⟩
  | ok a =>
    constructor
    · exact fun h => ⟨a, rfl, Except.ok.inj h⟩
    · rintro ⟨a, ⟨⟩, h⟩
      exact congrArg Except.ok h

/-- What holds before a step that may fail, and after it where it succeeds. -/
theorem toOption_getD_of {P : β → Prop} {x : Except ε β} {b : β} (h : P b)
    (hok : ∀ b', x = .ok b' → P b') : P (x.toOption.getD b) := by
  cases x with
  | error e => exact h
  | ok b' => exact hok b' rfl

/-- A check of every element succeeds when each does. -/
theorem forM_eq_ok_iff {γ : Type u} {f : γ → Except ε PUnit} {l : List γ} :
    l.forM f = .ok ⟨⟩ ↔ ∀ x ∈ l, f x = .ok ⟨⟩ := by
  induction l with
  | nil => exact ⟨fun _ => nofun, fun _ => rfl⟩
  | cons x l ih =>
    rw [List.forall_mem_cons, ← ih]
    show (f x >>= fun _ => l.forM f) = .ok ⟨⟩ ↔ _
    rw [bind_eq_ok_iff]
    constructor
    · exact fun ⟨_, hx, hl⟩ => ⟨hx, hl⟩
    · exact fun ⟨hx, hl⟩ => ⟨⟨⟩, hx, hl⟩

/-- A function that succeeds on every element. -/
theorem mapM_eq_map {γ : Type u} {f : γ → Except ε β} {g : γ → β} {l : List γ}
    (h : ∀ x ∈ l, f x = .ok (g x)) : l.mapM f = .ok (l.map g) := by
  induction l with
  | nil => rfl
  | cons x l ih =>
    obtain ⟨hx, hl⟩ := List.forall_mem_cons.mp h
    rw [List.mapM_cons, hx, ih hl]
    rfl

/-- Where an element of the result comes from. -/
theorem exists_of_mem_mapM {γ : Type u} {f : γ → Except ε β} {l : List γ} {l' : List β}
    (h : l.mapM f = .ok l') {y : β} (hy : y ∈ l') : ∃ x ∈ l, f x = .ok y := by
  induction l generalizing l' with
  | nil =>
    obtain rfl := Except.ok.inj h
    exact nomatch hy
  | cons x l ih =>
    rw [List.mapM_cons] at h
    obtain ⟨z, hz, h⟩ := bind_eq_ok_iff.mp h
    obtain ⟨zs, hzs, h⟩ := bind_eq_ok_iff.mp h
    obtain rfl := Except.ok.inj h
    rcases List.mem_cons.mp hy with rfl | hy
    · exact ⟨x, List.mem_cons_self, hz⟩
    · obtain ⟨w, hw, hfw⟩ := ih hzs hy
      exact ⟨w, List.mem_cons_of_mem x hw, hfw⟩

theorem length_of_mapM {γ : Type u} {f : γ → Except ε β} {l : List γ} {l' : List β}
    (h : l.mapM f = .ok l') : l'.length = l.length := by
  induction l generalizing l' with
  | nil =>
    obtain rfl := Except.ok.inj h
    rfl
  | cons x l ih =>
    rw [List.mapM_cons] at h
    obtain ⟨y, _, h⟩ := bind_eq_ok_iff.mp h
    obtain ⟨ys, hys, h⟩ := bind_eq_ok_iff.mp h
    obtain rfl := Except.ok.inj h
    rw [List.length_cons, List.length_cons, ih hys]

end Except
