import Mathlib.Data.List.Infix

/-!
# Histories

A history lists the events of a run, the newest first.  `Always P` says of every event that `P`
holds of it and of the events before it, so a property that looks back is proved where the event
is added and never again.

## Key results
- `always_cons`: adding one event
- `always_iff_split`: the same, read at a place in the history
- `Always.countP_le_one`: an event that never comes twice
- `Always.after`: an event with a condition comes after what the condition asks for
-/

namespace History

universe u

variable {E : Type u} {P : E → List E → Prop} {e : E} {past : List E}

/-- `P` holds of every event and the events before it. -/
def Always (P : E → List E → Prop) : List E → Prop
  | [] => True
  | e :: past => P e past ∧ Always P past

@[simp] theorem always_nil : Always P [] := trivial

@[simp] theorem always_cons : Always P (e :: past) ↔ P e past ∧ Always P past := Iff.rfl

theorem Always.mono {Q : E → List E → Prop} (h : Always P past)
    (himp : ∀ e older, P e older → Q e older) : Always Q past := by
  induction past with
  | nil => trivial
  | cons e past ih => exact ⟨himp e past h.1, ih h.2⟩

/-- An event that never comes twice is counted at most once. -/
theorem Always.countP_le_one {p : E → Bool}
    (h : Always (fun e older => p e = true → ∀ f ∈ older, ¬p f = true) past) :
    past.countP p ≤ 1 := by
  induction past with
  | nil => simp
  | cons e past ih =>
    obtain ⟨hnone, hpast⟩ := h
    rw [List.countP_cons]
    split
    · rename_i he
      have hzero : past.countP p = 0 := List.countP_eq_zero.mpr (hnone he)
      omega
    · exact ih hpast

/-- An always-property, read at a place in the history. -/
theorem always_iff_split :
    Always P past ↔ ∀ newer e older, past = newer ++ e :: older → P e older := by
  induction past with
  | nil => simp
  | cons head past ih =>
    rw [always_cons, ih]
    constructor
    · intro ⟨hhead, htail⟩ newer e older heq
      cases newer with
      | nil =>
        obtain ⟨rfl, rfl⟩ := List.cons.inj heq
        exact hhead
      | cons x newer => exact htail newer e older (List.cons.inj heq).2
    · intro h
      refine ⟨h [] head past rfl, fun newer e older heq => h (head :: newer) e older ?_⟩
      rw [heq, List.cons_append]

/-- `e` happened, and `f` before it. -/
def After (e f : E) (past : List E) : Prop :=
  ∃ newer older, past = newer ++ e :: older ∧ f ∈ older

theorem After.mem {f : E} (h : After e f past) : e ∈ past := by
  obtain ⟨newer, older, rfl, -⟩ := h
  exact List.mem_append_right _ List.mem_cons_self

theorem Always.of_mem (h : Always P past) (he : e ∈ past) :
    ∃ newer older, past = newer ++ e :: older ∧ P e older := by
  obtain ⟨newer, older, rfl⟩ := List.append_of_mem he
  exact ⟨newer, older, rfl, always_iff_split.mp h newer e older rfl⟩

/-- What `P` says came before an event did happen before it. -/
theorem Always.after {f : E} (h : Always P past) (he : e ∈ past)
    (hP : ∀ older, P e older → f ∈ older) : After e f past := by
  obtain ⟨newer, older, rfl, hpast⟩ := h.of_mem he
  exact ⟨newer, older, rfl, hP older hpast⟩

end History
