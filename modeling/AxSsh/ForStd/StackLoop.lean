import Mathlib.Order.WellFounded

/-!
# Loops over a stack

A recursion is often written as a loop that takes a frame off a stack, does what the frame says and
pushes the frames that come next.  `StackLoop.run` is such a loop; its frames work on a state, and
one of them may end it with an error.

A frame stands for an item `a`, which emits `own a` and is followed by the items `next a`.  When
the items cannot go on for ever, the loop emits what the recursion over the items gives.

## Key results
- `StackLoop.run_eq`: the loop is the recursion
-/

universe u v w

namespace StackLoop

variable {F : Type u} {A : Type v} {O : Type w} {S E : Type u}

/-- The loop, with the frames on its stack from the top. -/
def run (step : F → S → Except E (List F) × S) : Nat → List F → S → Option (Except E Unit × S)
  | _, [], s => some (.ok (), s)
  | 0, _ :: _, _ => none
  | fuel + 1, frame :: stack, s =>
    match step frame s with
    | (.ok pushed, s') => run step fuel (pushed ++ stack) s'
    | (.error e, s') => some (.error e, s')

/-- What comes after a result without an error. -/
def andThen {R : Type u} (result : Except E Unit × S) (next : S → R) (failed : E → S → R) : R :=
  match result with
  | (.ok (), s) => next s
  | (.error e, s) => failed e s

/-- Outputs are emitted up to the first that fails. -/
def emitAll (emit : O → S → Except E Unit × S) : List O → S → Except E Unit × S
  | [], s => (.ok (), s)
  | o :: os, s => andThen (emit o s) (emitAll emit os) fun e s => (.error e, s)

variable {emit : O → S → Except E Unit × S} {step : F → S → Except E (List F) × S}

theorem andThen_andThen {R : Type u} (result : Except E Unit × S) (k : S → Except E Unit × S)
    (next : S → R) (failed : E → S → R) :
    andThen (andThen result k fun e s => (.error e, s)) next failed =
      andThen result (fun s => andThen (k s) next failed) failed := by
  obtain ⟨_ | _, s⟩ := result <;> rfl

theorem emitAll_append (os os' : List O) (s : S) :
    emitAll emit (os ++ os') s =
      andThen (emitAll emit os s) (emitAll emit os') fun e s => (.error e, s) := by
  induction os generalizing s with
  | nil => rfl
  | cons o os ih =>
    have hrest : emitAll emit (os ++ os') = fun s =>
        andThen (emitAll emit os s) (emitAll emit os') fun e s => (.error e, s) := funext ih
    rw [List.cons_append, emitAll, emitAll, andThen_andThen, hrest]

/-- The frame of each item emits what the item emits, and pushes the frames of what follows it. -/
structure Follows (step : F → S → Except E (List F) × S) (emit : O → S → Except E Unit × S)
    (frame : A → F) (own : A → List O) (next : A → List A) : Prop where
  step_eq : ∀ a s, step (frame a) s =
    andThen (emitAll emit (own a) s) (fun s => (.ok ((next a).map frame), s))
      fun e s => (.error e, s)
  wellFounded : WellFounded fun b a => b ∈ next a

variable {frame : A → F} {own : A → List O} {next : A → List A} {out : A → List O}

/-- The loop over a stack with `items` on top goes through them, and then through the rest. -/
private def Processes (step : F → S → Except E (List F) × S) (emit : O → S → Except E Unit × S)
    (frame : A → F) (out : A → List O) (items : List A) : Prop :=
  ∀ stack s, ∃ n, ∀ fuel, run step (n + fuel) (items.map frame ++ stack) s =
    andThen (emitAll emit (items.flatMap out) s) (run step fuel stack)
      fun e s => some (.error e, s)

private theorem processes_of_forall {items : List A}
    (h : ∀ a ∈ items, Processes step emit frame out [a]) :
    Processes step emit frame out items := by
  induction items with
  | nil => exact fun stack s => ⟨0, fun fuel => by rw [Nat.zero_add]; rfl⟩
  | cons a items ih =>
    intro stack s
    obtain ⟨n, hn⟩ := h a List.mem_cons_self (items.map frame ++ stack) s
    have hrest := ih fun b hb => h b (List.mem_cons_of_mem a hb)
    rw [List.flatMap_singleton, List.map_singleton, List.singleton_append] at hn
    rcases hfirst : emitAll emit (out a) s with ⟨e | ⟨⟩, s'⟩
    · refine ⟨n, fun fuel => ?_⟩
      rw [List.map_cons, List.cons_append, hn fuel, List.flatMap_cons, emitAll_append, hfirst]
      rfl
    · obtain ⟨m, hm⟩ := hrest stack s'
      refine ⟨n + m, fun fuel => ?_⟩
      rw [List.map_cons, List.cons_append, Nat.add_assoc, hn (m + fuel), List.flatMap_cons,
        emitAll_append, hfirst]
      exact hm fuel

/-- The loop emits what the recursion gives. -/
theorem run_eq (h : Follows step emit frame own next)
    (hout : ∀ a, out a = own a ++ (next a).flatMap out) (items : List A) (s : S) :
    ∃ n, ∀ fuel, run step (n + fuel) (items.map frame) s =
      some (emitAll emit (items.flatMap out) s) := by
  have hone : ∀ a, Processes step emit frame out [a] := by
    intro a
    induction a using h.wellFounded.induction with
    | _ a ih =>
      intro stack s
      rw [List.flatMap_singleton, List.map_singleton, List.singleton_append, hout a]
      rcases hown : emitAll emit (own a) s with ⟨e | ⟨⟩, s'⟩
      · refine ⟨1, fun fuel => ?_⟩
        rw [Nat.add_comm, run, h.step_eq, hown, emitAll_append, hown]
        rfl
      · obtain ⟨n, hn⟩ := processes_of_forall ih stack s'
        refine ⟨n + 1, fun fuel => ?_⟩
        rw [Nat.add_right_comm, run, h.step_eq, hown, emitAll_append, hown]
        exact hn fuel
  obtain ⟨n, hn⟩ := processes_of_forall (fun a _ => hone a) [] s
  refine ⟨n, fun fuel => ?_⟩
  have hrun := hn fuel
  rw [List.append_nil] at hrun
  rw [hrun]
  rcases emitAll emit (items.flatMap out) s with ⟨e | ⟨⟩, s'⟩
  · rfl
  · cases fuel <;> rfl

end StackLoop
