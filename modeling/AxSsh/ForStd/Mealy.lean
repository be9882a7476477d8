import Mathlib.Data.List.Basic

/-!
# Mealy machines

A machine that answers every input with a list of outputs.

## Key results
- `outputs_append`: the outputs of two runs in a row
-/

universe u v w

namespace Mealy

variable {S : Type u} {A : Type v} {B : Type w} (step : S → A → S × List B)

def finalState (s : S) (inputs : List A) : S := inputs.foldl (fun s a => (step s a).1) s

def outputs (s : S) : List A → List B
  | [] => []
  | a :: inputs => (step s a).2 ++ outputs (step s a).1 inputs

@[simp] theorem finalState_append (s : S) (inputs inputs' : List A) :
    finalState step s (inputs ++ inputs') = finalState step (finalState step s inputs) inputs' :=
  List.foldl_append

theorem outputs_append (s : S) (inputs inputs' : List A) :
    outputs step s (inputs ++ inputs') =
      outputs step s inputs ++ outputs step (finalState step s inputs) inputs' := by
  induction inputs generalizing s with
  | nil => rfl
  | cons a inputs ih =>
    rw [List.cons_append, outputs, outputs, ih, List.append_assoc]
    rfl

end Mealy
