import Mathlib.Data.List.Basic

/-!
# Streaming tokenizers

A tokenizer reads one token at a time from the front of a buffer and may ask for more
input.  When a token, once read, does not depend on what comes after it, the tokens of a
stream do not depend on how the stream is cut into pieces: what is left of one piece is
put in front of the next.

## Key results
- `run_append`: reading on where the first piece stopped is reading both pieces at once
- `feed_eq_run`: reading a stream in pieces is reading it whole
- `flatMap_run`: tokens that spell what they take lose nothing
-/

universe u v

/-- A reader of one token, which is settled by the bytes it takes. -/
structure Tokenizer (β : Type u) (τ : Type v) where
  next : List β → Option (τ × List β)
  shrinks : ∀ {b : List β} {t : τ} {r : List β}, next b = some (t, r) → r.length < b.length
  stable : ∀ {b : List β} {t : τ} {r : List β}, next b = some (t, r) →
    ∀ x, next (b ++ x) = some (t, r ++ x)

namespace Tokenizer

variable {β : Type u} {τ : Type v} (T : Tokenizer β τ)

/-- The tokens at the front of a buffer, and what is left of it. -/
def run (b : List β) : List τ × List β :=
  match h : T.next b with
  | none => ([], b)
  | some (t, r) =>
    have : r.length < b.length := T.shrinks h
    (t :: (run r).1, (run r).2)
termination_by b.length

/-- Read pieces one after the other, each behind what the last one left. -/
def feed (held : List β) : List (List β) → List τ × List β
  | [] => ([], held)
  | piece :: pieces =>
    let (ts, rest) := T.run (held ++ piece)
    (ts ++ (feed rest pieces).1, (feed rest pieces).2)

variable {T}

theorem run_of_none {b : List β} (h : T.next b = none) : T.run b = ([], b) := by
  rw [run]
  split
  · rfl
  · rename_i hsome
    rw [h] at hsome
    exact nomatch hsome

theorem run_of_some {b r : List β} {t : τ} (h : T.next b = some (t, r)) :
    T.run b = (t :: (T.run r).1, (T.run r).2) := by
  rw [run]
  split
  · rename_i hnone
    rw [h] at hnone
    exact nomatch hnone
  · rename_i hsome
    cases h.symm.trans hsome
    rfl

/-- What is left starts with no token. -/
theorem next_run (b : List β) : T.next (T.run b).2 = none := by
  induction b using run.induct (T := T) with
  | case1 b h =>
    rw [run_of_none h]
    exact h
  | case2 b t r h hlt ih =>
    rw [run_of_some h]
    exact ih

/-- Reading on where the first piece stopped is reading both pieces at once. -/
theorem run_append (b x : List β) : T.run (b ++ x) =
    ((T.run b).1 ++ (T.run ((T.run b).2 ++ x)).1, (T.run ((T.run b).2 ++ x)).2) := by
  induction b using run.induct (T := T) with
  | case1 b h =>
    rw [run_of_none h]
    rfl
  | case2 b t r h hlt ih =>
    rw [run_of_some (T.stable h x), run_of_some h, ih]
    rfl

/-- Reading a stream in pieces is reading it whole. -/
theorem feed_eq_run (held : List β) (pieces : List (List β)) :
    T.feed (T.run held).2 pieces =
      ((T.run ((T.run held).2 ++ pieces.flatten)).1,
        (T.run ((T.run held).2 ++ pieces.flatten)).2) := by
  induction pieces generalizing held with
  | nil =>
    rw [List.flatten_nil, List.append_nil, run_of_none (next_run held)]
    rfl
  | cons piece pieces ih =>
    rw [List.flatten_cons, ← List.append_assoc, run_append]
    simp only [feed]
    rw [ih]

/-- Tokens that spell what they take lose nothing. -/
theorem flatMap_run {spell : τ → List β}
    (h : ∀ b t r, T.next b = some (t, r) → b = spell t ++ r) (b : List β) :
    (T.run b).1.flatMap spell ++ (T.run b).2 = b := by
  induction b using run.induct (T := T) with
  | case1 b hnone =>
    rw [run_of_none hnone]
    rfl
  | case2 b t r hsome hlt ih =>
    rw [run_of_some hsome, List.flatMap_cons, List.append_assoc, ih]
    exact (h b t r hsome).symm

end Tokenizer
