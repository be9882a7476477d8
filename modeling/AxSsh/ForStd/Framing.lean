import Mathlib.Data.List.Basic

/-!
# Framed byte streams

A byte stream that is cut into frames by looking at the bytes so far: `frame` says of the
bytes since the last frame whether they are a whole frame, the start of one, or neither.
The stream arrives with pauses, ends and errors between its bytes.

`due` is what a reader should ever get of a stream, the whole frames up to the first defect;
`burst` is what it can get before the stream next pauses, with whether a defect stops it
first.

## Key results
- `due_chunk`, `burst_chunk`: bytes that complete at most one frame can be taken at once
- `due_eq_burst`: before a defect, what comes in one burst is all there is
-/

universe u

namespace Framing

/-- What the bytes since the last frame are. -/
inductive Verdict where
  | incomplete
  | complete
  | invalid
deriving DecidableEq, Repr

/-- One event of a byte stream. -/
inductive Symbol (β : Type u) where
  | byte (b : β)
  | pending
  | eof
  | error
deriving DecidableEq, Repr

variable {β : Type u} (frame : List β → Verdict)

/-- The whole frames of a stream, up to its first defect, when `held` bytes of a frame have
    arrived. -/
def due (held : List β) : List (Symbol β) → List β
  | [] => []
  | .byte b :: rest =>
    match frame (held ++ [b]) with
    | .incomplete => due (held ++ [b]) rest
    | .complete => held ++ [b] ++ due [] rest
    | .invalid => []
  | .pending :: rest => due held rest
  | .eof :: rest => if held.isEmpty then due [] rest else []
  | .error :: _ => []

/-- The whole frames that arrive before the stream next pauses, and whether it is a defect
    that ends them. -/
def burst (held : List β) : List (Symbol β) → List β × Bool
  | [] => ([], false)
  | .byte b :: rest =>
    match frame (held ++ [b]) with
    | .incomplete => burst (held ++ [b]) rest
    | .complete => (held ++ [b] ++ (burst [] rest).1, (burst [] rest).2)
    | .invalid => ([], true)
  | .pending :: _ => ([], false)
  | .eof :: _ => ([], !held.isEmpty)
  | .error :: _ => ([], true)

/-- `chunk` reaches at most the end of the frame that starts with `held`. -/
def Within (held chunk : List β) : Prop :=
  ∀ l r, chunk = l ++ r → l ≠ [] → r ≠ [] → frame (held ++ l) = .incomplete

variable {frame}

theorem Within.tail {held chunk : List β} {b : β} (h : Within frame held (b :: chunk)) :
    Within frame (held ++ [b]) chunk := by
  intro l r he hl hr
  have := h (b :: l) r (by rw [he, List.cons_append]) (List.cons_ne_nil b l) hr
  rwa [List.append_assoc, List.singleton_append]

/-- The first byte of a longer chunk does not end the frame. -/
theorem Within.head {held chunk : List β} {b : β} (h : Within frame held (b :: chunk))
    (hne : chunk ≠ []) : frame (held ++ [b]) = .incomplete :=
  h [b] chunk rfl (List.cons_ne_nil b []) hne

/-- Bytes within one frame can be taken at once. -/
theorem due_chunk {held chunk : List β} (hne : chunk ≠ []) (h : Within frame held chunk)
    (rest : List (Symbol β)) : due frame held (chunk.map .byte ++ rest) =
      match frame (held ++ chunk) with
      | .incomplete => due frame (held ++ chunk) rest
      | .complete => held ++ chunk ++ due frame [] rest
      | .invalid => [] := by
  induction chunk generalizing held with
  | nil => exact absurd rfl hne
  | cons b chunk ih =>
    cases chunk with
    | nil => rfl
    | cons b' chunk =>
      have hhead := h.head (List.cons_ne_nil b' chunk)
      have htail := ih (List.cons_ne_nil b' chunk) h.tail
      rw [List.append_assoc, List.singleton_append] at htail
      rw [← htail]
      simp only [List.map_cons, List.cons_append, due, hhead]

/-- The same for a burst. -/
theorem burst_chunk {held chunk : List β} (hne : chunk ≠ []) (h : Within frame held chunk)
    (rest : List (Symbol β)) : burst frame held (chunk.map .byte ++ rest) =
      match frame (held ++ chunk) with
      | .incomplete => burst frame (held ++ chunk) rest
      | .complete => (held ++ chunk ++ (burst frame [] rest).1, (burst frame [] rest).2)
      | .invalid => ([], true) := by
  induction chunk generalizing held with
  | nil => exact absurd rfl hne
  | cons b chunk ih =>
    cases chunk with
    | nil => rfl
    | cons b' chunk =>
      have hhead := h.head (List.cons_ne_nil b' chunk)
      have htail := ih (List.cons_ne_nil b' chunk) h.tail
      rw [List.append_assoc, List.singleton_append] at htail
      rw [← htail]
      simp only [List.map_cons, List.cons_append, burst, hhead]

/-- When a defect ends a burst, nothing is due after it. -/
theorem due_eq_burst {held : List β} {symbols : List (Symbol β)}
    (h : (burst frame held symbols).2 = true) :
    due frame held symbols = (burst frame held symbols).1 := by
  induction symbols generalizing held with
  | nil => exact nomatch h
  | cons symbol rest ih =>
    cases symbol with
    | byte b =>
      simp only [burst, due] at h ⊢
      split
      · rename_i hframe
        simp only [hframe] at h
        exact ih h
      · rename_i hframe
        simp only [hframe] at h
        rw [ih h]
      · rfl
    | pending => exact nomatch h
    | eof =>
      simp only [burst, Bool.not_eq_true'] at h
      simp only [burst, due, h, Bool.false_eq_true, if_false]
    | error => rfl

end Framing
