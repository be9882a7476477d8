import Mathlib.Data.List.Basic

/-!
# Reading a list range by range

A source is read through ranges that follow one another, and what was asked for a range arrives
piece by piece.  Whoever takes the complete ranges in their order has a start of the source.

## Key results
- `Abut.push`: ranges that follow one another
- `Arrived.extend`: the next piece of a range
- `Arrived.take_append`: a complete range extends the start of the source
-/

universe u

namespace RangeReads

variable {α : Type u}

/-! ## Ranges -/

/-- Ranges, each an offset with a length, that follow one another from `start` to `stop`. -/
def Abut : Nat → List (Nat × Nat) → Nat → Prop
  | start, [], stop => start = stop
  | start, (offset, length) :: ranges, stop => offset = start ∧ Abut (start + length) ranges stop

theorem Abut.push {start stop : Nat} {ranges : List (Nat × Nat)} (h : Abut start ranges stop)
    (length : Nat) : Abut start (ranges ++ [(stop, length)]) (stop + length) := by
  induction ranges generalizing start with
  | nil =>
    subst h
    exact ⟨rfl, rfl⟩
  | cons range ranges ih => exact ⟨h.1, ih h.2⟩

theorem Abut.le {start stop : Nat} {ranges : List (Nat × Nat)} (h : Abut start ranges stop) :
    start ≤ stop := by
  induction ranges generalizing start with
  | nil => exact Nat.le_of_eq h
  | cons range ranges ih =>
    have hrest := ih h.2
    omega

/-! ## What has arrived -/

/-- `got` is the first part of a range of the source. -/
def Arrived (source : List α) (offset length : Nat) (got : List α) : Prop :=
  got <+: (source.drop offset).take length

variable {source got data : List α} {offset length : Nat}

theorem Arrived.nil : Arrived source offset length [] := List.nil_prefix

theorem Arrived.length_le (h : Arrived source offset length got) : got.length ≤ length :=
  Nat.le_trans (List.IsPrefix.length_le h) (List.length_take_le _ _)

/-- The next piece of a range is read where the last one ended. -/
theorem Arrived.extend (h : Arrived source offset length got)
    (hdata : Arrived source (offset + got.length) (length - got.length) data) :
    Arrived source offset length (got ++ data) := by
  obtain ⟨rest, hrest⟩ := h
  have hdrop : ((source.drop offset).take length).drop got.length = rest := by
    rw [← hrest, List.drop_left]
  rw [List.drop_take, List.drop_drop] at hdrop
  rw [Arrived, hdrop] at hdata
  rw [Arrived, ← hrest]
  exact (List.prefix_append_right_inj got).mpr hdata

/-- A complete range is that range of the source. -/
theorem Arrived.eq (h : Arrived source offset length got) (hfull : got.length = length) :
    got = (source.drop offset).take length := by
  refine h.eq_of_length_le ?_
  rw [hfull]
  exact List.length_take_le _ _

theorem Arrived.take_append (h : Arrived source offset length got) (hfull : got.length = length) :
    source.take offset ++ got = source.take (offset + length) := by
  rw [List.take_add, ← h.eq hfull]

end RangeReads
