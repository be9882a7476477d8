import AxSsh.Native.TerminalMonitor
import Mathlib.Tactic.Common

/-!
# When focused output is drawn

Calls at times that do not go back keep the timestamps of a presentation in order: it was drawn
last, then the pending output began, then the last output came.  The deadline is squeezed between
two of them.  It is not before the last drawing and the settle interval, and output that goes on
can move it no further than the end of the pending batch's window or of the frame.

## Key results
- `Ordered.call`: a call keeps the timestamps in order
- `deadline_focused`: what the deadline is while output is pending
- `focused_output_presented`: the deadline after any sequence of calls
-/

namespace AxSsh

/-- The operations of `TerminalPresentationState` that change it. -/
inductive PresentationCall where
  | recordOutput
  | markPresented
  | clearPending
deriving DecidableEq, Repr

namespace TerminalPresentationPolicy

/-- `settle_interval` of a focused pane. -/
def settleInterval (policy : TerminalPresentationPolicy) : Nat :=
  min focusedFastInterval policy.focusedInterval

theorem settleInterval_le (policy : TerminalPresentationPolicy) :
    policy.settleInterval ≤ policy.focusedInterval :=
  Nat.min_le_right _ _

/-- The longest time between two frames of a focused pane. -/
def longestInterval (policy : TerminalPresentationPolicy) : Nat :=
  max focusedSustainedInterval policy.focusedInterval

end TerminalPresentationPolicy

namespace TerminalPresentationState

def call (s : TerminalPresentationState) (c : PresentationCall × Nat) :
    TerminalPresentationState :=
  match c.1 with
  | .recordOutput => s.recordOutput c.2
  | .markPresented => s.markPresented c.2
  | .clearPending => s.clearPending

/-- The state after a sequence of calls. -/
def run (calls : List (PresentationCall × Nat)) : TerminalPresentationState :=
  calls.foldl call {}

/-- The interval between two frames that `deadline` uses for a focused pane. -/
def currentInterval (policy : TerminalPresentationPolicy) (s : TerminalPresentationState) : Nat :=
  if policy.softwareRenderer then policy.focusedInterval else s.focusedInterval policy

/-! ## The order of the timestamps -/

/-- The timestamps at some point of a sequence of calls, the last of them at `now`. -/
structure Ordered (now : Nat) (s : TerminalPresentationState) : Prop where
  dirty : s.dirty = s.pendingSince.isSome
  output : ∀ since : Nat, s.pendingSince = some since →
    ∃ last : Nat, s.lastOutputAt = some last ∧ since ≤ last
  presented : ∀ since drawn : Nat, s.pendingSince = some since → s.lastPresentedAt = some drawn →
    drawn ≤ since
  past : ∀ t : Nat, s.pendingSince = some t ∨ s.lastPresentedAt = some t → t ≤ now

theorem ordered_new : Ordered 0 {} where
  dirty := rfl
  output := nofun
  presented := nofun
  past := nofun

variable {s : TerminalPresentationState} {now : Nat}

/-- A batch begins with its first output. -/
theorem pendingSince_recordOutput (t : Nat) (s : TerminalPresentationState) :
    (s.recordOutput t).pendingSince = some (s.pendingSince.getD t) := rfl

theorem Ordered.recordOutput (h : s.Ordered now) {t : Nat} (ht : now ≤ t) :
    (s.recordOutput t).Ordered t := by
  -- the batch began with this call or with an earlier one
  have hsince : ∃ since : Nat, (s.recordOutput t).pendingSince = some since ∧ since ≤ t ∧
      ∀ drawn : Nat, s.lastPresentedAt = some drawn → drawn ≤ since := by
    rcases hp : s.pendingSince with _ | (first : Nat)
    · refine ⟨t, by rw [pendingSince_recordOutput, hp]; rfl, Nat.le_refl t, fun drawn hdrawn => ?_⟩
      have hpast := h.past drawn (.inr hdrawn)
      omega
    · have hpast := h.past first (.inl hp)
      exact ⟨first, by rw [pendingSince_recordOutput, hp]; rfl, by omega,
        fun drawn hdrawn => h.presented first drawn hp hdrawn⟩
  obtain ⟨since, hsome, hle, hdrawn⟩ := hsince
  refine ⟨rfl, ?_, ?_, ?_⟩
  · intro since' hsince'
    obtain rfl := Option.some.inj (hsome.symm.trans hsince')
    exact ⟨t, rfl, hle⟩
  · intro since' drawn hsince' hpresented
    obtain rfl := Option.some.inj (hsome.symm.trans hsince')
    exact hdrawn drawn hpresented
  · rintro t' (ht' | ht')
    · obtain rfl := Option.some.inj (hsome.symm.trans ht')
      exact hle
    · exact Nat.le_trans (h.past t' (.inr ht')) ht

theorem Ordered.markPresented (t : Nat) : (s.markPresented t).Ordered t where
  dirty := rfl
  output := nofun
  presented := nofun
  past t' ht' := by
    rcases ht' with ht' | ht'
    · cases ht'
    · exact (Option.some.inj ht').ge

theorem Ordered.clearPending (h : s.Ordered now) {t : Nat} (ht : now ≤ t) :
    s.clearPending.Ordered t where
  dirty := rfl
  output := nofun
  presented := nofun
  past t' ht' := by
    rcases ht' with ht' | ht'
    · cases ht'
    · exact Nat.le_trans (h.past t' (.inr ht')) ht

theorem Ordered.call (h : s.Ordered now) {c : PresentationCall × Nat} (ht : now ≤ c.2) :
    (s.call c).Ordered c.2 := by
  obtain ⟨c, t⟩ := c
  cases c with
  | recordOutput => exact h.recordOutput ht
  | markPresented => exact .markPresented t
  | clearPending => exact h.clearPending ht

theorem Ordered.run_from (h : s.Ordered now) {calls : List (PresentationCall × Nat)}
    (hnow : ∀ c ∈ calls, now ≤ c.2) (hsorted : calls.Pairwise (·.2 ≤ ·.2)) :
    ∃ later, (calls.foldl TerminalPresentationState.call s).Ordered later := by
  induction calls generalizing s now with
  | nil => exact ⟨now, h⟩
  | cons c calls ih =>
    obtain ⟨hc, hrest⟩ := List.pairwise_cons.mp hsorted
    exact ih (h.call (hnow c (List.mem_cons_self ..))) hc hrest

/-- Every sequence of calls in the order of their times leaves the timestamps in order. -/
theorem ordered_run {calls : List (PresentationCall × Nat)}
    (hsorted : calls.Pairwise (·.2 ≤ ·.2)) : ∃ now, (run calls).Ordered now :=
  ordered_new.run_from (fun _ _ => Nat.zero_le _) hsorted

/-! ## The deadline -/

theorem focusedInterval_eq (policy : TerminalPresentationPolicy) (s : TerminalPresentationState) :
    ∃ interval ≤ focusedSustainedInterval,
      s.focusedInterval policy = max interval policy.focusedInterval := by
  have hchoice : ∀ duration : Nat, ∃ interval ≤ focusedSustainedInterval,
      (if sustainedAfter ≤ duration then max focusedSustainedInterval policy.focusedInterval
        else if balancedAfter ≤ duration then max focusedBalancedInterval policy.focusedInterval
        else max focusedFastInterval policy.focusedInterval) =
      max interval policy.focusedInterval := by
    intro duration
    split
    · exact ⟨_, Nat.le_refl _, rfl⟩
    · split
      · exact ⟨_, by decide, rfl⟩
      · exact ⟨_, by decide, rfl⟩
  exact hchoice _

theorem currentInterval_le (policy : TerminalPresentationPolicy) (s : TerminalPresentationState) :
    s.currentInterval policy ≤ policy.longestInterval := by
  unfold currentInterval TerminalPresentationPolicy.longestInterval
  split
  · exact Nat.le_max_right _ _
  · obtain ⟨interval, hle, heq⟩ := s.focusedInterval_eq policy
    omega

theorem settleInterval_le_currentInterval (policy : TerminalPresentationPolicy)
    (s : TerminalPresentationState) : policy.settleInterval ≤ s.currentInterval policy := by
  unfold currentInterval
  have hsettle := policy.settleInterval_le
  split
  · exact hsettle
  · obtain ⟨interval, -, heq⟩ := s.focusedInterval_eq policy
    omega

/-- The latest deadline of a batch that began at `since`. -/
def latestDeadline (policy : TerminalPresentationPolicy) (since interval : Nat)
    (s : TerminalPresentationState) : Nat :=
  max (since + policy.settleInterval * 2)
    ((s.lastPresentedAt.map fun drawn : Nat => drawn + interval).getD 0)

theorem latestDeadline_mono (policy : TerminalPresentationPolicy) (since : Nat)
    {interval interval' : Nat} (h : interval ≤ interval') (s : TerminalPresentationState) :
    s.latestDeadline policy since interval ≤ s.latestDeadline policy since interval' := by
  unfold latestDeadline
  rcases s.lastPresentedAt with _ | (drawn : Nat)
  · exact Nat.le_refl _
  · simp only [Option.map_some, Option.getD_some]
    omega

/-- While output is pending, the deadline of a focused pane is there, neither too late nor too
    early. -/
theorem deadline_focused (h : s.Ordered now) (hdirty : s.dirty = true)
    (policy : TerminalPresentationPolicy) (t : Nat) :
    ∃ since deadline : Nat, s.pendingSince = some since ∧
      s.deadline .focused policy t = some deadline ∧
      deadline ≤ s.latestDeadline policy since (s.currentInterval policy) ∧
      ∀ drawn : Nat, s.lastPresentedAt = some drawn → drawn + policy.settleInterval ≤ deadline := by
  obtain ⟨(since : Nat), hsince⟩ := Option.isSome_iff_exists.mp (h.dirty.symm.trans hdirty)
  obtain ⟨last, hlast, hle⟩ := h.output since hsince
  have hsettle := s.settleInterval_le_currentInterval policy
  -- the frame, and the quiet time after the last output within the window of the batch
  let frame : Nat := if s.firstFrame then since + policy.settleInterval
    else (s.lastPresentedAt.map fun drawn : Nat => drawn + s.currentInterval policy).getD since
  let quiet : Nat := min (last + policy.settleInterval) (since + policy.settleInterval * 2)
  have hdeadline : s.deadline .focused policy t = some (max frame quiet) := by
    simp only [deadline, hdirty, hsince, hlast]
    rfl
  have hframe : frame ≤ s.latestDeadline policy since (s.currentInterval policy) := by
    unfold frame latestDeadline
    split
    · omega
    · rcases s.lastPresentedAt with _ | (drawn : Nat)
      · simp only [Option.map_none, Option.getD_none]; omega
      · simp only [Option.map_some, Option.getD_some]; omega
  have hquiet : quiet ≤ s.latestDeadline policy since (s.currentInterval policy) := by
    unfold quiet latestDeadline
    omega
  refine ⟨since, max frame quiet, hsince, hdeadline, by omega, fun drawn hdrawn => ?_⟩
  have hbefore := h.presented since drawn hsince hdrawn
  unfold quiet
  omega

/-! ## More output -/

/-- Output at these times. -/
def outputs (times : List Nat) : List (PresentationCall × Nat) :=
  times.map fun t => (.recordOutput, t)

/-- Output keeps the batch that is pending, and when it was drawn last. -/
theorem run_outputs {since : Nat} (hsince : s.pendingSince = some since) (hdirty : s.dirty = true)
    (times : List Nat) :
    ((outputs times).foldl call s).pendingSince = some since ∧
      ((outputs times).foldl call s).dirty = true ∧
      ((outputs times).foldl call s).lastPresentedAt = s.lastPresentedAt := by
  induction times generalizing s with
  | nil => exact ⟨hsince, hdirty, rfl⟩
  | cons t times ih =>
    have hstep : (s.call (.recordOutput, t)).pendingSince = some since := by
      simp [call, recordOutput, hsince]
    exact ih hstep rfl

/-- After any calls in the order of their times, pending output of a focused pane has a deadline.
    It is at most the end of the batch's window or of the current frame, whatever output follows,
    and at least a settle interval after the last drawing; and only a drawing or a clearing ends
    the batch. -/
theorem focused_output_presented (policy : TerminalPresentationPolicy)
    {calls : List (PresentationCall × Nat)} (hsorted : calls.Pairwise (·.2 ≤ ·.2))
    (hdirty : (run calls).dirty = true) :
    (∃ since : Nat, (run calls).pendingSince = some since ∧
      ∀ times t, (calls ++ outputs times).Pairwise (·.2 ≤ ·.2) →
        ∃ deadline : Nat,
          (run (calls ++ outputs times)).deadline .focused policy t = some deadline ∧
          deadline ≤ (run calls).latestDeadline policy since
            ((run (calls ++ outputs times)).currentInterval policy) ∧
          deadline ≤ (run calls).latestDeadline policy since policy.longestInterval ∧
          ∀ drawn : Nat, (run calls).lastPresentedAt = some drawn →
            drawn + policy.settleInterval ≤ deadline) ∧
    ∀ c, ((run calls).call c).dirty = false → c.1 = .markPresented ∨ c.1 = .clearPending := by
  refine ⟨?_, fun ⟨c, t⟩ hcleared => ?_⟩
  · obtain ⟨now, hordered⟩ := ordered_run hsorted
    obtain ⟨(since : Nat), hsince⟩ :=
      Option.isSome_iff_exists.mp (hordered.dirty.symm.trans hdirty)
    refine ⟨since, hsince, fun times t hall => ?_⟩
    have hrun : run (calls ++ outputs times) = (outputs times).foldl call (run calls) :=
      List.foldl_append ..
    obtain ⟨hsince', hdirty', hdrawn'⟩ := run_outputs hsince hdirty times
    obtain ⟨later, hlater⟩ := ordered_run hall
    rw [← hrun] at hsince' hdirty' hdrawn'
    obtain ⟨since', deadline, hsome, hdeadline, hle, hge⟩ :=
      deadline_focused hlater hdirty' policy t
    obtain rfl := Option.some.inj (hsince'.symm.trans hsome)
    -- the batch and the last drawing are those from before the output
    have hlatest : ∀ interval, (run (calls ++ outputs times)).latestDeadline policy since interval =
        (run calls).latestDeadline policy since interval := by
      intro interval
      unfold latestDeadline
      rw [hdrawn']
    rw [hlatest] at hle
    have hlongest := latestDeadline_mono policy since
      (currentInterval_le policy (run (calls ++ outputs times))) (run calls)
    exact ⟨deadline, hdeadline, hle, Nat.le_trans hle hlongest,
      fun drawn hdrawn => hge drawn (hdrawn'.trans hdrawn)⟩
  · cases c with
    | recordOutput => cases hcleared
    | markPresented => exact .inl rfl
    | clearPending => exact .inr rfl

/-- A screen drawn at 1 s, with output 10 ms later, at the default rates. -/
theorem output_after_drawing_presented :
    ((run [(.recordOutput, 0), (.markPresented, 1000000000),
        (.recordOutput, 1010000000)]).deadline .focused {} 1010000000).isSome := by
  have hsorted : ([(.recordOutput, 0), (.markPresented, 1000000000),
      (.recordOutput, 1010000000)] : List (PresentationCall × Nat)).Pairwise (·.2 ≤ ·.2) := by
    decide
  obtain ⟨⟨since, hsince, h⟩, -⟩ := focused_output_presented {} hsorted rfl
  obtain ⟨deadline, hdeadline, -⟩ := h [] 1010000000 (by decide)
  exact Option.isSome_iff_exists.mpr ⟨deadline, hdeadline⟩

end TerminalPresentationState

end AxSsh
