import AxSsh.Spec.TransferLifecycle

/-!
# Finished transfers stay finished

The life cycle of `TransferLifecycle` lifted to runs of browser operations: a listed
transfer in a terminal phase keeps it for as long as it stays listed, at every step except
a `defer_recoverable_failure` that names it.

## Key results
- `step_terminal`: one operation leaves a terminal row in its phase
- `terminalAbsorbing_iff`: the runs in which terminal phases are absorbing are exactly
  those that never defer a terminal transfer
-/

namespace AxSsh

namespace SftpTransferPhase

/-- The phases in which a transfer is over. -/
def terminal : SftpTransferPhase → Bool
  | completed | cancelled | failed | skipped => true
  | _ => false

/-- A phase is terminal exactly when it is not active. -/
theorem terminal_eq_not_active (p : SftpTransferPhase) : p.terminal = !p.active := by
  cases p <;> rfl

end SftpTransferPhase

namespace SftpBrowserState

/-- The phase of a listed transfer. -/
def phase? (s : SftpBrowserState) (t : Uuid) : Option SftpTransferPhase :=
  (s.transfer? t).map (·.phase)

/-- A transfer with a phase has a row in that phase. -/
theorem transfer?_of_phase? {s : SftpBrowserState} {t : Uuid} {p : SftpTransferPhase}
    (h : s.phase? t = some p) : ∃ x, s.transfer? t = some x ∧ x.phase = p :=
  Option.map_eq_some_iff.mp h

/-- A transfer with a phase is listed. -/
theorem mem_ids_of_phase? {s : SftpBrowserState} {t : Uuid} {p : SftpTransferPhase}
    (h : s.phase? t = some p) : t ∈ s.ids := by
  obtain ⟨x, hx, _⟩ := transfer?_of_phase? h
  exact transfer?_isSome.mp (by rw [hx]; rfl)

/-! ## Runs -/

@[simp] theorem run_nil (s : SftpBrowserState) : run s [] = s := rfl

theorem run_append (s : SftpBrowserState) (ops ops' : List BrowserOp) :
    run s (ops ++ ops') = run (run s ops) ops' := List.foldl_append

theorem run_snoc (s : SftpBrowserState) (ops : List BrowserOp) (op : BrowserOp) :
    run s (ops ++ [op]) = (run s ops).step op := run_append s ops [op]

/-! ## One operation -/

/-- Deferring a listed transfer queues it, whatever its phase was. -/
theorem phase?_deferRecoverableFailure {s : SftpBrowserState} {t : Uuid}
    {p : SftpTransferPhase} (h : s.phase? t = some p) (message : String) :
    (s.deferRecoverableFailure t message).phase? t = some .queued := by
  obtain ⟨x, hx, _⟩ := transfer?_of_phase? h
  have hrow := transfer?_deferRecoverableFailure s t message t
  rw [if_pos rfl, hx] at hrow
  exact congrArg (Option.map (·.phase)) hrow

/-- One operation leaves a listed terminal row in its phase, or unlists it. -/
theorem step_terminal {s : SftpBrowserState} (hs : s.ids.Nodup) {op : BrowserOp} {t : Uuid}
    {p : SftpTransferPhase} (h : s.phase? t = some p) (hp : p.terminal)
    (hop : ∀ message, op ≠ .deferRecoverableFailure t message)
    (hlisted : t ∈ (s.step op).ids) : (s.step op).phase? t = some p := by
  obtain ⟨x, hx, rfl⟩ := transfer?_of_phase? h
  rw [SftpTransferPhase.terminal_eq_not_active] at hp
  rcases step_follows_lifecycle hs op t hop x hx with hnone | ⟨y, hy, _, hstep⟩
  · exact absurd hlisted (notMem_ids hnone)
  · have hphase : y.phase = x.phase := hstep.of_finished (by simpa using hp)
    unfold phase?
    rw [hy, ← hphase]
    rfl

/-! ## Whole runs -/

/-- In a run, a listed transfer that has reached a terminal phase keeps it for as long as
    it stays listed. -/
def TerminalAbsorbing (ops : List BrowserOp) : Prop :=
  ∀ pre mid, pre ++ mid <+: ops → ∀ t p, (run {} pre).phase? t = some p → p.terminal →
    (∀ mid', mid' <+: mid → t ∈ (run {} (pre ++ mid')).ids) →
    (run {} (pre ++ mid)).phase? t = some p

/-- No step of a run defers a recoverable failure of a listed transfer that is terminal. -/
def NoTerminalDefer (ops : List BrowserOp) : Prop :=
  ∀ pre t message, pre ++ [.deferRecoverableFailure t message] <+: ops →
    ∀ p, (run {} pre).phase? t = some p → p.terminal = false

/-- Without a deferred failure of a terminal transfer, terminal phases are absorbing. -/
private theorem terminalAbsorbing_of_noTerminalDefer {ops : List BrowserOp}
    (h : NoTerminalDefer ops) : TerminalAbsorbing ops := by
  intro pre mid hmid t p hphase hp
  -- induction on the steps taken since the phase was observed
  induction mid using List.reverseRecOn with
  | nil =>
    intro _
    rwa [List.append_nil]
  | append_singleton mid op ih =>
    intro hlisted
    have hprefix : pre ++ mid <+: ops := by
      rw [← List.append_assoc] at hmid
      exact (List.prefix_append _ _).trans hmid
    have hbefore := ih hprefix fun mid' hm => hlisted mid' (hm.trans (List.prefix_append _ _))
    have hafter := hlisted (mid ++ [op]) (List.prefix_refl _)
    rw [← List.append_assoc, run_snoc] at hafter ⊢
    refine step_terminal (run_nodup_ids _) hbefore hp (fun message hop => ?_) hafter
    have hnot := h (pre ++ mid) t message (by rwa [← hop, List.append_assoc]) p hbefore
    rw [hp] at hnot
    exact nomatch hnot

/-- Deferring the failure of a terminal transfer queues it while it stays listed. -/
private theorem noTerminalDefer_of_terminalAbsorbing {ops : List BrowserOp}
    (h : TerminalAbsorbing ops) : NoTerminalDefer ops := by
  intro pre t message hpre p hphase
  by_contra hp
  rw [Bool.not_eq_false] at hp
  have hqueued : (run {} (pre ++ [.deferRecoverableFailure t message])).phase? t =
      some .queued := by
    rw [run_snoc]
    exact phase?_deferRecoverableFailure hphase message
  have hkept := h pre [.deferRecoverableFailure t message] hpre t p hphase hp fun mid' hm => by
    rcases List.prefix_cons_iff.mp hm with rfl | ⟨rest, rfl, hrest⟩
    · rw [List.append_nil]
      exact mem_ids_of_phase? hphase
    · rw [List.prefix_nil.mp hrest]
      exact mem_ids_of_phase? hqueued
  rw [hqueued] at hkept
  cases hkept
  exact nomatch hp

/-- Terminal phases are absorbing in exactly the runs that never defer the recoverable
    failure of a terminal transfer. -/
theorem terminalAbsorbing_iff (ops : List BrowserOp) :
    TerminalAbsorbing ops ↔ NoTerminalDefer ops :=
  ⟨noTerminalDefer_of_terminalAbsorbing, terminalAbsorbing_of_noTerminalDefer⟩

/-- A cancelled upload that fails for good and then fails recoverably is queued again. -/
theorem deferred_failure_revives : ¬TerminalAbsorbing
    [.queueUploadTransfer 1 "a" 4 "/a" "/srv/a", .requestTransferCancel 1,
      .finishTransfer 1 .failed "transfer is no longer active",
      .deferRecoverableFailure 1 "connection closed"] := by
  intro h
  have hfailed := noTerminalDefer_of_terminalAbsorbing h
    [.queueUploadTransfer 1 "a" 4 "/a" "/srv/a", .requestTransferCancel 1,
      .finishTransfer 1 .failed "transfer is no longer active"]
    1 "connection closed" (List.prefix_refl _) .failed rfl
  exact nomatch hfailed

end SftpBrowserState

end AxSsh
