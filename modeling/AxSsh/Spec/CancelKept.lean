import AxSsh.Native.TransferReplay
import AxSsh.Spec.BrowserIntents

/-!
# A requested cancel is kept

A cancel that `request_transfer_cancel` accepts leaves the transfer `Cancelling` and without an
intent.  `Withdrawn` says what the rest of the run has to keep for that: no intent, and no
replay that has already found one.  From it the row can only finish or go, and no replay
submits the transfer.

Two things undo a cancel: `defer_recoverable_failure`, which queues the row whatever its phase
is, and a replay that was past its check of the intent when the cancel came.

## Key results
- `step_withdrawn`: one event keeps a transfer withdrawn, and sends no command for it
- `step_cancelling`: one event leaves a withdrawn `Cancelling` row so, finished or unlisted
- `cancel_kept`: in a run without these two, every accepted cancel is kept
-/

namespace AxSsh

namespace SftpBrowserState

variable {s : SftpBrowserState} {t : Uuid}

/-- The browser accepts a cancel of this transfer now. -/
def acceptsCancel (s : SftpBrowserState) (t : Uuid) : Bool := (s.requestTransferCancel t).2

/-- An accepted cancel leaves the row `Cancelling`. -/
theorem phase?_of_acceptsCancel (h : s.acceptsCancel t) :
    (s.requestTransferCancel t).1.phase? t = some .cancelling := by
  have hrow := (requestTransferCancel_snd s t).symm.trans h
  obtain ⟨x, hx, hcan⟩ := (Option.any_eq_true _ _).mp hrow
  unfold phase?
  rw [transfer?_requestTransferCancel, if_pos rfl, hx, Option.map_some, Option.map_some]
  unfold guarded
  rw [if_pos hcan]
  rfl

/-- An accepted cancel removes the intent. -/
theorem notMem_of_acceptsCancel (h : s.acceptsCancel t) :
    t ∉ (s.requestTransferCancel t).1.transferIntents := by
  unfold acceptsCancel requestTransferCancel at h
  unfold requestTransferCancel
  dsimp only at h ⊢
  split at h
  · rename_i hrow
    rw [if_pos hrow]
    exact fun hmem => (AList.mem_erase.mp hmem).1 rfl
  · exact nomatch h

/-- An operation that does not register a transfer leaves it unregistered. -/
theorem notMem_step (hs : s.OrderConsistent) {op : BrowserOp} (h : t ∉ s.transferIntents)
    (hop : op.registers ≠ some t) : t ∉ (s.step op).transferIntents := by
  have horder : t ∉ s.transferIntentOrder := fun hmem => h ((hs.mem_iff t).mp hmem)
  intro hmem
  have hmem' := ((step_orderConsistent hs op).mem_iff t).mpr hmem
  cases hreg : op.registers with
  | none => exact horder ((step_order (s := s) op).2 hreg |>.subset hmem')
  | some u =>
    rw [(step_order (s := s) op).1 u hreg] at hmem'
    split at hmem'
    · exact horder hmem'
    · rcases List.mem_append.mp hmem' with hold | hnew
      · exact horder hold
      · exact hop (hreg.trans (congrArg some (List.mem_singleton.mp hnew).symm))

/-- One operation leaves an unregistered `Cancelling` row so, finished or unlisted. -/
theorem step_cancelling (hs : s.ids.Nodup) {op : BrowserOp} (h : s.phase? t = some .cancelling)
    (ht : t ∉ s.transferIntents) (hop : ∀ message, op ≠ .deferRecoverableFailure t message) :
    ∀ p, (s.step op).phase? t = some p → p = .cancelling ∨ p.terminal := by
  intro p hp
  obtain ⟨x, hx, hphase⟩ := transfer?_of_phase? h
  obtain ⟨y, hy, rfl⟩ := transfer?_of_phase? hp
  rcases step_follows_lifecycle hs op t hop x hx with hnone | ⟨y', hy', _, hstep⟩
  · rw [hnone] at hy
    exact nomatch hy
  · obtain rfl := Option.some.inj (hy.symm.trans hy')
    rw [hphase] at hstep
    rcases hstep.of_cancelling ht with hsame | hfinished
    · exact .inl hsame
    · rw [SftpTransferPhase.terminal_eq_not_active, hfinished]
      exact .inr rfl

/-- An intent that is registered is registered under its transfer. -/
theorem mem_of_hasTransferIntent {intent : SftpTransferIntent} (h : s.hasTransferIntent intent) :
    intent.transferId ∈ s.transferIntents :=
  AssocMap.mem_iff_lookup.mpr ⟨intent, by simpa [hasTransferIntent] using h⟩

end SftpBrowserState

/-! ## One step of a replay -/

theorem SftpTransferIntent.transferId_submission (s : SftpBrowserState)
    (intent : SftpTransferIntent) : (intent.submission s).transferId = intent.transferId := by
  cases intent <;> rfl

/-- The operations of a browser that a replay performs. -/
def BrowserOp.byReplay : BrowserOp → Prop
  | .finishReplay => True
  | .finishTransfer _ phase _ => phase = .failed
  | _ => False

/-- An operation of a replay neither registers nor defers. -/
theorem BrowserOp.byReplay.quiet {op : BrowserOp} (h : op.byReplay) :
    op.registers = none ∧ ∀ t message, op ≠ .deferRecoverableFailure t message := by
  cases op with
  | finishReplay | finishTransfer => exact ⟨rfl, nofun⟩
  | _ => exact nomatch h

namespace ReplayTask

variable {task : ReplayTask} {tab : SftpTab} {t : Uuid}

/-- A replay leaves the route of the tab alone, and its browser up to one operation. -/
theorem step_tab (task : ReplayTask) (tab : SftpTab) (reply : SubmitReply) :
    (task.step tab reply).tab.sftp = tab.sftp ∨
      ∃ op : BrowserOp, op.byReplay ∧ (task.step tab reply).tab.sftp = tab.sftp.step op := by
  unfold step
  split
  · exact .inl rfl
  · unfold finishRound
    split
    · exact .inl rfl
    · split
      · exact .inr ⟨.finishReplay, trivial, rfl⟩
      · exact .inl rfl
  · exact .inl rfl
  · exact .inl rfl
  · cases reply <;> exact .inl rfl
  · exact .inl rfl
  · exact .inl rfl
  · exact .inr ⟨.finishTransfer _ .failed _, rfl, rfl⟩
  · exact .inl rfl

/-- A replay that holds nothing of an unregistered transfer comes to hold nothing of it, and
    sends no command for it. -/
theorem step_holds (reply : SubmitReply) (h : task.holds ≠ some t)
    (ht : t ∉ tab.sftp.transferIntents) :
    (task.step tab reply).task.holds ≠ some t ∧
      ∀ command ∈ (task.step tab reply).command, command.transferId ≠ t := by
  unfold step
  split
  case h_1 =>
    refine ⟨?_, nofun⟩
    unfold takeSnapshot
    split <;> exact nofun
  case h_2 =>
    unfold finishRound
    split
    · exact ⟨nofun, nofun⟩
    · split <;> exact ⟨nofun, nofun⟩
  case h_3 intent intents _ =>
    refine ⟨?_, nofun⟩
    unfold visit
    split
    · exact nofun
    · split
      · rename_i hcurrent
        unfold SftpTab.transferIntentIsCurrent at hcurrent
        -- the intent was looked up before it is submitted
        have hregistered := SftpBrowserState.mem_of_hasTransferIntent
          ((Bool.and_eq_true _ _).mp hcurrent).2
        exact fun heq => ht (Option.some.inj heq ▸ hregistered)
      · exact nofun
  case h_4 intent intents hstage =>
    unfold holds at h
    rw [hstage] at h
    refine ⟨?_, nofun⟩
    unfold holds
    dsimp only
    rwa [SftpTransferIntent.transferId_submission]
  case h_5 submission intent intents hstage =>
    unfold holds at h
    rw [hstage] at h
    cases reply with
    | sent =>
      refine ⟨by cases submission <;> exact nofun, fun command hcommand => ?_⟩
      obtain rfl := Option.mem_some.mp hcommand
      -- the command is the one for the transfer that the stage holds
      exact fun heq => h (congrArg some heq)
    | disconnected | rejected | accepted => exact ⟨nofun, nofun⟩
  case h_6 => exact ⟨by cases reply <;> exact nofun, nofun⟩
  case h_7 =>
    refine ⟨?_, nofun⟩
    dsimp only
    split <;> exact nofun
  case h_8 => exact ⟨nofun, nofun⟩
  case h_9 => exact ⟨h, nofun⟩

end ReplayTask

/-! ## One event -/

namespace ReplaySystem

variable {s : ReplaySystem} {t : Uuid}

/-- How many commands the replays have sent for a transfer. -/
def submissions (s : ReplaySystem) (t : Uuid) : Nat :=
  s.commands.countP fun command => command.transferId == t

/-- What the browser of the tab keeps in every run. -/
structure Sound (s : ReplaySystem) : Prop where
  nodup : s.tab.sftp.ids.Nodup
  consistent : s.tab.sftp.OrderConsistent

/-- The transfer has no intent, and no replay is between its check and its submission. -/
structure Withdrawn (s : ReplaySystem) (t : Uuid) : Prop where
  unregistered : t ∉ s.tab.sftp.transferIntents
  unheld : ∀ task ∈ s.tasks, task.holds ≠ some t

/-- An event closes the tab, or acts on its browser by one operation at most; only an
    operation from outside the replay registers an intent or defers a failure. -/
theorem step_sftp (s : ReplaySystem) (e : ReplayEvent) :
    (s.step e).tab.sftp = s.tab.sftp ∨ (s.step e).tab.sftp = {} ∨
      ∃ op : BrowserOp, (e = .browser op ∨ op.byReplay) ∧
        (s.step e).tab.sftp = s.tab.sftp.step op := by
  cases e with
  | browser op => exact .inr (.inr ⟨op, .inl rfl, rfl⟩)
  | route => exact .inl rfl
  | closeTab => exact .inr (.inl rfl)
  | requeue =>
    left
    show (s.requeue _ _ _).tab.sftp = _
    unfold requeue
    split <;> rfl
  | replay i reply =>
    show (s.replay i reply).tab.sftp = _ ∨ (s.replay i reply).tab.sftp = _ ∨
      ∃ op : BrowserOp, _ ∧ (s.replay i reply).tab.sftp = _
    unfold replay
    split
    · exact .inl rfl
    · rename_i task _
      rcases task.step_tab s.tab reply with hsame | ⟨op, hop, hstep⟩
      · exact .inl hsame
      · exact .inr (.inr ⟨op, .inr hop, hstep⟩)

/-- The empty browser has nothing that could be inconsistent. -/
theorem sound_empty : Sound {} :=
  ⟨List.nodup_nil, (SftpBrowserState.run_bookkeeping []).toOrderConsistent⟩

theorem step_sound (h : s.Sound) (e : ReplayEvent) : (s.step e).Sound := by
  rcases s.step_sftp e with hsame | hempty | ⟨op, _, hop⟩
  · exact ⟨hsame ▸ h.nodup, hsame ▸ h.consistent⟩
  · exact ⟨hempty ▸ sound_empty.nodup, hempty ▸ sound_empty.consistent⟩
  · exact ⟨hop ▸ SftpBrowserState.step_nodup_ids h.nodup op,
      hop ▸ SftpBrowserState.step_orderConsistent h.consistent op⟩

theorem run_sound (events : List ReplayEvent) : (run {} events).Sound :=
  List.foldlRecOn (motive := Sound) events step sound_empty fun _ hs e _ => step_sound hs e

/-- An event that does not register a transfer leaves it unregistered. -/
private theorem step_unregistered (hs : s.Sound) {e : ReplayEvent}
    (h : t ∉ s.tab.sftp.transferIntents)
    (he : ∀ op, e = .browser op → op.registers ≠ some t) :
    t ∉ (s.step e).tab.sftp.transferIntents := by
  rcases s.step_sftp e with hsame | hempty | ⟨op, hfrom, hop⟩
  · rwa [hsame]
  · rw [hempty]
    exact nofun
  · rw [hop]
    refine SftpBrowserState.notMem_step hs.consistent h ?_
    rcases hfrom with rfl | hreplay
    · exact he op rfl
    · rw [hreplay.quiet.1]
      exact nofun

/-- One event keeps a transfer withdrawn that it does not register, and sends no command for
    it. -/
theorem step_withdrawn (hs : s.Sound) (h : s.Withdrawn t) {e : ReplayEvent}
    (he : ∀ op, e = .browser op → op.registers ≠ some t) :
    (s.step e).Withdrawn t ∧ (s.step e).submissions t = s.submissions t := by
  have hunregistered := step_unregistered hs h.unregistered he
  cases e with
  | browser | route | closeTab => exact ⟨⟨hunregistered, h.unheld⟩, rfl⟩
  | requeue profileId attemptId hasWorker =>
    refine ⟨⟨hunregistered, ?_⟩, ?_⟩
    -- a replay starts without holding an intent
    · show ∀ task ∈ (s.requeue profileId attemptId hasWorker).tasks, task.holds ≠ some t
      unfold requeue
      split
      · intro task htask
        rcases List.mem_append.mp htask with hold | hnew
        · exact h.unheld task hold
        · obtain rfl := List.mem_singleton.mp hnew
          exact nofun
      · exact h.unheld
    · show (s.requeue profileId attemptId hasWorker).submissions t = _
      unfold requeue
      split <;> rfl
  | replay i reply =>
    have hstep : s.step (.replay i reply) = s.replay i reply := rfl
    rw [hstep] at hunregistered ⊢
    unfold replay at hunregistered ⊢
    split
    · exact ⟨h, rfl⟩
    · rename_i task hi
      rw [hi] at hunregistered
      have hheld := h.unheld task (List.mem_of_getElem? hi)
      obtain ⟨hnext, hcommand⟩ :=
        ReplayTask.step_holds reply hheld h.unregistered
      refine ⟨⟨hunregistered, fun other hother => ?_⟩, ?_⟩
      · rcases List.mem_or_eq_of_mem_set hother with hold | rfl
        · exact h.unheld other hold
        · exact hnext
      · unfold submissions
        dsimp only
        rw [List.countP_append, Nat.add_eq_right, List.countP_eq_zero]
        intro command hmem
        simpa using hcommand command (Option.mem_toList.mp hmem)

/-- One event leaves a withdrawn `Cancelling` row so, finished or unlisted, unless it defers
    the failure of the transfer. -/
theorem step_cancelling (hs : s.Sound) (h : s.Withdrawn t)
    (hphase : s.tab.sftp.phase? t = some .cancelling) {e : ReplayEvent}
    (he : ∀ message, e ≠ .browser (.deferRecoverableFailure t message)) :
    ∀ p, (s.step e).tab.sftp.phase? t = some p → p = .cancelling ∨ p.terminal := by
  intro p hp
  rcases s.step_sftp e with hsame | hempty | ⟨op, hfrom, hop⟩
  · rw [hsame, hphase] at hp
    exact .inl (Option.some.inj hp).symm
  · rw [hempty] at hp
    exact nomatch hp
  · rw [hop] at hp
    refine SftpBrowserState.step_cancelling hs.nodup hphase h.unregistered ?_ p hp
    rcases hfrom with rfl | hreplay
    · exact fun message heq => he message (congrArg _ heq)
    · exact hreplay.quiet.2 t

/-! ## Whole runs -/

theorem run_append (s : ReplaySystem) (as bs : List ReplayEvent) :
    s.run (as ++ bs) = (s.run as).run bs := List.foldl_append

theorem run_snoc (s : ReplaySystem) (as : List ReplayEvent) (e : ReplayEvent) :
    s.run (as ++ [e]) = (s.run as).step e := run_append s as [e]

private theorem snoc_prefix_cons {α : Type} {pre as : List α} {a b : α} :
    pre ++ [a] <+: b :: as ↔
      (pre = [] ∧ a = b) ∨ ∃ pre', pre = b :: pre' ∧ pre' ++ [a] <+: as := by
  cases pre with
  | nil => simp
  | cons c pre => simp [List.cons_prefix_cons, eq_comm]

/-- In a run, a transfer whose cancel was accepted stays `Cancelling` for as long as it is
    listed and not over, and no replay submits it any more. -/
def CancelKept (events : List ReplayEvent) : Prop :=
  ∀ pre t mid, pre ++ [.browser (.requestTransferCancel t)] ++ mid <+: events →
    (run {} pre).tab.sftp.acceptsCancel t →
    ((∀ mid', mid' <+: mid → ∃ p,
        (run {} (pre ++ [.browser (.requestTransferCancel t)] ++ mid')).tab.sftp.phase? t =
          some p ∧ p.terminal = false) →
      (run {} (pre ++ [.browser (.requestTransferCancel t)] ++ mid)).tab.sftp.phase? t =
        some .cancelling) ∧
    (run {} (pre ++ [.browser (.requestTransferCancel t)] ++ mid)).submissions t =
      (run {} (pre ++ [.browser (.requestTransferCancel t)])).submissions t

/-- No step of a run undoes a cancel. -/
structure Undisturbed (events : List ReplayEvent) : Prop where
  /-- no recoverable failure of a transfer is deferred while it is `Cancelling` -/
  deferred : ∀ pre t message,
    pre ++ [.browser (.deferRecoverableFailure t message)] <+: events →
      (run {} pre).tab.sftp.phase? t ≠ some .cancelling
  /-- no cancel is accepted while a replay is between its check of the transfer and the
      submission -/
  unheld : ∀ pre t, pre ++ [.browser (.requestTransferCancel t)] <+: events →
    (run {} pre).tab.sftp.acceptsCancel t → ∀ task ∈ (run {} pre).tasks, task.holds ≠ some t
  /-- a registration takes a new identifier, never that of a transfer that was cancelled -/
  fresh : ∀ pre op t, pre ++ [.browser op] <+: events → op.registers = some t →
    ∀ pre', pre' ++ [.browser (.requestTransferCancel t)] <+: pre →
      ¬(run {} pre').tab.sftp.acceptsCancel t

/-- An accepted cancel withdraws the transfer. -/
private theorem withdrawn_of_cancel {events pre : List ReplayEvent} (h : Undisturbed events)
    (hpre : pre ++ [.browser (.requestTransferCancel t)] <+: events)
    (haccepted : (run {} pre).tab.sftp.acceptsCancel t) :
    (run {} (pre ++ [.browser (.requestTransferCancel t)])).Withdrawn t := by
  rw [run_snoc]
  exact ⟨SftpBrowserState.notMem_of_acceptsCancel haccepted, h.unheld pre t hpre haccepted⟩

/-- In a run that disturbs no cancel, every accepted cancel is kept. -/
theorem cancel_kept {events : List ReplayEvent} (h : Undisturbed events) :
    CancelKept events := by
  intro pre t mid hmid haccepted
  have hpre : pre ++ [.browser (.requestTransferCancel t)] <+: events :=
    (List.prefix_append _ _).trans hmid
  have hcancel := withdrawn_of_cancel h hpre haccepted
  -- induction on the events since the cancel, with the transfer withdrawn all the while
  suffices hall :
      (run {} (pre ++ [.browser (.requestTransferCancel t)] ++ mid)).Withdrawn t ∧ _ ∧ _ from hall.2
  induction mid using List.reverseRecOn with
  | nil =>
    rw [List.append_nil]
    refine ⟨hcancel, fun _ => ?_, rfl⟩
    rw [run_snoc]
    exact SftpBrowserState.phase?_of_acceptsCancel haccepted
  | append_singleton mid e ih =>
    rw [← List.append_assoc] at hmid ⊢
    obtain ⟨hwithdrawn, hphase, hsubmissions⟩ := ih ((List.prefix_append _ _).trans hmid)
    have hsound := run_sound (pre ++ [.browser (.requestTransferCancel t)] ++ mid)
    have hnew : ∀ op, e = .browser op → op.registers ≠ some t := by
      rintro op rfl hreg
      exact h.fresh _ op t hmid hreg pre (List.prefix_append _ _) haccepted
    rw [run_snoc]
    obtain ⟨hwithdrawn', hsame⟩ := step_withdrawn hsound hwithdrawn hnew
    refine ⟨hwithdrawn', fun hlisted => ?_, hsame.trans hsubmissions⟩
    have hbefore := hphase fun mid' hm => hlisted mid' (hm.trans (List.prefix_append _ _))
    have hdefer : ∀ message, e ≠ .browser (.deferRecoverableFailure t message) := by
      rintro message rfl
      exact h.deferred _ t message hmid hbefore
    obtain ⟨p, hp, hactive⟩ := hlisted (mid ++ [e]) (List.prefix_refl _)
    rw [← List.append_assoc, run_snoc] at hp
    rcases step_cancelling hsound hwithdrawn hbefore hdefer p hp with rfl | hterminal
    · exact hp
    · rw [hactive] at hterminal
      exact nomatch hterminal

/-- An upload is cancelled while the replay has only read the list of intents: the replay
    finds it gone. -/
theorem cancel_kept_before_check : CancelKept
    [.browser (.queueUploadTransfer 1 "a" 4 "/a" "/srv/a"),
      .browser (.registerUploadIntent 1 2 "/srv/a" "/a" 4 []),
      .browser .prepareForReconnect, .route (some 7) (some 8), .requeue 7 8 true,
      .replay 0 .sent, .browser (.requestTransferCancel 1), .replay 0 .sent, .replay 0 .sent] := by
  refine cancel_kept ⟨?_, ?_, ?_⟩
  · intro pre t message hpre
    simp [snoc_prefix_cons] at hpre
  · intro pre t hpre
    simp [snoc_prefix_cons] at hpre
    obtain ⟨rfl, rfl⟩ := hpre
    intro _ task htask
    obtain rfl := List.mem_singleton.mp htask
    exact nofun
  · intro pre op t hpre hreg pre' hpre'
    simp [snoc_prefix_cons] at hpre
    rcases hpre with ⟨rfl, rfl⟩ | ⟨_, rfl, ⟨rfl, rfl⟩ | ⟨_, rfl, ⟨rfl, rfl⟩ | ⟨rfl, rfl⟩⟩⟩
    · exact nomatch hreg
    · simp [snoc_prefix_cons] at hpre'
    · exact nomatch hreg
    · exact nomatch hreg

/-- The cancel of a queued upload is undone when the connection breaks before the worker has
    answered, and by a replay that waits for a queue slot. -/
theorem cancel_undone :
    ¬CancelKept
      [.browser (.queueUploadTransfer 1 "a" 4 "/a" "/srv/a"),
        .browser (.registerUploadIntent 1 2 "/srv/a" "/a" 4 []),
        .browser (.requestTransferCancel 1),
        .browser (.deferRecoverableFailure 1 "connection closed")] ∧
    ¬CancelKept
      [.browser (.queueUploadTransfer 1 "a" 4 "/a" "/srv/a"),
        .browser (.registerUploadIntent 1 2 "/srv/a" "/a" 4 []),
        .browser .prepareForReconnect, .route (some 7) (some 8), .requeue 7 8 true,
        .replay 0 .sent, .replay 0 .sent, .replay 0 .sent,
        .browser (.requestTransferCancel 1), .replay 0 .sent] := by
  refine ⟨fun h => ?_, fun h => ?_⟩
  · have hphase := (h [.browser (.queueUploadTransfer 1 "a" 4 "/a" "/srv/a"),
      .browser (.registerUploadIntent 1 2 "/srv/a" "/a" 4 [])] 1
      [.browser (.deferRecoverableFailure 1 "connection closed")] (List.prefix_refl _) rfl).1
      fun mid' hmid' => ?_
    · exact nomatch hphase
    · rcases List.prefix_cons_iff.mp hmid' with rfl | ⟨rest, rfl, hrest⟩
      · exact ⟨_, rfl, rfl⟩
      · rw [List.prefix_nil.mp hrest]
        exact ⟨_, rfl, rfl⟩
  · have hsent := (h [.browser (.queueUploadTransfer 1 "a" 4 "/a" "/srv/a"),
        .browser (.registerUploadIntent 1 2 "/srv/a" "/a" 4 []),
        .browser .prepareForReconnect, .route (some 7) (some 8), .requeue 7 8 true,
        .replay 0 .sent, .replay 0 .sent, .replay 0 .sent] 1
      [.replay 0 .sent] (List.prefix_refl _) rfl).2
    exact nomatch hsent

end ReplaySystem

end AxSsh
