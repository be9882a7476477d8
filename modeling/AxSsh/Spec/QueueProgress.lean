import AxSsh.Spec.WorkerSlots

/-!
# Whether queued downloads wait for a reason

The loop opens queued downloads whenever a transfer has ended, so a download waits only while the
limit of the tab is reached, or while an event is on its way after which the loop looks again.  One
branch does not look: a cancelled opening that ends leaves the queue as it is.

## Key results
- `startRequests_settled`, `Keeps`: what starts the queue, and what leaves it alone
- `settled_apply`: every input
- `queue_progress`: every orderly run, and the run that gets stuck
-/

namespace AxSsh

namespace SftpWorker

/-- A queued download waits for the end of another transfer, or the loop looks at the queue next. -/
def Settled (s : SftpWorker) : Prop :=
  s.queuedRequests = [] ∨ s.limitReached = true ∨ s.transferEvents ≠ []

/-- No room is made, and no download is queued. -/
structure Keeps (s s' : SftpWorker) : Prop where
  queue : s.queuedRequests = [] → s'.queuedRequests = []
  limit : s.limitReached = true → s'.limitReached = true
  events : s.transferEvents ≠ [] → s'.transferEvents ≠ []

variable {s s' s'' : SftpWorker}

namespace Keeps

theorem refl (s : SftpWorker) : Keeps s s := ⟨id, id, id⟩

theorem trans (h : Keeps s s') (h' : Keeps s' s'') : Keeps s s'' :=
  ⟨h'.queue ∘ h.queue, h'.limit ∘ h.limit, h'.events ∘ h.events⟩

theorem settled (h : Keeps s s') (hs : s.Settled) : s'.Settled :=
  hs.imp h.queue (.imp h.limit h.events)

/-- What is reported keeps the queue as it is. -/
theorem report (hsame : SameBooks s' s'') (h : Keeps s s') : Keeps s s'' := by
  obtain ⟨_, _, _, _, rfl⟩ := hsame
  exact ⟨h.queue, h.limit, h.events⟩

/-- More handles keep the limit reached. -/
theorem of_transfers (hqueue : s.queuedRequests = [] → s'.queuedRequests = [])
    (hevents : s'.transferEvents = s.transferEvents) (hlimit : s'.perTabLimit = s.perTabLimit)
    (hle : s.activeCount ≤ s'.activeCount) : Keeps s s' := by
  refine ⟨hqueue, fun hreached => ?_, fun hne => hevents ▸ hne⟩
  unfold limitReached sftpTransferLimitReached at hreached ⊢
  rw [decide_eq_true_eq] at hreached ⊢
  rw [hlimit]
  exact Nat.le_trans hreached hle

theorem modifyTransfer {t : Uuid} {f : ActiveSftpTransfer → ActiveSftpTransfer}
    (hf : ∀ x, (f x).transferId = x.transferId) :
    Keeps s { s with transfers := List.modifyKey (·.transferId) t f s.transfers } := by
  have hkeys := congrArg List.length (List.map_key_modifyKey hf t s.transfers)
  rw [List.length_map, List.length_map] at hkeys
  exact of_transfers (fun h => h) rfl rfl (Nat.add_le_add_right hkeys.ge _)

theorem markOpening (id : Uuid) : Keeps s (s.markOpening id) :=
  of_transfers (fun h => h) rfl rfl
    (Nat.add_le_add_left (AssocMap.length_entries_adjust _ _ _).ge _)

theorem startUploads (queue : List SftpUploadRequest) (slots : Nat) (s : SftpWorker) :
    Keeps s (startUploads queue slots s) := by
  induction queue generalizing slots s with
  | nil => exact ⟨id, id, id⟩
  | cons request rest ih =>
    cases slots <;> unfold SftpWorker.startUploads <;> split
    · exact ⟨id, id, id⟩
    · exact ⟨id, id, id⟩
    · exact ⟨id, id, id⟩
    · change Keeps s (SftpWorker.startUploads rest _ _)
      refine trans ?_ (ih _ _)
      exact of_transfers (fun h => h) rfl rfl (by simp [spawnUpload, activeCount])

end Keeps

/-! ## Starting the queue -/

theorem startRequests_settled (queue : List SftpDownloadRequest) (s : SftpWorker) :
    (startRequests queue s).Settled := by
  induction queue generalizing s with
  | nil => exact .inl rfl
  | cons request rest ih =>
    unfold startRequests
    split
    · rename_i hreached
      exact .inr (.inl hreached)
    · exact ih _

theorem startQueued_settled (s : SftpWorker) (slots : Nat) :
    (s.startQueuedSftpTransfers.startQueuedUploads slots).Settled :=
  (Keeps.startUploads _ _ _).settled (startRequests_settled _ _)

theorem queueDownload_settled (request : SftpDownloadRequest) (root : Option Uuid)
    (h : s.Settled) : (s.queueDownload request root).Settled := by
  unfold queueDownload
  split
  · exact startRequests_settled _ _
  · exact h

/-! ## Commands -/

/-- A handle whose task is over is joined; its last event is still to be handled. -/
theorem InOrder.reap_settled (hs : s.InOrder) (h : s.Settled) :
    s.reapFinishedSftpTransfers.Settled := by
  obtain ⟨hkept, hremoved⟩ := List.swapRemoveAll_perm
    (fun transfer : ActiveSftpTransfer => transfer.stage.isFinished) s.transfers.length
    s.transfers (Nat.le_refl _)
  by_cases hover : ∃ x ∈ s.transfers, x.stage.isFinished = true
  · obtain ⟨x, hx, hfinished⟩ := hover
    refine .inr (.inr fun hnil => ?_)
    obtain ⟨hevents, hpanicked⟩ := List.append_eq_nil_iff.mp hnil
    have hsound := (hs.booked.sound x.transferId).reported_le
    have htight := (hs.tight x.transferId).lost
    simp only [census, hevents, List.countP_nil, Nat.le_zero, List.countP_eq_zero] at hsound htight
    have hmem := hremoved.mem_iff.mpr (List.mem_filter.mpr ⟨hx, hfinished⟩)
    -- its last event is handled, lost or added now
    cases hstage : x.stage with
    | returned => exact hsound x hx (by simp [hstage, TaskStage.hasReported])
    | lost => exact htight x hx (by simp [hstage])
    | panicked =>
      have := List.filter_eq_nil_iff.mp (List.map_eq_nil_iff.mp hpanicked) x hmem
      simp [hstage] at this
    | _ => simp [hstage, TaskStage.isFinished] at hfinished
  · have hall : s.transfers.filter (fun x => !x.stage.isFinished) = s.transfers := by
      simpa [List.filter_eq_self] using hover
    rw [hall] at hkept
    refine h.imp id (.imp (fun hreached => ?_) (List.append_ne_nil_of_left_ne_nil · _))
    rw [← hreached]
    exact congrArg (sftpTransferLimitReached · _ _) hkept.length_eq

theorem keeps_cancelChild (child : Uuid) : Keeps s (s.cancelChild child) := by
  unfold cancelChild
  split
  · refine .report (.sendTransferEvent _ _) ⟨fun h => ?_, id, id⟩
    rw [h]
    rfl
  · split
    · split
      · exact .refl s
      · exact .report (.sendTransferEvent _ _) (.markOpening child)
    · exact .modifyTransfer fun _ => rfl

theorem keeps_cancelSftpTransfer (t : Uuid) (order : List Uuid) :
    Keeps s (s.cancelSftpTransfer t order) := by
  unfold cancelSftpTransfer
  split
  · refine .report (.settleDirectory _ t) ?_
    have hroot : Keeps s (s.cancelRoot t) := ⟨id, id, id⟩
    generalize s.cancelRoot t = s' at hroot ⊢
    induction order generalizing s' with
    | nil => exact hroot
    | cons child order ih => exact ih _ (hroot.trans (keeps_cancelChild child))
  · exact .modifyTransfer fun _ => rfl
  · exact .report (.emit _ _) ⟨id, id, id⟩
  · exact .report (.emit _ _) ⟨id, id, id⟩
  · refine .report (.sendTransferEvent _ _) ⟨fun h => ?_, id, id⟩
    rw [h]
    rfl
  · exact .report (.emit _ _) ⟨id, id, id⟩
  · exact .report (.emit _ _) ⟨id, id, id⟩
  · exact .report (.sendTransferEvent _ _) (.markOpening t)
  · exact .refl s
  · exact .report (.reply _ _ _) (.refl s)

/-- An upload is queued again, or another one is admitted: the downloads are left alone. -/
theorem keeps_retryUploads (choice : SftpUploadConflictChoice) (ids : List Uuid) (h : Keeps s s') :
    Keeps s (ids.foldl (retryUpload choice) s') := by
  induction ids generalizing s' with
  | nil => exact h
  | cons t ids ih =>
    refine ih (h.trans ?_)
    unfold retryUpload
    split
    · exact .refl s'
    · simp only
      split
      · rename_i hopen
        rw [emit, if_pos hopen]
        exact ⟨id, id, id⟩
      · exact ⟨id, id, id⟩

theorem InOrder.command_settled (hs : s.InOrder) (h : s.Settled) (command : SftpCommand)
    (order : List Uuid) (slots : Nat) : (s.handleCommand command order slots).Settled := by
  have hreaped := hs.reap_settled h
  unfold handleCommand
  generalize s.reapFinishedSftpTransfers = s' at hreaped ⊢
  have hkept {s'' : SftpWorker} (hk : Keeps s' s'') : s''.Settled := hk.settled hreaped
  cases command with
  | openSftpFile root =>
    simp only [openSftpFile]
    have hexpect : Keeps s' (s'.expectDirectory root) := .report (.expectDirectory _ _) (.refl s')
    split
    · exact hkept (.report (.reply _ _ _) (.refl s'))
    · split
      · exact hkept ⟨hexpect.queue, hexpect.limit, hexpect.events⟩
      · split
        · exact hkept ⟨hexpect.queue, hexpect.limit, hexpect.events⟩
        · exact hkept (.report (.reply _ _ _) (.refl s'))
  | openSftpFileAtLocalPath request =>
    simp only [openSftpFileAtLocalPath]
    split
    · exact hkept (.report (.reply _ _ _) (.refl s'))
    · exact queueDownload_settled request none hreaped
  | openSftpUpload request =>
    have hadmit : Keeps s' (s'.admitSftpUpload request).1 := by
      unfold admitSftpUpload
      simp only
      split
      · exact .report (.reply _ _ _) (.refl s')
      · split
        · rename_i hopen
          simp only [emit, if_pos hopen]
          exact ⟨id, id, id⟩
        · exact .refl s'
    exact (Keeps.startUploads _ _ _).settled (hkept hadmit)
  | resolveSftpUploadConflict t choice applyToBatch =>
    simp only [resolveSftpUploadConflict]
    split
    · exact hreaped
    · refine (Keeps.startUploads _ _ _).settled (hkept (keeps_retryUploads choice _ ?_))
      split
      · unfold rememberPolicy
        simp only
        split
        · exact ⟨id, id, id⟩
        · split
          · split <;> exact ⟨id, id, id⟩
          · exact ⟨id, id, id⟩
      · exact .refl s'
  | cancelSftpTransfer t => exact hkept (keeps_cancelSftpTransfer t order)
  | pauseSftpTransfer t | resumeSftpTransfer t =>
    refine hkept (.modifyTransfer fun x => ?_)
    cases x.isPausable <;> rfl
  | other => exact hreaped
  | disconnect => exact hreaped

/-! ## Runs -/

/-- No opening is joined that was cancelled. -/
def JoinsLive (s : SftpWorker) (input : WorkerInput) : Prop :=
  ∀ taskId result slots, input = .openingJoined taskId result slots →
    ∀ entry ∈ s.pendingTask taskId, entry.2.cancelled = false

theorem settled_apply (hs : s.InOrder) (h : s.Settled) {input : WorkerInput}
    (hjoins : s.JoinsLive input) : (s.apply input).stopped = true ∨ (s.apply input).Settled := by
  have hkept {s' : SftpWorker} (hk : Keeps s s') : s'.stopped = true ∨ s'.Settled :=
    .inr (hk.settled h)
  cases input with
  | command command order slots => exact .inr (hs.command_settled h command order slots)
  | discoveryJoined root => exact .inr (startRequests_settled _ _)
  | discoveredReceived =>
    simp only [apply, discoveredReceived]
    split
    · exact hkept ⟨id, id, id⟩
    · exact .inr h
  | discoveredHandled =>
    simp only [apply, discoveredHandled]
    split
    · exact .inr h
    · split
      · simp only [discoveredRequest]
        split
        · exact hkept ⟨id, id, id⟩
        · refine .inr (queueDownload_settled _ _ (Keeps.settled ?_ h))
          exact .report (.adoptChild _ _ _) ⟨id, id, id⟩
      · exact hkept (.report (.discoveredFinished _ _ _ _ _) ⟨id, id, id⟩)
  | openingJoined taskId result slots =>
    simp only [apply, openingJoined]
    have hlive := hjoins taskId result slots rfl
    split
    · exact hkept ⟨id, id, id⟩
    · rename_i transferId pending hpending
      have hcancelled : pending.cancelled = false := hlive _ hpending
      rw [if_neg (ne_true_of_eq_false hcancelled)]
      exact .inr (startQueued_settled _ _)
  | transferEventReceived slots =>
    simp only [apply, transferEventReceived]
    split
    · exact .inr h
    · split
      · rename_i hstopped
        exact .inl hstopped
      · exact .inr (startQueued_settled _ _)
  | taskEvent event | taskEnd event => exact .inr (.inr (.inr (List.concat_ne_nil _ _)))
  | taskStage t stage => exact hkept (.modifyTransfer fun _ => rfl)
  | discover | discoverEnd | connectionClosed | receiverClosed => exact hkept ⟨id, id, id⟩

/-- The inputs after which a download is left in the queue while nothing else is left to do: its
    only rival was cancelled while the subsystem was being opened. -/
def cancelledOpeningInputs : List WorkerInput :=
  [.command (.openSftpFileAtLocalPath { transferId := 1 }) [] 0,
    .command (.openSftpFileAtLocalPath { transferId := 2 }) [] 0,
    .command (.cancelSftpTransfer 1) [] 0, .openingJoined 0 .opened 0]

/-- In every orderly run in which no cancelled opening is joined, a download waits in the queue only
    while the limit of the tab is reached or an event is on its way.  Where a cancelled opening is
    joined, a download may be left in the queue of a loop that has nothing to do. -/
theorem queue_progress (limit : Nat) :
    (∀ s, ((workerSystem limit).restrict fun s input =>
        s.Orderly input ∧ s.JoinsLive input).Reachable s → s.stopped = false →
      s.queuedRequests = [] ∨ s.limitReached = true ∨ s.transferEvents ≠ []) ∧
    ∃ s, ((workerSystem 1).restrict Orderly).Reachable s ∧ s.stopped = false ∧
      s.queuedRequests.map (·.transferId) = [2] ∧ s.activeCount = 0 ∧ s.pendingOpenings = [] ∧
      s.discoveries = [] ∧ s.discoveredDownloads = [] ∧ s.transferEvents = [] := by
  refine ⟨fun s h => ?_, after cancelledOpeningInputs, ?_, by decide⟩
  · refine (h.invariant (P := fun s => s.InOrder ∧ (s.stopped = false → s.Settled)) ?_ ?_).2
    · rintro s rfl
      exact ⟨inOrder_new limit, fun _ => .inl rfl⟩
    · rintro s input s' ⟨⟨hrunning, hallowed, rfl⟩, horderly, hjoins⟩ ⟨hs, hsettled⟩
      refine ⟨hs.apply hallowed horderly, fun hnext => ?_⟩
      exact (settled_apply hs (hsettled hrunning) hjoins).resolve_left (by simp [hnext])
  · refine reachable_foldl (.of_init rfl) cancelledOpeningInputs ⟨⟨rfl, trivial, ?_⟩,
      ⟨rfl, trivial, ?_⟩, ⟨rfl, ?_, nofun, nofun, nofun⟩, ⟨rfl, ?_, trivial, nofun, nofun⟩,
      trivial⟩
    iterate 2
      · refine ⟨?_, nofun, nofun⟩
        rintro t ⟨⟩
        exact .inr ⟨by decide, by decide, by decide, by decide⟩
    · exact .refl _
    · exact List.mem_singleton_self 0

end SftpWorker

end AxSsh
