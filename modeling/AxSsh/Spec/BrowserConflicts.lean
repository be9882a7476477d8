import AxSsh.ForStd.Transition
import AxSsh.Spec.BrowserPhases

/-!
# Upload conflicts agree with the transfer rows

A browser keeps two copies of one fact: the queue of upload conflicts the user is asked
about, and the rows in phase `awaitingConflict`.  `ConflictsConsistent` says that they
agree.  Most operations keep it; the ones that do not are the operations that take a
waiting row to another phase and leave its queue entry, or drop the entry and leave the
row.  `ConflictSafe` is the exact condition on a step.

## Key results
- `step_consistent_iff`: from a consistent state, a step is consistent exactly when it is safe
- `run_consistent_iff`: a run is consistent throughout exactly when all its steps are safe
-/

namespace AxSsh.SftpBrowserState

/-! ## The queue of conflicts under each helper -/

/-- The transfers in the conflict queue, in order. -/
def conflictIds (s : SftpBrowserState) : List Uuid := s.uploadConflicts.map (·.transferId)

/-- The conflict queue without the entries of one transfer. -/
def withoutConflict (id : Uuid) (conflicts : List PendingUploadConflict) :
    List PendingUploadConflict :=
  conflicts.filter fun conflict => conflict.transferId != id

@[simp] theorem uploadConflicts_tryTransfer (s : SftpBrowserState) (id : Uuid)
    (allowed : SftpTransferState → Bool) (f : SftpTransferState → SftpTransferState) :
    (s.tryTransfer id allowed f).1.uploadConflicts = s.uploadConflicts := by
  rw [tryTransfer_fst]

@[simp] theorem uploadConflicts_markDirectoryChildCompleted (s : SftpBrowserState) (id : Uuid) :
    (s.markDirectoryChildCompleted id).uploadConflicts = s.uploadConflicts := by
  unfold markDirectoryChildCompleted
  split
  · rfl
  · split
    · rfl
    · split <;> rfl

@[simp] theorem uploadConflicts_forgetInactive (s : SftpBrowserState) (id : Uuid) :
    (s.forgetInactive id).uploadConflicts = s.uploadConflicts := by
  unfold forgetInactive
  split <;> rfl

/-- Finishing a transfer drops its queue entries, whether or not its row may finish. -/
theorem uploadConflicts_finishTransfer (s : SftpBrowserState) (id : Uuid)
    (phase : SftpTransferPhase) (status : String) :
    (s.finishTransfer id phase status).uploadConflicts = withoutConflict id s.uploadConflicts := by
  unfold finishTransfer
  dsimp only
  split
  · rw [uploadConflicts_tryTransfer]; rfl
  · split
    · rw [uploadConflicts_forgetInactive, uploadConflicts_markDirectoryChildCompleted,
        uploadConflicts_tryTransfer]; rfl
    · rw [uploadConflicts_forgetInactive, uploadConflicts_tryTransfer]; rfl

/-- Queueing a transfer drops its queue entries. -/
theorem uploadConflicts_queue (s : SftpBrowserState) (id : Uuid) (name : String) (total : Nat)
    (direction : SftpTransferDirection) (localPath : Option PathBuf)
    (remotePath : Option String) :
    (s.queueTransferWithPause id name total direction localPath remotePath).uploadConflicts =
      withoutConflict id s.uploadConflicts := by
  unfold queueTransferWithPause
  dsimp only
  split
  · rw [uploadConflicts_tryTransfer]; rfl
  · rfl

private theorem withoutConflict_idem (id : Uuid) (l : List PendingUploadConflict) :
    withoutConflict id (withoutConflict id l) = withoutConflict id l := by
  simp [withoutConflict, List.filter_filter]

/-- A recorded failure drops the queue entries of its transfer. -/
theorem uploadConflicts_recordTransferFailure (s : SftpBrowserState) (id : Uuid)
    (name message : String) :
    (s.recordTransferFailure id name message).uploadConflicts =
      withoutConflict id s.uploadConflicts := by
  unfold recordTransferFailure queueTransfer
  split
  · exact uploadConflicts_finishTransfer s id .failed message
  · rw [uploadConflicts_finishTransfer, uploadConflicts_queue, withoutConflict_idem]

private theorem uploadConflicts_finishDownloadedTransfer (s : SftpBrowserState) (id : Uuid)
    (total : Nat) (localPath : PathBuf) :
    (s.finishDownloadedTransfer id total localPath).1.uploadConflicts = s.uploadConflicts := by
  unfold finishDownloadedTransfer
  dsimp only
  split
  · exact uploadConflicts_tryTransfer _ _ _ _
  · exact (uploadConflicts_markDirectoryChildCompleted _ _).trans
      (uploadConflicts_tryTransfer _ _ _ _)

private theorem uploadConflicts_requestTransferCancel (s : SftpBrowserState) (id : Uuid) :
    (s.requestTransferCancel id).1.uploadConflicts = s.uploadConflicts := by
  unfold requestTransferCancel
  dsimp only
  split <;> exact uploadConflicts_tryTransfer _ _ _ _

/-! ## Waiting transfers -/

/-- A transfer is listed and waits for a conflict decision. -/
def Awaiting (s : SftpBrowserState) (t : Uuid) : Prop := s.phase? t = some .awaitingConflict

/-- The conflict queue names each waiting transfer once, and no other transfer. -/
structure ConflictsConsistent (s : SftpBrowserState) : Prop where
  nodup : s.conflictIds.Nodup
  mem_iff : ∀ t, t ∈ s.conflictIds ↔ s.Awaiting t

/-- Only uploads wait for a conflict decision. -/
def AwaitingUploads (s : SftpBrowserState) : Prop :=
  ∀ t x, s.transfer? t = some x → x.phase = .awaitingConflict → x.direction = .upload

/-- Over every run, only uploads wait for a conflict decision. -/
theorem run_awaitingUploads (ops : List BrowserOp) : (run {} ops).AwaitingUploads := by
  induction ops using List.reverseRecOn with
  | nil => exact fun _ _ h => nomatch h
  | append_singleton ops op ih =>
    rw [run_snoc]
    intro t y hy hphase
    have hnodup := run_nodup_ids ops
    cases hx : (run {} ops).transfer? t with
    -- a new row does not wait for a decision
    | none =>
      rcases step_startsFresh hnodup op t hx y hy with h | h <;> rw [h] at hphase <;>
        exact nomatch hphase
    | some x =>
      by_cases hop : ∃ message, op = .deferRecoverableFailure t message
      · obtain ⟨message, rfl⟩ := hop
        -- a deferred row has a phase of its own
        have hp := phase?_deferRecoverableFailure (s := run {} ops) (t := t) (p := x.phase)
          (by unfold phase?; rw [hx]; rfl) message
        unfold phase? at hp
        have hy' : ((run {} ops).deferRecoverableFailure t message).transfer? t = some y := hy
        rw [hy'] at hp
        cases hp.symm.trans (congrArg some hphase)
      · have hop' : ∀ message, op ≠ .deferRecoverableFailure t message :=
          fun message h => hop ⟨message, h⟩
        rcases step_follows_lifecycle hnodup op t hop' x hx with hnone | ⟨y', hy', hdir, hstep⟩
        · rw [hnone] at hy
          exact nomatch hy
        · cases hy'.symm.trans hy
          rw [hdir]
          rw [hphase] at hstep
          rcases hstep.of_awaitingConflict with hp | hd
          · exact ih t x hx hp
          · exact hd

/-! ## What keeps the queue consistent -/

section Consistency

variable {s s' : SftpBrowserState} {id : Uuid}

private theorem awaiting_iff {t : Uuid} :
    s.Awaiting t ↔ ∃ x, s.transfer? t = some x ∧ x.phase = .awaitingConflict :=
  Option.map_eq_some_iff

/-- With the queue untouched, consistency is that the same transfers wait. -/
private theorem consistent_iff_same (hs : s.ConflictsConsistent)
    (hc : s'.uploadConflicts = s.uploadConflicts) :
    s'.ConflictsConsistent ↔ ∀ t, s'.Awaiting t ↔ s.Awaiting t := by
  have hids : s'.conflictIds = s.conflictIds := by
    unfold conflictIds
    rw [hc]
  constructor
  · intro h t
    rw [← h.mem_iff, ← hs.mem_iff, hids]
  · intro h
    exact ⟨hids ▸ hs.nodup, fun t => by rw [hids, h t, hs.mem_iff]⟩

/-- With the entries of one transfer dropped, consistency is that it stopped waiting and
    that no other transfer did. -/
private theorem consistent_iff_without (hs : s.ConflictsConsistent)
    (hc : s'.uploadConflicts = withoutConflict id s.uploadConflicts) :
    s'.ConflictsConsistent ↔ ∀ t, s'.Awaiting t ↔ t ≠ id ∧ s.Awaiting t := by
  have hids : s'.conflictIds = s.conflictIds.filter (· != id) := by
    unfold conflictIds
    rw [hc, withoutConflict, List.filter_map]
    rfl
  have hmem (t : Uuid) : t ∈ s'.conflictIds ↔ t ≠ id ∧ s.Awaiting t := by
    rw [hids, List.mem_filter, hs.mem_iff, and_comm]
    simp
  constructor
  · intro h t
    rw [← h.mem_iff, hmem]
  · intro h
    exact ⟨hids ▸ hs.nodup.filter _, fun t => by rw [hmem, h t]⟩

variable {f : SftpTransferState → SftpTransferState}

/-- An operation on one row keeps the waiting transfers when it does so on that row. -/
private theorem awaiting_same_iff
    (h : ∀ t, s'.transfer? t = if t = id then (s.transfer? id).map f else s.transfer? t) :
    (∀ t, s'.Awaiting t ↔ s.Awaiting t) ↔
      ∀ x, s.transfer? id = some x →
        ((f x).phase = .awaitingConflict ↔ x.phase = .awaitingConflict) := by
  constructor
  · intro hall x hx
    have hid := h id
    rw [if_pos rfl, hx] at hid
    have := hall id
    rw [awaiting_iff, awaiting_iff, hid, hx] at this
    simpa using this
  · intro hrow t
    rw [awaiting_iff, awaiting_iff, h t]
    split
    · rename_i ht
      subst ht
      cases hx : s.transfer? t with
      | none => simp
      | some x => simpa using hrow x hx
    · rfl

/-- An operation on one row ends its waiting, and no other, when its row does not wait. -/
private theorem awaiting_without_iff
    (h : ∀ t, s'.transfer? t = if t = id then (s.transfer? id).map f else s.transfer? t) :
    (∀ t, s'.Awaiting t ↔ t ≠ id ∧ s.Awaiting t) ↔
      ∀ x, s.transfer? id = some x → (f x).phase ≠ .awaitingConflict := by
  constructor
  · intro hall x hx
    have hid := h id
    rw [if_pos rfl, hx] at hid
    have := hall id
    rw [awaiting_iff, hid] at this
    simpa using this
  · intro hrow t
    rw [awaiting_iff, h t]
    split
    · rename_i ht
      subst ht
      cases hx : s.transfer? t with
      | none => simp
      | some x => simpa using hrow x hx
    · rename_i ht
      simp [ht, awaiting_iff]

/-- A row update that leaves the queue alone is consistent exactly when the row waits
    afterwards if and only if it did before. -/
private theorem consistent_row_iff (hs : s.ConflictsConsistent)
    (hc : s'.uploadConflicts = s.uploadConflicts)
    (h : ∀ t, s'.transfer? t = if t = id then (s.transfer? id).map f else s.transfer? t) :
    s'.ConflictsConsistent ↔ ∀ x, s.transfer? id = some x →
      ((f x).phase = .awaitingConflict ↔ x.phase = .awaitingConflict) :=
  (consistent_iff_same hs hc).trans (awaiting_same_iff h)

/-- A row update that drops the row's entries is consistent exactly when the row does not
    wait afterwards. -/
private theorem consistent_drop_iff (hs : s.ConflictsConsistent)
    (hc : s'.uploadConflicts = withoutConflict id s.uploadConflicts)
    (h : ∀ t, s'.transfer? t = if t = id then (s.transfer? id).map f else s.transfer? t) :
    s'.ConflictsConsistent ↔
      ∀ x, s.transfer? id = some x → (f x).phase ≠ .awaitingConflict :=
  (consistent_iff_without hs hc).trans (awaiting_without_iff h)

/-- An operation that changes neither rows nor queue keeps consistency. -/
private theorem consistent_of_eq (hs : s.ConflictsConsistent)
    (hc : s'.uploadConflicts = s.uploadConflicts) (hrows : s'.transfers = s.transfers) :
    s'.ConflictsConsistent :=
  (consistent_iff_same hs hc).mpr fun t => by
    rw [awaiting_iff, awaiting_iff, transfer?_congr hrows]

/-- A state without conflicts and without waiting rows is consistent. -/
private theorem consistent_of_empty (hc : s'.uploadConflicts = [])
    (h : ∀ t, ¬s'.Awaiting t) : s'.ConflictsConsistent := by
  have hids : s'.conflictIds = [] := by
    unfold conflictIds
    rw [hc]
    rfl
  refine ⟨hids ▸ List.nodup_nil, fun t => ?_⟩
  rw [hids]
  simpa using h t

/-! ## Guarded updates of one row -/

/-- A guarded update that neither starts nor ends waiting keeps consistency. -/
private theorem consistent_tryTransfer {allowed : SftpTransferState → Bool}
    (hs : s.ConflictsConsistent) (hid : ∀ x, (f x).id = x.id)
    (hf : ∀ x, allowed x →
      ((f x).phase = .awaitingConflict ↔ x.phase = .awaitingConflict)) :
    (s.tryTransfer id allowed f).1.ConflictsConsistent := by
  refine (consistent_row_iff hs (uploadConflicts_tryTransfer _ _ _ _)
    (transfer?_tryTransfer hid)).mpr fun x _ => ?_
  unfold guarded
  split
  · rename_i hx
    exact hf x hx
  · rfl

/-- A guarded update that takes every waiting row to a phase that does not wait is
    consistent exactly when the row was not waiting. -/
private theorem leave_waiting_iff {allowed : SftpTransferState → Bool}
    (hs : s.ConflictsConsistent) (hc : s'.uploadConflicts = s.uploadConflicts)
    (h : ∀ t, s'.transfer? t =
      if t = id then (s.transfer? id).map (guarded allowed f) else s.transfer? t)
    (hf : ∀ x, (f x).phase ≠ .awaitingConflict)
    (hallowed : ∀ x, x.phase = .awaitingConflict → allowed x) :
    s'.ConflictsConsistent ↔ ¬s.Awaiting id := by
  rw [consistent_row_iff hs hc h, awaiting_iff]
  constructor
  · rintro hrow ⟨x, hx, hp⟩
    have hguard := (hrow x hx).mpr hp
    unfold guarded at hguard
    rw [if_pos (hallowed x hp)] at hguard
    exact hf x hguard
  · intro hnot x hx
    have hp : x.phase ≠ .awaitingConflict := fun hp => hnot ⟨x, hx, hp⟩
    unfold guarded
    split
    · exact iff_of_false (hf x) hp
    · exact iff_of_false hp hp

/-- Finishing a row and dropping its entries is consistent exactly when a waiting row may
    finish that way. -/
private theorem finish_waiting_iff (hs : s.ConflictsConsistent) (phase : SftpTransferPhase)
    (status : String) (hc : s'.uploadConflicts = withoutConflict id s.uploadConflicts)
    (h : ∀ t, s'.transfer? t =
      if t = id then
        (s.transfer? id).map (guarded (fun x => x.phase.finishAllowed phase)
          (finishedRow phase status))
      else s.transfer? t) :
    s'.ConflictsConsistent ↔
      (s.Awaiting id → SftpTransferPhase.awaitingConflict.finishAllowed phase) := by
  rw [consistent_drop_iff hs hc h, awaiting_iff]
  constructor
  -- a row that waits and may not be finished would go on waiting without its conflict
  · rintro hrow ⟨x, hx, hp⟩
    by_contra hnot
    refine hrow x hx ?_
    unfold guarded
    rw [if_neg (by show ¬x.phase.finishAllowed phase; rw [hp]; exact hnot)]
    exact hp
  · intro hfin x hx
    unfold guarded
    split
    · rename_i hallowed
      intro hphase
      -- to wait for a decision is no end of a transfer
      have hfinished := PhaseStep.finished_of_finishAllowed hallowed
      have hphase' : phase = .awaitingConflict := hphase
      rw [hphase'] at hfinished
      exact nomatch hfinished
    · rename_i hallowed
      intro hp
      have := hfin ⟨x, hx, hp⟩
      rw [← hp] at this
      exact hallowed this

end Consistency

/-! ## One operation -/

/-- The steps that keep queue and rows together.  Starting, cancelling or deferring a
    waiting upload leaves its entry behind; finishing it other than as cancelled or failed
    drops the entry and leaves the row. -/
def ConflictSafe (s : SftpBrowserState) : BrowserOp → Prop
  | .startTransfer t _ _ _ _ => ¬s.Awaiting t
  | .requestTransferCancel t => ¬s.Awaiting t
  | .deferRecoverableFailure t _ => ¬s.Awaiting t
  | .finishTransfer t phase _ =>
    s.Awaiting t → SftpTransferPhase.awaitingConflict.finishAllowed phase
  | .finishUploadedTransfer t => ¬s.Awaiting t
  | .finishDownloadRoot t _ skipped failed cancelled _ =>
    t ∈ s.scanningDownloadRoots → s.Awaiting t →
      SftpTransferPhase.awaitingConflict.finishAllowed (downloadRootPhase skipped failed cancelled)
  | _ => True

section Step

variable {s : SftpBrowserState}

/-- The row of a queued transfer does not wait. -/
private theorem afterQueue_phase_ne {row : Option SftpTransferState}
    (hrow : ∀ x, row = some x → x.phase = .awaitingConflict → x.direction = .upload)
    (id : Uuid) (name : String) (total : Nat) (direction : SftpTransferDirection)
    (localPath : Option PathBuf) (remotePath : Option String) :
    (afterQueue id name total direction localPath remotePath row).phase ≠ .awaitingConflict := by
  cases row with
  | none => exact fun h => nomatch h
  | some x =>
    show (guarded requeueAllowed (requeuedRow name total localPath remotePath) x).phase ≠
      .awaitingConflict
    unfold guarded
    split
    · exact fun h => nomatch h
    · rename_i hnot
      intro hp
      refine hnot ?_
      unfold requeueAllowed
      rw [hrow x rfl hp, hp]
      rfl

/-- Queueing a transfer keeps consistency: its entries go, and its row does not wait. -/
private theorem consistent_of_queued {s' : SftpBrowserState} {id : Uuid}
    {y : SftpTransferState} (hs : s.ConflictsConsistent)
    (hc : s'.uploadConflicts = withoutConflict id s.uploadConflicts)
    (h : ∀ t, s'.transfer? t = if t = id then some y else s.transfer? t)
    (hy : y.phase ≠ .awaitingConflict) : s'.ConflictsConsistent := by
  refine (consistent_iff_without hs hc).mpr fun t => ?_
  rw [awaiting_iff, h t]
  split
  · rename_i ht
    simp [ht, hy]
  · rename_i ht
    simp [ht, awaiting_iff]

private theorem consistent_queue (hs : s.ConflictsConsistent) (hup : s.AwaitingUploads)
    (id : Uuid) (name : String) (total : Nat) (direction : SftpTransferDirection)
    (localPath : Option PathBuf) (remotePath : Option String) :
    (s.queueTransferWithPause id name total direction localPath
      remotePath).ConflictsConsistent :=
  consistent_of_queued hs (uploadConflicts_queue s id name total direction localPath remotePath)
    (transfer?_queueTransferWithPause s id name total direction localPath remotePath)
    (afterQueue_phase_ne (hup id) id name total direction localPath remotePath)

private theorem consistent_recordTransferFailure (hs : s.ConflictsConsistent) (id : Uuid)
    (name message : String) : (s.recordTransferFailure id name message).ConflictsConsistent := by
  refine consistent_of_queued hs (uploadConflicts_recordTransferFailure s id name message)
    (transfer?_recordTransferFailure s id name message) ?_
  generalize (s.transfer? id).getD (queuedRow id name 0 .download none none) = x
  unfold guarded
  split
  · exact fun h => nomatch h
  · rename_i hnot
    intro hp
    refine hnot ?_
    show x.phase.finishAllowed .failed
    rw [hp]
    rfl

private theorem consistent_recordUploadConflict (hs : s.ConflictsConsistent)
    (conflict : PendingUploadConflict) :
    (s.recordUploadConflict conflict).ConflictsConsistent := by
  have hrows := transfer?_recordUploadConflict s conflict
  by_cases hallowed : (s.transfer? conflict.transferId).any conflictAllowed
  · obtain ⟨x, hx, hxa⟩ := (Option.any_eq_true _ _).mp hallowed
    have hqueue : (s.recordUploadConflict conflict).conflictIds =
        s.conflictIds ++ [conflict.transferId] := by
      unfold recordUploadConflict
      dsimp only
      rw [tryTransfer_snd, if_pos hallowed]
      simp [conflictIds]
    -- a row that may wait for a decision does not wait already
    have hnew : conflict.transferId ∉ s.conflictIds := by
      rw [hs.mem_iff, awaiting_iff, hx]
      rintro ⟨y, hy, hp⟩
      cases hy
      unfold conflictAllowed at hxa
      rw [hp] at hxa
      simp at hxa
    refine ⟨?_, fun t => ?_⟩
    · rw [hqueue, List.nodup_append]
      refine ⟨hs.nodup, by simp, ?_⟩
      intro a ha b hb
      rw [List.mem_singleton] at hb
      rintro rfl
      exact hnew (hb ▸ ha)
    · rw [hqueue, List.mem_append, List.mem_singleton, hs.mem_iff, awaiting_iff, awaiting_iff,
        hrows t]
      split
      · rename_i ht
        subst ht
        have hguard : (guarded conflictAllowed conflictRow x).phase = .awaitingConflict := by
          unfold guarded
          rw [if_pos hxa]
          rfl
        simp [hx, hguard]
      · rename_i ht
        simp [ht]
  -- nothing is written, and nothing is queued
  · refine (consistent_row_iff hs ?_ hrows).mpr fun x hx => ?_
    · unfold recordUploadConflict
      dsimp only
      rw [tryTransfer_snd, if_neg hallowed, uploadConflicts_tryTransfer]
    · rw [hx] at hallowed
      unfold guarded
      rw [if_neg (by simpa using hallowed)]

private theorem consistent_resolveUploadConflict (hs : s.ConflictsConsistent) (id : Uuid)
    (applyToBatch : Bool) : (s.resolveUploadConflict id applyToBatch).ConflictsConsistent := by
  have hids : (s.resolveUploadConflict id applyToBatch).conflictIds =
      s.conflictIds.filter fun t => decide (t ∉ s.resolvedConflicts id applyToBatch) := by
    unfold conflictIds
    rw [List.filter_map]
    rfl
  refine ⟨hids ▸ hs.nodup.filter _, fun t => ?_⟩
  rw [hids, List.mem_filter, hs.mem_iff, awaiting_iff, awaiting_iff,
    transfer?_resolveUploadConflict]
  cases hx : s.transfer? t with
  | none => simp
  | some x =>
    have hid := id_of_transfer? hx
    by_cases hp : x.phase = .awaitingConflict
    · by_cases hmem : t ∈ s.resolvedConflicts id applyToBatch
      · simp [resolvedRow, hid, hmem, hp]
      · simp [resolvedRow, hid, hmem, hp]
    · simp [resolvedRow, hp]

private theorem consistent_removeFinishedTransfer (hs : s.ConflictsConsistent)
    (hn : s.ids.Nodup) (id : Uuid) : (s.removeFinishedTransfer id).1.ConflictsConsistent := by
  have hc : (s.removeFinishedTransfer id).1.uploadConflicts = s.uploadConflicts := by
    unfold removeFinishedTransfer
    split <;> rfl
  refine (consistent_iff_same hs hc).mpr fun t => ?_
  rw [awaiting_iff, awaiting_iff, transfer?_removeFinishedTransfer hn]
  cases hx : s.transfer? t with
  | none => rfl
  | some x =>
    by_cases hp : x.phase = .awaitingConflict
    · have hactive : x.phase.active = true := by rw [hp]; rfl
      simp [hactive]
    · simp [Option.filter_some, hp]

/-- A reconnect empties the queue and queues every waiting row. -/
private theorem consistent_prepareForReconnect (hn : s.ids.Nodup) :
    s.prepareForReconnect.ConflictsConsistent := by
  refine consistent_of_empty rfl fun t => ?_
  rw [awaiting_iff, transfer?_prepareForReconnect hn]
  rintro ⟨y, hy, hp⟩
  obtain ⟨x, _, rfl⟩ := Option.map_eq_some_iff.mp hy
  unfold reconnectedRow at hp
  split at hp
  · exact nomatch hp
  · rename_i hactive
    rw [hp] at hactive
    exact hactive rfl

private theorem consistent_finishDownloadRoot_iff (hs : s.ConflictsConsistent) (id : Uuid)
    (discovered skipped failed : Nat) (cancelled : Bool) (message : Option String) :
    (s.finishDownloadRoot id discovered skipped failed cancelled
        message).ConflictsConsistent ↔
      (id ∈ s.scanningDownloadRoots → s.Awaiting id →
        SftpTransferPhase.awaitingConflict.finishAllowed
          (downloadRootPhase skipped failed cancelled)) := by
  have hrows := transfer?_finishDownloadRoot s id discovered skipped failed cancelled message
  by_cases hscan : id ∈ s.scanningDownloadRoots
  · have hconflicts : (s.finishDownloadRoot id discovered skipped failed cancelled
        message).uploadConflicts = withoutConflict id s.uploadConflicts := by
      unfold finishDownloadRoot
      rw [if_neg (by simpa using hscan), uploadConflicts_finishTransfer]
      rfl
    refine (finish_waiting_iff hs (downloadRootPhase skipped failed cancelled)
      (downloadRootStatus discovered skipped failed cancelled message) hconflicts ?_).trans ?_
    · intro t
      rw [hrows t]
      simp [hscan]
    · exact ⟨fun h _ => h, fun h => h hscan⟩
  · refine iff_of_true (consistent_of_eq hs ?_ ?_) fun h => absurd h hscan
    all_goals
      unfold finishDownloadRoot
      rw [if_pos (by simpa using hscan)]

/-- From a consistent state, a step is consistent exactly when it is safe. -/
theorem step_consistent_iff (hs : s.ConflictsConsistent) (hn : s.ids.Nodup)
    (hup : s.AwaitingUploads) (op : BrowserOp) :
    (s.step op).ConflictsConsistent ↔ s.ConflictSafe op := by
  cases op with
  -- the operations that may take a waiting row away from the queue
  | startTransfer id remotePath name total now =>
    refine leave_waiting_iff hs (uploadConflicts_tryTransfer _ _ _ _)
      (transfer?_tryTransfer fun _ => rfl) (fun x => ?_) (fun x hp => ?_)
    · exact PhaseStep.activePhase_ne_awaitingConflict x.direction
    · simp [hp]
  | requestTransferCancel id =>
    refine leave_waiting_iff hs (uploadConflicts_requestTransferCancel s id)
      (transfer?_requestTransferCancel s id) (fun x h => nomatch h) (fun x hp => ?_)
    rw [hp]
    rfl
  | deferRecoverableFailure id message =>
    exact leave_waiting_iff hs (uploadConflicts_tryTransfer _ _ _ _)
      (transfer?_deferRecoverableFailure s id message) (fun x h => nomatch h)
      (fun _ _ => rfl)
  | finishTransfer id phase status =>
    exact finish_waiting_iff hs phase status (uploadConflicts_finishTransfer s id phase status)
      (transfer?_finishTransfer s id phase status)
  | finishUploadedTransfer id =>
    refine (finish_waiting_iff hs .completed "Uploaded"
      (uploadConflicts_finishTransfer s id .completed "Uploaded")
      (transfer?_finishTransfer s id .completed "Uploaded")).trans ?_
    exact ⟨fun h hw => Bool.false_ne_true (h hw), fun h hw => absurd hw h⟩
  | finishDownloadRoot => exact consistent_finishDownloadRoot_iff hs _ _ _ _ _ _
  -- the operations that keep rows and queue together
  | queueTransfer | queueUploadTransfer | queueTransferEvent =>
    exact iff_of_true (consistent_queue hs hup _ _ _ _ _ _) trivial
  | beginDownloadDiscovery id name localPath remotePath =>
    refine iff_of_true (consistent_of_queued hs ?_
      (transfer?_beginDownloadDiscovery s id name localPath remotePath) ?_) trivial
    · show (s.beginDownloadDiscovery id name localPath remotePath).uploadConflicts = _
      unfold beginDownloadDiscovery setTransferStatus queueTransferEvent
      rw [uploadConflicts_tryTransfer]
      exact uploadConflicts_queue s _ _ _ _ _ _
    · exact afterQueue_phase_ne (hup id) id name 0 .download (some localPath) (some remotePath)
  | recordTransferFailure => exact iff_of_true (consistent_recordTransferFailure hs _ _ _) trivial
  | failDownloadRoot id name message =>
    have hs' : ((s.releaseDownloadRoot id).removeTransferIntent id).ConflictsConsistent :=
      consistent_of_eq hs rfl rfl
    exact iff_of_true (consistent_recordTransferFailure hs' id name message) trivial
  | setTransferStatus =>
    exact iff_of_true (consistent_tryTransfer hs (fun _ => rfl) fun _ _ => Iff.rfl) trivial
  | updateTransferProgress =>
    refine iff_of_true (consistent_tryTransfer hs (fun _ => rfl) fun x hx => ?_) trivial
    refine iff_of_false (PhaseStep.activePhase_ne_awaitingConflict x.direction) fun hp => ?_
    have hne := (PhaseStep.activePhase_ne_awaitingConflict x.direction).symm
    simp [hp, hne] at hx
  | requestTransferPause =>
    refine iff_of_true (consistent_tryTransfer hs (fun _ => rfl) fun x hx => ?_) trivial
    exact iff_of_false (fun h => nomatch h) fun hp => by simp [hp] at hx
  | pauseTransfer =>
    refine iff_of_true (consistent_tryTransfer hs (fun _ => rfl) fun x hx => ?_) trivial
    exact iff_of_false (fun h => nomatch h) fun hp => by simp [hp] at hx
  | requestTransferResume =>
    refine iff_of_true (consistent_tryTransfer hs (fun _ => rfl) fun x hx => ?_) trivial
    exact iff_of_false (fun h => nomatch h) fun hp => by simp [hp] at hx
  | resumeTransfer =>
    refine iff_of_true (consistent_tryTransfer hs (fun _ => rfl) fun x hx => ?_) trivial
    refine iff_of_false (PhaseStep.activePhase_ne_awaitingConflict x.direction) fun hp => ?_
    simp [hp] at hx
  | finishDownloadedTransfer id total localPath =>
    refine iff_of_true ((consistent_row_iff hs
      (uploadConflicts_finishDownloadedTransfer s id total localPath)
      (transfer?_finishDownloadedTransfer s id total localPath)).mpr fun x _ => ?_) trivial
    unfold guarded
    split
    · rename_i hx
      refine iff_of_false (fun h => nomatch h) fun hp => ?_
      simp [downloadFinishAllowed, hp] at hx
    · rfl
  | recordUploadConflict => exact iff_of_true (consistent_recordUploadConflict hs _) trivial
  | resolveUploadConflict => exact iff_of_true (consistent_resolveUploadConflict hs _ _) trivial
  | removeFinishedTransfer => exact iff_of_true (consistent_removeFinishedTransfer hs hn _) trivial
  | prepareForReconnect => exact iff_of_true (consistent_prepareForReconnect hn) trivial
  | clearTransferIntents | reset =>
    exact iff_of_true (consistent_of_empty rfl fun _ h => nomatch h) trivial
  | reserveDownloadRoot id =>
    refine iff_of_true (consistent_of_eq hs ?_ (transfers_reserveDownloadRoot s id)) trivial
    show (s.reserveDownloadRoot id).1.uploadConflicts = _
    unfold reserveDownloadRoot
    split <;> rfl
  | registerDiscoveredDownloadIntent rootId id =>
    refine iff_of_true (consistent_of_eq hs ?_
      (transfers_registerDiscoveredDownloadIntent s rootId id)) trivial
    show (s.registerDiscoveredDownloadIntent rootId id).uploadConflicts = _
    unfold registerDiscoveredDownloadIntent
    split <;> rfl
  | toggleTransferSelection id selected =>
    refine iff_of_true (consistent_of_eq hs ?_
      (transfers_toggleTransferSelection s id selected)) trivial
    show (s.toggleTransferSelection id selected).1.uploadConflicts = _
    unfold toggleTransferSelection
    split <;> rfl
  | registerDownloadRootIntent | registerDownloadFileIntent | registerUploadIntent
  | removeTransferIntent | finishReplay | browse =>
    exact iff_of_true (consistent_of_eq hs rfl rfl) trivial

end Step

/-! ## Whole runs -/

/-- A fresh browser has no conflicts and no rows. -/
private theorem empty_consistent : ConflictsConsistent {} :=
  consistent_of_empty rfl fun _ h => nomatch h

/-- In every state a run passes through, the conflict queue is consistent. -/
def AlwaysConsistent (ops : List BrowserOp) : Prop :=
  ∀ pre, pre <+: ops → (run {} pre).ConflictsConsistent

/-- Every step of a run is safe in the state it is taken in. -/
def AlwaysConflictSafe (ops : List BrowserOp) : Prop :=
  ∀ pre op, pre ++ [op] <+: ops → (run {} pre).ConflictSafe op

private theorem consistent_throughout_iff (ops : List BrowserOp) :
    Transition.Throughout step {} ConflictsConsistent ops ↔
      Transition.AllSafe step {} ConflictSafe ops :=
  Transition.throughout_iff_allSafe empty_consistent fun pre op _ hbefore =>
    step_consistent_iff hbefore (run_nodup_ids pre) (run_awaitingUploads pre) op

/-- The conflict queue is consistent throughout exactly the runs whose steps are all safe. -/
theorem alwaysConsistent_iff (ops : List BrowserOp) :
    AlwaysConsistent ops ↔ AlwaysConflictSafe ops :=
  consistent_throughout_iff ops

/-- Cancelling an upload while its conflict dialog is open leaves the dialog behind. -/
theorem cancelled_conflict_stays_queued : ¬AlwaysConsistent
    [.queueUploadTransfer 1 "a" 4 "/a" "/srv/a", .recordUploadConflict ⟨1, 2, "a", none, none⟩,
      .requestTransferCancel 1] := by
  intro h
  have hsafe := (consistent_throughout_iff _).mp h
    [.queueUploadTransfer 1 "a" 4 "/a" "/srv/a", .recordUploadConflict ⟨1, 2, "a", none, none⟩]
    (.requestTransferCancel 1) (List.prefix_refl _)
  exact hsafe rfl

end AxSsh.SftpBrowserState
