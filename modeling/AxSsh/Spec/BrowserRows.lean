import AxSsh.Native.SftpBrowser

/-!
# What an operation does to one transfer row

Every browser operation works on the row list through a handful of list updates.  This
file turns them into statements about a single transfer: `transfer?_tryTransfer` for the
guarded in-place update, one frame lemma for each helper that leaves the rows alone, and
`ids_step_nodup`, which keeps row ids distinct over whole runs.

## Key results
- `transfer?_tryTransfer`: a guarded update is seen at its own row only
- `transfer?_finishTransfer`: the effect of `finish_transfer` on every row
- `step_nodup_ids` / `Reachable.nodup_ids`: no transfer is listed twice
-/

namespace AxSsh

/-- The operations that may take a row off the list. -/
def BrowserOp.dropsRows : BrowserOp → Bool
  | .prepareForReconnect | .removeFinishedTransfer _ | .clearTransferIntents | .reset => true
  | _ => false

namespace SftpBrowserState

/-- Apply a row update where its guard allows it. -/
def guarded (allowed : SftpTransferState → Bool) (f : SftpTransferState → SftpTransferState)
    (x : SftpTransferState) : SftpTransferState :=
  if allowed x then f x else x

/-! ## The guarded row update -/

/-- `tryTransfer` changes the row list only. -/
theorem tryTransfer_fst (s : SftpBrowserState) (id : Uuid) (allowed : SftpTransferState → Bool)
    (f : SftpTransferState → SftpTransferState) :
    (s.tryTransfer id allowed f).1 =
      { s with transfers :=
          if (s.transfer? id).any allowed then s.transfers.modifyKey (·.id) id f
          else s.transfers } := by
  unfold tryTransfer
  cases h : s.transfer? id with
  | none => rfl
  | some x => by_cases hx : allowed x <;> simp [hx]

/-- `tryTransfer` reports whether the row was listed and allowed. -/
theorem tryTransfer_snd (s : SftpBrowserState) (id : Uuid) (allowed : SftpTransferState → Bool)
    (f : SftpTransferState → SftpTransferState) :
    (s.tryTransfer id allowed f).2 = (s.transfer? id).any allowed := by
  unfold tryTransfer
  cases h : s.transfer? id with
  | none => rfl
  | some x => by_cases hx : allowed x <;> simp [hx]

/-- A guarded update is seen at its own row only. -/
theorem transfer?_tryTransfer {s : SftpBrowserState} {id : Uuid}
    {allowed : SftpTransferState → Bool} {f : SftpTransferState → SftpTransferState}
    (hf : ∀ x, (f x).id = x.id) (t : Uuid) :
    (s.tryTransfer id allowed f).1.transfer? t =
      if t = id then (s.transfer? id).map (guarded allowed f) else s.transfer? t := by
  rw [tryTransfer_fst]
  unfold transfer?
  cases h : s.transfers.findKey (·.id) id with
  | none =>
    simp only [Option.any_none, Bool.false_eq_true, ↓reduceIte, Option.map_none]
    split
    · rename_i ht
      rw [ht, h]
    · rfl
  | some x =>
    by_cases hx : allowed x
    · simp only [Option.any_some, hx, ↓reduceIte, Option.map_some, guarded]
      rw [List.findKey_modifyKey hf, h]
      rfl
    · simp only [Option.any_some, hx, Bool.false_eq_true, ↓reduceIte, Option.map_some, guarded]
      split
      · rename_i ht
        rw [ht, h]
      · rfl

/-- A guarded update keeps every row id in its place. -/
theorem ids_tryTransfer {s : SftpBrowserState} {id : Uuid}
    {allowed : SftpTransferState → Bool} {f : SftpTransferState → SftpTransferState}
    (hf : ∀ x, (f x).id = x.id) :
    (s.tryTransfer id allowed f).1.transfers.map (·.id) = s.transfers.map (·.id) := by
  rw [tryTransfer_fst]
  dsimp only
  split
  · exact List.map_key_modifyKey hf id s.transfers
  · rfl

/-- A row is listed exactly when its lookup succeeds. -/
theorem transfer?_isSome {s : SftpBrowserState} {t : Uuid} :
    (s.transfer? t).isSome ↔ t ∈ s.transfers.map (·.id) :=
  List.findKey_isSome

/-- A listed row has the id it is looked up by. -/
theorem id_of_transfer? {s : SftpBrowserState} {t : Uuid} {x : SftpTransferState}
    (h : s.transfer? t = some x) : x.id = t :=
  List.key_of_findKey h

/-- A decided conflict keeps the row's id. -/
theorem resolvedRow_id (resolved : Finset Uuid) (x : SftpTransferState) :
    (resolvedRow resolved x).id = x.id := by
  unfold resolvedRow
  split <;> rfl

/-- A reconnect keeps the row's id. -/
theorem reconnectedRow_id (x : SftpTransferState) : (reconnectedRow x).id = x.id := by
  unfold reconnectedRow
  split <;> rfl

/-- A row lookup reads the row list only. -/
theorem transfer?_congr {s s' : SftpBrowserState} (h : s'.transfers = s.transfers) (t : Uuid) :
    s'.transfer? t = s.transfer? t := by
  unfold transfer?
  rw [h]

/-! ## Helpers that leave the rows alone -/

@[simp] theorem transfers_removeTransferIntent (s : SftpBrowserState) (id : Uuid) :
    (s.removeTransferIntent id).transfers = s.transfers := rfl

@[simp] theorem transfers_markDirectoryChildCompleted (s : SftpBrowserState) (id : Uuid) :
    (s.markDirectoryChildCompleted id).transfers = s.transfers := by
  unfold markDirectoryChildCompleted
  split
  · rfl
  · split
    · rfl
    · split <;> rfl

@[simp] theorem transfers_registerDiscoveredDownloadIntent (s : SftpBrowserState)
    (rootId id : Uuid) :
    (s.registerDiscoveredDownloadIntent rootId id).transfers = s.transfers := by
  unfold registerDiscoveredDownloadIntent
  split <;> rfl

@[simp] theorem transfers_reserveDownloadRoot (s : SftpBrowserState) (id : Uuid) :
    (s.reserveDownloadRoot id).1.transfers = s.transfers := by
  unfold reserveDownloadRoot
  split <;> rfl

@[simp] theorem transfers_toggleTransferSelection (s : SftpBrowserState) (id : Uuid)
    (selected : Bool) :
    (s.toggleTransferSelection id selected).1.transfers = s.transfers := by
  unfold toggleTransferSelection
  split <;> rfl

@[simp] theorem transfers_forgetInactive (s : SftpBrowserState) (id : Uuid) :
    (s.forgetInactive id).transfers = s.transfers := by
  unfold forgetInactive
  split <;> rfl

/-! ## Composite row operations -/

/-- The rows after `finish_transfer` are those of its row update. -/
theorem transfers_finishTransfer (s : SftpBrowserState) (id : Uuid) (phase : SftpTransferPhase)
    (status : String) :
    (s.finishTransfer id phase status).transfers =
      (s.tryTransfer id (fun x => x.phase.finishAllowed phase)
        (finishedRow phase status)).1.transfers := by
  have hrow : (((s.releaseDownloadRoot id).dropUploadConflict id).tryTransfer id
      (fun x => x.phase.finishAllowed phase) (finishedRow phase status)).1.transfers =
      (s.tryTransfer id (fun x => x.phase.finishAllowed phase)
        (finishedRow phase status)).1.transfers := by
    rw [tryTransfer_fst, tryTransfer_fst]
    rfl
  unfold finishTransfer
  dsimp only
  split
  · exact hrow
  · split
    · rw [transfers_forgetInactive, transfers_markDirectoryChildCompleted, hrow]
    · rw [transfers_forgetInactive, hrow]

/-- `finish_transfer` changes its own row, and only where its table allows it. -/
theorem transfer?_finishTransfer (s : SftpBrowserState) (id : Uuid) (phase : SftpTransferPhase)
    (status : String) (t : Uuid) :
    (s.finishTransfer id phase status).transfer? t =
      if t = id then
        (s.transfer? id).map (guarded (fun x => x.phase.finishAllowed phase)
          (finishedRow phase status))
      else s.transfer? t := by
  rw [← transfer?_tryTransfer (f := finishedRow phase status) (fun _ => rfl)]
  unfold transfer?
  rw [transfers_finishTransfer]

/-- The row a queue operation leaves, given the row it found. -/
def afterQueue (id : Uuid) (name : String) (totalBytes : Nat) (direction : SftpTransferDirection)
    (localPath : Option PathBuf) (remotePath : Option String) :
    Option SftpTransferState → SftpTransferState
  | some x => guarded requeueAllowed (requeuedRow name totalBytes localPath remotePath) x
  | none => queuedRow id name totalBytes direction localPath remotePath

/-- Queueing lists its transfer and changes no other row. -/
theorem transfer?_queueTransferWithPause (s : SftpBrowserState) (id : Uuid) (name : String)
    (totalBytes : Nat) (direction : SftpTransferDirection) (localPath : Option PathBuf)
    (remotePath : Option String) (t : Uuid) :
    (s.queueTransferWithPause id name totalBytes direction localPath remotePath).transfer? t =
      if t = id then
        some (afterQueue id name totalBytes direction localPath remotePath (s.transfer? id))
      else s.transfer? t := by
  have hdrop (u : Uuid) : (s.dropUploadConflict id).transfer? u = s.transfer? u :=
    transfer?_congr rfl u
  unfold queueTransferWithPause
  dsimp only
  -- a row of this id is reused, or a new one is appended
  split
  · rename_i x hx
    rw [transfer?_tryTransfer (f := requeuedRow _ _ _ _) (fun _ => rfl), hx]
    rw [hdrop] at hx ⊢
    rw [hx]
    rfl
  · rename_i hx
    rw [hdrop] at hx
    rw [hx]
    let key : SftpTransferState → Uuid := fun x => x.id
    have happ : List.findKey key t (s.transfers ++
        [queuedRow id name totalBytes direction localPath remotePath]) = _ :=
      List.findKey_append_singleton t s.transfers _
    refine happ.trans ?_
    by_cases ht : t = id
    · subst ht
      have hnone : s.transfers.findKey (·.id) t = none := hx
      rw [hnone, Option.none_or, if_pos rfl]
      exact if_pos rfl
    · rw [if_neg ht, if_neg (fun h => ht h.symm), Option.or_none]
      rfl

/-- A recorded failure lists its transfer when it is new, and then finishes it. -/
theorem transfer?_recordTransferFailure (s : SftpBrowserState) (id : Uuid)
    (name message : String) (t : Uuid) :
    (s.recordTransferFailure id name message).transfer? t =
      if t = id then
        some (guarded (fun x => x.phase.finishAllowed .failed) (finishedRow .failed message)
          ((s.transfer? id).getD (queuedRow id name 0 .download none none)))
      else s.transfer? t := by
  unfold recordTransferFailure
  split
  · rename_i h
    have hlisted : (s.transfer? id).isSome := by
      rw [transfer?_isSome, List.mem_map]
      obtain ⟨x, hx, hid⟩ := List.any_eq_true.mp h
      exact ⟨x, hx, by simpa using hid⟩
    obtain ⟨x, hx⟩ := Option.isSome_iff_exists.mp hlisted
    rw [transfer?_finishTransfer, hx]
    rfl
  · rename_i h
    have hnone : s.transfer? id = none := by
      refine List.findKey_eq_none.mpr fun hmem => h ?_
      obtain ⟨x, hx, hid⟩ := List.mem_map.mp hmem
      exact List.any_eq_true.mpr ⟨x, hx, by simpa using hid⟩
    rw [transfer?_finishTransfer, queueTransfer, transfer?_queueTransferWithPause,
      transfer?_queueTransferWithPause, hnone, if_pos rfl]
    split
    · rfl
    · rfl

/-- A finished download root changes its own row only, and only while it is scanning. -/
theorem transfer?_finishDownloadRoot (s : SftpBrowserState) (id : Uuid)
    (discoveredFiles skippedEntries failedFiles : Nat) (cancelled : Bool)
    (message : Option String) (t : Uuid) :
    (s.finishDownloadRoot id discoveredFiles skippedEntries failedFiles cancelled
        message).transfer? t =
      if t = id ∧ id ∈ s.scanningDownloadRoots then
        (s.transfer? id).map (guarded
          (fun x => x.phase.finishAllowed
            (downloadRootPhase skippedEntries failedFiles cancelled))
          (finishedRow (downloadRootPhase skippedEntries failedFiles cancelled)
            (downloadRootStatus discoveredFiles skippedEntries failedFiles cancelled message)))
      else s.transfer? t := by
  unfold finishDownloadRoot
  split
  · rename_i h
    rw [if_neg (fun hc => h hc.2)]
    rfl
  · rename_i h
    rw [not_not] at h
    rw [transfer?_finishTransfer]
    by_cases ht : t = id
    · rw [if_pos ht, if_pos ⟨ht, h⟩]
      rfl
    · rw [if_neg ht, if_neg (fun hc => ht hc.1)]
      rfl

/-- A failed download root is a recorded failure of its row. -/
theorem transfer?_failDownloadRoot (s : SftpBrowserState) (id : Uuid) (name message : String)
    (t : Uuid) :
    (s.failDownloadRoot id name message).transfer? t =
      (s.recordTransferFailure id name message).transfer? t := by
  unfold failDownloadRoot
  rw [transfer?_recordTransferFailure, transfer?_recordTransferFailure]
  rfl

/-- The rows after a finished download are those of its row update. -/
theorem transfers_finishDownloadedTransfer (s : SftpBrowserState) (id : Uuid) (totalBytes : Nat)
    (localPath : PathBuf) :
    (s.finishDownloadedTransfer id totalBytes localPath).1.transfers =
      (s.tryTransfer id downloadFinishAllowed (downloadedRow totalBytes localPath)).1.transfers := by
  unfold finishDownloadedTransfer
  dsimp only
  split
  · rfl
  · rw [transfers_removeTransferIntent]
    exact transfers_markDirectoryChildCompleted _ _

/-- A finished download changes its own row only. -/
theorem transfer?_finishDownloadedTransfer (s : SftpBrowserState) (id : Uuid) (totalBytes : Nat)
    (localPath : PathBuf) (t : Uuid) :
    (s.finishDownloadedTransfer id totalBytes localPath).1.transfer? t =
      if t = id then
        (s.transfer? id).map (guarded downloadFinishAllowed
          (downloadedRow totalBytes localPath))
      else s.transfer? t := by
  rw [← transfer?_tryTransfer (f := downloadedRow totalBytes localPath) (fun _ => rfl)]
  exact transfer?_congr (transfers_finishDownloadedTransfer s id totalBytes localPath) t

/-- The rows after a cancel request are those of its row update. -/
theorem transfers_requestTransferCancel (s : SftpBrowserState) (id : Uuid) :
    (s.requestTransferCancel id).1.transfers =
      (s.tryTransfer id (fun x => x.phase.canRequestCancel) cancellingRow).1.transfers := by
  unfold requestTransferCancel
  dsimp only
  split <;> rfl

/-- A cancel request changes its own row only. -/
theorem transfer?_requestTransferCancel (s : SftpBrowserState) (id t : Uuid) :
    (s.requestTransferCancel id).1.transfer? t =
      if t = id then
        (s.transfer? id).map (guarded (fun x => x.phase.canRequestCancel) cancellingRow)
      else s.transfer? t := by
  rw [← transfer?_tryTransfer (f := cancellingRow) (fun _ => rfl)]
  exact transfer?_congr (transfers_requestTransferCancel s id) t

/-- A cancel request is granted exactly when the row is listed and may be cancelled. -/
theorem requestTransferCancel_snd (s : SftpBrowserState) (id : Uuid) :
    (s.requestTransferCancel id).2 =
      (s.transfer? id).any fun x => x.phase.canRequestCancel := by
  unfold requestTransferCancel
  dsimp only
  rw [tryTransfer_snd]
  split
  · rename_i h
    exact h.symm
  · rename_i h
    simpa using h

/-- The rows after a recorded conflict are those of its row update. -/
theorem transfers_recordUploadConflict (s : SftpBrowserState)
    (conflict : PendingUploadConflict) :
    (s.recordUploadConflict conflict).transfers =
      (s.tryTransfer conflict.transferId conflictAllowed conflictRow).1.transfers := by
  unfold recordUploadConflict
  dsimp only
  split <;> rfl

/-- A recorded conflict changes its own row only. -/
theorem transfer?_recordUploadConflict (s : SftpBrowserState)
    (conflict : PendingUploadConflict) (t : Uuid) :
    (s.recordUploadConflict conflict).transfer? t =
      if t = conflict.transferId then
        (s.transfer? conflict.transferId).map (guarded conflictAllowed conflictRow)
      else s.transfer? t := by
  rw [← transfer?_tryTransfer (f := conflictRow) (fun _ => rfl)]
  exact transfer?_congr (transfers_recordUploadConflict s conflict) t

/-- A conflict decision queues the answered rows that were waiting. -/
theorem transfer?_resolveUploadConflict (s : SftpBrowserState) (id : Uuid) (applyToBatch : Bool)
    (t : Uuid) :
    (s.resolveUploadConflict id applyToBatch).transfer? t =
      (s.transfer? t).map (resolvedRow (s.resolvedConflicts id applyToBatch)) :=
  List.findKey_map (resolvedRow_id _) t s.transfers

/-- Deferring a failure queues its row, whatever the phase of the row was. -/
theorem transfer?_deferRecoverableFailure (s : SftpBrowserState) (id : Uuid) (message : String)
    (t : Uuid) :
    (s.deferRecoverableFailure id message).transfer? t =
      if t = id then (s.transfer? id).map (guarded (fun _ => true) (deferredRow message))
      else s.transfer? t := by
  have hrelease (v : Uuid) : (s.releaseDownloadRoot id).transfer? v = s.transfer? v :=
    transfer?_congr rfl v
  unfold deferRecoverableFailure
  rw [transfer?_tryTransfer (f := deferredRow message) (fun _ => rfl), hrelease, hrelease]

/-- Beginning a discovery is queueing the root and naming its status. -/
theorem transfer?_beginDownloadDiscovery (s : SftpBrowserState) (id : Uuid) (name : String)
    (localPath : PathBuf) (remotePath : String) (t : Uuid) :
    (s.beginDownloadDiscovery id name localPath remotePath).transfer? t =
      if t = id then
        some (statusRow "Scanning directory…"
          (afterQueue id name 0 .download (some localPath) (some remotePath) (s.transfer? id)))
      else s.transfer? t := by
  have hscan (u : SftpBrowserState) (v : Uuid) :
      (u.scanDownloadRoot id).transfer? v = u.transfer? v :=
    transfer?_congr rfl v
  unfold beginDownloadDiscovery setTransferStatus queueTransferEvent
  rw [transfer?_tryTransfer (f := statusRow _) (fun _ => rfl), hscan, hscan,
    transfer?_queueTransferWithPause, transfer?_queueTransferWithPause, if_pos rfl]
  split <;> rfl

/-! ## Distinct rows -/

/-- The ids of the listed transfers, in list order. -/
def ids (s : SftpBrowserState) : List Uuid := s.transfers.map (·.id)

/-- A transfer without a row is not listed. -/
theorem notMem_ids {s : SftpBrowserState} {t : Uuid} (h : s.transfer? t = none) : t ∉ s.ids :=
  List.findKey_eq_none.mp h

private theorem ids_congr {s s' : SftpBrowserState} (h : s'.transfers = s.transfers) :
    s'.ids = s.ids := by
  unfold ids
  rw [h]

private theorem ids_finishTransfer (s : SftpBrowserState) (id : Uuid)
    (phase : SftpTransferPhase) (status : String) :
    (s.finishTransfer id phase status).ids = s.ids := by
  unfold ids
  rw [transfers_finishTransfer]
  exact ids_tryTransfer fun _ => rfl

private theorem ids_finishDownloadRoot (s : SftpBrowserState) (id : Uuid)
    (discovered skipped failed : Nat) (cancelled : Bool) (message : Option String) :
    (s.finishDownloadRoot id discovered skipped failed cancelled message).ids = s.ids := by
  unfold finishDownloadRoot
  split
  · rfl
  · exact ids_finishTransfer _ _ _ _

private theorem ids_beginDownloadDiscovery (s : SftpBrowserState) (id : Uuid) (name : String)
    (localPath : PathBuf) (remotePath : String) :
    (s.beginDownloadDiscovery id name localPath remotePath).ids =
      (s.queueTransferWithPause id name 0 .download (some localPath) (some remotePath)).ids := by
  unfold beginDownloadDiscovery setTransferStatus ids
  rw [ids_tryTransfer (f := statusRow _) fun _ => rfl]
  rfl

/-- The row ids after an operation that drops no row: the same, or one new id more. -/
def Lists (s s' : SftpBrowserState) : Prop :=
  s'.ids = s.ids ∨ ∃ id, id ∉ s.ids ∧ s'.ids = s.ids ++ [id]

private theorem lists_queue (s : SftpBrowserState) (id : Uuid) (name : String)
    (totalBytes : Nat) (direction : SftpTransferDirection) (localPath : Option PathBuf)
    (remotePath : Option String) :
    Lists s (s.queueTransferWithPause id name totalBytes direction localPath remotePath) := by
  unfold queueTransferWithPause
  dsimp only
  split
  · left
    exact ids_tryTransfer (s := s.dropUploadConflict id)
      (f := requeuedRow name totalBytes localPath remotePath) fun _ => rfl
  · rename_i hx
    right
    refine ⟨id, notMem_ids hx, ?_⟩
    unfold ids
    rw [List.map_append]
    rfl

private theorem lists_recordTransferFailure (s : SftpBrowserState) (id : Uuid)
    (name message : String) : Lists s (s.recordTransferFailure id name message) := by
  unfold recordTransferFailure
  split
  · exact .inl (ids_finishTransfer s id .failed message)
  · unfold Lists
    rw [ids_finishTransfer]
    exact lists_queue s id name 0 .download none none

private theorem ids_prepareForReconnect_sublist (s : SftpBrowserState) :
    s.prepareForReconnect.ids.Sublist s.ids := by
  unfold ids prepareForReconnect
  rw [List.map_key_map reconnectedRow_id]
  exact List.filter_sublist.map _

/-- What an operation does to the row ids: it drops some, or keeps them all and lists at
    most one new transfer. -/
theorem step_ids (s : SftpBrowserState) (op : BrowserOp) :
    Lists s (s.step op) ∨ op.dropsRows ∧ (s.step op).ids.Sublist s.ids := by
  cases op with
  -- operations that drop rows
  | prepareForReconnect => exact .inr ⟨rfl, ids_prepareForReconnect_sublist s⟩
  | removeFinishedTransfer id =>
    refine .inr ⟨rfl, ?_⟩
    simp only [step, removeFinishedTransfer]
    split
    · exact List.eraseP_sublist.map _
    · exact List.Sublist.refl _
  | clearTransferIntents | reset => exact .inr ⟨rfl, List.nil_sublist _⟩
  -- operations that may list a new row
  | queueTransfer | queueUploadTransfer | queueTransferEvent =>
    exact .inl (lists_queue s _ _ _ _ _ _)
  | beginDownloadDiscovery id name localPath remotePath =>
    left
    have h := ids_beginDownloadDiscovery s id name localPath remotePath
    have hq := lists_queue s id name 0 .download (some localPath) (some remotePath)
    unfold Lists at hq ⊢
    rw [← h] at hq
    exact hq
  | failDownloadRoot id =>
    exact .inl (lists_recordTransferFailure ((s.releaseDownloadRoot id).removeTransferIntent id)
      _ _ _)
  | recordTransferFailure => exact .inl (lists_recordTransferFailure s _ _ _)
  -- operations that rewrite rows in place
  | resolveUploadConflict =>
    exact .inl (.inl (List.map_key_map (resolvedRow_id _) s.transfers))
  | finishTransfer => exact .inl (.inl (ids_finishTransfer s _ _ _))
  | finishUploadedTransfer => exact .inl (.inl (ids_finishTransfer s _ _ _))
  | finishDownloadRoot => exact .inl (.inl (ids_finishDownloadRoot s _ _ _ _ _ _))
  | finishDownloadedTransfer id total localPath =>
    have h := ids_congr (transfers_finishDownloadedTransfer s id total localPath)
    exact .inl (.inl (h.trans (ids_tryTransfer fun _ => rfl)))
  | requestTransferCancel id =>
    have h := ids_congr (transfers_requestTransferCancel s id)
    exact .inl (.inl (h.trans (ids_tryTransfer fun _ => rfl)))
  | recordUploadConflict conflict =>
    have h := ids_congr (transfers_recordUploadConflict s conflict)
    exact .inl (.inl (h.trans (ids_tryTransfer fun _ => rfl)))
  | setTransferStatus | startTransfer | updateTransferProgress | requestTransferPause
  | pauseTransfer | requestTransferResume | resumeTransfer | deferRecoverableFailure =>
    exact .inl (.inl (ids_tryTransfer fun _ => rfl))
  -- operations that leave the rows alone
  | reserveDownloadRoot => exact .inl (.inl (ids_congr (transfers_reserveDownloadRoot s _)))
  | registerDiscoveredDownloadIntent =>
    exact .inl (.inl (ids_congr (transfers_registerDiscoveredDownloadIntent s _ _)))
  | toggleTransferSelection =>
    exact .inl (.inl (ids_congr (transfers_toggleTransferSelection s _ _)))
  | registerDownloadRootIntent | registerDownloadFileIntent | registerUploadIntent
  | removeTransferIntent | finishReplay | browse => exact .inl (.inl rfl)

/-- An operation that drops no row keeps every listed transfer listed. -/
theorem ids_subset_step {s : SftpBrowserState} {op : BrowserOp} (h : op.dropsRows = false) :
    s.ids ⊆ (s.step op).ids := by
  rcases step_ids s op with (hsame | ⟨id, _, hnew⟩) | ⟨hdrop, _⟩
  · rw [hsame]
    exact List.Subset.refl _
  · rw [hnew]
    exact List.subset_append_left _ _
  · rw [hdrop] at h
    exact nomatch h

/-- No operation lists a transfer twice. -/
theorem step_nodup_ids {s : SftpBrowserState} (hs : s.ids.Nodup) (op : BrowserOp) :
    (s.step op).ids.Nodup := by
  rcases step_ids s op with (hsame | ⟨id, hid, hnew⟩) | ⟨_, hsub⟩
  · rw [hsame]
    exact hs
  · rw [hnew, List.nodup_append]
    refine ⟨hs, by simp, fun a ha b hb => ?_⟩
    rw [List.mem_singleton] at hb
    rintro rfl
    exact hid (hb ▸ ha)
  · exact hs.sublist hsub

/-! ## Operations that drop rows -/

/-- Removing a finished transfer drops its row, and only once it is finished. -/
theorem transfer?_removeFinishedTransfer {s : SftpBrowserState} (hs : s.ids.Nodup)
    (id t : Uuid) :
    (s.removeFinishedTransfer id).1.transfer? t =
      (s.transfer? t).filter fun x => !(x.id == id && !x.phase.active) := by
  have hfilter : s.transfers.eraseP (fun x => x.id == id && !x.phase.active) =
      s.transfers.filter fun x => !(x.id == id && !x.phase.active) :=
    List.eraseP_eq_filter hs (k := id) fun x hx => by simp at hx; exact hx.1
  have hlookup := List.findKey_filter hs
    (p := fun x => !(x.id == id && !x.phase.active)) t
  unfold removeFinishedTransfer
  split
  · rw [← hfilter] at hlookup
    exact hlookup
  · rename_i hany
    have hself : s.transfers.filter (fun x => !(x.id == id && !x.phase.active)) =
        s.transfers := by
      rw [List.filter_eq_self]
      intro x hx
      by_contra hc
      exact hany (List.any_eq_true.mpr ⟨x, hx, by simpa using hc⟩)
    rw [hself] at hlookup
    exact hlookup

/-- A reconnect keeps finished rows and the active rows that have an intent to replay. -/
theorem transfer?_prepareForReconnect {s : SftpBrowserState} (hs : s.ids.Nodup) (t : Uuid) :
    s.prepareForReconnect.transfer? t =
      ((s.transfer? t).filter fun x => !x.phase.active || decide (x.id ∈
        AssocMap.retain (fun _ intent => intent.survivesReconnect) s.transferIntents)).map
          reconnectedRow := by
  unfold prepareForReconnect transfer?
  dsimp only
  rw [List.findKey_map reconnectedRow_id, List.findKey_filter hs]

/-- Over every run, no transfer is listed twice. -/
theorem run_nodup_ids (ops : List BrowserOp) : (run {} ops).ids.Nodup := by
  induction ops using List.reverseRecOn with
  | nil => exact List.nodup_nil
  | append_singleton ops op ih =>
    unfold run at ih ⊢
    rw [List.foldl_append]
    exact step_nodup_ids ih op

end SftpBrowserState

end AxSsh
