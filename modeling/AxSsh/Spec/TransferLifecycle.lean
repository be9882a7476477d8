import AxSsh.Spec.BrowserRows

/-!
# The life of one transfer

`PhaseStep` is the abstract life cycle of a transfer row: which phase may follow which
while the row stays listed.  `step_follows_lifecycle` shows that every browser operation
except `defer_recoverable_failure` refines it, and the two facts that matter for users
are read off the relation:

- a finished transfer stays finished (`PhaseStep.of_finished`)
- a transfer being cancelled can only finish, unless a reconnect still has its intent
  (`PhaseStep.of_cancelling`)

`defer_recoverable_failure` sets its row to queued whatever the phase was, so the results
about runs name the steps at which it does so.
-/

namespace AxSsh

open SftpTransferPhase

/-- How the phase of a listed transfer may change.  `registered` says that the transfer
    has an intent, which is what lets a reconnect keep an active row. -/
inductive PhaseStep (registered : Prop) (direction : SftpTransferDirection) :
    SftpTransferPhase → SftpTransferPhase → Prop
  | stay (p : SftpTransferPhase) : PhaseStep registered direction p p
  | requeue {p : SftpTransferPhase} (h : p = .awaitingConflict ∨ p = .uploading)
      (hd : direction = .upload) : PhaseStep registered direction p .queued
  | start {p : SftpTransferPhase} (h : p = .queued ∨ p = .awaitingConflict ∨ p = .resuming) :
      PhaseStep registered direction p direction.activePhase
  | progress : PhaseStep registered direction .pausing direction.activePhase
  | conflict {p : SftpTransferPhase} (h : p = .queued ∨ p = .uploading)
      (hd : direction = .upload) : PhaseStep registered direction p .awaitingConflict
  | resolve : PhaseStep registered direction .awaitingConflict .queued
  | requestPause : PhaseStep registered direction .downloading .pausing
  | pause {p : SftpTransferPhase} (h : p = .downloading ∨ p = .pausing) :
      PhaseStep registered direction p .paused
  | requestResume : PhaseStep registered direction .paused .resuming
  | requestCancel {p : SftpTransferPhase} (h : p.canRequestCancel) :
      PhaseStep registered direction p .cancelling
  | finish {p q : SftpTransferPhase} (h : p.finishAllowed q) :
      PhaseStep registered direction p q
  | reconnect {p : SftpTransferPhase} (h : p.active) (hr : registered) :
      PhaseStep registered direction p .queued

namespace PhaseStep

variable {registered : Prop} {direction : SftpTransferDirection} {p q : SftpTransferPhase}

/-- Only active transfers accept a cancel request. -/
private theorem active_of_canRequestCancel (h : p.canRequestCancel) : p.active := by
  unfold canRequestCancel at h
  split at h <;> first | rfl | exact absurd h Bool.false_ne_true

/-- The finishing table leaves active phases only. -/
private theorem active_of_finishAllowed (h : p.finishAllowed q) : p.active := by
  unfold finishAllowed at h
  split at h <;> first | rfl | exact absurd h Bool.false_ne_true

/-- The finishing table leads to finished phases only. -/
theorem finished_of_finishAllowed (h : p.finishAllowed q) : q.active = false := by
  unfold finishAllowed at h
  split at h <;> first | rfl | exact absurd h Bool.false_ne_true

/-- A finished transfer stays as it is. -/
theorem of_finished (h : PhaseStep registered direction p q) (hp : p.active = false) :
    q = p := by
  cases h with
  | stay => rfl
  | requeue h _ => rcases h with rfl | rfl <;> exact nomatch hp
  | start h => rcases h with rfl | rfl | rfl <;> exact nomatch hp
  | conflict h _ => rcases h with rfl | rfl <;> exact nomatch hp
  | pause h => rcases h with rfl | rfl <;> exact nomatch hp
  | requestCancel h =>
    rw [active_of_canRequestCancel h] at hp
    exact nomatch hp
  | finish h =>
    rw [active_of_finishAllowed h] at hp
    exact nomatch hp
  | reconnect h _ =>
    rw [h] at hp
    exact nomatch hp
  | progress | resolve | requestPause | requestResume => exact nomatch hp

/-- A transfer being cancelled stays so or finishes, unless it is registered for replay. -/
theorem of_cancelling (h : PhaseStep registered direction .cancelling q)
    (hr : ¬registered) : q = .cancelling ∨ q.active = false := by
  generalize hp : SftpTransferPhase.cancelling = p at h
  cases h with
  | stay => exact .inl rfl
  | requeue h _ => subst hp; exact nomatch h
  | start h => subst hp; exact nomatch h
  | conflict h _ => subst hp; exact nomatch h
  | pause h => subst hp; exact nomatch h
  | requestCancel => exact .inl hp
  | finish h => exact .inr (finished_of_finishAllowed h)
  | reconnect _ hreg => exact absurd hreg hr
  | progress | resolve | requestPause | requestResume => exact nomatch hp

/-- A running phase is not the phase of a pending conflict. -/
theorem activePhase_ne_awaitingConflict (direction : SftpTransferDirection) :
    direction.activePhase ≠ .awaitingConflict := by
  cases direction <;> exact fun h => nomatch h

/-- Only an upload comes to wait for a conflict decision. -/
theorem of_awaitingConflict (h : PhaseStep registered direction p .awaitingConflict) :
    p = .awaitingConflict ∨ direction = .upload := by
  generalize hq : SftpTransferPhase.awaitingConflict = q at h
  cases h with
  | stay => exact .inl rfl
  | conflict _ hd => exact .inr hd
  | start | progress => exact absurd hq.symm (activePhase_ne_awaitingConflict direction)
  | finish h =>
    subst hq
    exact nomatch finished_of_finishAllowed h
  | requeue | resolve | requestPause | pause | requestResume | requestCancel | reconnect =>
    exact nomatch hq

end PhaseStep

namespace SftpBrowserState

/-! ## Row updates that follow the life cycle -/

/-- One row follows the life cycle into another. -/
def RowStep (registered : Prop) (x y : SftpTransferState) : Prop :=
  y.direction = x.direction ∧ PhaseStep registered x.direction x.phase y.phase

private theorem RowStep.refl (registered : Prop) (x : SftpTransferState) :
    RowStep registered x x := ⟨rfl, .stay _⟩

/-- A guarded update follows the life cycle when every update it allows does. -/
private theorem rowStep_guarded {registered : Prop} {allowed : SftpTransferState → Bool}
    {f : SftpTransferState → SftpTransferState}
    (h : ∀ x, allowed x → RowStep registered x (f x)) (x : SftpTransferState) :
    RowStep registered x (guarded allowed f x) := by
  unfold guarded
  split
  · rename_i hx
    exact h x hx
  · exact RowStep.refl registered x

private theorem rowStep_finished (registered : Prop) (phase : SftpTransferPhase)
    (status : String) (x : SftpTransferState) :
    RowStep registered x
      (guarded (fun y => y.phase.finishAllowed phase) (finishedRow phase status) x) :=
  rowStep_guarded (f := finishedRow phase status) (fun _ hx => ⟨rfl, .finish hx⟩) x

private theorem rowStep_requeued (registered : Prop) (name : String) (total : Nat)
    (localPath : Option PathBuf) (remotePath : Option String) (x : SftpTransferState) :
    RowStep registered x
      (guarded requeueAllowed (requeuedRow name total localPath remotePath) x) := by
  refine rowStep_guarded (f := requeuedRow name total localPath remotePath) (fun y hy => ⟨rfl, ?_⟩) x
  show PhaseStep registered y.direction y.phase .queued
  unfold requeueAllowed at hy
  cases hp : y.phase with
  | queued => exact .stay _
  | awaitingConflict =>
    have hd : y.direction = .upload := by simpa [hp] using hy
    exact .requeue (.inl rfl) hd
  | uploading =>
    have hd : y.direction = .upload := by simpa [hp] using hy
    exact .requeue (.inr rfl) hd
  | _ => simp [hp] at hy

private theorem rowStep_resolved (registered : Prop) (resolved : Finset Uuid)
    (x : SftpTransferState) : RowStep registered x (resolvedRow resolved x) := by
  unfold resolvedRow
  split
  · rename_i h
    refine ⟨rfl, ?_⟩
    rw [h.2]
    exact .resolve
  · exact RowStep.refl registered x

private theorem rowStep_downloaded (registered : Prop) (total : Nat) (localPath : PathBuf)
    (x : SftpTransferState) :
    RowStep registered x (guarded downloadFinishAllowed (downloadedRow total localPath) x) := by
  refine rowStep_guarded (f := downloadedRow total localPath) (fun y hy => ⟨rfl, ?_⟩) x
  show PhaseStep registered y.direction y.phase .completed
  unfold downloadFinishAllowed at hy
  cases hp : y.phase with
  | downloading | pausing | resuming => exact .finish rfl
  | _ => simp [hp] at hy

private theorem rowStep_conflict (registered : Prop) (x : SftpTransferState) :
    RowStep registered x (guarded conflictAllowed conflictRow x) := by
  refine rowStep_guarded (f := conflictRow) (fun y hy => ⟨rfl, ?_⟩) x
  show PhaseStep registered y.direction y.phase .awaitingConflict
  unfold conflictAllowed at hy
  cases hp : y.phase with
  | queued =>
    have hd : y.direction = .upload := by simpa [hp] using hy
    exact .conflict (.inl rfl) hd
  | uploading =>
    have hd : y.direction = .upload := by simpa [hp] using hy
    exact .conflict (.inr rfl) hd
  | _ => simp [hp] at hy

private theorem rowStep_cancelling (registered : Prop) (x : SftpTransferState) :
    RowStep registered x (guarded (fun y => y.phase.canRequestCancel) cancellingRow x) :=
  rowStep_guarded (f := cancellingRow) (fun _ hx => ⟨rfl, .requestCancel hx⟩) x

/-! ## Operations follow the life cycle -/

/-- After an operation a transfer is unlisted, or its row went along the life cycle. -/
def Follows (s s' : SftpBrowserState) (t : Uuid) : Prop :=
  ∀ x, s.transfer? t = some x →
    s'.transfer? t = none ∨
    ∃ y, s'.transfer? t = some y ∧ RowStep (t ∈ s.transferIntents) x y

private theorem follows_of_eq {s s' : SftpBrowserState} {t : Uuid}
    (h : s'.transfer? t = s.transfer? t) : Follows s s' t := by
  intro x hx
  exact .inr ⟨x, h.trans hx, RowStep.refl _ x⟩

/-- An operation on one row follows the life cycle when its row update does. -/
private theorem follows_of_row {s s' : SftpBrowserState} {id t : Uuid}
    {f : SftpTransferState → SftpTransferState}
    (h : s'.transfer? t = if t = id then (s.transfer? id).map f else s.transfer? t)
    (hf : ∀ x, RowStep (t ∈ s.transferIntents) x (f x)) : Follows s s' t := by
  by_cases ht : t = id
  · intro x hx
    rw [if_pos ht, ← ht, hx] at h
    exact .inr ⟨f x, h, hf x⟩
  · rw [if_neg ht] at h
    exact follows_of_eq h

private theorem follows_tryTransfer {s : SftpBrowserState} {id t : Uuid}
    {allowed : SftpTransferState → Bool} {f : SftpTransferState → SftpTransferState}
    (hid : ∀ x, (f x).id = x.id)
    (h : ∀ x, allowed x → RowStep (t ∈ s.transferIntents) x (f x)) :
    Follows s (s.tryTransfer id allowed f).1 t :=
  follows_of_row (transfer?_tryTransfer hid t) (rowStep_guarded h)

private theorem follows_queue (s : SftpBrowserState) (id t : Uuid) (name : String) (total : Nat)
    (direction : SftpTransferDirection) (localPath : Option PathBuf)
    (remotePath : Option String) :
    Follows s (s.queueTransferWithPause id name total direction localPath remotePath) t := by
  have h := transfer?_queueTransferWithPause s id name total direction localPath remotePath t
  intro x hx
  by_cases ht : t = id
  · subst ht
    rw [if_pos rfl, hx] at h
    exact .inr ⟨_, h, rowStep_requeued _ name total localPath remotePath x⟩
  · rw [if_neg ht] at h
    exact follows_of_eq h x hx

private theorem follows_beginDownloadDiscovery (s : SftpBrowserState) (id t : Uuid)
    (name : String) (localPath : PathBuf) (remotePath : String) :
    Follows s (s.beginDownloadDiscovery id name localPath remotePath) t := by
  have h := transfer?_beginDownloadDiscovery s id name localPath remotePath t
  intro x hx
  by_cases ht : t = id
  · subst ht
    rw [if_pos rfl, hx] at h
    exact .inr ⟨_, h, rowStep_requeued _ name 0 (some localPath) (some remotePath) x⟩
  · rw [if_neg ht] at h
    exact follows_of_eq h x hx

private theorem follows_recordTransferFailure (s : SftpBrowserState) (id t : Uuid)
    (name message : String) : Follows s (s.recordTransferFailure id name message) t := by
  have h := transfer?_recordTransferFailure s id name message t
  intro x hx
  by_cases ht : t = id
  · subst ht
    rw [if_pos rfl, hx] at h
    exact .inr ⟨_, h, rowStep_finished _ .failed message x⟩
  · rw [if_neg ht] at h
    exact follows_of_eq h x hx

private theorem follows_finishDownloadRoot (s : SftpBrowserState) (id t : Uuid)
    (discovered skipped failed : Nat) (cancelled : Bool) (message : Option String) :
    Follows s (s.finishDownloadRoot id discovered skipped failed cancelled message) t := by
  have h := transfer?_finishDownloadRoot s id discovered skipped failed cancelled message t
  intro x hx
  by_cases ht : t = id ∧ id ∈ s.scanningDownloadRoots
  · obtain ⟨rfl, hscan⟩ := ht
    rw [if_pos ⟨rfl, hscan⟩, hx] at h
    exact .inr ⟨_, h, rowStep_finished _ _ _ x⟩
  · rw [if_neg ht] at h
    exact follows_of_eq h x hx

private theorem follows_prepareForReconnect {s : SftpBrowserState} (hs : s.ids.Nodup)
    (t : Uuid) : Follows s s.prepareForReconnect t := by
  intro x hx
  have h := transfer?_prepareForReconnect hs t
  rw [hx] at h
  by_cases hactive : x.phase.active
  · by_cases hreg : x.id ∈ AssocMap.retain (fun _ intent => intent.survivesReconnect)
        s.transferIntents
    · right
      rw [Option.filter_some, if_pos (by simp [hreg])] at h
      refine ⟨_, h, ?_⟩
      obtain ⟨_, hlookup, _⟩ := AssocMap.mem_retain.mp hreg
      have hmem : t ∈ s.transferIntents :=
        id_of_transfer? hx ▸ AssocMap.mem_iff_lookup.mpr ⟨_, hlookup⟩
      unfold reconnectedRow
      rw [if_pos hactive]
      exact ⟨rfl, .reconnect hactive hmem⟩
    · left
      rw [Option.filter_some, if_neg (by simp [hactive, hreg])] at h
      exact h
  · right
    rw [Option.filter_some, if_pos (by simp [hactive])] at h
    refine ⟨_, h, ?_⟩
    unfold reconnectedRow
    rw [if_neg hactive]
    exact RowStep.refl _ x

/-- Every operation but `defer_recoverable_failure` of the row itself follows the life
    cycle of every row. -/
theorem step_follows_lifecycle {s : SftpBrowserState} (hs : s.ids.Nodup) (op : BrowserOp)
    (t : Uuid) (hop : ∀ message, op ≠ .deferRecoverableFailure t message) :
    Follows s (s.step op) t := by
  cases op with
  | queueTransfer | queueUploadTransfer | queueTransferEvent => exact follows_queue s _ t _ _ _ _ _
  | beginDownloadDiscovery => exact follows_beginDownloadDiscovery s _ t _ _ _
  | setTransferStatus => exact follows_tryTransfer (fun _ => rfl) fun x _ => ⟨rfl, .stay _⟩
  | startTransfer =>
    refine follows_tryTransfer (fun _ => rfl) fun x hx => ⟨rfl, .start ?_⟩
    cases hp : x.phase <;> simp [hp] at hx ⊢
  | updateTransferProgress =>
    refine follows_tryTransfer (fun _ => rfl) fun x hx => ⟨rfl, ?_⟩
    show PhaseStep _ x.direction x.phase x.direction.activePhase
    -- progress of a row that is being paused counts as its resumption
    by_cases hp : x.phase = x.direction.activePhase
    · rw [hp]
      exact .stay _
    · have hpausing : x.phase = .pausing := by simpa [hp] using hx
      rw [hpausing]
      exact .progress
  | requestTransferPause =>
    refine follows_tryTransfer (fun _ => rfl) fun x hx => ⟨rfl, ?_⟩
    have hp : x.phase = .downloading := by simp at hx; exact hx.2
    rw [hp]
    exact .requestPause
  | pauseTransfer =>
    refine follows_tryTransfer (fun _ => rfl) fun x hx => ⟨rfl, .pause ?_⟩
    cases hp : x.phase <;> simp [hp] at hx ⊢
  | requestTransferResume =>
    refine follows_tryTransfer (fun _ => rfl) fun x hx => ⟨rfl, ?_⟩
    have hp : x.phase = .paused := by simp at hx; exact hx.2
    rw [hp]
    exact .requestResume
  | resumeTransfer =>
    refine follows_tryTransfer (fun _ => rfl) fun x hx => ⟨rfl, .start (.inr (.inr ?_))⟩
    simpa using hx
  | requestTransferCancel id =>
    exact follows_of_row (transfer?_requestTransferCancel s id t) (rowStep_cancelling _)
  | recordUploadConflict conflict =>
    exact follows_of_row (transfer?_recordUploadConflict s conflict t) (rowStep_conflict _)
  | resolveUploadConflict id applyToBatch =>
    intro x hx
    have h := transfer?_resolveUploadConflict s id applyToBatch t
    rw [hx] at h
    exact .inr ⟨_, h, rowStep_resolved _ _ x⟩
  | finishTransfer id phase status =>
    exact follows_of_row (transfer?_finishTransfer s id phase status t) (rowStep_finished _ _ _)
  | finishUploadedTransfer id =>
    exact follows_of_row (transfer?_finishTransfer s id .completed _ t) (rowStep_finished _ _ _)
  | finishDownloadedTransfer id total localPath =>
    exact follows_of_row (transfer?_finishDownloadedTransfer s id total localPath t)
      (rowStep_downloaded _ _ _)
  | finishDownloadRoot => exact follows_finishDownloadRoot s _ t _ _ _ _ _
  | failDownloadRoot id name message =>
    intro x hx
    have h := follows_recordTransferFailure s id t name message x hx
    rw [← transfer?_failDownloadRoot] at h
    exact h
  | recordTransferFailure => exact follows_recordTransferFailure s _ t _ _
  -- the excluded operation is that of this row
  | deferRecoverableFailure id message =>
    have ht : t ≠ id := fun h => hop message (h ▸ rfl)
    have h := transfer?_deferRecoverableFailure s id message t
    rw [if_neg ht] at h
    exact follows_of_eq h
  | removeFinishedTransfer id =>
    intro x hx
    have h := transfer?_removeFinishedTransfer hs id t
    rw [hx, Option.filter_some] at h
    split at h
    · exact .inr ⟨x, h, RowStep.refl _ x⟩
    · exact .inl h
  | prepareForReconnect => exact follows_prepareForReconnect hs t
  | reserveDownloadRoot =>
    exact follows_of_eq (transfer?_congr (transfers_reserveDownloadRoot s _) t)
  | registerDiscoveredDownloadIntent =>
    exact follows_of_eq (transfer?_congr (transfers_registerDiscoveredDownloadIntent s _ _) t)
  | toggleTransferSelection =>
    exact follows_of_eq (transfer?_congr (transfers_toggleTransferSelection s _ _) t)
  | registerDownloadRootIntent | registerDownloadFileIntent | registerUploadIntent
  | removeTransferIntent | finishReplay | browse => exact follows_of_eq rfl
  | clearTransferIntents | reset => exact fun _ _ => .inl rfl

/-! ## New rows -/

/-- A row that an operation lists anew is queued, or records a failure. -/
def StartsFresh (s s' : SftpBrowserState) (t : Uuid) : Prop :=
  s.transfer? t = none → ∀ y, s'.transfer? t = some y → y.phase = .queued ∨ y.phase = .failed

private theorem fresh_of_none {s s' : SftpBrowserState} {t : Uuid}
    (h : s.transfer? t = none → s'.transfer? t = none) : StartsFresh s s' t := by
  intro hnone y hy
  rw [h hnone] at hy
  exact nomatch hy

private theorem fresh_of_eq {s s' : SftpBrowserState} {t : Uuid}
    (h : s'.transfer? t = s.transfer? t) : StartsFresh s s' t :=
  fresh_of_none h.trans

private theorem fresh_of_row {s s' : SftpBrowserState} {id t : Uuid}
    {f : SftpTransferState → SftpTransferState}
    (h : s'.transfer? t = if t = id then (s.transfer? id).map f else s.transfer? t) :
    StartsFresh s s' t := by
  refine fresh_of_none fun hnone => ?_
  rw [h]
  split
  · rename_i ht
    rw [← ht, hnone]
    rfl
  · exact hnone

private theorem fresh_tryTransfer {s : SftpBrowserState} {id t : Uuid}
    {allowed : SftpTransferState → Bool} {f : SftpTransferState → SftpTransferState}
    (hid : ∀ x, (f x).id = x.id) : StartsFresh s (s.tryTransfer id allowed f).1 t :=
  fresh_of_row (transfer?_tryTransfer hid t)

private theorem fresh_queue (s : SftpBrowserState) (id t : Uuid) (name : String) (total : Nat)
    (direction : SftpTransferDirection) (localPath : Option PathBuf)
    (remotePath : Option String) :
    StartsFresh s (s.queueTransferWithPause id name total direction localPath remotePath) t := by
  intro hnone y hy
  rw [transfer?_queueTransferWithPause] at hy
  split at hy
  · rename_i ht
    rw [← ht, hnone] at hy
    cases hy
    exact .inl rfl
  · rw [hnone] at hy
    exact nomatch hy

private theorem fresh_beginDownloadDiscovery (s : SftpBrowserState) (id t : Uuid)
    (name : String) (localPath : PathBuf) (remotePath : String) :
    StartsFresh s (s.beginDownloadDiscovery id name localPath remotePath) t := by
  intro hnone y hy
  rw [transfer?_beginDownloadDiscovery] at hy
  split at hy
  · rename_i ht
    rw [← ht, hnone] at hy
    cases hy
    exact .inl rfl
  · rw [hnone] at hy
    exact nomatch hy

private theorem fresh_recordTransferFailure (s : SftpBrowserState) (id t : Uuid)
    (name message : String) : StartsFresh s (s.recordTransferFailure id name message) t := by
  intro hnone y hy
  rw [transfer?_recordTransferFailure] at hy
  split at hy
  · rename_i ht
    rw [← ht, hnone] at hy
    cases hy
    exact .inr rfl
  · rw [hnone] at hy
    exact nomatch hy

private theorem fresh_finishDownloadRoot (s : SftpBrowserState) (id t : Uuid)
    (discovered skipped failed : Nat) (cancelled : Bool) (message : Option String) :
    StartsFresh s (s.finishDownloadRoot id discovered skipped failed cancelled message) t := by
  refine fresh_of_none fun hnone => ?_
  rw [transfer?_finishDownloadRoot]
  split
  · rename_i ht
    rw [← ht.1, hnone]
    rfl
  · exact hnone

/-- Every row that an operation lists anew is queued, or records a failure. -/
theorem step_startsFresh {s : SftpBrowserState} (hs : s.ids.Nodup) (op : BrowserOp) (t : Uuid) :
    StartsFresh s (s.step op) t := by
  cases op with
  | queueTransfer | queueUploadTransfer | queueTransferEvent => exact fresh_queue s _ t _ _ _ _ _
  | beginDownloadDiscovery => exact fresh_beginDownloadDiscovery s _ t _ _ _
  | recordTransferFailure => exact fresh_recordTransferFailure s _ t _ _
  | failDownloadRoot id name message =>
    intro hnone y hy
    have hy' := (transfer?_failDownloadRoot s id name message t).symm.trans hy
    exact fresh_recordTransferFailure s id t name message hnone y hy'
  | finishDownloadRoot => exact fresh_finishDownloadRoot s _ t _ _ _ _ _
  -- these write a row that exists
  | setTransferStatus | startTransfer | updateTransferProgress | requestTransferPause
  | pauseTransfer | requestTransferResume | resumeTransfer =>
    exact fresh_tryTransfer fun _ => rfl
  | deferRecoverableFailure id message =>
    exact fresh_tryTransfer (s := s.releaseDownloadRoot id) (f := deferredRow message)
      (fun _ => rfl)
  | requestTransferCancel id => exact fresh_of_row (transfer?_requestTransferCancel s id t)
  | recordUploadConflict conflict => exact fresh_of_row (transfer?_recordUploadConflict s conflict t)
  | resolveUploadConflict id applyToBatch =>
    refine fresh_of_none fun hnone => ?_
    exact (transfer?_resolveUploadConflict s id applyToBatch t).trans (by rw [hnone]; rfl)
  | finishTransfer id phase status => exact fresh_of_row (transfer?_finishTransfer s id phase status t)
  | finishUploadedTransfer id => exact fresh_of_row (transfer?_finishTransfer s id .completed _ t)
  | finishDownloadedTransfer id total localPath =>
    exact fresh_of_row (transfer?_finishDownloadedTransfer s id total localPath t)
  | removeFinishedTransfer id =>
    refine fresh_of_none fun hnone => ?_
    exact (transfer?_removeFinishedTransfer hs id t).trans (by rw [hnone]; rfl)
  | prepareForReconnect =>
    refine fresh_of_none fun hnone => ?_
    exact (transfer?_prepareForReconnect hs t).trans (by rw [hnone]; rfl)
  | reserveDownloadRoot =>
    exact fresh_of_eq (transfer?_congr (transfers_reserveDownloadRoot s _) t)
  | registerDiscoveredDownloadIntent =>
    exact fresh_of_eq (transfer?_congr (transfers_registerDiscoveredDownloadIntent s _ _) t)
  | toggleTransferSelection =>
    exact fresh_of_eq (transfer?_congr (transfers_toggleTransferSelection s _ _) t)
  | registerDownloadRootIntent | registerDownloadFileIntent | registerUploadIntent
  | removeTransferIntent | finishReplay | browse => exact fresh_of_eq rfl
  | clearTransferIntents | reset => exact fresh_of_none fun _ => rfl

end SftpBrowserState

end AxSsh
