import AxSsh.Spec.CensusMoves

/-!
# The books of the transfer loop

In every run in which a transfer that comes to the loop is new to it, the books of the loop
are in order: every transfer has a sound census, so it is in one place at most, and the
queue slots are the uploads that are queued, wait for a decision or are active.  The limit of
the tab holds in every run.

## Key results
- `Booked.apply`: every input keeps the books in order
- `census_apply`: an input moves the census of every transfer
-/

namespace AxSsh

namespace SftpWorker

/-! ## What stays as it is -/

namespace SameBooks

variable {s s' : SftpWorker}

theorem keyed (h : SameBooks s s') (hk : s.Keyed) : s'.Keyed := by
  obtain ⟨_, _, _, _, rfl⟩ := h
  exact ⟨hk.pending, hk.conflict, hk.active⟩

end SameBooks

variable {s : SftpWorker}

theorem keyed_erasePending (hk : s.Keyed) (id : Uuid) :
    { s with pendingByTransfer := s.pendingByTransfer.erase id }.Keyed := by
  refine ⟨fun k p hp => ?_, hk.conflict, hk.active⟩
  simp only [AssocMap.lookup_erase_ite] at hp
  split at hp
  · exact nomatch hp
  · exact hk.pending k p hp

theorem keyed_eraseConflict (hk : s.Keyed) (id : Uuid) :
    { s with pendingUploadConflicts := s.pendingUploadConflicts.erase id }.Keyed := by
  refine ⟨hk.pending, fun k r hr => ?_, hk.active⟩
  simp only [AssocMap.lookup_erase_ite] at hr
  split at hr
  · exact nomatch hr
  · exact hk.conflict k r hr

theorem keyed_eraseActive (hk : s.Keyed) (id : Uuid) :
    { s with activeUploadRequests := s.activeUploadRequests.erase id }.Keyed := by
  refine ⟨hk.pending, hk.conflict, fun k r hr => ?_⟩
  simp only [AssocMap.lookup_erase_ite] at hr
  split at hr
  · exact nomatch hr
  · exact hk.active k r hr

theorem keyed_enqueueDownload (hk : s.Keyed) (request : SftpDownloadRequest)
    (root : Option Uuid) : (s.enqueueDownload request root).Keyed := by
  unfold enqueueDownload
  split
  · have hemit := (SameBooks.emit s (downloadQueuedEvent request root)).keyed hk
    exact ⟨hemit.pending, hemit.conflict, hemit.active⟩
  · exact hk

theorem keyed_releaseSlot (hk : s.Keyed) (event : SftpTransferEvent) :
    (s.releaseSlot event).Keyed := by
  unfold releaseSlot
  split <;> exact ⟨hk.pending, hk.conflict, hk.active⟩

/-- Handling an event keeps the maps keyed. -/
theorem keyed_handleTransferEvent (hk : s.Keyed) (event : SftpTransferEvent) :
    (s.handleTransferEvent event).Keyed := by
  have hjoin : (s.joinTransfer event).Keyed := by
    unfold joinTransfer
    split
    · exact ⟨hk.pending, hk.conflict, hk.active⟩
    · exact hk
  have hrelease : ((s.joinTransfer event).releaseUpload event).Keyed := by
    unfold releaseUpload
    split
    · exact keyed_eraseActive hjoin _
    · exact hjoin
  have hsettle : ((s.joinTransfer event).settleUpload event).1.Keyed := by
    unfold settleUpload
    split
    · split
      · rename_i request hlookup
        unfold uploadConflict
        simp only
        split
        · split
          · exact (SameBooks.emit _ _).keyed (keyed_eraseActive hjoin _)
              |> fun h => ⟨h.pending, h.conflict, h.active⟩
          · exact keyed_eraseActive hjoin _
        -- the conflict is stored under the id of its request
        · refine ⟨hjoin.pending, fun k r hr => ?_, (keyed_eraseActive hjoin _).active⟩
          simp only [AssocMap.lookup_insert_ite] at hr
          split at hr
          · rename_i hkey
            cases hr
            rw [hkey]
            exact hjoin.active _ request hlookup
          · exact hjoin.conflict k r hr
      · exact hrelease
    · exact hrelease
  unfold handleTransferEvent
  generalize (s.joinTransfer event).settleUpload event = result at hsettle ⊢
  obtain ⟨s', forward⟩ := result
  cases forward with
  | false => exact keyed_releaseSlot hsettle event
  | true =>
    simp only [forwardTransferEvent]
    split
    · exact keyed_releaseSlot ((SameBooks.sendTransferEvent s' event).keyed hsettle) event
    · exact ⟨hsettle.pending, hsettle.conflict, hsettle.active⟩

/-- A small step keeps the maps keyed. -/
theorem LoopStep.keyed {label : LoopLabel} {s s' : SftpWorker} (h : LoopStep label s s')
    (hk : s.Keyed) : s'.Keyed := by
  -- wherever a record is stored it is stored under its own id
  cases h with
  | adopt _ _ =>
    have htake : { s with deferredDiscovered := none }.Keyed :=
      ⟨hk.pending, hk.conflict, hk.active⟩
    exact keyed_enqueueDownload ((SameBooks.adoptChild _ _ _).keyed htake) _ _
  | finish _ =>
    exact (SameBooks.discoveredFinished _ _ _ _ _).keyed ⟨hk.pending, hk.conflict, hk.active⟩
  | openRequest _ _ =>
    refine ⟨fun k p hp => ?_, hk.conflict, hk.active⟩
    simp only [spawnPendingSftpOpen, AssocMap.lookup_insert_ite] at hp
    split at hp
    · rename_i hkey
      cases hp
      exact hkey.symm
    · exact hk.pending k p hp
  | startUpload _ _ =>
    refine ⟨hk.pending, hk.conflict, fun k r hr => ?_⟩
    simp only [spawnUpload, AssocMap.lookup_insert_ite] at hr
    split at hr
    · rename_i hkey
      cases hr
      exact hkey.symm
    · exact hk.active k r hr
  | joinDropped _ _ => exact keyed_erasePending hk _
  | activate _ _ =>
    have herase := keyed_erasePending hk
    exact ⟨(herase _).pending, hk.conflict, hk.active⟩
  | failOpening message _ _ => exact (SameBooks.sendTransferEvent _ _).keyed (keyed_erasePending hk _)
  | beginRoot _ =>
    rename_i root _
    have hexpect := (SameBooks.expectDirectory s root).keyed hk
    exact ⟨hexpect.pending, hexpect.conflict, hexpect.active⟩
  | queueRoot _ =>
    rename_i root _
    have hexpect := (SameBooks.expectDirectory s root).keyed hk
    exact ⟨hexpect.pending, hexpect.conflict, hexpect.active⟩
  | admitDownload _ => exact keyed_enqueueDownload hk _ _
  | admitUpload _ _ =>
    rename_i request _ _
    have hemit := (SameBooks.emit s (uploadQueuedEvent request)).keyed hk
    exact ⟨hemit.pending, hemit.conflict, hemit.active⟩
  | reply id message => exact (SameBooks.reply s id message).keyed hk
  | rememberPolicy batchId choice =>
    unfold SftpWorker.rememberPolicy
    simp only
    split
    · exact ⟨hk.pending, hk.conflict, hk.active⟩
    · split
      · split <;> exact ⟨hk.pending, hk.conflict, hk.active⟩
      · exact ⟨hk.pending, hk.conflict, hk.active⟩
  | resolve choice hlookup =>
    rename_i id request
    have herase := keyed_eraseConflict hk id
    unfold retryUpload
    rw [hlookup]
    simp only
    split
    · have hemit := (SameBooks.emit _ (uploadQueuedEvent
        { request with conflictChoice := some choice })).keyed herase
      exact ⟨hemit.pending, hemit.conflict, hemit.active⟩
    · exact herase
  | cancelRequests _ =>
    exact (SameBooks.sendTransferEvent _ _).keyed ⟨hk.pending, hk.conflict, hk.active⟩
  | cancelRequest _ =>
    exact (SameBooks.sendTransferEvent _ _).keyed ⟨hk.pending, hk.conflict, hk.active⟩
  | cancelOpening _ _ =>
    refine (SameBooks.sendTransferEvent _ _).keyed ⟨fun k p hp => ?_, hk.conflict, hk.active⟩
    simp only [markOpening, AssocMap.lookup_adjust_ite] at hp
    split at hp
    · rename_i hkey
      obtain ⟨old, hold, rfl⟩ := Option.map_eq_some_iff.mp hp
      rw [hkey]
      exact hk.pending _ old hold
    · exact hk.pending k p hp
  | settleDirectory id => exact (SameBooks.settleDirectory s id).keyed hk
  | cancelQueuedRoot _ _ =>
    exact (SameBooks.emit _ _).keyed ⟨hk.pending, hk.conflict, hk.active⟩
  | cancelDiscovering _ _ =>
    exact (SameBooks.emit _ _).keyed ⟨hk.pending, hk.conflict, hk.active⟩
  | cancelUpload _ =>
    exact (SameBooks.emit _ _).keyed ⟨hk.pending, hk.conflict, hk.active⟩
  | cancelConflict _ =>
    have herase := keyed_eraseConflict hk
    exact (SameBooks.emit _ _).keyed ⟨hk.pending, (herase _).conflict, hk.active⟩
  | handleEvent _ =>
    rename_i event rest _
    exact keyed_handleTransferEvent (s := { s with transferEvents := rest })
      ⟨hk.pending, hk.conflict, hk.active⟩ _
  | _ => exact ⟨hk.pending, hk.conflict, hk.active⟩

/-- What the loop knows of the connection and of the application. -/
def circumstances (s : SftpWorker) : Bool × Bool × Nat :=
  (s.receiverOpen, s.connectionClosed, s.perTabLimit)

theorem SameBooks.circumstances_eq {s s' : SftpWorker} (h : SameBooks s s') :
    s'.circumstances = s.circumstances := by
  obtain ⟨_, _, _, _, rfl⟩ := h
  rfl

theorem circumstances_enqueueDownload (s : SftpWorker) (request : SftpDownloadRequest)
    (root : Option Uuid) : (s.enqueueDownload request root).circumstances = s.circumstances := by
  unfold enqueueDownload
  split
  · exact (SameBooks.emit s (downloadQueuedEvent request root)).circumstances_eq
  · rfl

theorem circumstances_handleTransferEvent (s : SftpWorker) (event : SftpTransferEvent) :
    (s.handleTransferEvent event).circumstances = s.circumstances := by
  -- none of the four parts of the work touches the circumstances
  have hjoin : (s.joinTransfer event).circumstances = s.circumstances := by
    unfold joinTransfer
    split <;> rfl
  have hrelease : ∀ s : SftpWorker, (s.releaseUpload event).circumstances = s.circumstances := by
    intro s
    unfold releaseUpload
    split <;> rfl
  have hslot : ∀ s : SftpWorker, (s.releaseSlot event).circumstances = s.circumstances := by
    intro s
    unfold releaseSlot
    split <;> rfl
  have hsettle : ((s.joinTransfer event).settleUpload event).1.circumstances =
      s.circumstances := by
    rw [← hjoin]
    unfold settleUpload
    split
    · split
      · unfold uploadConflict
        simp only
        split
        · split
          · exact (SameBooks.emit _ _).circumstances_eq
          · rfl
        · rfl
      · exact hrelease _
    · exact hrelease _
  unfold handleTransferEvent
  generalize (s.joinTransfer event).settleUpload event = result at hsettle ⊢
  obtain ⟨s', forward⟩ := result
  cases forward with
  | false => exact (hslot s').trans hsettle
  | true =>
    simp only [forwardTransferEvent]
    split
    · exact ((hslot _).trans (SameBooks.sendTransferEvent s' event).circumstances_eq).trans
        hsettle
    · exact hsettle

/-- A small step changes nothing about the connection and the application. -/
theorem LoopStep.circumstances_eq {label : LoopLabel} {s s' : SftpWorker}
    (h : LoopStep label s s') : s'.circumstances = s.circumstances := by
  cases h with
  | adopt _ _ =>
    exact (circumstances_enqueueDownload _ _ _).trans
      (SameBooks.adoptChild _ _ _).circumstances_eq
  | finish _ => exact (SameBooks.discoveredFinished _ _ _ _ _).circumstances_eq
  | failOpening message _ _ => exact (SameBooks.sendTransferEvent _ _).circumstances_eq
  | beginRoot _ => exact (SameBooks.expectDirectory s _).circumstances_eq
  | queueRoot _ => exact (SameBooks.expectDirectory s _).circumstances_eq
  | admitDownload _ => exact circumstances_enqueueDownload s _ _
  | admitUpload _ _ => exact (SameBooks.emit s _).circumstances_eq
  | reply id message => exact (SameBooks.reply s id message).circumstances_eq
  | rememberPolicy batchId choice =>
    unfold SftpWorker.rememberPolicy
    simp only
    split
    · rfl
    · split
      · split <;> rfl
      · rfl
  | resolve choice hlookup =>
    unfold retryUpload
    rw [hlookup]
    simp only
    split
    · exact (SameBooks.emit _ _).circumstances_eq
    · rfl
  | cancelRequests _ => exact (SameBooks.sendTransferEvent _ _).circumstances_eq
  | cancelRequest _ => exact (SameBooks.sendTransferEvent _ _).circumstances_eq
  | cancelOpening _ _ => exact (SameBooks.sendTransferEvent _ _).circumstances_eq
  | settleDirectory id => exact (SameBooks.settleDirectory s id).circumstances_eq
  | cancelQueuedRoot _ _ => exact (SameBooks.emit _ _).circumstances_eq
  | cancelDiscovering _ _ => exact (SameBooks.emit _ _).circumstances_eq
  | cancelUpload _ => exact (SameBooks.emit _ _).circumstances_eq
  | cancelConflict _ => exact (SameBooks.emit _ _).circumstances_eq
  | handleEvent _ => exact circumstances_handleTransferEvent _ _
  | _ => rfl

theorem WorkSteps.circumstances_eq {s s' : SftpWorker} (h : WorkSteps s s') :
    s'.circumstances = s.circumstances :=
  h.preserves (I := fun x => x.circumstances = s.circumstances)
    (fun _ _ _ _ hstep hs => hstep.circumstances_eq.trans hs) rfl

/-- An input changes nothing about the connection and the application, unless it is about
    them. -/
theorem circumstances_apply {s : SftpWorker} {input : WorkerInput} (h : s.Allowed input)
    (hconnection : input ≠ .connectionClosed) (hreceiver : input ≠ .receiverClosed) :
    (s.apply input).circumstances = s.circumstances := by
  have hprepared := (s.prepared_steps input).circumstances_eq
  obtain ⟨s₁, hfirst, hrest⟩ := s.apply_steps input h hconnection hreceiver
  refine hrest.circumstances_eq.trans ?_
  rcases hfirst with rfl | ⟨label, -, hstep⟩
  · exact hprepared
  · exact hstep.circumstances_eq.trans hprepared

theorem perTabLimit_apply {s : SftpWorker} {input : WorkerInput} (h : s.Allowed input) :
    (s.apply input).perTabLimit = s.perTabLimit := by
  by_cases hconnection : input = .connectionClosed
  · subst hconnection
    rfl
  by_cases hreceiver : input = .receiverClosed
  · subst hreceiver
    rfl
  exact congrArg (fun circumstances => circumstances.2.2)
    (circumstances_apply h hconnection hreceiver)

/-! ## The limit of the tab -/

/-- Downloads and uploads that are active, with the openings. -/
def activeCount (s : SftpWorker) : Nat :=
  s.transfers.length + s.pendingByTransfer.entries.length

/-- The tab has no more active transfers than it may have. -/
def WithinLimit (s : SftpWorker) : Prop := s.activeCount ≤ max s.perTabLimit 1

theorem SameBooks.activeCount_eq {s s' : SftpWorker} (h : SameBooks s s') :
    s'.activeCount = s.activeCount := by
  obtain ⟨_, _, _, _, rfl⟩ := h
  rfl

/-- There is room for one more when the limit is not reached. -/
theorem activeCount_lt (h : s.limitReached = false) : s.activeCount < max s.perTabLimit 1 := by
  have hlt := of_decide_eq_false h
  unfold activeCount
  omega

theorem activeCount_enqueueDownload (s : SftpWorker) (request : SftpDownloadRequest)
    (root : Option Uuid) : (s.enqueueDownload request root).activeCount = s.activeCount := by
  unfold enqueueDownload
  split
  · exact (SameBooks.emit s (downloadQueuedEvent request root)).activeCount_eq
  · rfl

/-- Handling an event starts nothing. -/
theorem activeCount_handleTransferEvent_le (s : SftpWorker) (event : SftpTransferEvent) :
    (s.handleTransferEvent event).activeCount ≤ s.activeCount := by
  -- joining may drop a handle, and the rest of the work drops none
  have hjoin : (s.joinTransfer event).activeCount ≤ s.activeCount := by
    unfold joinTransfer
    split
    · have hperm := List.swapRemoveFirst_perm
        (fun x : ActiveSftpTransfer => x.transferId == event.transferId) s.transfers
      have hle := List.length_eraseP_le
        (p := fun x : ActiveSftpTransfer => x.transferId == event.transferId) (l := s.transfers)
      simp only [activeCount, hperm.length_eq]
      omega
    · exact Nat.le_refl _
  have hrelease : ∀ s : SftpWorker, (s.releaseUpload event).activeCount = s.activeCount := by
    intro s
    unfold releaseUpload
    split <;> rfl
  have hslot : ∀ s : SftpWorker, (s.releaseSlot event).activeCount = s.activeCount := by
    intro s
    unfold releaseSlot
    split <;> rfl
  have hsettle : ((s.joinTransfer event).settleUpload event).1.activeCount =
      (s.joinTransfer event).activeCount := by
    unfold settleUpload
    split
    · split
      · unfold uploadConflict
        simp only
        split
        · split
          · exact (SameBooks.emit _ _).activeCount_eq
          · rfl
        · rfl
      · exact hrelease _
    · exact hrelease _
  refine Nat.le_trans (Nat.le_of_eq ?_) hjoin
  rw [← hsettle]
  unfold handleTransferEvent
  generalize (s.joinTransfer event).settleUpload event = result
  obtain ⟨s', forward⟩ := result
  cases forward with
  | false => exact hslot s'
  | true =>
    simp only [forwardTransferEvent]
    split
    · exact (hslot _).trans (SameBooks.sendTransferEvent s' event).activeCount_eq
    · rfl

/-- A small step starts a transfer only below the limit. -/
theorem LoopStep.activeCount_le {label : LoopLabel} {s s' : SftpWorker}
    (h : LoopStep label s s') :
    s'.activeCount ≤ s.activeCount ∨
      s'.activeCount ≤ s.activeCount + 1 ∧ s.limitReached = false := by
  -- what changes one entry in place does not change how many there are
  have hmodify : ∀ id (f : ActiveSftpTransfer → ActiveSftpTransfer),
      (∀ x, (f x).transferId = x.transferId) →
      (s.transfers.modifyKey (·.transferId) id f).length = s.transfers.length := by
    intro id f hf
    have hkeys := congrArg List.length (List.map_key_modifyKey hf id s.transfers)
    simpa using hkeys
  cases h with
  | sendUpdate _ _ _ =>
    refine .inl (Nat.le_of_eq (congrArg (· + s.pendingByTransfer.entries.length) (hmodify _ _ ?_)))
    intro x
    unfold ActiveSftpTransfer.afterUpdate
    split <;> rfl
  | sendLast _ _ _ =>
    refine .inl (Nat.le_of_eq (congrArg (· + s.pendingByTransfer.entries.length) (hmodify _ _ ?_)))
    exact fun _ => rfl
  | setStage _ _ _ =>
    refine .inl (Nat.le_of_eq (congrArg (· + s.pendingByTransfer.entries.length) (hmodify _ _ ?_)))
    exact fun _ => rfl
  | lose _ _ =>
    refine .inl (Nat.le_of_eq (congrArg (· + s.pendingByTransfer.entries.length) (hmodify _ _ ?_)))
    exact fun _ => rfl
  | setPaused id paused =>
    refine .inl (Nat.le_of_eq (congrArg (· + s.pendingByTransfer.entries.length) (hmodify _ _ ?_)))
    intro x
    cases paused <;> cases x.isPausable <;>
      simp [ActiveSftpTransfer.pause, ActiveSftpTransfer.resume]
  | flag id =>
    refine .inl (Nat.le_of_eq (congrArg (· + s.pendingByTransfer.entries.length) (hmodify _ _ ?_)))
    exact fun _ => rfl
  | adopt _ _ =>
    refine .inl (Nat.le_of_eq ((activeCount_enqueueDownload _ _ _).trans ?_))
    exact (SameBooks.adoptChild _ _ _).activeCount_eq
  | finish _ => exact .inl (Nat.le_of_eq (SameBooks.discoveredFinished _ _ _ _ _).activeCount_eq)
  -- the two steps that take a slot look at the limit first
  | openRequest _ hlimit =>
    have := AssocMap.length_entries_insert_le s.pendingByTransfer
    refine .inr ⟨?_, hlimit⟩
    exact Nat.add_le_add_left (this _ _) _
  | startUpload _ hlimit =>
    refine .inr ⟨?_, hlimit⟩
    simp only [spawnUpload, activeCount, List.length_append, List.length_singleton]
    omega
  | joinDropped _ _ =>
    exact .inl (Nat.add_le_add_left (AssocMap.length_entries_erase_le _ _) _)
  -- the opening moves over to the running transfers
  | activate hlookup _ =>
    have := AssocMap.length_entries_erase (AssocMap.mem_iff_lookup.mpr ⟨_, hlookup⟩)
    refine .inl ?_
    simp only [spawnDownload, activeCount, List.length_append, List.length_singleton]
    omega
  | failOpening message _ _ =>
    refine .inl (Nat.le_trans (Nat.le_of_eq (SameBooks.sendTransferEvent _ _).activeCount_eq) ?_)
    exact Nat.add_le_add_left (AssocMap.length_entries_erase_le _ _) _
  | reap =>
    obtain ⟨hkept, -⟩ := List.swapRemoveAll_perm
      (fun transfer : ActiveSftpTransfer => transfer.stage.isFinished) s.transfers.length
      s.transfers (Nat.le_refl _)
    refine .inl (Nat.add_le_add_right ?_ _)
    exact Nat.le_trans (Nat.le_of_eq hkept.length_eq) (List.length_filter_le _ _)
  | beginRoot _ => exact .inl (Nat.le_of_eq (SameBooks.expectDirectory s _).activeCount_eq)
  | queueRoot _ => exact .inl (Nat.le_of_eq (SameBooks.expectDirectory s _).activeCount_eq)
  | admitDownload _ => exact .inl (Nat.le_of_eq (activeCount_enqueueDownload s _ _))
  | admitUpload _ _ => exact .inl (Nat.le_of_eq (SameBooks.emit s _).activeCount_eq)
  | reply id message => exact .inl (Nat.le_of_eq (SameBooks.reply s id message).activeCount_eq)
  | rememberPolicy batchId choice =>
    refine .inl (Nat.le_of_eq ?_)
    unfold SftpWorker.rememberPolicy
    simp only
    split
    · rfl
    · split
      · split <;> rfl
      · rfl
  | resolve choice hlookup =>
    refine .inl (Nat.le_of_eq ?_)
    unfold retryUpload
    rw [hlookup]
    simp only
    split
    · exact (SameBooks.emit _ _).activeCount_eq
    · rfl
  | cancelRequests _ => exact .inl (Nat.le_of_eq (SameBooks.sendTransferEvent _ _).activeCount_eq)
  | cancelRequest _ => exact .inl (Nat.le_of_eq (SameBooks.sendTransferEvent _ _).activeCount_eq)
  | cancelOpening _ _ =>
    refine .inl (Nat.le_of_eq ((SameBooks.sendTransferEvent _ _).activeCount_eq.trans ?_))
    exact congrArg (s.transfers.length + ·) (AssocMap.length_entries_adjust _ _ _)
  | settleDirectory id => exact .inl (Nat.le_of_eq (SameBooks.settleDirectory s id).activeCount_eq)
  | cancelQueuedRoot _ _ => exact .inl (Nat.le_of_eq (SameBooks.emit _ _).activeCount_eq)
  | cancelDiscovering _ _ => exact .inl (Nat.le_of_eq (SameBooks.emit _ _).activeCount_eq)
  | cancelUpload _ => exact .inl (Nat.le_of_eq (SameBooks.emit _ _).activeCount_eq)
  | cancelConflict _ => exact .inl (Nat.le_of_eq (SameBooks.emit _ _).activeCount_eq)
  | handleEvent _ => exact .inl (activeCount_handleTransferEvent_le _ _)
  | _ => exact .inl (Nat.le_refl _)

/-- A small step keeps the limit. -/
theorem LoopStep.withinLimit {label : LoopLabel} {s s' : SftpWorker} (h : LoopStep label s s')
    (hs : s.WithinLimit) : s'.WithinLimit := by
  have hlimit : s'.perTabLimit = s.perTabLimit :=
    congrArg (fun circumstances => circumstances.2.2) h.circumstances_eq
  unfold WithinLimit at hs ⊢
  rw [hlimit]
  rcases h.activeCount_le with hle | ⟨hle, hfree⟩
  · exact Nat.le_trans hle hs
  · have := activeCount_lt hfree
    omega

theorem WorkSteps.withinLimit {s s' : SftpWorker} (h : WorkSteps s s') (hs : s.WithinLimit) :
    s'.WithinLimit :=
  h.preserves (fun _ _ _ _ hstep hs => hstep.withinLimit hs) hs

/-- Every input keeps the limit. -/
theorem withinLimit_apply {s : SftpWorker} {input : WorkerInput} (hs : s.WithinLimit)
    (h : s.Allowed input) : (s.apply input).WithinLimit := by
  by_cases hconnection : input = .connectionClosed
  · subst hconnection
    exact hs
  by_cases hreceiver : input = .receiverClosed
  · subst hreceiver
    exact hs
  have hprepared := (s.prepared_steps input).withinLimit hs
  obtain ⟨s₁, hfirst, hrest⟩ := s.apply_steps input h hconnection hreceiver
  refine hrest.withinLimit ?_
  rcases hfirst with rfl | ⟨label, -, hstep⟩
  · exact hprepared
  · exact hstep.withinLimit hprepared

/-- In every run the limit of the tab holds. -/
theorem reachable_withinLimit {limit : Nat} {s : SftpWorker}
    (h : (workerSystem limit).Reachable s) :
    s.activeCount ≤ max (min limit transferChannels) 1 := by
  have hinv : s.perTabLimit = min limit transferChannels ∧ s.WithinLimit := by
    refine h.invariant (P := fun s => s.perTabLimit = min limit transferChannels ∧ s.WithinLimit)
      ?_ ?_
    · rintro s rfl
      exact ⟨rfl, Nat.zero_le _⟩
    · rintro s input s' ⟨-, hallowed, rfl⟩ ⟨hlimit, hs⟩
      exact ⟨(perTabLimit_apply hallowed).trans hlimit, withinLimit_apply hs hallowed⟩
  rw [← hinv.1]
  exact hinv.2

/-! ## Uploads at work -/

/-- The handles of the tasks, and the requests of uploads that are kept. -/
def handles (s : SftpWorker) : List ActiveSftpTransfer × AssocMap Uuid SftpUploadRequest :=
  (s.transfers, s.activeUploadRequests)

theorem SameBooks.handles_eq {s s' : SftpWorker} (h : SameBooks s s') :
    s'.handles = s.handles := by
  obtain ⟨_, _, _, _, rfl⟩ := h
  rfl

theorem handles_enqueueDownload (s : SftpWorker) (request : SftpDownloadRequest)
    (root : Option Uuid) : (s.enqueueDownload request root).handles = s.handles := by
  unfold enqueueDownload
  split
  · exact (SameBooks.emit s (downloadQueuedEvent request root)).handles_eq
  · rfl

/-- The request of every upload with a task is kept. -/
def UploadsKept (s : SftpWorker) : Prop :=
  ∀ x ∈ s.transfers, x.upload → x.transferId ∈ s.activeUploadRequests

namespace UploadsKept

variable {s : SftpWorker}

/-- It is a property of the handles and the kept requests alone. -/
theorem of_handles {s' : SftpWorker} (hs : s.UploadsKept) (h : s'.handles = s.handles) :
    s'.UploadsKept := by
  obtain ⟨htransfers, hactive⟩ := Prod.mk.inj h
  unfold UploadsKept
  rw [htransfers, hactive]
  exact hs

/-- Changing handles, but for their transfer and direction, keeps them. -/
theorem modifyTransfer {s' : SftpWorker} (hs : s.UploadsKept)
    (f : ActiveSftpTransfer → ActiveSftpTransfer)
    (hf : ∀ x, (f x).transferId = x.transferId ∧ (f x).upload = x.upload) (id : Uuid)
    (h : s'.handles = (s.transfers.modifyKey (·.transferId) id f, s.activeUploadRequests)) :
    s'.UploadsKept := by
  obtain ⟨htransfers, hactive⟩ := Prod.mk.inj h
  unfold UploadsKept
  rw [htransfers, hactive]
  intro y hy hupload
  rcases List.mem_modifyKey hy with hy | ⟨x, hx, rfl⟩
  · exact hs y hy hupload
  · rw [(hf x).1]
    exact hs x hx ((hf x).2 ▸ hupload)

end UploadsKept

/-- What handling an event does to the handles and to the kept requests. -/
theorem handleTransferEvent_kept (s : SftpWorker) (event : SftpTransferEvent) :
    (s.handleTransferEvent event).transfers = (s.joinTransfer event).transfers ∧
      ((s.handleTransferEvent event).activeUploadRequests = s.activeUploadRequests ∨
        event.endsTask ∧ (s.handleTransferEvent event).activeUploadRequests =
          s.activeUploadRequests.erase event.transferId) := by
  have hjoin : (s.joinTransfer event).activeUploadRequests = s.activeUploadRequests := by
    unfold joinTransfer
    split <;> rfl
  have hrelease : ((s.joinTransfer event).releaseUpload event).transfers =
        (s.joinTransfer event).transfers ∧
      (((s.joinTransfer event).releaseUpload event).activeUploadRequests =
          s.activeUploadRequests ∨
        event.endsTask ∧ ((s.joinTransfer event).releaseUpload event).activeUploadRequests =
          s.activeUploadRequests.erase event.transferId) := by
    unfold releaseUpload
    split
    · rename_i hends
      exact ⟨rfl, .inr ⟨hends, by rw [← hjoin]⟩⟩
    · exact ⟨rfl, .inl hjoin⟩
  have hsettle : ((s.joinTransfer event).settleUpload event).1.transfers =
        (s.joinTransfer event).transfers ∧
      (((s.joinTransfer event).settleUpload event).1.activeUploadRequests =
          s.activeUploadRequests ∨
        event.endsTask ∧ ((s.joinTransfer event).settleUpload event).1.activeUploadRequests =
          s.activeUploadRequests.erase event.transferId) := by
    unfold settleUpload
    split
    · split
      · rw [← hjoin]
        unfold uploadConflict emit
        simp only
        split
        · split <;> exact ⟨rfl, .inr ⟨rfl, rfl⟩⟩
        · exact ⟨rfl, .inr ⟨rfl, rfl⟩⟩
      · exact hrelease
    · exact hrelease
  unfold handleTransferEvent
  generalize (s.joinTransfer event).settleUpload event = result at hsettle ⊢
  obtain ⟨s', forward⟩ := result
  -- the freed slot is not in these books
  have hslot : ∀ s : SftpWorker, (s.releaseSlot event).transfers = s.transfers ∧
      (s.releaseSlot event).activeUploadRequests = s.activeUploadRequests := by
    intro s
    unfold releaseSlot
    split <;> exact ⟨rfl, rfl⟩
  cases forward with
  | false =>
    simp only [forwardTransferEvent]
    rw [(hslot s').1, (hslot s').2]
    exact hsettle
  | true =>
    simp only [forwardTransferEvent]
    split
    · obtain ⟨_, _, _, _, hsend⟩ := SameBooks.sendTransferEvent s' event
      rw [(hslot _).1, (hslot _).2, hsend]
      exact hsettle
    · exact hsettle

/-- Handling an event keeps the requests of the uploads whose tasks are left. -/
theorem uploadsKept_handleTransferEvent {s : SftpWorker} {event : SftpTransferEvent}
    {rest : List SftpTransferEvent} (hs : s.UploadsKept)
    (hsound : (s.census event.transferId).Sound) (h : s.transferEvents = event :: rest)
    (closed : Bool) : ({ s with transferEvents := rest }.handleTransferEvent
      (event.withConnection closed)).UploadsKept := by
  obtain ⟨htransfers, hactive⟩ := handleTransferEvent_kept { s with transferEvents := rest }
    (event.withConnection closed)
  intro x hx hupload
  rw [htransfers] at hx
  -- joining a task only removes handles
  have hmem : x ∈ s.transfers := by
    unfold joinTransfer at hx
    split at hx
    · exact List.mem_of_mem_eraseP ((List.swapRemoveFirst_perm _ _).mem_iff.mp hx)
    · exact hx
  rcases hactive with hactive | ⟨hends, hactive⟩ <;> rw [hactive]
  · exact hs x hmem hupload
  · rw [endsTask_withConnection] at hends
    rw [transferId_withConnection, AList.mem_erase]
    refine ⟨fun hid => ?_, hs x hmem hupload⟩
    -- no handle of the transfer whose task was joined is left
    have hjoin := census_joinReported hsound h hends closed event.transferId
    have hplace := hsound.place_le
    have hpos : 0 < (s.census event.transferId).event := by simp [census, h, hends]
    unfold Census.place at hplace
    have hnone : (({ s with transferEvents := rest } : SftpWorker).joinTransfer
        (event.withConnection closed)).transfers.countP
          (fun y => y.transferId == event.transferId) = 0 := by
      rw [countP_handles, hjoin]
      simp only [if_true]
      omega
    exact List.countP_eq_zero.mp hnone x hx (by simp [hid])

/-- A small step keeps the requests of the uploads with a task. -/
theorem LoopStep.uploadsKept {label : LoopLabel} {s s' : SftpWorker} (h : LoopStep label s s')
    (hsound : ∀ t, (s.census t).Sound) (hs : s.UploadsKept) : s'.UploadsKept := by
  cases h with
  | sendUpdate _ _ _ =>
    refine hs.modifyTransfer _ (fun x => ?_) _ rfl
    unfold ActiveSftpTransfer.afterUpdate
    split <;> exact ⟨rfl, rfl⟩
  | sendLast _ _ _ => exact hs.modifyTransfer _ (fun _ => by exact ⟨rfl, rfl⟩) _ rfl
  | setStage _ _ _ => exact hs.modifyTransfer _ (fun _ => by exact ⟨rfl, rfl⟩) _ rfl
  | lose _ _ => exact hs.modifyTransfer _ (fun _ => by exact ⟨rfl, rfl⟩) _ rfl
  | setPaused id paused =>
    refine hs.modifyTransfer _ (fun x => ?_) _ rfl
    cases paused <;> cases x.isPausable <;> exact ⟨rfl, rfl⟩
  | flag id => exact hs.modifyTransfer _ (fun _ => by exact ⟨rfl, rfl⟩) _ rfl
  | adopt _ _ =>
    exact hs.of_handles ((handles_enqueueDownload _ _ _).trans
      (SameBooks.adoptChild _ _ _).handles_eq)
  | finish _ => exact hs.of_handles (SameBooks.discoveredFinished _ _ _ _ _).handles_eq
  -- an upload is entered under its id when its task starts
  | startUpload _ _ =>
    intro x hx hupload
    refine (AList.mem_insert _).mpr ?_
    rcases List.mem_append.mp hx with hx | hx
    · exact .inr (hs x hx hupload)
    · exact .inl (by rw [List.mem_singleton.mp hx])
  -- the new handle is that of a download
  | activate _ _ =>
    intro x hx hupload
    rcases List.mem_append.mp hx with hx | hx
    · exact hs x hx hupload
    · rw [List.mem_singleton.mp hx] at hupload
      exact nomatch hupload
  | failOpening message _ _ => exact hs.of_handles (SameBooks.sendTransferEvent _ _).handles_eq
  | reap =>
    intro x hx
    obtain ⟨hkept, -⟩ := List.swapRemoveAll_perm
      (fun transfer : ActiveSftpTransfer => transfer.stage.isFinished) s.transfers.length
      s.transfers (Nat.le_refl _)
    exact hs x (List.mem_of_mem_filter (hkept.mem_iff.mp hx))
  | beginRoot _ => exact hs.of_handles (SameBooks.expectDirectory s _).handles_eq
  | queueRoot _ => exact hs.of_handles (SameBooks.expectDirectory s _).handles_eq
  | admitDownload _ => exact hs.of_handles (handles_enqueueDownload s _ _)
  | admitUpload _ _ => exact hs.of_handles (SameBooks.emit s _).handles_eq
  | reply id message => exact hs.of_handles (SameBooks.reply s id message).handles_eq
  | rememberPolicy batchId choice =>
    unfold SftpWorker.rememberPolicy
    simp only
    split
    · exact hs
    · split
      · split <;> exact hs
      · exact hs
  | resolve choice hlookup =>
    unfold retryUpload
    rw [hlookup]
    simp only
    split
    · exact hs.of_handles (SameBooks.emit _ _).handles_eq
    · exact hs
  | cancelRequests _ => exact hs.of_handles (SameBooks.sendTransferEvent _ _).handles_eq
  | cancelRequest _ => exact hs.of_handles (SameBooks.sendTransferEvent _ _).handles_eq
  | cancelOpening _ _ => exact hs.of_handles (SameBooks.sendTransferEvent _ _).handles_eq
  | settleDirectory id => exact hs.of_handles (SameBooks.settleDirectory s id).handles_eq
  | cancelQueuedRoot _ _ => exact hs.of_handles (SameBooks.emit _ _).handles_eq
  | cancelDiscovering _ _ => exact hs.of_handles (SameBooks.emit _ _).handles_eq
  | cancelUpload _ => exact hs.of_handles (SameBooks.emit _ _).handles_eq
  | cancelConflict _ => exact hs.of_handles (SameBooks.emit _ _).handles_eq
  | handleEvent hevents => exact uploadsKept_handleTransferEvent hs (hsound _) hevents _
  | _ => exact hs

/-! ## The books in order -/

/-- A transfer that an input brings to the loop is in none of its containers, unless the loop
    refuses it. -/
def BringsNew (s : SftpWorker) : WorkerInput → Prop
  | .command command _ _ => ∀ id, submitted command = some id →
    s.reapFinishedSftpTransfers.refuses command ∨ (s.census id).Blank
  | .discover root request => request.transferId = root ∨ (s.census request.transferId).Blank
  | _ => True

/-- The kinds of moves that an input can stand for, at a transfer. -/
def inputKinds (s : SftpWorker) (input : WorkerInput) (t : Uuid) (kind : Census.MoveKind) :
    Prop :=
  kind = .work ∨ s.Permits input (.of kind t)

namespace Booked

/-- A small step keeps the books in order. -/
theorem step {label : LoopLabel} {s s' : SftpWorker} (hb : s.Booked) (h : LoopStep label s s')
    (hblank : ∀ id, label = .of .enter id → (s.census id).Blank) : s'.Booked where
  keyed := h.keyed hb.keyed
  receiverOpen := by
    have hopen : s'.receiverOpen = s.receiverOpen := congrArg (·.1) h.circumstances_eq
    rw [hopen]
    exact hb.receiverOpen
  sound t := (hb.sound t).moves (h.moves hb.keyed hb.receiverOpen hb.sound hblank t)

/-- Ordinary steps keep the books in order, and move the census of every transfer by ordinary
    moves. -/
theorem work {s s' : SftpWorker} (hb : s.Booked) (h : WorkSteps s s') (t : Uuid) :
    s'.Booked ∧ Census.Moves (· = .work) (s.census t) (s'.census t) := by
  refine h.simulates (I := SftpWorker.Booked) (census · t) ?_ hb
  rintro label s s' rfl hstep hb
  refine ⟨hb.step hstep (fun _ hlabel => nomatch hlabel), ?_⟩
  refine (hstep.moves hb.keyed hb.receiverOpen hb.sound (fun _ h => nomatch h) t).mono ?_
  rintro kind (rfl | hlabel)
  · rfl
  · exact nomatch hlabel

/-- What is nowhere in the loop stays nowhere by ordinary steps. -/
theorem blank_work {s s' : SftpWorker} (hb : s.Booked) (h : WorkSteps s s') {t : Uuid}
    (ht : (s.census t).Blank) : (s'.census t).Blank := by
  have hinv := (hb.work h t).2.preserves (I := fun c => c.Sound ∧ c.Blank) ?_ ⟨hb.sound t, ht⟩
  · exact hinv.2
  · rintro kind c c' rfl hmove ⟨hc, hblank⟩
    exact ⟨hc.move hmove, hblank.move hc hmove⟩

/-- What an input admits is in none of the containers when it is admitted. -/
theorem blank_prepared {s : SftpWorker} {input : WorkerInput} (hb : s.Booked)
    (hnew : s.BringsNew input) {id : Uuid} (h : s.Permits input (.of .enter id)) :
    ((s.prepared input).census id).Blank := by
  cases input with
  | command command order slots =>
    obtain ⟨hsubmitted, haccepts⟩ := h
    rcases hnew id hsubmitted with hrefuses | hblank
    · rw [haccepts] at hrefuses
      exact nomatch hrefuses
    · exact hb.blank_work (s.prepared_steps _) hblank
  | discover root request =>
    obtain ⟨rfl, hroot⟩ := h
    exact hnew.resolve_left hroot
  | _ => exact h.elim

/-- An input keeps the books in order, and moves the census of every transfer. -/
theorem apply {s : SftpWorker} {input : WorkerInput} (hb : s.Booked) (h : s.Allowed input)
    (hnew : s.BringsNew input) (hreceiver : input ≠ .receiverClosed) (t : Uuid) :
    (s.apply input).Booked ∧
      Census.Moves (s.inputKinds input t) (s.census t) ((s.apply input).census t) := by
  by_cases hconnection : input = .connectionClosed
  · subst hconnection
    exact ⟨⟨⟨hb.keyed.pending, hb.keyed.conflict, hb.keyed.active⟩, hb.receiverOpen, hb.sound⟩,
      .refl _⟩
  have hwork : ∀ kind, kind = .work → s.inputKinds input t kind := fun _ hkind => .inl hkind
  obtain ⟨hprepared, hmoves⟩ := hb.work (s.prepared_steps input) t
  obtain ⟨s₁, hfirst, hrest⟩ := s.apply_steps input h hconnection hreceiver
  have hspecial : s₁.Booked ∧
      Census.Moves (s.inputKinds input t) ((s.prepared input).census t) (s₁.census t) := by
    rcases hfirst with rfl | ⟨label, hpermits, hstep⟩
    · exact ⟨hprepared, .refl _⟩
    · have hblank : ∀ id, label = .of .enter id → ((s.prepared input).census id).Blank := by
        rintro id rfl
        exact hb.blank_prepared hnew hpermits
      refine ⟨hprepared.step hstep hblank, ?_⟩
      refine (hstep.moves hprepared.keyed hprepared.receiverOpen hprepared.sound hblank t).mono ?_
      rintro kind (rfl | rfl)
      · exact .inl rfl
      · exact .inr hpermits
  obtain ⟨hb', hmoves'⟩ := hspecial.1.work hrest t
  exact ⟨hb', ((hmoves.mono hwork).trans hspecial.2).trans (hmoves'.mono hwork)⟩

end Booked

end SftpWorker

end AxSsh
