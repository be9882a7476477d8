import AxSsh.Spec.LoopSteps

/-!
# Where a transfer is

The loop keeps a transfer in one of many containers, and moves it from one to the next.
`SftpWorker.census` counts how often a transfer occurs in each of them.  The accounts of the
loop (its aggregates, the roots of children, and the events it sends) are apart from the
containers: accounting changes no census but for the outcomes in it.

## Key results
- `census_emit`, `census_sendTransferEvent`: of an event, the outcome is seen
- `SameBooks`: accounting changes the accounts only
-/

namespace AxSsh

namespace SftpDiscoveredDownload

/-- The message is the file `t`. -/
def isRequest (t : Uuid) : SftpDiscoveredDownload → Bool
  | request _ r => r.transferId == t
  | finished .. => false

/-- The message is the end of the discovery of `t`. -/
def isFinished (t : Uuid) : SftpDiscoveredDownload → Bool
  | request .. => false
  | finished root .. => root == t

end SftpDiscoveredDownload

/-- One for a true proposition, zero for a false one. -/
def tally (p : Prop) [Decidable p] : Nat := if p then 1 else 0

/-- The task will still send its last event. -/
def TaskStage.owes : TaskStage → Bool
  | running | panicked => true
  | _ => false

/-- The task may still send its root. -/
def DiscoveryTask.maySendRoot (task : DiscoveryTask) : Bool :=
  !task.root.expectedDirectory && task.requests == 0

/-- The event is an outcome of `t`. -/
def SftpTransferEvent.settles (t : Uuid) (event : SftpTransferEvent) : Bool :=
  event.transferId == t && event.endsTransfer

namespace SftpWorker

/-- Messages of discoveries that the loop has not handled. -/
def pipeline (s : SftpWorker) : List SftpDiscoveredDownload :=
  s.deferredDiscovered.toList ++ s.discoveredDownloads

/-- Where a transfer is. -/
def census (s : SftpWorker) (t : Uuid) : Census where
  queuedRoot := s.queuedDiscoveryRoots.countP (·.transferId == t)
  discovering := tally (t ∈ s.discoveryByTransfer)
  running := s.discoveries.countP (·.runs t)
  unsent := s.discoveries.countP fun task => task.runs t && !task.sentRoot
  selfSend := s.discoveries.countP fun task => task.runs t && task.maySendRoot
  finished := s.pipeline.countP (·.isFinished t)
  message := s.pipeline.countP (·.isRequest t)
  request := s.queuedRequests.countP (·.transferId == t)
  opening := tally (t ∈ s.pendingByTransfer)
  dropped := tally ((s.pendingByTransfer.lookup t).any (·.cancelled))
  unreported := s.transfers.countP fun x => x.transferId == t && x.stage.owes
  lost := s.transfers.countP fun x => x.transferId == t && x.stage == .lost
  reported := s.transfers.countP fun x => x.transferId == t && x.stage.hasReported
  event := s.transferEvents.countP fun e => e.transferId == t && e.endsTask
  upload := s.queuedUploads.countP (·.transferId == t)
  conflict := tally (t ∈ s.pendingUploadConflicts)
  activeUpload := tally (t ∈ s.activeUploadRequests)
  slot := tally (t ∈ s.uploadQueueSlots)
  outcome := s.sent.countP (·.settles t)
  replied := s.replied.count t
  starts := s.started.count t

/-- The maps are keyed by what they hold. -/
structure Keyed (s : SftpWorker) : Prop where
  pending : ∀ id p, s.pendingByTransfer.lookup id = some p → p.request.transferId = id
  conflict : ∀ id r, s.pendingUploadConflicts.lookup id = some r → r.transferId = id
  active : ∀ id r, s.activeUploadRequests.lookup id = some r → r.transferId = id

/-- The books of the loop are in order: every transfer has a sound census. -/
structure Booked (s : SftpWorker) : Prop where
  keyed : s.Keyed
  receiverOpen : s.receiverOpen
  sound : ∀ t, (s.census t).Sound

end SftpWorker

/-! ## Counting -/

@[simp] theorem tally_true {p : Prop} [Decidable p] (h : p) : tally p = 1 := if_pos h
@[simp] theorem tally_false {p : Prop} [Decidable p] (h : ¬p) : tally p = 0 := if_neg h

theorem tally_pos {p : Prop} [Decidable p] : 0 < tally p ↔ p := by
  unfold tally
  split <;> simp [*]

theorem tally_eq_zero {p : Prop} [Decidable p] : tally p = 0 ↔ ¬p := by
  unfold tally
  split <;> simp [*]

theorem tally_congr {p q : Prop} [Decidable p] [Decidable q] (h : p ↔ q) : tally p = tally q := by
  unfold tally
  simp [h]

theorem tally_mem_insert {V : Type} (m : AssocMap Uuid V) (k t : Uuid) (v : V) :
    tally (t ∈ m.insert k v) = if k = t then 1 else tally (t ∈ m) := by
  unfold tally
  by_cases h : k = t
  · simp [h]
  · simp [h, AList.mem_insert, Ne.symm h]

theorem tally_mem_erase {V : Type} (m : AssocMap Uuid V) (k t : Uuid) :
    tally (t ∈ m.erase k) = if k = t then 0 else tally (t ∈ m) := by
  unfold tally
  by_cases h : k = t
  · simp [h]
  · simp [h, AList.mem_erase, Ne.symm h]

namespace SftpWorker

variable {s : SftpWorker} {t : Uuid}

/-! ## Events and aggregates

A census sees neither the aggregates nor the roots of children, and of the events sent to
the application it sees the outcomes only. -/

/-- Sending an event is seen in the outcomes. -/
theorem census_emit (s : SftpWorker) (hopen : s.receiverOpen) (event : SftpTransferEvent)
    (t : Uuid) : (s.emit event).census t =
      { s.census t with
        outcome := (s.census t).outcome + if event.settles t then 1 else 0 } := by
  unfold emit
  rw [if_pos hopen]
  apply Census.ext
  case outcome =>
    simp only [census, List.countP_append, List.countP_singleton]
  all_goals rfl

/-- Sending an event that ends no transfer is not seen. -/
theorem census_emit_other (s : SftpWorker) {event : SftpTransferEvent}
    (h : event.endsTransfer = false) (t : Uuid) : (s.emit event).census t = s.census t := by
  unfold emit
  split
  · apply Census.ext
    case outcome =>
      simp [census, SftpTransferEvent.settles, h]
    all_goals rfl
  · rfl

/-- Finishing an aggregate is not seen, and its event ends no transfer. -/
theorem census_finishDirectoryTransfer (s : SftpWorker) (id t : Uuid) :
    (s.finishDirectoryTransfer id).1.census t = s.census t ∧
      ∀ event, (s.finishDirectoryTransfer id).2 = some event → event.endsTransfer = false := by
  unfold finishDirectoryTransfer
  split
  · exact ⟨rfl, fun _ h => nomatch h⟩
  · split
    · refine ⟨rfl, fun event h => ?_⟩
      simp only at h
      split at h
      · exact nomatch h
      · cases h
        rfl
    · exact ⟨rfl, fun _ h => nomatch h⟩

theorem census_settleDirectory (s : SftpWorker) (id t : Uuid) :
    (s.settleDirectory id).census t = s.census t := by
  have h := s.census_finishDirectoryTransfer id t
  unfold settleDirectory
  generalize s.finishDirectoryTransfer id = result at h ⊢
  obtain ⟨s', event⟩ := result
  cases event with
  | none => exact h.1
  | some event => exact (census_emit_other s' (h.2 event rfl) t).trans h.1

/-- Accounting for a child is not seen, and the event of its root ends no transfer. -/
theorem census_completeDirectoryChild (s : SftpWorker) (outcome : SftpTransferEvent) (t : Uuid) :
    (s.completeDirectoryChild outcome).1.census t = s.census t ∧
      ∀ event, (s.completeDirectoryChild outcome).2 = some event →
        event.endsTransfer = false := by
  unfold completeDirectoryChild
  split
  · exact ⟨rfl, fun _ h => nomatch h⟩
  · exact census_finishDirectoryTransfer _ _ t

/-- Of an event that is sent with its accounting, only the event itself is seen. -/
theorem census_sendTransferEvent (s : SftpWorker) (event : SftpTransferEvent) (t : Uuid) :
    (s.sendTransferEventWithDirectoryState event).census t = (s.emit event).census t := by
  unfold sendTransferEventWithDirectoryState
  split
  · rename_i hclosed
    unfold emit
    rw [if_neg (by simpa using hclosed)]
  · split
    · have h := (s.emit event).census_completeDirectoryChild event t
      generalize (s.emit event).completeDirectoryChild event = result at h ⊢
      obtain ⟨s', rootEvent⟩ := result
      cases rootEvent with
      | none => exact h.1
      | some rootEvent => exact (census_emit_other s' (h.2 rootEvent rfl) t).trans h.1
    · rfl

/-- Expecting a directory changes the aggregates only. -/
theorem exists_expectDirectory (s : SftpWorker) (root : SftpDownloadRoot) :
    ∃ aggregates, s.expectDirectory root = { s with directoryTransfers := aggregates } := by
  unfold expectDirectory
  split
  · exact ⟨_, rfl⟩
  · exact ⟨s.directoryTransfers, rfl⟩

theorem census_expectDirectory (s : SftpWorker) (root : SftpDownloadRoot) (t : Uuid) :
    (s.expectDirectory root).census t = s.census t := by
  obtain ⟨aggregates, h⟩ := s.exists_expectDirectory root
  rw [h]
  rfl

theorem census_adoptChild (s : SftpWorker) (root child t : Uuid) :
    (s.adoptChild root child).census t = s.census t := by
  unfold adoptChild
  split <;> rfl

theorem census_reportDiscoveryFailure (s : SftpWorker) (root : SftpDownloadRoot)
    (name message : String) (recoverable : Bool) (t : Uuid) :
    (s.reportDiscoveryFailure root name message recoverable).census t = s.census t := by
  unfold reportDiscoveryFailure
  rw [census_emit_other _ rfl, census_emit_other _ rfl]

/-- Of the end of a discovery, only the discovery itself is seen. -/
theorem census_discoveredFinished (s : SftpWorker) (root : Uuid) (name : String)
    (outcome : Except String SftpDiscoverySummary) (recoverable : Bool) (t : Uuid) :
    (s.discoveredFinished root name outcome recoverable).census t =
      { s.census t with
        discovering := if root = t then 0 else (s.census t).discovering } := by
  have herase : { s with discoveryByTransfer := s.discoveryByTransfer.erase root }.census t =
      { s.census t with
        discovering := if root = t then 0 else (s.census t).discovering } := by
    apply Census.ext
    case discovering => exact tally_mem_erase _ _ _
    all_goals rfl
  unfold discoveredFinished
  split
  -- a root that is not in the map was not counted
  · rename_i hlookup
    apply Census.ext
    case discovering =>
      by_cases ht : root = t
      · subst ht
        have hmem : root ∉ s.discoveryByTransfer := fun hmem => by
          obtain ⟨d, hd⟩ := AssocMap.mem_iff_lookup.mp hmem
          rw [hlookup] at hd
          exact nomatch hd
        simp [census, hmem]
      · simp [ht]
    all_goals rfl
  · rename_i discovery hlookup
    rw [← herase]
    simp only
    -- the reports of a directory are not in the census
    split
    · rw [census_settleDirectory]
      rfl
    · split
      · split
        · rw [census_emit_other _ rfl]
          rfl
        · rw [census_settleDirectory]
          rfl
      · split
        · rw [census_settleDirectory]
          rfl
        · split
          · rw [census_reportDiscoveryFailure]
            rfl
          · split
            · rw [census_reportDiscoveryFailure]
              rfl
            · rw [census_settleDirectory]
              rfl

/-! ## Accounting leaves the containers alone -/

/-- Two states that differ in the accounts only: the aggregates, the roots of children, and the
    histories of events. -/
def SameBooks (s s' : SftpWorker) : Prop :=
  ∃ sent replied aggregates roots, s' =
    { s with sent, replied, directoryTransfers := aggregates, childRoots := roots }

namespace SameBooks

theorem refl (s : SftpWorker) : SameBooks s s :=
  ⟨s.sent, s.replied, s.directoryTransfers, s.childRoots, rfl⟩

theorem trans {s s' s'' : SftpWorker} (h : SameBooks s s') (h' : SameBooks s' s'') :
    SameBooks s s'' := by
  obtain ⟨_, _, _, _, rfl⟩ := h
  obtain ⟨_, _, _, _, rfl⟩ := h'
  exact ⟨_, _, _, _, rfl⟩

theorem emit (s : SftpWorker) (event : SftpTransferEvent) : SameBooks s (s.emit event) := by
  unfold SftpWorker.emit
  split
  · exact ⟨_, _, _, _, rfl⟩
  · exact refl s

theorem reply (s : SftpWorker) (id : Uuid) (message : String) :
    SameBooks s (s.reply id message) := by
  unfold SftpWorker.reply
  split
  · exact ⟨_, _, _, _, rfl⟩
  · exact refl s

theorem setAggregate (s : SftpWorker) (root : Uuid) (transfer : DirectoryTransferAggregate) :
    SameBooks s (s.setAggregate root transfer) := ⟨_, _, _, _, rfl⟩

theorem dropAggregate (s : SftpWorker) (root : Uuid) : SameBooks s (s.dropAggregate root) :=
  ⟨_, _, _, _, rfl⟩

theorem expectDirectory (s : SftpWorker) (root : SftpDownloadRoot) :
    SameBooks s (s.expectDirectory root) := by
  obtain ⟨aggregates, h⟩ := s.exists_expectDirectory root
  exact ⟨_, _, aggregates, _, h⟩

theorem adoptChild (s : SftpWorker) (root child : Uuid) :
    SameBooks s (s.adoptChild root child) := by
  unfold SftpWorker.adoptChild
  split
  · exact refl s
  · exact ⟨_, _, _, _, rfl⟩

theorem finishDirectoryTransfer (s : SftpWorker) (id : Uuid) :
    SameBooks s (s.finishDirectoryTransfer id).1 := by
  unfold SftpWorker.finishDirectoryTransfer
  split
  · exact refl s
  · split
    · exact dropAggregate s id
    · exact refl s

theorem settleDirectory (s : SftpWorker) (id : Uuid) : SameBooks s (s.settleDirectory id) := by
  have h := finishDirectoryTransfer s id
  unfold SftpWorker.settleDirectory
  generalize s.finishDirectoryTransfer id = result at h ⊢
  obtain ⟨s', event⟩ := result
  cases event with
  | none => exact h
  | some event => exact h.trans (emit s' event)

theorem completeDirectoryChild (s : SftpWorker) (outcome : SftpTransferEvent) :
    SameBooks s (s.completeDirectoryChild outcome).1 := by
  unfold SftpWorker.completeDirectoryChild
  split
  · exact refl s
  · exact trans ⟨_, _, _, _, rfl⟩ (finishDirectoryTransfer _ _)

theorem sendTransferEvent (s : SftpWorker) (event : SftpTransferEvent) :
    SameBooks s (s.sendTransferEventWithDirectoryState event) := by
  unfold sendTransferEventWithDirectoryState
  split
  · exact refl s
  · split
    · have h := completeDirectoryChild (s.emit event) event
      generalize (s.emit event).completeDirectoryChild event = result at h ⊢
      obtain ⟨s', rootEvent⟩ := result
      cases rootEvent with
      | none => exact (emit s event).trans h
      | some rootEvent => exact ((emit s event).trans h).trans (emit s' rootEvent)
    · exact emit s event

theorem reportDiscoveryFailure (s : SftpWorker) (root : SftpDownloadRoot)
    (name message : String) (recoverable : Bool) :
    SameBooks s (s.reportDiscoveryFailure root name message recoverable) :=
  (emit _ _).trans (emit _ _)

/-- The end of a discovery takes it off the map; the rest is accounting. -/
theorem discoveredFinished (s : SftpWorker) (root : Uuid) (name : String)
    (outcome : Except String SftpDiscoverySummary) (recoverable : Bool) :
    SameBooks { s with discoveryByTransfer := s.discoveryByTransfer.erase root }
      (s.discoveredFinished root name outcome recoverable) := by
  unfold SftpWorker.discoveredFinished
  split
  · rename_i hlookup
    have hmem : root ∉ s.discoveryByTransfer := fun hmem => by
      obtain ⟨d, hd⟩ := AssocMap.mem_iff_lookup.mp hmem
      rw [hlookup] at hd
      exact nomatch hd
    rw [AssocMap.erase_of_notMem hmem]
    exact refl s
  · simp only
    split
    · exact (setAggregate _ _ _).trans (settleDirectory _ _)
    · split
      · split
        · exact (dropAggregate _ _).trans (emit _ _)
        · exact (setAggregate _ _ _).trans (settleDirectory _ _)
      · split
        · exact (setAggregate _ _ _).trans (settleDirectory _ _)
        · split
          · exact (dropAggregate _ _).trans (reportDiscoveryFailure _ _ _ _ _)
          · split
            · exact (dropAggregate _ _).trans (reportDiscoveryFailure _ _ _ _ _)
            · exact (setAggregate _ _ _).trans (settleDirectory _ _)

end SameBooks

end SftpWorker

end AxSsh
