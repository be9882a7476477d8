import AxSsh.Native.SftpWorker
import AxSsh.Spec.TransferCensus

/-!
# The small steps of the transfer loop

What the loop does on one input is a sequence of small steps: it joins the tasks that are
over, moves one transfer, and starts queued transfers one by one.  `LoopStep` lists the
small steps once, each with what the code has checked when it takes it.  The invariants of
the loop are proved about them.

The label of a small step says which transfer it admits, adopts, retries, loses, reports
once more or refuses, if any.  `Permits` says which labels an input can lead to.

## Key results
- `apply_steps`: what the loop does on an input is a sequence of small steps
-/

namespace AxSsh

/-- What a small step does beyond ordinary work, and to which transfer. -/
inductive LoopLabel where
  | work
  | of (kind : Census.MoveKind) (id : Uuid)

namespace SftpWorker

/-- The label of the handling of an event. -/
def eventLabel : SftpTransferEvent → LoopLabel
  | .uploadConflict id .. => .of .retry id
  | _ => .work

/-- Announce a download and put it into the queue, if the application still listens. -/
def enqueueDownload (s : SftpWorker) (request : SftpDownloadRequest) (root : Option Uuid) :
    SftpWorker :=
  if s.receiverOpen then
    { s.emit (downloadQueuedEvent request root) with
      queuedRequests := s.queuedRequests ++ [request] }
  else s

/-- Announce an upload and put it into the queue, with its slot. -/
def enqueueUpload (s : SftpWorker) (request : SftpUploadRequest) : SftpWorker :=
  { s.emit (uploadQueuedEvent request) with
    uploadQueueSlots := insert request.transferId s.uploadQueueSlots
    queuedUploads := s.queuedUploads ++ [request] }

/-- A small step of the loop, or of one of its tasks. -/
inductive LoopStep : LoopLabel → SftpWorker → SftpWorker → Prop
  -- the tasks
  | discoverRoot {s : SftpWorker} {root : Uuid} {request : SftpDownloadRequest}
      {task : DiscoveryTask} :
      s.runningDiscovery root = some task → task.maySend request →
      request.transferId = root → LoopStep .work s (s.discover root request)
  | discoverChild {s : SftpWorker} {root : Uuid} {request : SftpDownloadRequest}
      {task : DiscoveryTask} :
      s.runningDiscovery root = some task → task.maySend request →
      request.transferId ≠ root →
      LoopStep (.of .enter request.transferId) s (s.discover root request)
  | discoverEnd {s : SftpWorker} {root : Uuid} {name : String}
      {outcome : Except String SftpDiscoverySummary} {recoverable : Bool}
      {task : DiscoveryTask} :
      s.runningDiscovery root = some task → task.mayReport outcome →
      LoopStep .work s (s.discoverEnd root name outcome recoverable)
  | sendUpdate {s : SftpWorker} {event : SftpTransferEvent} {transfer : ActiveSftpTransfer} :
      s.transfer? event.transferId = some transfer → transfer.stage = .running →
      transfer.maySend event → LoopStep .work s (s.sendUpdate event)
  | sendLast {s : SftpWorker} {event : SftpTransferEvent} {transfer : ActiveSftpTransfer} :
      s.transfer? event.transferId = some transfer → transfer.stage = .running →
      transfer.mayEnd event → LoopStep .work s (s.sendLast event)
  | setStage {s : SftpWorker} {id : Uuid} {stage : TaskStage} {transfer : ActiveSftpTransfer} :
      s.transfer? id = some transfer → transfer.stage.silentStep stage → stage ≠ .lost →
      LoopStep .work s (s.setStage id stage)
  | lose {s : SftpWorker} {id : Uuid} {transfer : ActiveSftpTransfer} :
      s.transfer? id = some transfer → transfer.stage.silentStep .lost →
      LoopStep (.of .lose id) s (s.setStage id .lost)
  -- discoveries
  | joinDiscovery {s : SftpWorker} (root : Uuid) : LoopStep .work s
      { s with discoveries :=
        s.discoveries.eraseP fun task => task.ended && task.root.transferId == root }
  | dequeueRoot {s : SftpWorker} {next : SftpDownloadRoot} {rest : List SftpDownloadRoot} :
      s.queuedDiscoveryRoots = next :: rest →
      LoopStep .work s
        ({ s with queuedDiscoveryRoots := rest }.spawnPendingSftpDiscovery next)
  | receive {s : SftpWorker} {discovered : SftpDiscoveredDownload}
      {rest : List SftpDiscoveredDownload} :
      s.deferredDiscovered = none → s.discoveredDownloads = discovered :: rest →
      LoopStep .work s
        { s with deferredDiscovered := some discovered, discoveredDownloads := rest }
  | dropMessage {s : SftpWorker} {root : Uuid} {request : SftpDownloadRequest} :
      s.deferredDiscovered = some (.request root request) → s.discoveryCancelled root →
      LoopStep .work s { s with deferredDiscovered := none }
  | adopt {s : SftpWorker} {root : Uuid} {request : SftpDownloadRequest} :
      s.deferredDiscovered = some (.request root request) → s.discoveryCancelled root = false →
      LoopStep (.of .adopt request.transferId) s
        (({ s with deferredDiscovered := none }.adoptChild root request.transferId).enqueueDownload
          request (if request.transferId ≠ root then some root else none))
  | finish {s : SftpWorker} {root : Uuid} {name : String}
      {outcome : Except String SftpDiscoverySummary} {recoverable : Bool} :
      s.deferredDiscovered = some (.finished root name outcome recoverable) →
      LoopStep .work s
        ({ s with deferredDiscovered := none }.discoveredFinished root name outcome recoverable)
  -- starting transfers
  | openRequest {s : SftpWorker} {request : SftpDownloadRequest}
      {rest : List SftpDownloadRequest} :
      s.queuedRequests = request :: rest → s.limitReached = false →
      LoopStep .work s ({ s with queuedRequests := rest }.spawnPendingSftpOpen request)
  | startUpload {s : SftpWorker} {request : SftpUploadRequest} {rest : List SftpUploadRequest} :
      s.queuedUploads = request :: rest → s.limitReached = false →
      LoopStep .work s ({ s with queuedUploads := rest }.spawnUpload request)
  -- openings
  | joinOpening {s : SftpWorker} (taskId : Nat) :
      LoopStep .work s { s with pendingOpenings := s.pendingOpenings.erase taskId }
  | joinDropped {s : SftpWorker} {id : Uuid} {pending : PendingSftpOpen} :
      s.pendingByTransfer.lookup id = some pending → pending.cancelled →
      LoopStep .work s { s with pendingByTransfer := s.pendingByTransfer.erase id }
  | activate {s : SftpWorker} {id : Uuid} {pending : PendingSftpOpen} :
      s.pendingByTransfer.lookup id = some pending → pending.cancelled = false →
      LoopStep .work s
        ({ s with pendingByTransfer := s.pendingByTransfer.erase id }.spawnDownload
          pending.request)
  | failOpening {s : SftpWorker} {id : Uuid} {pending : PendingSftpOpen} (message : String) :
      s.pendingByTransfer.lookup id = some pending → pending.cancelled = false →
      LoopStep .work s
        ({ s with pendingByTransfer := s.pendingByTransfer.erase id }
          |>.sendTransferEventWithDirectoryState (.failed id message s.connectionClosed))
  -- commands
  | reap {s : SftpWorker} : LoopStep .work s s.reapFinishedSftpTransfers
  | beginRoot {s : SftpWorker} {root : SftpDownloadRoot} :
      s.holdsRoot root.transferId = false →
      LoopStep (.of .enter root.transferId) s
        ((s.expectDirectory root).spawnPendingSftpDiscovery root)
  | queueRoot {s : SftpWorker} {root : SftpDownloadRoot} :
      s.holdsRoot root.transferId = false →
      LoopStep (.of .enter root.transferId) s
        { s.expectDirectory root with queuedDiscoveryRoots := s.queuedDiscoveryRoots ++ [root] }
  | admitDownload {s : SftpWorker} {request : SftpDownloadRequest} :
      s.holdsDownload request.transferId = false →
      LoopStep (.of .enter request.transferId) s (s.enqueueDownload request none)
  | admitUpload {s : SftpWorker} {request : SftpUploadRequest} :
      s.holdsUpload request.transferId = false → s.receiverOpen →
      LoopStep (.of .enter request.transferId) s (s.enqueueUpload request)
  | reply {s : SftpWorker} (id : Uuid) (message : String) :
      LoopStep (.of .reply id) s (s.reply id message)
  | rememberPolicy {s : SftpWorker} (batchId : Uuid) (choice : SftpUploadConflictChoice) :
      LoopStep .work s (s.rememberPolicy batchId choice)
  | resolve {s : SftpWorker} {id : Uuid} {request : SftpUploadRequest}
      (choice : SftpUploadConflictChoice) :
      s.pendingUploadConflicts.lookup id = some request →
      LoopStep .work s (retryUpload choice s id)
  | setPaused {s : SftpWorker} (id : Uuid) (paused : Bool) :
      LoopStep .work s (s.setPaused id paused)
  | stop {s : SftpWorker} : LoopStep .work s { s with stopped := true }
  -- cancellation
  | flag {s : SftpWorker} (id : Uuid) : LoopStep .work s (s.flagTransfer id)
  | cancelRoot {s : SftpWorker} {id : Uuid} :
      id ∈ s.directoryTransfers → LoopStep .work s (s.cancelRoot id)
  | cancelRequests {s : SftpWorker} {id : Uuid} :
      s.queuedRequests.any (·.transferId == id) →
      LoopStep .work s
        ({ s with queuedRequests := s.queuedRequests.filter (·.transferId != id) }
          |>.sendTransferEventWithDirectoryState (.cancelled id))
  | cancelRequest {s : SftpWorker} {id : Uuid} :
      s.queuedRequests.any (·.transferId == id) →
      LoopStep .work s
        ({ s with queuedRequests := s.queuedRequests.eraseP (·.transferId == id) }
          |>.sendTransferEventWithDirectoryState (.cancelled id))
  | cancelOpening {s : SftpWorker} {id : Uuid} {pending : PendingSftpOpen} :
      s.pendingByTransfer.lookup id = some pending → pending.cancelled = false →
      LoopStep .work s ((s.markOpening id).sendTransferEventWithDirectoryState (.cancelled id))
  | settleDirectory {s : SftpWorker} (id : Uuid) : LoopStep .work s (s.settleDirectory id)
  | cancelQueuedRoot {s : SftpWorker} {id : Uuid} :
      id ∉ s.directoryTransfers → s.queuedDiscoveryRoots.any (·.transferId == id) →
      LoopStep .work s
        ({ s with queuedDiscoveryRoots :=
            s.queuedDiscoveryRoots.eraseP (·.transferId == id) }.emit (.cancelled id))
  | cancelDiscovering {s : SftpWorker} {id : Uuid} :
      id ∉ s.directoryTransfers → id ∈ s.discoveryByTransfer →
      LoopStep (.of .extra id) s ((s.markDiscovery id).emit (.cancelled id))
  | cancelUpload {s : SftpWorker} {id : Uuid} :
      s.queuedUploads.any (·.transferId == id) →
      LoopStep .work s
        ({ s with
          queuedUploads := s.queuedUploads.eraseP (·.transferId == id)
          uploadQueueSlots := s.uploadQueueSlots.erase id }.emit (.cancelled id))
  | cancelConflict {s : SftpWorker} {id : Uuid} :
      id ∈ s.pendingUploadConflicts →
      LoopStep .work s
        ({ s with
          pendingUploadConflicts := s.pendingUploadConflicts.erase id
          uploadQueueSlots := s.uploadQueueSlots.erase id }.emit (.cancelled id))
  -- events
  | handleEvent {s : SftpWorker} {event : SftpTransferEvent} {rest : List SftpTransferEvent} :
      s.transferEvents = event :: rest →
      LoopStep (eventLabel event) s
        ({ s with transferEvents := rest }.handleTransferEvent
          (event.withConnection s.connectionClosed))

/-- Ordinary small steps. -/
abbrev WorkSteps : SftpWorker → SftpWorker → Prop := StepsVia LoopStep (· = .work)

/-- At most one small step beyond ordinary work, with a label that `P` allows, and then
    ordinary ones. -/
def Handles (P : LoopLabel → Prop) (s s' : SftpWorker) : Prop :=
  ∃ s₁, (s₁ = s ∨ ∃ label, P label ∧ LoopStep label s s₁) ∧ WorkSteps s₁ s'

namespace Handles

variable {P : LoopLabel → Prop} {s s₁ s' s'' : SftpWorker}

theorem work (h : WorkSteps s s') : Handles P s s' := ⟨s, .inl rfl, h⟩

theorem special {label : LoopLabel} (hl : P label) (h : LoopStep label s s₁)
    (h' : WorkSteps s₁ s') : Handles P s s' := ⟨s₁, .inr ⟨label, hl, h⟩, h'⟩

theorem one {label : LoopLabel} (hl : P label) (h : LoopStep label s s') : Handles P s s' :=
  special hl h (.refl s')

theorem trans (h : Handles P s s') (h' : WorkSteps s' s'') : Handles P s s'' := by
  obtain ⟨s₁, hfirst, hrest⟩ := h
  exact ⟨s₁, hfirst, hrest.trans h'⟩

end Handles

/-- The transfer that a command brings to the loop. -/
def submitted : SftpCommand → Option Uuid
  | .openSftpFile root => some root.transferId
  | .openSftpFileAtLocalPath request => some request.transferId
  | .openSftpUpload request => some request.transferId
  | _ => none

/-- The loop finds that it holds the transfer that a command brings. -/
def refuses (s : SftpWorker) : SftpCommand → Bool
  | .openSftpFile root => s.holdsRoot root.transferId
  | .openSftpFileAtLocalPath request => s.holdsDownload request.transferId
  | .openSftpUpload request => s.holdsUpload request.transferId
  | _ => false

/-- The labels that an input can lead to. -/
def Permits (s : SftpWorker) : WorkerInput → LoopLabel → Prop
  | _, .work => True
  | .command command _ _, .of .enter id => submitted command = some id ∧
    s.reapFinishedSftpTransfers.refuses command = false
  | .command command _ _, .of .reply id => submitted command = some id ∨
    command = .cancelSftpTransfer id ∧
      s.reapFinishedSftpTransfers.cancelTarget id = .missing
  | .command command _ _, .of .extra id => command = .cancelSftpTransfer id ∧
    s.reapFinishedSftpTransfers.cancelTarget id = .discovering
  | .discover root request, .of .enter id => request.transferId = id ∧ id ≠ root
  | .discoveredHandled, .of .adopt id => ∃ root request,
    s.deferredDiscovered = some (.request root request) ∧ request.transferId = id
  | .transferEventReceived _, .of .retry id => ∃ event rest,
    s.transferEvents = event :: rest ∧ eventLabel event = .of .retry id
  | .taskStage id .lost, .of .lose id' => id' = id
  | _, .of _ _ => False

/-- The state in which an input is handled: a command first joins the tasks that are over. -/
def prepared (s : SftpWorker) : WorkerInput → SftpWorker
  | .command .. => s.reapFinishedSftpTransfers
  | _ => s

/-! ## From handlers to small steps -/

/-- What the loop has found when it takes a branch of the cancellation. -/
theorem cancelTarget_spec (s : SftpWorker) (id : Uuid) :
    match s.cancelTarget id with
    | .directory => id ∈ s.directoryTransfers
    | .queuedRoot => id ∉ s.directoryTransfers ∧
      s.queuedDiscoveryRoots.any (·.transferId == id)
    | .discovering => id ∉ s.directoryTransfers ∧ id ∈ s.discoveryByTransfer
    | .queuedRequest => s.queuedRequests.any (·.transferId == id)
    | .queuedUpload => s.queuedUploads.any (·.transferId == id)
    | .conflict => id ∈ s.pendingUploadConflicts
    | .opening => ∃ pending, s.pendingByTransfer.lookup id = some pending ∧
      pending.cancelled = false
    | .active | .alreadyRequested | .missing => True := by
  unfold cancelTarget
  split_ifs with h₁ h₂ h₃ h₄ h₅ h₆ h₇
  · exact h₁
  · trivial
  · exact ⟨h₁, h₃⟩
  · exact ⟨h₁, h₄⟩
  · exact h₅
  · exact h₆
  · exact h₇
  · cases hlookup : s.pendingByTransfer.lookup id with
    | none => trivial
    | some pending =>
      cases hcancelled : pending.cancelled with
      | true => simp only [hcancelled, if_true]
      | false => simp [hcancelled]

/-- A root is refused, gets a discovery, or waits for one. -/
theorem openSftpFile_steps {P : LoopLabel → Prop} (s : SftpWorker) (root : SftpDownloadRoot)
    (henter : s.holdsRoot root.transferId = false → P (.of .enter root.transferId))
    (hreply : P (.of .reply root.transferId)) :
    Handles P s (s.openSftpFile root) := by
  unfold openSftpFile
  split
  · exact .one hreply (.reply _ _)
  · rename_i hfree
    have hfree' : s.holdsRoot root.transferId = false := by simpa using hfree
    split
    · exact .one (henter hfree') (.beginRoot hfree')
    · split
      · exact .one (henter hfree') (.queueRoot hfree')
      · exact .one hreply (.reply _ _)

/-- An upload is refused, or queued with the policy of its batch. -/
theorem admitSftpUpload_steps {P : LoopLabel → Prop} (s : SftpWorker)
    (request : SftpUploadRequest)
    (henter : s.holdsUpload request.transferId = false → P (.of .enter request.transferId))
    (hreply : P (.of .reply request.transferId)) :
    Handles P s (s.admitSftpUpload request).1 := by
  unfold admitSftpUpload
  simp only
  split
  · exact .one hreply (.reply _ _)
  · rename_i hfree
    have hfree' : s.holdsUpload request.transferId = false := by simpa using hfree
    split
    · rename_i hopen
      split
      · rename_i choice _
        exact .one (henter hfree')
          (@LoopStep.admitUpload s { request with conflictChoice := some choice } hfree' hopen)
      · exact .one (henter hfree') (.admitUpload hfree' hopen)
    · exact .work (.refl s)

section Handlers

variable {P : LoopLabel → Prop}

/-- Starting queued downloads opens them one by one. -/
theorem startRequests_steps (queue : List SftpDownloadRequest) (s : SftpWorker)
    (h : s.queuedRequests = queue) : WorkSteps s (startRequests queue s) := by
  induction queue generalizing s with
  | nil =>
    apply StepsVia.of_eq
    unfold startRequests
    rw [← h]
  | cons request rest ih =>
    unfold startRequests
    split
    · rw [← h]
      exact .refl s
    · rename_i hlimit
      exact .head rfl (.openRequest h (by simpa using hlimit)) (ih _ rfl)

theorem startQueuedSftpTransfers_steps (s : SftpWorker) :
    WorkSteps s s.startQueuedSftpTransfers :=
  startRequests_steps s.queuedRequests s rfl

/-- Starting queued uploads starts them one by one. -/
theorem startUploads_steps (queue : List SftpUploadRequest) (slots : Nat) (s : SftpWorker)
    (h : s.queuedUploads = queue) : WorkSteps s (startUploads queue slots s) := by
  induction queue generalizing s slots with
  | nil =>
    apply StepsVia.of_eq
    unfold startUploads
    rw [← h]
  | cons request rest ih =>
    unfold startUploads
    split
    · rw [← h]
      exact .refl s
    · rename_i hlimit
      cases slots with
      | zero =>
        rw [← h]
        exact .refl s
      | succ slots =>
        exact .head rfl (.startUpload h (by simpa using hlimit)) (ih _ _ rfl)

theorem startQueuedUploads_steps (s : SftpWorker) (slots : Nat) :
    WorkSteps s (s.startQueuedUploads slots) :=
  startUploads_steps s.queuedUploads slots s rfl

/-- Both queues are started, one after the other. -/
theorem startQueued_steps (s : SftpWorker) (slots : Nat) :
    WorkSteps s (s.startQueuedSftpTransfers.startQueuedUploads slots) :=
  (startQueuedSftpTransfers_steps s).trans (startQueuedUploads_steps _ slots)

/-- Queueing a download is the announcement, and the start of what can start. -/
theorem queueDownload_steps (s : SftpWorker) (request : SftpDownloadRequest)
    (root : Option Uuid) :
    WorkSteps (s.enqueueDownload request root) (s.queueDownload request root) := by
  unfold enqueueDownload queueDownload
  split
  · exact startQueuedSftpTransfers_steps _
  · exact .refl s

theorem discoveryJoined_steps (s : SftpWorker) (root : Uuid) :
    WorkSteps s (s.discoveryJoined root) := by
  unfold discoveryJoined
  refine .head rfl (.joinDiscovery root) (.trans ?_ (startQueuedSftpTransfers_steps _))
  split
  · split
    · rename_i next rest hqueue
      exact .single rfl (.dequeueRoot hqueue)
    · exact .refl _
  · exact .refl _

theorem discoveredReceived_steps (s : SftpWorker) (h : s.deferredDiscovered = none) :
    WorkSteps s s.discoveredReceived := by
  unfold discoveredReceived
  split
  · rename_i discovered rest hmessages
    exact .single rfl (.receive h hmessages)
  · exact .refl s

/-- A deferred message is dropped, adopted, or ends its discovery. -/
theorem discoveredHandled_steps (s : SftpWorker)
    (hadopt : ∀ root request, s.deferredDiscovered = some (.request root request) →
      P (.of .adopt request.transferId)) : Handles P s s.discoveredHandled := by
  unfold discoveredHandled
  split
  · exact .work (.refl s)
  · rename_i discovered hdeferred
    cases discovered with
    | request root request =>
      simp only [discoveredRequest]
      split
      · rename_i hcancelled
        exact .work (.single rfl (.dropMessage hdeferred hcancelled))
      · rename_i hcancelled
        exact .special (hadopt root request hdeferred)
          (.adopt hdeferred ((Bool.not_eq_true _).mp hcancelled)) (queueDownload_steps _ _ _)
    | finished root name outcome recoverable => exact .work (.single rfl (.finish hdeferred))

theorem openingJoined_steps (s : SftpWorker) (taskId : Nat) (result : OpeningResult)
    (slots : Nat) : WorkSteps s (s.openingJoined taskId result slots) := by
  cases hpending : pendingTask { s with pendingOpenings := s.pendingOpenings.erase taskId }
      taskId with
  | none =>
    simp only [openingJoined, hpending]
    exact .single rfl (.joinOpening taskId)
  | some entry =>
    obtain ⟨id, pending⟩ := entry
    have hlookup : s.pendingByTransfer.lookup id = some pending := by
      obtain ⟨entry, hfind, hentry⟩ := Option.map_eq_some_iff.mp hpending
      cases hentry
      exact AList.mem_lookup_iff.mpr (List.mem_of_find?_eq_some hfind)
    simp only [openingJoined, hpending]
    refine .head rfl (.joinOpening taskId) ?_
    split
    · rename_i hcancelled
      exact .single rfl (.joinDropped hlookup hcancelled)
    · rename_i hcancelled
      have hcancelled' : pending.cancelled = false := by simpa using hcancelled
      refine .trans ?_ (startQueued_steps _ slots)
      cases result with
      | opened => exact .single rfl (.activate hlookup hcancelled')
      | failed message => exact .single rfl (.failOpening message hlookup hcancelled')
      | panicked => exact .single rfl (.failOpening _ hlookup hcancelled')

theorem openSftpFileAtLocalPath_steps (s : SftpWorker) (request : SftpDownloadRequest)
    (henter : s.holdsDownload request.transferId = false → P (.of .enter request.transferId))
    (hreply : P (.of .reply request.transferId)) :
    Handles P s (s.openSftpFileAtLocalPath request) := by
  unfold openSftpFileAtLocalPath
  split
  · exact .one hreply (.reply _ _)
  · rename_i hfree
    have hfree' : s.holdsDownload request.transferId = false := by simpa using hfree
    exact .special (henter hfree') (.admitDownload hfree') (queueDownload_steps _ _ _)

theorem openSftpUpload_steps (s : SftpWorker) (request : SftpUploadRequest) (slots : Nat)
    (henter : s.holdsUpload request.transferId = false → P (.of .enter request.transferId))
    (hreply : P (.of .reply request.transferId)) :
    Handles P s (s.openSftpUpload request slots).1 :=
  (admitSftpUpload_steps s request henter hreply).trans (startQueuedUploads_steps _ slots)

theorem retryUploads_steps (choice : SftpUploadConflictChoice) (ids : List Uuid)
    (s : SftpWorker) : WorkSteps s (ids.foldl (retryUpload choice) s) := by
  induction ids generalizing s with
  | nil => exact .refl s
  | cons id ids ih =>
    refine StepsVia.trans ?_ (ih _)
    cases hlookup : s.pendingUploadConflicts.lookup id with
    | none =>
      apply StepsVia.of_eq
      unfold retryUpload
      rw [hlookup]
    | some request => exact .single rfl (.resolve choice hlookup)

theorem resolveSftpUploadConflict_steps (s : SftpWorker) (id : Uuid)
    (choice : SftpUploadConflictChoice) (applyToBatch : Bool) (order : List Uuid)
    (slots : Nat) :
    WorkSteps s (s.resolveSftpUploadConflict id choice applyToBatch order slots) := by
  unfold resolveSftpUploadConflict
  split
  · exact .refl s
  · refine StepsVia.trans (StepsVia.trans ?_ (retryUploads_steps choice _ _))
      (startQueuedUploads_steps _ slots)
    split
    · exact .single rfl (.rememberPolicy _ _)
    · exact .refl s

/-- Cancelling a child takes it out of the queue, marks its opening, or flags its task. -/
theorem cancelChild_steps (s : SftpWorker) (child : Uuid) : WorkSteps s (s.cancelChild child) := by
  unfold cancelChild
  split
  · rename_i hqueued
    exact .single rfl (.cancelRequests hqueued)
  · split
    · rename_i pending hlookup
      split
      · exact .refl s
      · rename_i hcancelled
        exact .single rfl (.cancelOpening hlookup (by simpa using hcancelled))
    · exact .single rfl (.flag child)

theorem cancelChildren_steps (children : List Uuid) (s : SftpWorker) :
    WorkSteps s (children.foldl cancelChild s) := by
  induction children generalizing s with
  | nil => exact .refl s
  | cons child children ih => exact (cancelChild_steps s child).trans (ih _)

theorem cancelDirectoryDownload_steps (s : SftpWorker) (id : Uuid) (order : List Uuid)
    (h : id ∈ s.directoryTransfers) : WorkSteps s (s.cancelDirectoryDownload id order) :=
  .head rfl (.cancelRoot h)
    ((cancelChildren_steps order _).tail rfl (.settleDirectory id))

/-- Each branch of the cancellation is a small step, or those of a directory. -/
theorem cancelSftpTransfer_steps (s : SftpWorker) (id : Uuid) (order : List Uuid)
    (hextra : s.cancelTarget id = .discovering → P (.of .extra id))
    (hreply : s.cancelTarget id = .missing → P (.of .reply id)) :
    Handles P s (s.cancelSftpTransfer id order) := by
  have hspec := s.cancelTarget_spec id
  unfold cancelSftpTransfer
  cases htarget : s.cancelTarget id <;> rw [htarget] at hspec <;> simp only at hspec ⊢
  case directory => exact .work (cancelDirectoryDownload_steps s id order hspec)
  case active => exact .work (.single rfl (.flag id))
  case queuedRoot => exact .work (.single rfl (.cancelQueuedRoot hspec.1 hspec.2))
  case discovering => exact .one (hextra htarget) (.cancelDiscovering hspec.1 hspec.2)
  case queuedRequest => exact .work (.single rfl (.cancelRequest hspec))
  case queuedUpload => exact .work (.single rfl (.cancelUpload hspec))
  case conflict => exact .work (.single rfl (.cancelConflict hspec))
  case opening =>
    obtain ⟨pending, hlookup, hcancelled⟩ := hspec
    exact .work (.single rfl (.cancelOpening hlookup hcancelled))
  case alreadyRequested => exact .work (.refl s)
  case missing => exact .one (hreply htarget) (.reply id _)

theorem transferEventReceived_steps (s : SftpWorker) (slots : Nat)
    (hretry : ∀ event rest, s.transferEvents = event :: rest → P (eventLabel event)) :
    Handles P s (s.transferEventReceived slots) := by
  unfold transferEventReceived
  split
  · exact .work (.refl s)
  · rename_i event rest hevents
    refine .special (hretry event rest hevents) (.handleEvent hevents) ?_
    simp only
    split
    · exact .refl _
    · exact startQueued_steps _ slots

end Handlers

/-- A command first joins the tasks that are over. -/
theorem prepared_steps (s : SftpWorker) (input : WorkerInput) :
    WorkSteps s (s.prepared input) := by
  cases input with
  | command command order slots => exact .single rfl .reap
  | _ => exact .refl s

/-- What the loop does on an input is one small step beyond ordinary work at most, and ordinary
    small steps, unless the input is about the connection or the application itself. -/
theorem apply_steps (s : SftpWorker) (input : WorkerInput) (h : s.Allowed input)
    (hconnection : input ≠ .connectionClosed) (hreceiver : input ≠ .receiverClosed) :
    Handles (s.Permits input) (s.prepared input) (s.apply input) := by
  cases input with
  | command command order slots =>
    cases command with
    | openSftpFile root => exact openSftpFile_steps _ root (fun h => ⟨rfl, h⟩) (.inl rfl)
    | openSftpFileAtLocalPath request =>
      exact openSftpFileAtLocalPath_steps _ request (fun h => ⟨rfl, h⟩) (.inl rfl)
    | openSftpUpload request =>
      exact openSftpUpload_steps _ request slots (fun h => ⟨rfl, h⟩) (.inl rfl)
    | resolveSftpUploadConflict id choice applyToBatch =>
      exact .work (resolveSftpUploadConflict_steps _ id choice applyToBatch order slots)
    -- a cancellation may go beyond the work of the loop, according to its target
    | cancelSftpTransfer id =>
      exact cancelSftpTransfer_steps _ id order (fun htarget => ⟨rfl, htarget⟩)
        (fun htarget => .inr ⟨rfl, htarget⟩)
    | pauseSftpTransfer id => exact .work (.single rfl (.setPaused id true))
    | resumeSftpTransfer id => exact .work (.single rfl (.setPaused id false))
    | other => exact .work (.refl _)
    | disconnect => exact .work (.single rfl .stop)
  | discoveryJoined root => exact .work (discoveryJoined_steps s root)
  | discoveredReceived => exact .work (discoveredReceived_steps s h)
  | discoveredHandled =>
    exact discoveredHandled_steps s fun root request hdeferred =>
      ⟨root, request, hdeferred, rfl⟩
  | openingJoined taskId result slots => exact .work (openingJoined_steps s taskId result slots)
  | transferEventReceived slots =>
    refine transferEventReceived_steps s slots fun event rest hevents => ?_
    cases event with
    | uploadConflict id => exact ⟨_, rest, hevents, rfl⟩
    | _ => trivial
  | discover root request =>
    obtain ⟨-, task, htask, hsend⟩ := h
    -- a discovery that finds its own root enters nothing new
    by_cases hroot : request.transferId = root
    · exact .work (.single rfl (.discoverRoot htask hsend hroot))
    · have hpermits : s.Permits (.discover root request) (.of .enter request.transferId) :=
        ⟨rfl, hroot⟩
      exact .one hpermits (.discoverChild htask hsend hroot)
  | discoverEnd root name outcome recoverable =>
    obtain ⟨-, task, htask, hreport, -⟩ := h
    exact .work (.single rfl (.discoverEnd htask hreport))
  | taskEvent event =>
    obtain ⟨transfer, hfind, hstage, hsend⟩ := h
    exact .work (.single rfl (.sendUpdate hfind hstage hsend))
  | taskEnd event =>
    obtain ⟨transfer, hfind, hstage, hend⟩ := h
    exact .work (.single rfl (.sendLast hfind hstage hend))
  | taskStage id stage =>
    obtain ⟨transfer, hfind, hstage⟩ := h
    by_cases hlost : stage = .lost
    · subst hlost
      have hpermits : s.Permits (.taskStage id .lost) (.of .lose id) := rfl
      exact .one hpermits (.lose hfind hstage)
    · exact .work (.single rfl (.setStage hfind hstage hlost))
  | connectionClosed => exact absurd rfl hconnection
  | receiverClosed => exact absurd rfl hreceiver

end SftpWorker

end AxSsh
