import AxSsh.ForStd.SwapRemove
import AxSsh.ForStd.Transition
import AxSsh.Native.SftpWorkerTypes

/-!
# The SFTP transfer loop

The `tokio::select!` loop of `run_sftp_session` in `ssh/worker/sftp.rs`, restricted to file
transfers: its containers, the handling of each command, and the handling of each message
of a discovery, an opening or a transfer task.  The tasks themselves are the environment:
`WorkerInput` has an input for each arm of the loop and for each thing a task can do.

- `sent`, `replied` and `started` are histories: the events the loop has sent to the
  application, the transfers of those among them that refuse a command, and the transfers
  it has started, each in order.
- A channel is the list of the messages in it.  A send to the application succeeds while its
  receiver is open.
- Where the loop walks a hash map, the order it finds is an argument; `slots` is how many
  uploads the global limiter admits at that moment.
-/

namespace AxSsh

structure SftpWorker where
  perTabLimit : Nat
  -- what the loop reads of the connection and of the application
  connectionClosed : Bool := false
  receiverOpen : Bool := true
  stopped : Bool := false
  -- file transfers
  transfers : List ActiveSftpTransfer := []
  pendingOpenings : List Nat := []
  pendingByTransfer : AssocMap Uuid PendingSftpOpen := ∅
  queuedRequests : List SftpDownloadRequest := []
  queuedUploads : List SftpUploadRequest := []
  activeUploadRequests : AssocMap Uuid SftpUploadRequest := ∅
  uploadQueueSlots : Finset Uuid := ∅
  pendingUploadConflicts : AssocMap Uuid SftpUploadRequest := ∅
  batchPolicies : AssocMap Uuid SftpUploadConflictChoice := ∅
  recentPolicyBatches : List Uuid := []
  -- recursive discovery
  discoveries : List DiscoveryTask := []
  discoveryByTransfer : AssocMap Uuid PendingDiscovery := ∅
  directoryTransfers : AssocMap Uuid DirectoryTransferAggregate := ∅
  childRoots : AssocMap Uuid Uuid := ∅
  queuedDiscoveryRoots : List SftpDownloadRoot := []
  deferredDiscovered : Option SftpDiscoveredDownload := none
  -- the channels the tasks send to
  discoveredDownloads : List SftpDiscoveredDownload := []
  transferEvents : List SftpTransferEvent := []
  nextTaskId : Nat := 0
  -- histories
  sent : List SftpTransferEvent := []
  replied : List Uuid := []
  started : List Uuid := []

namespace SftpWorker

/-- The loop at its start.  The per-tab limit is bounded by the transfer channels. -/
def new (perTabTransfers : Nat) : SftpWorker where
  perTabLimit := min perTabTransfers transferChannels

/-- Send an event to the application.  The send succeeds exactly while `receiverOpen`. -/
def emit (s : SftpWorker) (event : SftpTransferEvent) : SftpWorker :=
  if s.receiverOpen then { s with sent := s.sent ++ [event] } else s

/-- Refuse a command: a failure that is not the outcome of a transfer. -/
def reply (s : SftpWorker) (id : Uuid) (message : String) : SftpWorker :=
  if s.receiverOpen then
    { s with sent := s.sent ++ [.failed id message false], replied := s.replied ++ [id] }
  else s

/-! ## Directory transfers -/

/-- `finish_directory_transfer`: drop an aggregate that is complete, with its last event. -/
def finishDirectoryTransfer (s : SftpWorker) (transferId : Uuid) :
    SftpWorker × Option SftpTransferEvent :=
  match s.directoryTransfers.lookup transferId with
  | none => (s, none)
  | some transfer =>
    if transfer.discoveryFinished && transfer.children.isEmpty then
      ({ s with directoryTransfers := s.directoryTransfers.erase transferId },
        if transfer.isDirectory = some false then none
        else some (.discoveryFinished transferId transfer.discoveredFiles
          transfer.skippedEntries transfer.failedFiles transfer.cancelled transfer.message))
    else (s, none)

/-- Finish an aggregate, and send its last event. -/
def settleDirectory (s : SftpWorker) (transferId : Uuid) : SftpWorker :=
  match s.finishDirectoryTransfer transferId with
  | (s, some event) => s.emit event
  | (s, none) => s

end SftpWorker

namespace DirectoryTransferAggregate

/-- Take a child out of an aggregate and count its outcome. -/
def completeChild (transfer : DirectoryTransferAggregate) (child : Uuid)
    (outcome : SftpTransferEvent) : DirectoryTransferAggregate :=
  if child ∈ transfer.children then
    let transfer := { transfer with children := transfer.children.erase child }
    match outcome with
    | .skipped _ => { transfer with
        skippedEntries := transfer.skippedEntries + 1
        message := transfer.message.or (some "One or more files were skipped") }
    | .failed _ message _ => { transfer with
        failedFiles := transfer.failedFiles + 1
        message := transfer.message.or (some message) }
    | .cancelled _ => { transfer with
        failedFiles := transfer.failedFiles + 1
        message := transfer.message.or (some "One or more files were cancelled") }
    | _ => transfer
  else transfer

/-- Add a discovered child. -/
def addChild (transfer : DirectoryTransferAggregate) (child : Uuid) :
    DirectoryTransferAggregate :=
  { transfer with children := transfer.children.insert child }

/-- The result of a discovery that saw a directory. -/
def recordSummary (transfer : DirectoryTransferAggregate) (summary : SftpDiscoverySummary) :
    DirectoryTransferAggregate :=
  { transfer with
    isDirectory := some true
    discoveredFiles := summary.discoveredFiles
    skippedEntries := summary.skippedEntries
    message := summary.firstIssue
    discoveryFinished := true }

/-- The failure of a discovery that had already found children. -/
def recordFailure (transfer : DirectoryTransferAggregate) (message : String) :
    DirectoryTransferAggregate :=
  { transfer with
    isDirectory := some true
    failedFiles := transfer.failedFiles + 1
    message := transfer.message.or (some message)
    discoveryFinished := true }

end DirectoryTransferAggregate

namespace SftpWorker

/-- The aggregate of a root, or a fresh one: `entry(root).or_default()`. -/
def aggregate (s : SftpWorker) (root : Uuid) : DirectoryTransferAggregate :=
  (s.directoryTransfers.lookup root).getD {}

def setAggregate (s : SftpWorker) (root : Uuid) (transfer : DirectoryTransferAggregate) :
    SftpWorker :=
  { s with directoryTransfers := s.directoryTransfers.insert root transfer }

def dropAggregate (s : SftpWorker) (root : Uuid) : SftpWorker :=
  { s with directoryTransfers := s.directoryTransfers.erase root }

/-- `complete_directory_child`: account for the end of a child, and finish its root when
    that was the last one. -/
def completeDirectoryChild (s : SftpWorker) (outcome : SftpTransferEvent) :
    SftpWorker × Option SftpTransferEvent :=
  match s.childRoots.lookup outcome.transferId with
  | none => (s, none)
  | some root =>
    ({ s with
        childRoots := s.childRoots.erase outcome.transferId
        directoryTransfers := AssocMap.adjust root
          (fun transfer => transfer.completeChild outcome.transferId outcome)
          s.directoryTransfers } : SftpWorker).finishDirectoryTransfer root

/-- Send an event, and account for the child it ends. -/
def sendTransferEventWithDirectoryState (s : SftpWorker) (event : SftpTransferEvent) :
    SftpWorker :=
  if !s.receiverOpen then s
  else if event.endsChild && decide (event.transferId ∈ s.childRoots) then
    match (s.emit event).completeDirectoryChild event with
    | (s, some rootEvent) => s.emit rootEvent
    | (s, none) => s
  else s.emit event

/-! ## Starting transfers -/

def sftpTransferLimitReached (activeDownloads pendingOpenings limit : Nat) : Bool :=
  decide (max limit 1 ≤ activeDownloads + pendingOpenings)

/-- The limit of the tab is reached in this state. -/
def limitReached (s : SftpWorker) : Bool :=
  sftpTransferLimitReached s.transfers.length s.pendingByTransfer.entries.length s.perTabLimit

def availableSftpTransferSlots (s : SftpWorker) : Nat :=
  sftpTransferQueueWindow -
    (s.transfers.length + s.pendingByTransfer.entries.length + s.queuedRequests.length)

/-- Open a subsystem for a download, in a task of its own. -/
def spawnPendingSftpOpen (s : SftpWorker) (request : SftpDownloadRequest) : SftpWorker :=
  { s with
    pendingOpenings := s.pendingOpenings ++ [s.nextTaskId]
    pendingByTransfer :=
      s.pendingByTransfer.insert request.transferId { taskId := s.nextTaskId, request }
    nextTaskId := s.nextTaskId + 1
    started := s.started ++ [request.transferId] }

/-- `SftpDownloadHandle::spawn`. -/
def spawnDownload (s : SftpWorker) (request : SftpDownloadRequest) : SftpWorker :=
  { s with
    transfers := s.transfers ++ [{ transferId := request.transferId, upload := false }]
    started := s.started ++ [request.transferId] }

/-- `SftpUploadHandle::spawn`, with the request kept for a conflict. -/
def spawnUpload (s : SftpWorker) (request : SftpUploadRequest) : SftpWorker :=
  { s with
    activeUploadRequests := s.activeUploadRequests.insert request.transferId request
    transfers := s.transfers ++ [{ transferId := request.transferId, upload := true }]
    started := s.started ++ [request.transferId] }

/-- Open queued downloads, front first, until the limit is reached. -/
def startRequests : List SftpDownloadRequest → SftpWorker → SftpWorker
  | [], s => { s with queuedRequests := [] }
  | request :: rest, s =>
    if s.limitReached then { s with queuedRequests := request :: rest }
    else startRequests rest ({ s with queuedRequests := rest }.spawnPendingSftpOpen request)

def startQueuedSftpTransfers (s : SftpWorker) : SftpWorker :=
  startRequests s.queuedRequests s

/-- Start queued uploads, front first, until a limit is reached.  An upload that the global
    limiter refuses goes back to the front. -/
def startUploads : List SftpUploadRequest → Nat → SftpWorker → SftpWorker
  | [], _, s => { s with queuedUploads := [] }
  | request :: rest, slots, s =>
    if s.limitReached then { s with queuedUploads := request :: rest }
    else
      match slots with
      | 0 => { s with queuedUploads := request :: rest }
      | slots + 1 =>
        startUploads rest slots ({ s with queuedUploads := rest }.spawnUpload request)

def startQueuedUploads (s : SftpWorker) (slots : Nat) : SftpWorker :=
  startUploads s.queuedUploads slots s

/-! ## Discovery -/

def spawnPendingSftpDiscovery (s : SftpWorker) (root : SftpDownloadRoot) : SftpWorker :=
  { s with
    discoveries := s.discoveries ++ [{ root }]
    discoveryByTransfer := s.discoveryByTransfer.insert root.transferId { root } }

/-- A discovery task was joined: the next queued root takes its place. -/
def discoveryJoined (s : SftpWorker) (root : Uuid) : SftpWorker :=
  let s := { s with discoveries :=
    s.discoveries.eraseP fun task => task.ended && task.root.transferId == root }
  let s :=
    if s.discoveries.length < maxActiveSftpDiscoveries then
      match s.queuedDiscoveryRoots with
      | next :: rest => { s with queuedDiscoveryRoots := rest }.spawnPendingSftpDiscovery next
      | [] => s
    else s
  s.startQueuedSftpTransfers

/-- Take the next message of the discoveries. -/
def discoveredReceived (s : SftpWorker) : SftpWorker :=
  match s.discoveredDownloads with
  | discovered :: rest =>
    { s with deferredDiscovered := some discovered, discoveredDownloads := rest }
  | [] => s

/-- The event that announces a download. -/
def downloadQueuedEvent (request : SftpDownloadRequest) (root : Option Uuid) :
    SftpTransferEvent :=
  .queued request.transferId root request.remotePath request.localPath false request.name
    request.totalBytes

def uploadQueuedEvent (request : SftpUploadRequest) : SftpTransferEvent :=
  .queued request.transferId none request.remotePath (some request.localPath) true request.name
    request.totalBytes

/-- The root of a discovered file was cancelled. -/
def discoveryCancelled (s : SftpWorker) (root : Uuid) : Bool :=
  (s.discoveryByTransfer.lookup root).any (·.cancelled) ||
    (s.directoryTransfers.lookup root).any (·.cancelled)

/-- A discovered file becomes a child of its root; a root that is a file is its own. -/
def adoptChild (s : SftpWorker) (root child : Uuid) : SftpWorker :=
  if child = root then s
  else
    { s with childRoots := s.childRoots.insert child root }.setAggregate root
      ((s.aggregate root).addChild child)

/-- Announce a download, and queue it if the application still listens. -/
def queueDownload (s : SftpWorker) (request : SftpDownloadRequest) (root : Option Uuid) :
    SftpWorker :=
  if s.receiverOpen then
    { s.emit (downloadQueuedEvent request root) with
      queuedRequests := s.queuedRequests ++ [request] }.startQueuedSftpTransfers
  else s

/-- The discovery of `root` sent a file. -/
def discoveredRequest (s : SftpWorker) (root : Uuid) (request : SftpDownloadRequest) :
    SftpWorker :=
  if s.discoveryCancelled root then s
  else
    (s.adoptChild root request.transferId).queueDownload request
      (if request.transferId ≠ root then some root else none)

/-- `report_discovery_failure`. -/
def reportDiscoveryFailure (s : SftpWorker) (root : SftpDownloadRoot) (name message : String)
    (recoverable : Bool) : SftpWorker :=
  (s.emit (.queued root.transferId none root.remotePath (some root.localPath) false name 0)).emit
    (.discoveryFailed root.transferId name message recoverable)

/-- The discovery of `root` ended. -/
def discoveredFinished (s : SftpWorker) (root : Uuid) (name : String)
    (outcome : Except String SftpDiscoverySummary) (recoverable : Bool) : SftpWorker :=
  let recoverable := recoverable && s.connectionClosed
  match s.discoveryByTransfer.lookup root with
  | none => s
  | some discovery =>
    let s := { s with discoveryByTransfer := s.discoveryByTransfer.erase root }
    let transfer := s.aggregate root
    if discovery.cancelled then
      (s.setAggregate root { transfer with cancelled := true, discoveryFinished := true })
        |>.settleDirectory root
    else
      match outcome with
      | .ok summary =>
        if !summary.isDirectory then
          (s.dropAggregate root).emit (.discoveryFinished root summary.discoveredFiles
            summary.skippedEntries 0 false summary.firstIssue)
        else (s.setAggregate root (transfer.recordSummary summary)).settleDirectory root
      | .error message =>
        if transfer.cancelled then
          (s.setAggregate root { transfer with discoveryFinished := true }).settleDirectory root
        else if recoverable then
          (s.dropAggregate root).reportDiscoveryFailure discovery.root name message true
        else if transfer.children.isEmpty then
          (s.dropAggregate root).reportDiscoveryFailure discovery.root name message recoverable
        else (s.setAggregate root (transfer.recordFailure message)).settleDirectory root

/-- Handle the deferred message of a discovery, when there is room for another download. -/
def discoveredHandled (s : SftpWorker) : SftpWorker :=
  match s.deferredDiscovered with
  | none => s
  | some discovered =>
    let s := { s with deferredDiscovered := none }
    match discovered with
    | .request root request => s.discoveredRequest root request
    | .finished root name outcome recoverable =>
      s.discoveredFinished root name outcome recoverable

/-! ## Openings -/

/-- How the task that opens a subsystem ended. -/
inductive OpeningResult where
  | opened
  | failed (message : String)
  | panicked

/-- The opening that a task belongs to. -/
def pendingTask (s : SftpWorker) (taskId : Nat) : Option (Uuid × PendingSftpOpen) :=
  (s.pendingByTransfer.entries.find? fun entry => entry.2.taskId == taskId).map fun entry =>
    (entry.1, entry.2)

/-- A task that opens a subsystem was joined. -/
def openingJoined (s : SftpWorker) (taskId : Nat) (result : OpeningResult) (slots : Nat) :
    SftpWorker :=
  let s := { s with pendingOpenings := s.pendingOpenings.erase taskId }
  match s.pendingTask taskId with
  | none => s
  | some (transferId, pending) =>
    let s := { s with pendingByTransfer := s.pendingByTransfer.erase transferId }
    if pending.cancelled then s
    else
      let s := match result with
        | .opened => s.spawnDownload pending.request
        | .failed message => s.sendTransferEventWithDirectoryState
            (.failed transferId message s.connectionClosed)
        | .panicked => s.sendTransferEventWithDirectoryState
            (.failed transferId "SFTP subsystem opening task failed" s.connectionClosed)
      s.startQueuedSftpTransfers.startQueuedUploads slots

/-! ## Commands -/

/-- `reap_finished_sftp_transfers`: join the tasks that are over.  A panic is reported as a
    recoverable failure. -/
def reapFinishedSftpTransfers (s : SftpWorker) : SftpWorker :=
  let (kept, removed) :=
    s.transfers.swapRemoveAll (fun transfer => transfer.stage.isFinished) s.transfers.length
  { s with
    transfers := kept
    transferEvents := s.transferEvents ++
      (removed.filter fun transfer => transfer.stage == .panicked).map fun transfer =>
        .failed transfer.transferId transfer.joinError true }

/-- A transfer is in a container that `OpenSftpFileAtLocalPath` looks at. -/
def holdsDownload (s : SftpWorker) (id : Uuid) : Bool :=
  s.transfers.any (·.transferId == id) || decide (id ∈ s.pendingByTransfer) ||
    decide (id ∈ s.discoveryByTransfer) || s.queuedRequests.any (·.transferId == id)

/-- A transfer is in a container that `OpenSftpFile` looks at. -/
def holdsRoot (s : SftpWorker) (id : Uuid) : Bool :=
  s.holdsDownload id || decide (id ∈ s.directoryTransfers) ||
    s.queuedDiscoveryRoots.any (·.transferId == id)

/-- A transfer is in a container that `OpenSftpUpload` looks at. -/
def holdsUpload (s : SftpWorker) (id : Uuid) : Bool :=
  s.holdsDownload id || s.queuedUploads.any (·.transferId == id) ||
    decide (id ∈ s.pendingUploadConflicts) || decide (id ∈ s.uploadQueueSlots)

def alreadyActive : String := "SFTP transfer is already active"

/-- A root that is expected to be a directory has its aggregate from the start. -/
def expectDirectory (s : SftpWorker) (root : SftpDownloadRoot) : SftpWorker :=
  if root.expectedDirectory then s.setAggregate root.transferId { isDirectory := some true }
  else s

def openSftpFile (s : SftpWorker) (root : SftpDownloadRoot) : SftpWorker :=
  if s.holdsRoot root.transferId then s.reply root.transferId alreadyActive
  else if s.discoveries.length < maxActiveSftpDiscoveries then
    (s.expectDirectory root).spawnPendingSftpDiscovery root
  else if s.queuedDiscoveryRoots.length < sftpTransferQueueWindow then
    { s.expectDirectory root with queuedDiscoveryRoots := s.queuedDiscoveryRoots ++ [root] }
  else s.reply root.transferId "SFTP recursive discovery queue is full"

def openSftpFileAtLocalPath (s : SftpWorker) (request : SftpDownloadRequest) : SftpWorker :=
  if s.holdsDownload request.transferId then s.reply request.transferId alreadyActive
  else s.queueDownload request none

/-- Admit an upload; the second component is the reply to the command. -/
def admitSftpUpload (s : SftpWorker) (request : SftpUploadRequest) :
    SftpWorker × Except String Unit :=
  let id := request.transferId
  if s.holdsUpload id then (s.reply id alreadyActive, .error alreadyActive)
  else
    let request := match s.batchPolicies.lookup request.batchId with
      | some choice => { request with conflictChoice := some choice }
      | none => request
    if s.receiverOpen then
      ({ s.emit (uploadQueuedEvent request) with
          uploadQueueSlots := insert id s.uploadQueueSlots
          queuedUploads := s.queuedUploads ++ [request] }, .ok ())
    else (s, .error "SFTP event receiver stopped")

def openSftpUpload (s : SftpWorker) (request : SftpUploadRequest) (slots : Nat) :
    SftpWorker × Except String Unit :=
  let (s, accepted) := s.admitSftpUpload request
  (s.startQueuedUploads slots, accepted)

/-- Remember the choice of the user for a batch.  Only the last 32 batches are kept. -/
def rememberPolicy (s : SftpWorker) (batchId : Uuid) (choice : SftpUploadConflictChoice) :
    SftpWorker :=
  let s :=
    if batchId ∈ s.batchPolicies then s
    else
      let s := match s.recentPolicyBatches with
        | oldest :: rest =>
          if maxPolicyBatches ≤ s.recentPolicyBatches.length then
            { s with recentPolicyBatches := rest, batchPolicies := s.batchPolicies.erase oldest }
          else s
        | [] => s
      { s with recentPolicyBatches := s.recentPolicyBatches ++ [batchId] }
  { s with batchPolicies := s.batchPolicies.insert batchId choice }

/-- Take an upload that waits for a decision, and queue it with the choice of the user. -/
def retryUpload (choice : SftpUploadConflictChoice) (s : SftpWorker) (id : Uuid) : SftpWorker :=
  match s.pendingUploadConflicts.lookup id with
  | none => s
  | some request =>
    let request := { request with conflictChoice := some choice }
    let s := { s with pendingUploadConflicts := s.pendingUploadConflicts.erase id }
    if s.receiverOpen then
      { s.emit (uploadQueuedEvent request) with queuedUploads := s.queuedUploads ++ [request] }
    else s

/-- The uploads of a batch that wait for a decision. -/
def batchConflicts (s : SftpWorker) (batchId : Uuid) : List Uuid :=
  (s.pendingUploadConflicts.entries.filter fun entry => entry.2.batchId == batchId).map (·.1)

/-- Answer an upload conflict.  `order` is the order in which the other uploads of the batch
    are found. -/
def resolveSftpUploadConflict (s : SftpWorker) (id : Uuid) (choice : SftpUploadConflictChoice)
    (applyToBatch : Bool) (order : List Uuid) (slots : Nat) : SftpWorker :=
  match s.pendingUploadConflicts.lookup id with
  | none => s
  | some request =>
    let s := if applyToBatch then s.rememberPolicy request.batchId choice else s
    let resolved := if applyToBatch then id :: order else [id]
    (resolved.foldl (retryUpload choice) s).startQueuedUploads slots

/-! ### Cancelling -/

/-- Ask the task of an active transfer to stop. -/
def flagTransfer (s : SftpWorker) (id : Uuid) : SftpWorker :=
  { s with transfers := List.modifyKey (·.transferId) id ActiveSftpTransfer.cancel s.transfers }

/-- `cancel_pending_discovery`: mark the discovery of a root. -/
def markDiscovery (s : SftpWorker) (id : Uuid) : SftpWorker :=
  { s with discoveryByTransfer := AssocMap.adjust id .cancel s.discoveryByTransfer }

/-- `cancel_pending_sftp_open`: mark the opening of a download. -/
def markOpening (s : SftpWorker) (id : Uuid) : SftpWorker :=
  { s with pendingByTransfer := AssocMap.adjust id .cancel s.pendingByTransfer }

/-- Cancel one child of a directory, wherever it is. -/
def cancelChild (s : SftpWorker) (child : Uuid) : SftpWorker :=
  if s.queuedRequests.any (·.transferId == child) then
    { s with queuedRequests := s.queuedRequests.filter (·.transferId != child) }
      |>.sendTransferEventWithDirectoryState (.cancelled child)
  else
    match s.pendingByTransfer.lookup child with
    | some pending =>
      if pending.cancelled then s
      else (s.markOpening child).sendTransferEventWithDirectoryState (.cancelled child)
    | none => s.flagTransfer child

/-- The deferred message is a file of this root. -/
def defersRequestOf (s : SftpWorker) (root : Uuid) : Bool :=
  match s.deferredDiscovered with
  | some (.request root' _) => root' == root
  | _ => false

/-- `cancel_directory_download` up to the children of the root. -/
def cancelRoot (s : SftpWorker) (id : Uuid) : SftpWorker :=
  let started := decide (id ∈ s.discoveryByTransfer)
  let s := { s with directoryTransfers := AssocMap.adjust id (fun transfer => { transfer with
      cancelled := true
      discoveryFinished := transfer.discoveryFinished || !started }) s.directoryTransfers }
  let s := s.markDiscovery id
  { s with
    queuedDiscoveryRoots := s.queuedDiscoveryRoots.eraseP (·.transferId == id)
    deferredDiscovered := if s.defersRequestOf id then none else s.deferredDiscovered }

/-- `cancel_directory_download`.  `order` is the order in which the children are found. -/
def cancelDirectoryDownload (s : SftpWorker) (id : Uuid) (order : List Uuid) : SftpWorker :=
  (order.foldl cancelChild (s.cancelRoot id)).settleDirectory id

/-- Where `CancelSftpTransfer` finds a transfer: the first of its branches that applies. -/
inductive CancelTarget where
  | directory
  | active
  | queuedRoot
  | discovering
  | queuedRequest
  | queuedUpload
  | conflict
  | opening
  | alreadyRequested
  | missing
deriving DecidableEq, Repr

/-- The branch of `CancelSftpTransfer` that handles a transfer. -/
def cancelTarget (s : SftpWorker) (id : Uuid) : CancelTarget :=
  if id ∈ s.directoryTransfers then .directory
  else if s.transfers.any (·.transferId == id) then .active
  else if s.queuedDiscoveryRoots.any (·.transferId == id) then .queuedRoot
  else if id ∈ s.discoveryByTransfer then .discovering
  else if s.queuedRequests.any (·.transferId == id) then .queuedRequest
  else if s.queuedUploads.any (·.transferId == id) then .queuedUpload
  else if id ∈ s.pendingUploadConflicts then .conflict
  else
    match s.pendingByTransfer.lookup id with
    | some pending => if pending.cancelled then .alreadyRequested else .opening
    | none => .missing

def cancelSftpTransfer (s : SftpWorker) (id : Uuid) (order : List Uuid) : SftpWorker :=
  match s.cancelTarget id with
  | .directory => s.cancelDirectoryDownload id order
  | .active => s.flagTransfer id
  | .queuedRoot =>
    { s with queuedDiscoveryRoots := s.queuedDiscoveryRoots.eraseP (·.transferId == id) }.emit
      (.cancelled id)
  | .discovering => (s.markDiscovery id).emit (.cancelled id)
  | .queuedRequest =>
    { s with queuedRequests := s.queuedRequests.eraseP (·.transferId == id) }
      |>.sendTransferEventWithDirectoryState (.cancelled id)
  | .queuedUpload =>
    { s with
      queuedUploads := s.queuedUploads.eraseP (·.transferId == id)
      uploadQueueSlots := s.uploadQueueSlots.erase id }.emit (.cancelled id)
  | .conflict =>
    { s with
      pendingUploadConflicts := s.pendingUploadConflicts.erase id
      uploadQueueSlots := s.uploadQueueSlots.erase id }.emit (.cancelled id)
  | .opening => (s.markOpening id).sendTransferEventWithDirectoryState (.cancelled id)
  | .alreadyRequested => s
  | .missing => s.reply id "SFTP transfer is no longer active"

/-- Pause or resume an active download. -/
def setPaused (s : SftpWorker) (id : Uuid) (paused : Bool) : SftpWorker :=
  { s with transfers := s.transfers.modifyKey (·.transferId) id fun transfer =>
      if transfer.isPausable then if paused then transfer.pause else transfer.resume
      else transfer }

/-! ## Events of the transfer tasks -/

/-- Join the task that sent its last event. -/
def joinTransfer (s : SftpWorker) (event : SftpTransferEvent) : SftpWorker :=
  if event.endsTask then
    { s with transfers := s.transfers.swapRemoveFirst (·.transferId == event.transferId) }
  else s

/-- Forget the request of an upload whose task is over. -/
def releaseUpload (s : SftpWorker) (event : SftpTransferEvent) : SftpWorker :=
  if event.endsTask then
    { s with activeUploadRequests := s.activeUploadRequests.erase event.transferId }
  else s

/-- Give back the queue slot of an upload that is over. -/
def releaseSlot (s : SftpWorker) (event : SftpTransferEvent) : SftpWorker :=
  if event.endsTransfer then
    { s with uploadQueueSlots := s.uploadQueueSlots.erase event.transferId }
  else s

/-- Handle an upload conflict: queue the upload again when its batch has a policy, else keep
    it for a decision.  The result says whether the application hears of the conflict. -/
def uploadConflict (s : SftpWorker) (id batchId : Uuid) (request : SftpUploadRequest)
    (remote : RemoteUploadFingerprint) : SftpWorker × Bool :=
  let request := { request with expectedRemote := some remote }
  let s := { s with activeUploadRequests := s.activeUploadRequests.erase id }
  match s.batchPolicies.lookup batchId with
  | some choice =>
    let request := { request with conflictChoice := some choice }
    (if s.receiverOpen then
      { s.emit (uploadQueuedEvent request) with queuedUploads := s.queuedUploads ++ [request] }
    else s, false)
  | none =>
    ({ s with pendingUploadConflicts := s.pendingUploadConflicts.insert id request }, true)

/-- The part of an event's handling that comes before the event is forwarded. -/
def settleUpload (s : SftpWorker) (event : SftpTransferEvent) : SftpWorker × Bool :=
  match event with
  | .uploadConflict id batchId _ size modified =>
    match s.activeUploadRequests.lookup id with
    | some request => s.uploadConflict id batchId request { size, modified }
    | none => (s.releaseUpload event, true)
  | _ => (s.releaseUpload event, true)

/-- Forward an event, if the application should hear of it, and give back the slot of an
    upload that is over.  The loop stops when the application no longer takes events. -/
def forwardTransferEvent (event : SftpTransferEvent) : SftpWorker × Bool → SftpWorker
  | (s, true) =>
    if s.receiverOpen then (s.sendTransferEventWithDirectoryState event).releaseSlot event
    else { s with stopped := true }
  | (s, false) => s.releaseSlot event

/-- Handle an event of a transfer task. -/
def handleTransferEvent (s : SftpWorker) (event : SftpTransferEvent) : SftpWorker :=
  forwardTransferEvent event ((s.joinTransfer event).settleUpload event)

/-- Take the next event of the transfer tasks. -/
def transferEventReceived (s : SftpWorker) (slots : Nat) : SftpWorker :=
  match s.transferEvents with
  | [] => s
  | event :: rest =>
    let s := { s with transferEvents := rest }.handleTransferEvent
      (event.withConnection s.connectionClosed)
    if s.stopped then s else s.startQueuedSftpTransfers.startQueuedUploads slots

end SftpWorker

/-! ## Inputs -/

/-- The commands of the application that concern transfers; `other` is any command that only
    makes the loop join finished tasks. -/
inductive SftpCommand where
  | openSftpFile (root : SftpDownloadRoot)
  | openSftpFileAtLocalPath (request : SftpDownloadRequest)
  | openSftpUpload (request : SftpUploadRequest)
  | resolveSftpUploadConflict (transferId : Uuid) (choice : SftpUploadConflictChoice)
      (applyToBatch : Bool)
  | cancelSftpTransfer (transferId : Uuid)
  | pauseSftpTransfer (transferId : Uuid)
  | resumeSftpTransfer (transferId : Uuid)
  | other
  | disconnect

inductive WorkerInput where
  -- the arms of the loop
  | command (command : SftpCommand) (order : List Uuid) (slots : Nat)
  | discoveryJoined (root : Uuid)
  | discoveredReceived
  | discoveredHandled
  | openingJoined (taskId : Nat) (result : SftpWorker.OpeningResult) (slots : Nat)
  | transferEventReceived (slots : Nat)
  -- what the tasks do
  | discover (root : Uuid) (request : SftpDownloadRequest)
  | discoverEnd (root : Uuid) (name : String) (outcome : Except String SftpDiscoverySummary)
      (recoverable : Bool)
  | taskEvent (event : SftpTransferEvent)
  | taskEnd (event : SftpTransferEvent)
  | taskStage (id : Uuid) (stage : TaskStage)
  -- what happens to the connection and to the application
  | connectionClosed
  | receiverClosed

namespace SftpWorker

/-- The handling of a command.  Every command first joins the tasks that are over. -/
def handleCommand (s : SftpWorker) (command : SftpCommand) (order : List Uuid) (slots : Nat) :
    SftpWorker :=
  let s := s.reapFinishedSftpTransfers
  match command with
  | .openSftpFile root => s.openSftpFile root
  | .openSftpFileAtLocalPath request => s.openSftpFileAtLocalPath request
  | .openSftpUpload request => (s.openSftpUpload request slots).1
  | .resolveSftpUploadConflict id choice applyToBatch =>
    s.resolveSftpUploadConflict id choice applyToBatch order slots
  | .cancelSftpTransfer id => s.cancelSftpTransfer id order
  | .pauseSftpTransfer id => s.setPaused id true
  | .resumeSftpTransfer id => s.setPaused id false
  | .other => s
  | .disconnect => { s with stopped := true }

/-- The discovery of a root that still runs. -/
def runningDiscovery (s : SftpWorker) (root : Uuid) : Option DiscoveryTask :=
  s.discoveries.find? (·.runs root)

/-- Rewrite the discovery of a root that still runs. -/
def updateDiscovery (s : SftpWorker) (root : Uuid) (f : DiscoveryTask → DiscoveryTask) :
    SftpWorker :=
  { s with discoveries := s.discoveries.map fun task => if task.runs root then f task else task }

/-- A discovery sends a file. -/
def discover (s : SftpWorker) (root : Uuid) (request : SftpDownloadRequest) : SftpWorker :=
  { s.updateDiscovery root (·.countRequest request) with
    discoveredDownloads := s.discoveredDownloads ++ [.request root request] }

/-- A discovery ends: `Finished` is its last message. -/
def discoverEnd (s : SftpWorker) (root : Uuid) (name : String)
    (outcome : Except String SftpDiscoverySummary) (recoverable : Bool) : SftpWorker :=
  { s.updateDiscovery root fun task => { task with ended := true } with
    discoveredDownloads := s.discoveredDownloads ++ [.finished root name outcome recoverable] }

/-- The task of an active transfer comes to another stage. -/
def setStage (s : SftpWorker) (id : Uuid) (stage : TaskStage) : SftpWorker :=
  { s with transfers := s.transfers.modifyKey (·.transferId) id fun transfer =>
      { transfer with stage } }

/-- A task sends an event while it works. -/
def sendUpdate (s : SftpWorker) (event : SftpTransferEvent) : SftpWorker :=
  { s with
    transfers := s.transfers.modifyKey (·.transferId) event.transferId (·.afterUpdate event)
    transferEvents := s.transferEvents ++ [event] }

/-- A task sends its last event. -/
def sendLast (s : SftpWorker) (event : SftpTransferEvent) : SftpWorker :=
  { s.setStage event.transferId .reported with transferEvents := s.transferEvents ++ [event] }

/-- What an input does. -/
def apply (s : SftpWorker) : WorkerInput → SftpWorker
  | .command command order slots => s.handleCommand command order slots
  | .discoveryJoined root => s.discoveryJoined root
  | .discoveredReceived => s.discoveredReceived
  | .discoveredHandled => s.discoveredHandled
  | .openingJoined taskId result slots => s.openingJoined taskId result slots
  | .transferEventReceived slots => s.transferEventReceived slots
  | .discover root request => s.discover root request
  | .discoverEnd root name outcome recoverable => s.discoverEnd root name outcome recoverable
  | .taskEvent event => s.sendUpdate event
  | .taskEnd event => s.sendLast event
  | .taskStage id stage => s.setStage id stage
  | .connectionClosed => { s with connectionClosed := true }
  | .receiverClosed => { s with receiverOpen := false }

end SftpWorker

/-! ## Which inputs can come -/

namespace TaskStage

/-- How a task comes from one stage to another without sending a last event. -/
def silentStep : TaskStage → TaskStage → Bool
  | running, lost | running, panicked | reported, returned => true
  | _, _ => false

end TaskStage

namespace SftpWorker

/-- The handle of an active transfer. -/
def transfer? (s : SftpWorker) (id : Uuid) : Option ActiveSftpTransfer :=
  s.transfers.findKey (·.transferId) id

/-- The inputs that can come in a state: a hash map is walked once in some order, a channel
    delivers what is in it, and a task that runs does what its code can do. -/
def Allowed (s : SftpWorker) : WorkerInput → Prop
  | .command (.cancelSftpTransfer id) order _ =>
    order.Perm (s.aggregate id).children
  | .command (.resolveSftpUploadConflict id _ true) order _ =>
    ∀ request, s.pendingUploadConflicts.lookup id = some request →
      (id :: order).Perm (s.batchConflicts request.batchId)
  | .command .. => True
  | .discoveryJoined root => ∃ task ∈ s.discoveries, task.ended ∧ task.root.transferId = root
  | .discoveredReceived => s.deferredDiscovered = none
  | .discoveredHandled => 0 < s.availableSftpTransferSlots
  | .openingJoined taskId _ _ => taskId ∈ s.pendingOpenings
  | .transferEventReceived _ => True
  | .discover root request => s.discoveredDownloads.length < discoveredDownloadCapacity ∧
    ∃ task, s.runningDiscovery root = some task ∧ task.maySend request
  | .discoverEnd root name outcome _ =>
    s.discoveredDownloads.length < discoveredDownloadCapacity ∧
    ∃ task, s.runningDiscovery root = some task ∧ task.mayReport outcome ∧ name = task.root.name
  | .taskEvent event => ∃ transfer, s.transfer? event.transferId = some transfer ∧
    transfer.stage = .running ∧ transfer.maySend event
  | .taskEnd event => ∃ transfer, s.transfer? event.transferId = some transfer ∧
    transfer.stage = .running ∧ transfer.mayEnd event
  | .taskStage id stage => ∃ transfer, s.transfer? id = some transfer ∧
    transfer.stage.silentStep stage
  | .connectionClosed => True
  | .receiverClosed => True

end SftpWorker

/-- The transfer loop as a transition system, until it stops. -/
def workerSystem (perTabTransfers : Nat) : Transition SftpWorker WorkerInput where
  init s := s = .new perTabTransfers
  step s input s' := s.stopped = false ∧ s.Allowed input ∧ s' = s.apply input

end AxSsh
