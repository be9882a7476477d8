import AxSsh.Native.SftpTypes

/-!
# Data types of the SFTP worker

Requests, events and the bookkeeping records of the transfer loop in `ssh/worker/sftp.rs`,
with the parts of `sftp/transfer.rs` that the loop reads.

A running transfer is a task of its own.  The loop sees of it a cancellation flag, a pause
flag, whether it is over, and the events it sends; `TaskStage` is how far it has come.
-/

namespace AxSsh

def sftpTransferQueueWindow : Nat := 512
def maxActiveSftpDiscoveries : Nat := 1
def transferChannels : Nat := 4
def discoveredDownloadCapacity : Nat := 16
def maxPolicyBatches : Nat := 32

/-! ## Requests -/

inductive SftpUploadConflictChoice where
  | skip
  | overwrite
  | keepBoth
deriving DecidableEq, Repr

structure RemoteUploadFingerprint where
  size : Option Nat
  modified : Option Nat
deriving DecidableEq, Repr

structure SftpUploadRequest where
  transferId : Uuid
  batchId : Uuid
  remotePath : String := ""
  name : String := ""
  localPath : PathBuf := ""
  totalBytes : Nat := 0
  conflictChoice : Option SftpUploadConflictChoice := none
  expectedRemote : Option RemoteUploadFingerprint := none
deriving DecidableEq, Repr

structure SftpDownloadRequest where
  transferId : Uuid
  remotePath : String := ""
  name : String := ""
  totalBytes : Nat := 0
  localPath : Option PathBuf := none
deriving DecidableEq, Repr

structure SftpDownloadRoot where
  transferId : Uuid
  remotePath : String := ""
  localPath : PathBuf := ""
  name : String := ""
  expectedDirectory : Bool := false
deriving DecidableEq, Repr

structure SftpDiscoverySummary where
  discoveredFiles : Nat := 0
  skippedEntries : Nat := 0
  firstIssue : Option String := none
  isDirectory : Bool := false
deriving DecidableEq, Repr

/-- What a discovery task sends to the loop. -/
inductive SftpDiscoveredDownload where
  | request (rootTransferId : Uuid) (request : SftpDownloadRequest)
  | finished (rootTransferId : Uuid) (name : String)
      (outcome : Except String SftpDiscoverySummary) (recoverable : Bool)

/-! ## Events -/

inductive SftpTransferEvent where
  | queued (transferId : Uuid) (rootTransferId : Option Uuid) (remotePath : String)
      (localPath : Option PathBuf) (upload : Bool) (name : String) (totalBytes : Nat)
  | started (transferId : Uuid) (remotePath name : String) (totalBytes : Nat)
  | progress (transferId : Uuid) (downloadedBytes totalBytes : Nat)
  | paused (transferId : Uuid) (downloadedBytes totalBytes : Nat)
  | resumed (transferId : Uuid) (downloadedBytes totalBytes : Nat)
  | discoveryFailed (transferId : Uuid) (name message : String) (recoverable : Bool)
  | discoveryFinished (transferId : Uuid)
      (discoveredFiles skippedEntries failedFiles : Nat) (cancelled : Bool)
      (message : Option String)
  | uploadConflict (transferId batchId : Uuid) (name : String)
      (remoteSize remoteModified : Option Nat)
  | skipped (transferId : Uuid)
  | completed (transferId : Uuid) (localPath : PathBuf) (totalBytes : Nat)
  | cancelled (transferId : Uuid)
  | failed (transferId : Uuid) (message : String) (recoverable : Bool)
deriving DecidableEq, Repr

namespace SftpTransferEvent

/-- The transfer an event is about. -/
def transferId : SftpTransferEvent → Uuid
  | queued id .. | started id .. | progress id .. | paused id .. | resumed id ..
  | discoveryFailed id .. | discoveryFinished id .. | uploadConflict id ..
  | skipped id | completed id .. | cancelled id | failed id .. => id

/-- `upload_terminal_id` is set: the transfer of the event is over. -/
def endsTransfer : SftpTransferEvent → Bool
  | completed .. | cancelled .. | failed .. | skipped .. => true
  | _ => false

/-- `terminal_transfer_id` is set: the task that sent the event is over. -/
def endsTask : SftpTransferEvent → Bool
  | uploadConflict .. => true
  | event => event.endsTransfer

/-- `send_transfer_event_with_directory_state` counts the event for the directory root of
    its transfer.  A recoverable failure is not the end of a child. -/
def endsChild : SftpTransferEvent → Bool
  | completed .. | cancelled .. | skipped .. => true
  | failed _ _ recoverable => !recoverable
  | _ => false

/-- A failure is recoverable only when the connection is gone. -/
def withConnection (connectionClosed : Bool) : SftpTransferEvent → SftpTransferEvent
  | failed id message recoverable => failed id message (recoverable && connectionClosed)
  | event => event

end SftpTransferEvent

/-! ## Records of the loop -/

structure PendingSftpOpen where
  taskId : Nat
  cancelled : Bool := false
  request : SftpDownloadRequest

def PendingSftpOpen.cancel (pending : PendingSftpOpen) : PendingSftpOpen :=
  { pending with cancelled := true }

structure PendingDiscovery where
  cancelled : Bool := false
  root : SftpDownloadRoot

def PendingDiscovery.cancel (discovery : PendingDiscovery) : PendingDiscovery :=
  { discovery with cancelled := true }

structure DirectoryTransferAggregate where
  isDirectory : Option Bool := none
  discoveredFiles : Nat := 0
  skippedEntries : Nat := 0
  failedFiles : Nat := 0
  message : Option String := none
  children : List Uuid := []
  discoveryFinished : Bool := false
  cancelled : Bool := false

/-- How far the task of a transfer has come. -/
inductive TaskStage where
  /-- it works, and may send events -/
  | running
  /-- it has sent its last event, and is not over yet -/
  | reported
  /-- it is over, and its last event was sent -/
  | returned
  /-- it is over, and nobody took its last event in time -/
  | lost
  /-- it panicked before its last event -/
  | panicked
deriving DecidableEq, Repr

namespace TaskStage

/-- `JoinHandle::is_finished`. -/
def isFinished : TaskStage → Bool
  | returned | lost | panicked => true
  | _ => false

/-- The task has sent its last event. -/
def hasReported : TaskStage → Bool
  | reported | returned => true
  | _ => false

end TaskStage

/-- `ActiveSftpTransfer`: a download or an upload with a task of its own.  `cancelled` and
    `paused` are what the loop asks of the task; `halted` says that the task has sent
    `Paused` and waits for the end of the pause. -/
structure ActiveSftpTransfer where
  transferId : Uuid
  upload : Bool
  cancelled : Bool := false
  paused : Bool := false
  halted : Bool := false
  stage : TaskStage := .running
deriving DecidableEq, Repr

namespace ActiveSftpTransfer

def cancel (transfer : ActiveSftpTransfer) : ActiveSftpTransfer :=
  { transfer with cancelled := true }

def pause (transfer : ActiveSftpTransfer) : ActiveSftpTransfer :=
  { transfer with paused := true }

def resume (transfer : ActiveSftpTransfer) : ActiveSftpTransfer :=
  { transfer with paused := false }

def isPausable (transfer : ActiveSftpTransfer) : Bool := !transfer.upload

/-- The events a task can send while it works.  Only a download looks at the pause flag. -/
def maySend (transfer : ActiveSftpTransfer) : SftpTransferEvent → Bool
  | .started .. | .progress .. => !transfer.halted
  | .paused .. => !transfer.upload && transfer.paused && !transfer.halted
  | .resumed .. => transfer.halted && !transfer.paused
  | _ => false

/-- The last events of a task.  It looks at its cancellation flag before it reports a
    completion, and the local path of an upload is empty. -/
def mayEnd (transfer : ActiveSftpTransfer) : SftpTransferEvent → Bool
  | .completed _ localPath _ => !transfer.cancelled && !transfer.halted &&
    transfer.upload == localPath.isEmpty
  | .cancelled _ | .failed .. => true
  | .skipped _ | .uploadConflict .. => transfer.upload
  | _ => false

/-- A task after an event it sent while it works. -/
def afterUpdate (transfer : ActiveSftpTransfer) : SftpTransferEvent → ActiveSftpTransfer
  | .paused .. => { transfer with halted := true }
  | .resumed .. => { transfer with halted := false }
  | _ => transfer

/-- The error of joining a task that panicked; the text of the panic, which follows it, is
    left out. -/
def joinError (transfer : ActiveSftpTransfer) : String :=
  if transfer.upload then "SFTP upload task failed during shutdown"
  else "SFTP download task failed during shutdown"

end ActiveSftpTransfer

/-- A discovery task: its root, how many files it has sent, whether it has sent the root
    itself, and whether it has sent `Finished`. -/
structure DiscoveryTask where
  root : SftpDownloadRoot
  requests : Nat := 0
  sentRoot : Bool := false
  ended : Bool := false
deriving DecidableEq, Repr

namespace DiscoveryTask

/-- The task still walks the directory of this root. -/
def runs (task : DiscoveryTask) (root : Uuid) : Bool :=
  !task.ended && task.root.transferId == root

/-- Count a file that was sent. -/
def countRequest (task : DiscoveryTask) (request : SftpDownloadRequest) : DiscoveryTask :=
  { task with
    requests := task.requests + 1
    sentRoot := task.sentRoot || request.transferId == task.root.transferId }

/-- A discovery sends the files below a directory, or its root once, when that is a file and
    was not expected to be a directory. -/
def maySend (task : DiscoveryTask) (request : SftpDownloadRequest) : Bool :=
  if request.transferId = task.root.transferId then
    !task.root.expectedDirectory && task.requests == 0
  else !task.sentRoot

/-- What a discovery can report.  For a directory it has counted the files it sent; a root
    that is no directory is the only file it sent, or was excluded; and it fails before it
    sends a root that is a file. -/
def mayReport (task : DiscoveryTask) : Except String SftpDiscoverySummary → Bool
  | .ok summary =>
    if summary.isDirectory then !task.sentRoot && summary.discoveredFiles == task.requests
    else task.sentRoot || task.requests == 0
  | .error _ => !task.sentRoot

end DiscoveryTask

end AxSsh
