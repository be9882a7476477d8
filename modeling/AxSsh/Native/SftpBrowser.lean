import Mathlib.Data.Finset.Dedup
import AxSsh.Native.SftpTypes

/-!
# SFTP browser operations

The methods of `SftpBrowserState` in `app/state/sftp.rs` that touch transfer rows,
upload conflicts, transfer intents or the row selection.  Methods that only move the
directory view around are one operation, `browse`, in `BrowserOp`.

Each `iter_mut().find(..)` with a guard on the row it finds is `tryTransfer`.  What the
clock and floating-point formatting contribute (the start instant, the transfer rate and
the percentage text) is passed in as an argument.
-/

namespace AxSsh

namespace LocalDirectoryState

/-- The status line under the local directory list. -/
def statusText (l : LocalDirectoryState) : String :=
  if l.hasMore then s!"{l.entries.length} items shown"
  else if l.truncated && decide (0 < l.skippedEntries) then
    s!"{l.entries.length} items ({l.skippedEntries} unavailable; text budget reached)"
  else if l.truncated then "Local directory text budget reached"
  else if 0 < l.skippedEntries then
    s!"{l.entries.length} items ({l.skippedEntries} unavailable)"
  else s!"{l.entries.length} items"

def updateStatus (l : LocalDirectoryState) : LocalDirectoryState :=
  { l with status := l.statusText }

end LocalDirectoryState

/-- `path.rsplit_once('/')`. -/
def rsplitOnceSlash (path : List Char) : Option (List Char × List Char) :=
  match path.reverse.dropWhile (· != '/') with
  | [] => none
  | _ :: parent => some (parent.reverse, (path.reverse.takeWhile (· != '/')).reverse)

def remoteParent (path : String) : Option String :=
  match rsplitOnceSlash path.toList with
  | none => none
  | some (parent, name) =>
    if name.isEmpty then none
    else some (if parent.isEmpty then "/" else String.ofList parent)

/-- `path.trim_end_matches('/')`. -/
def trimEndSlashes (path : String) : String :=
  String.ofList (path.toList.reverse.dropWhile (· == '/')).reverse

/-- `request_id.wrapping_add(1).max(1)`. -/
def nextRequestId (requestId : UInt64) : UInt64 := max (requestId + 1) 1

namespace SftpDirectoryState

def resetNavigation (d : SftpDirectoryState) : SftpDirectoryState :=
  { d with
    requestId := nextRequestId d.requestId
    path := ""
    entries := []
    hasMore := false
    truncated := false
    selected := ∅
    renameName := ""
    backHistory := []
    forwardHistory := []
    pendingNavigation := none
    pendingAutoRefresh := none }

def visibleRemoteDirectoryForFile (d : SftpDirectoryState) (path : String) : Option String :=
  if !d.open then none
  else match remoteParent path with
    | none => none
    | some directory =>
      if d.path == directory
          || (d.path == "/" && ['/'].isPrefixOf directory.toList)
          || (d.path != "" &&
            (trimEndSlashes d.path ++ "/").toList.isPrefixOf directory.toList) then
        some d.path
      else none

/-- What `SftpBrowserState::reset` leaves of the directory view: the local side only. -/
def reset (d : SftpDirectoryState) : SftpDirectoryState :=
  let l := { d.local with
    requestId := nextRequestId d.local.requestId
    pendingNavigation := none
    pendingAutoRefresh := none }
  let l := if l.loading then
      if l.loaded then { l with loading := false }.updateStatus
      else { l with loading := false, status := "Local directory not loaded" }
    else l
  { «local» := l }

end SftpDirectoryState

namespace SftpBrowserState

/-! ## Rows -/

/-- The listed row of a transfer. -/
def transfer? (s : SftpBrowserState) (id : Uuid) : Option SftpTransferState :=
  s.transfers.findKey (·.id) id

/-- Update the row of `id` when it is listed and `allowed`, and tell whether it was. -/
def tryTransfer (s : SftpBrowserState) (id : Uuid) (allowed : SftpTransferState → Bool)
    (f : SftpTransferState → SftpTransferState) : SftpBrowserState × Bool :=
  match s.transfer? id with
  | none => (s, false)
  | some transfer =>
    if allowed transfer then
      ({ s with transfers := s.transfers.modifyKey (·.id) id f }, true)
    else (s, false)

/-- A transfer is no download root any more. -/
def releaseDownloadRoot (s : SftpBrowserState) (id : Uuid) : SftpBrowserState :=
  { s with
    pendingDownloadRoots := s.pendingDownloadRoots.erase id
    scanningDownloadRoots := s.scanningDownloadRoots.erase id }

/-- A transfer waits for no conflict decision any more. -/
def dropUploadConflict (s : SftpBrowserState) (id : Uuid) : SftpBrowserState :=
  { s with
    uploadConflicts := s.uploadConflicts.filter fun conflict => conflict.transferId != id }

/-- The same row under another status text. -/
def statusRow (status : String) (transfer : SftpTransferState) : SftpTransferState :=
  { transfer with status }

def setTransferStatus (s : SftpBrowserState) (id : Uuid) (status : String) : SftpBrowserState :=
  (s.tryTransfer id (fun _ => true) (statusRow status)).1

/-- Whether queueing a listed transfer again rewrites its row. -/
def requeueAllowed (transfer : SftpTransferState) : Bool :=
  transfer.phase == .queued ||
    (transfer.direction == .upload && transfer.phase matches .awaitingConflict | .uploading)

/-- The row of a listed transfer that is queued again. -/
def requeuedRow (name : String) (totalBytes : Nat) (localPath : Option PathBuf)
    (remotePath : Option String) (transfer : SftpTransferState) : SftpTransferState :=
  { transfer with
    phase := .queued
    status := "Queued"
    name
    totalBytes
    localPath := localPath.or transfer.localPath
    remotePath := remotePath.or transfer.remotePath }

/-- The row of a transfer that was not listed. -/
def queuedRow (id : Uuid) (name : String) (totalBytes : Nat) (direction : SftpTransferDirection)
    (localPath : Option PathBuf) (remotePath : Option String) : SftpTransferState :=
  { id, name, direction, phase := .queued, pausable := direction == .download,
    downloadedBytes := 0, totalBytes, bytesPerSecond := 0, startedAt := none,
    status := "Queued", localPath, remotePath }

/-- Queue a row, or queue a waiting row again; a row in any other phase is left alone.
    The source returns a `Result` that is always `Ok`. -/
def queueTransferWithPause (s : SftpBrowserState) (id : Uuid) (name : String) (totalBytes : Nat)
    (direction : SftpTransferDirection) (localPath : Option PathBuf)
    (remotePath : Option String) : SftpBrowserState :=
  let s := s.dropUploadConflict id
  match s.transfer? id with
  | some _ =>
    (s.tryTransfer id requeueAllowed (requeuedRow name totalBytes localPath remotePath)).1
  | none =>
    { s with transfers :=
        s.transfers ++ [queuedRow id name totalBytes direction localPath remotePath] }

def queueTransfer (s : SftpBrowserState) (id : Uuid) (name : String) (totalBytes : Nat) :
    SftpBrowserState :=
  s.queueTransferWithPause id name totalBytes .download none none

def queueUploadTransfer (s : SftpBrowserState) (id : Uuid) (name : String) (totalBytes : Nat)
    (localPath : PathBuf) (remotePath : String) : SftpBrowserState :=
  s.queueTransferWithPause id name totalBytes .upload (some localPath) (some remotePath)

def queueTransferEvent (s : SftpBrowserState) (id : Uuid) (name : String) (totalBytes : Nat)
    (upload : Bool) (localPath : Option PathBuf) (remotePath : Option String) :
    SftpBrowserState :=
  s.queueTransferWithPause id name totalBytes (if upload then .upload else .download)
    localPath remotePath

/-! ## Transfer intents -/

/-- Register an intent under its transfer id, at the end of the order when it is new. -/
def registerIntent (s : SftpBrowserState) (intent : SftpTransferIntent) : SftpBrowserState :=
  { s with
    transferIntentOrder :=
      if intent.transferId ∈ s.transferIntents then s.transferIntentOrder
      else s.transferIntentOrder ++ [intent.transferId]
    transferIntents := s.transferIntents.insert intent.transferId intent
    transferIntentRevision := s.transferIntentRevision + 1 }

def registerDownloadRootIntent (s : SftpBrowserState) (transferId : Uuid) (remotePath : String)
    (localDirectory : PathBuf) (filterPatterns : List String) (expectedDirectory : Bool) :
    SftpBrowserState :=
  s.registerIntent (.downloadRoot transferId remotePath localDirectory filterPatterns
    expectedDirectory ∅)

def registerDownloadFileIntent (s : SftpBrowserState) (transferId : Uuid) (remotePath : String)
    (localPath : PathBuf) (totalBytes : Nat) (replayOnReconnect : Bool) : SftpBrowserState :=
  s.registerIntent (.downloadFile transferId remotePath localPath totalBytes replayOnReconnect)

def registerUploadIntent (s : SftpBrowserState) (transferId batchId : Uuid) (remotePath : String)
    (localPath : PathBuf) (totalBytes : Nat) (remoteDirectories : List String) :
    SftpBrowserState :=
  s.registerIntent (.upload transferId batchId remotePath localPath totalBytes remoteDirectories)

def removeTransferIntent (s : SftpBrowserState) (transferId : Uuid) : SftpBrowserState :=
  { s with
    transferIntents := s.transferIntents.erase transferId
    transferIntentOrder := s.transferIntentOrder.filter fun id => id != transferId
    directoryChildren := AssocMap.retain (fun _ rootId => rootId != transferId)
      (s.directoryChildren.erase transferId)
    transferIntentRevision :=
      if transferId ∈ s.transferIntents then s.transferIntentRevision + 1
      else s.transferIntentRevision }

/-- Add a path to the files of a directory intent that need not be fetched again. -/
def completeChild (path : String) : SftpTransferIntent → SftpTransferIntent
  | .downloadRoot id remotePath localDirectory filterPatterns expectedDirectory children =>
    .downloadRoot id remotePath localDirectory filterPatterns expectedDirectory
      (insert path children)
  | intent => intent

def markDirectoryChildCompleted (s : SftpBrowserState) (transferId : Uuid) : SftpBrowserState :=
  match s.directoryChildren.lookup transferId with
  | none => s
  | some rootId =>
    match (s.transfer? transferId).bind (·.remotePath) with
    | none => s
    | some remotePath =>
      match s.transferIntents.lookup rootId with
      | some (.downloadRoot ..) =>
        { s with
          transferIntents := AssocMap.adjust rootId (completeChild remotePath) s.transferIntents
          transferIntentRevision := s.transferIntentRevision + 1 }
      | _ => s

/-- The registered intents, in registration order. -/
def transferIntentList (s : SftpBrowserState) : List SftpTransferIntent :=
  s.transferIntentOrder.filterMap fun id => s.transferIntents.lookup id

def transferIntentsWithRevision (s : SftpBrowserState) : UInt64 × List SftpTransferIntent :=
  (s.transferIntentRevision, s.transferIntentList)

def hasTransferIntent (s : SftpBrowserState) (intent : SftpTransferIntent) : Bool :=
  s.transferIntents.lookup intent.transferId == some intent

def registerDiscoveredDownloadIntent (s : SftpBrowserState) (rootTransferId transferId : Uuid) :
    SftpBrowserState :=
  if rootTransferId ∈ s.transferIntents then
    { s with directoryChildren := s.directoryChildren.insert transferId rootTransferId }
  else s

/-! ## Download roots -/

def reserveDownloadRoot (s : SftpBrowserState) (id : Uuid) : SftpBrowserState × Bool :=
  if id ∈ s.pendingDownloadRoots then (s, false)
  else ({ s with pendingDownloadRoots := insert id s.pendingDownloadRoots }, true)

/-- Mark a download root as being scanned. -/
def scanDownloadRoot (s : SftpBrowserState) (id : Uuid) : SftpBrowserState :=
  { s with scanningDownloadRoots := insert id s.scanningDownloadRoots }

def beginDownloadDiscovery (s : SftpBrowserState) (id : Uuid) (name : String)
    (localPath : PathBuf) (remotePath : String) : SftpBrowserState :=
  ((s.queueTransferEvent id name 0 false (some localPath) (some remotePath)).scanDownloadRoot
    id).setTransferStatus id "Scanning directory…"

/-! ## Finishing -/

def deselectTransfer (s : SftpBrowserState) (id : Uuid) : SftpBrowserState :=
  { s with selectedTransfers := s.selectedTransfers.erase id }

/-- Drop the selection and the intent of a transfer that is not active any more. -/
def forgetInactive (s : SftpBrowserState) (id : Uuid) : SftpBrowserState :=
  if s.transfers.any fun transfer => transfer.id == id && transfer.phase.active then s
  else (s.deselectTransfer id).removeTransferIntent id

/-- The row that `finish_transfer` writes. -/
def finishedRow (phase : SftpTransferPhase) (status : String) (transfer : SftpTransferState) :
    SftpTransferState :=
  { transfer with
    phase
    downloadedBytes :=
      if phase == .completed then transfer.totalBytes else transfer.downloadedBytes
    status }

/-- Move a row to a final phase when `finishAllowed` lets it. -/
def finishTransfer (s : SftpBrowserState) (id : Uuid) (phase : SftpTransferPhase)
    (status : String) : SftpBrowserState :=
  let row := ((s.releaseDownloadRoot id).dropUploadConflict id).tryTransfer id
    (fun transfer => transfer.phase.finishAllowed phase) (finishedRow phase status)
  if !row.2 then row.1
  else if !phase.active && phase == .completed then
    (row.1.markDirectoryChildCompleted id).forgetInactive id
  else row.1.forgetInactive id

def recordTransferFailure (s : SftpBrowserState) (id : Uuid) (name message : String) :
    SftpBrowserState :=
  if s.transfers.any fun transfer => transfer.id == id then
    s.finishTransfer id .failed message
  else (s.queueTransfer id name 0).finishTransfer id .failed message

/-- The status text of a finished directory download. -/
def downloadRootStatus (discoveredFiles skippedEntries failedFiles : Nat) (cancelled : Bool)
    (message : Option String) : String :=
  let details := [s!"Scanned {discoveredFiles} files"]
  let details := if 0 < failedFiles then details ++ [s!"{failedFiles} failed"] else details
  let details :=
    if 0 < skippedEntries then details ++ [s!"{skippedEntries} skipped"] else details
  let details := match message with
    | some message => details ++ [message]
    | none =>
      if discoveredFiles == 0 && !cancelled && failedFiles == 0 then
        details ++ ["No regular files were eligible for download"]
      else details
  let details := if cancelled then "Cancelled" :: details else details
  "; ".intercalate details

/-- The final phase of a directory download. -/
def downloadRootPhase (skippedEntries failedFiles : Nat) (cancelled : Bool) :
    SftpTransferPhase :=
  if cancelled then .cancelled
  else if skippedEntries == 0 && failedFiles == 0 then .completed
  else .failed

def finishDownloadRoot (s : SftpBrowserState) (id : Uuid)
    (discoveredFiles skippedEntries failedFiles : Nat) (cancelled : Bool)
    (message : Option String) : SftpBrowserState :=
  if id ∉ s.scanningDownloadRoots then
    { s with pendingDownloadRoots := s.pendingDownloadRoots.erase id }
  else
    (s.releaseDownloadRoot id).finishTransfer id
      (downloadRootPhase skippedEntries failedFiles cancelled)
      (downloadRootStatus discoveredFiles skippedEntries failedFiles cancelled message)

def failDownloadRoot (s : SftpBrowserState) (id : Uuid) (name message : String) :
    SftpBrowserState :=
  ((s.releaseDownloadRoot id).removeTransferIntent id).recordTransferFailure id name message

/-- Whether a completed download finds its row running. -/
def downloadFinishAllowed (transfer : SftpTransferState) : Bool :=
  transfer.direction == .download && transfer.phase matches .downloading | .pausing | .resuming

/-- The row of a completed download. -/
def downloadedRow (totalBytes : Nat) (localPath : PathBuf) (transfer : SftpTransferState) :
    SftpTransferState :=
  { transfer with
    phase := .completed
    downloadedBytes := totalBytes
    totalBytes
    bytesPerSecond := 0
    status := "Downloaded"
    localPath := some localPath }

def finishDownloadedTransfer (s : SftpBrowserState) (id : Uuid) (totalBytes : Nat)
    (localPath : PathBuf) : SftpBrowserState × Bool :=
  let row := s.tryTransfer id downloadFinishAllowed (downloadedRow totalBytes localPath)
  if !row.2 then (row.1, false)
  else (((row.1.markDirectoryChildCompleted id).deselectTransfer id).removeTransferIntent id, true)

/-- The remote directory to refresh when an upload completes. -/
def uploadRefreshPath (s : SftpBrowserState) (id : Uuid) : Option String :=
  match s.transfers.find? fun transfer => transfer.id == id &&
      transfer.direction == .upload &&
      transfer.phase matches .uploading | .pausing | .resuming with
  | none => none
  | some transfer => transfer.remotePath.bind s.visibleRemoteDirectoryForFile

def finishUploadedTransfer (s : SftpBrowserState) (id : Uuid) :
    SftpBrowserState × Option String :=
  (s.finishTransfer id .completed "Uploaded", s.uploadRefreshPath id)

/-- The row of a transfer whose failure waits for a new connection. -/
def deferredRow (message : String) (transfer : SftpTransferState) : SftpTransferState :=
  { transfer with
    phase := .queued
    downloadedBytes := 0
    bytesPerSecond := 0
    startedAt := none
    status := "Waiting for reconnection: " ++ message }

/-- Queue a row again after a failure that a new connection may repair. -/
def deferRecoverableFailure (s : SftpBrowserState) (id : Uuid) (message : String) :
    SftpBrowserState :=
  ((s.releaseDownloadRoot id).tryTransfer id (fun _ => true) (deferredRow message)).1

def removeFinishedTransfer (s : SftpBrowserState) (id : Uuid) : SftpBrowserState × Bool :=
  if s.transfers.any fun transfer => transfer.id == id && !transfer.phase.active then
    ({ s with
      transfers := s.transfers.eraseP fun transfer => transfer.id == id && !transfer.phase.active
      selectedTransfers := s.selectedTransfers.erase id }, true)
  else (s, false)

/-! ## Progress -/

def startTransfer (s : SftpBrowserState) (id : Uuid) (remotePath name : String)
    (totalBytes : Nat) (now : Instant) : SftpBrowserState :=
  (s.tryTransfer id
    (fun transfer => transfer.phase matches .queued | .awaitingConflict | .resuming)
    fun transfer => { transfer with
      name
      remotePath := if remotePath == "" then transfer.remotePath else some remotePath
      phase := transfer.direction.activePhase
      totalBytes
      startedAt := some now
      status := transfer.direction.activeStatus }).1

/-- Progress of a running transfer.  `rate` is the transfer rate when the elapsed time is
    positive, and `percent` the formatted percentage. -/
def updateTransferProgress (s : SftpBrowserState) (id : Uuid) (downloadedBytes totalBytes : Nat)
    (rate : Option Nat) (percent : String) : SftpBrowserState :=
  (s.tryTransfer id
    (fun transfer =>
      !(transfer.phase != transfer.direction.activePhase && transfer.phase != .pausing))
    fun transfer => { transfer with
      phase := transfer.direction.activePhase
      downloadedBytes := min downloadedBytes totalBytes
      totalBytes
      bytesPerSecond :=
        if transfer.startedAt.isSome then rate.getD transfer.bytesPerSecond
        else transfer.bytesPerSecond
      status := if totalBytes == 0 then transfer.direction.activeStatus else percent }).1

def requestTransferPause (s : SftpBrowserState) (id : Uuid) : SftpBrowserState × Bool :=
  s.tryTransfer id (fun transfer => !(!transfer.pausable || transfer.phase != .downloading))
    fun transfer => { transfer with phase := .pausing, status := "Pausing" }

def pauseTransfer (s : SftpBrowserState) (id : Uuid) : SftpBrowserState × Bool :=
  s.tryTransfer id
    (fun transfer => transfer.pausable && transfer.phase matches .downloading | .pausing)
    fun transfer => { transfer with phase := .paused, bytesPerSecond := 0, status := "Paused" }

def requestTransferResume (s : SftpBrowserState) (id : Uuid) : SftpBrowserState × Bool :=
  s.tryTransfer id (fun transfer => !(!transfer.pausable || transfer.phase != .paused))
    fun transfer => { transfer with phase := .resuming, status := "Resuming" }

def resumeTransfer (s : SftpBrowserState) (id : Uuid) (downloadedBytes totalBytes : Nat)
    (now : Instant) : SftpBrowserState × Bool :=
  s.tryTransfer id (fun transfer => transfer.phase == .resuming)
    fun transfer => { transfer with
      phase := transfer.direction.activePhase
      downloadedBytes := min downloadedBytes totalBytes
      totalBytes
      startedAt := some now
      status := transfer.direction.activeStatus }

/-- The row of a transfer whose cancel is on its way to the worker. -/
def cancellingRow (transfer : SftpTransferState) : SftpTransferState :=
  { transfer with phase := .cancelling, status := "Cancelling" }

def requestTransferCancel (s : SftpBrowserState) (id : Uuid) : SftpBrowserState × Bool :=
  let row := s.tryTransfer id (fun transfer => transfer.phase.canRequestCancel) cancellingRow
  if row.2 then (row.1.removeTransferIntent id, true) else (row.1, false)

/-! ## Upload conflicts -/

/-- Whether a reported conflict finds its upload running or about to run. -/
def conflictAllowed (transfer : SftpTransferState) : Bool :=
  !(transfer.direction != .upload || !(transfer.phase matches .queued | .uploading))

/-- The row of an upload that waits for a decision. -/
def conflictRow (transfer : SftpTransferState) : SftpTransferState :=
  { transfer with phase := .awaitingConflict, status := "Waiting for file conflict decision" }

def recordUploadConflict (s : SftpBrowserState) (conflict : PendingUploadConflict) :
    SftpBrowserState :=
  let row := s.tryTransfer conflict.transferId conflictAllowed conflictRow
  if row.2 then { row.1 with uploadConflicts := row.1.uploadConflicts ++ [conflict] } else row.1

/-- The transfers a conflict decision answers: the named one, and with `applyToBatch` all
    that wait in its batch. -/
def resolvedConflicts (s : SftpBrowserState) (id : Uuid) (applyToBatch : Bool) : Finset Uuid :=
  let batchId := (s.uploadConflicts.find? fun item => item.transferId == id).map (·.batchId)
  ((s.uploadConflicts.filter fun item =>
    item.transferId == id || (applyToBatch && some item.batchId == batchId)).map
      (·.transferId)).toFinset

/-- Queue a waiting upload whose conflict was decided. -/
def resolvedRow (resolved : Finset Uuid) (transfer : SftpTransferState) : SftpTransferState :=
  if transfer.id ∈ resolved ∧ transfer.phase = .awaitingConflict then
    { transfer with phase := .queued, status := "Queued" }
  else transfer

def resolveUploadConflict (s : SftpBrowserState) (id : Uuid) (applyToBatch : Bool) :
    SftpBrowserState :=
  let resolved := s.resolvedConflicts id applyToBatch
  { s with
    uploadConflicts := s.uploadConflicts.filter fun item => item.transferId ∉ resolved
    transfers := s.transfers.map (resolvedRow resolved) }

/-! ## Selection -/

def toggleTransferSelection (s : SftpBrowserState) (id : Uuid) (selected : Bool) :
    SftpBrowserState × Bool :=
  if s.transfers.any fun transfer => transfer.id == id && transfer.phase.active then
    ({ s with selectedTransfers :=
        if selected then insert id s.selectedTransfers else s.selectedTransfers.erase id }, true)
  else (s, false)

/-! ## Reconnecting and resetting -/

/-- The transfers whose rows a reconnect restarts as download roots. -/
def downloadRootId : SftpTransferIntent → Option Uuid
  | .downloadRoot id .. => some id
  | _ => none

/-- The download roots that a reconnect expects to scan as directories again. -/
def directoryRootId : SftpTransferIntent → Option Uuid
  | .downloadRoot id _ _ _ true _ => some id
  | _ => none

/-- The row of a transfer that waits for the next connection. -/
def reconnectedRow (transfer : SftpTransferState) : SftpTransferState :=
  if transfer.phase.active then
    { transfer with
      phase := .queued
      downloadedBytes := 0
      bytesPerSecond := 0
      startedAt := none
      status := "Waiting for reconnection" }
  else transfer

def prepareForReconnect (s : SftpBrowserState) : SftpBrowserState :=
  let intents := AssocMap.retain (fun _ intent => intent.survivesReconnect) s.transferIntents
  let rows := s.transfers.filter fun transfer =>
    !transfer.phase.active || decide (transfer.id ∈ intents)
  { s with
    toSftpDirectoryState :=
      { s.toSftpDirectoryState.resetNavigation with «open» := false, loading := false }
    pendingDownloadRoots := (intents.values.filterMap downloadRootId).toFinset
    scanningDownloadRoots := (intents.values.filterMap directoryRootId).toFinset
    uploadConflicts := []
    selectedTransfers := ∅
    reconnectReplayPending := true
    transferIntents := intents
    transferIntentOrder := s.transferIntentOrder.filter fun id => decide (id ∈ intents)
    transferIntentRevision :=
      if intents.entries.length != s.transferIntents.entries.length then
        s.transferIntentRevision + 1
      else s.transferIntentRevision
    transfers := rows.map reconnectedRow }

def clearTransferIntents (s : SftpBrowserState) : SftpBrowserState :=
  { s with
    transferIntentRevision :=
      if s.transferIntents.entries.isEmpty then s.transferIntentRevision
      else s.transferIntentRevision + 1
    transferIntents := ∅
    transferIntentOrder := []
    directoryChildren := ∅
    reconnectReplayPending := false
    transfers := []
    pendingDownloadRoots := ∅
    scanningDownloadRoots := ∅
    uploadConflicts := []
    selectedTransfers := ∅ }

def reset (s : SftpBrowserState) : SftpBrowserState :=
  { toSftpDirectoryState := s.toSftpDirectoryState.reset }

end SftpBrowserState

/-! ## Operations as labels -/

/-- The public operations of a browser, with the arguments of each. -/
inductive BrowserOp where
  | queueTransfer (id : Uuid) (name : String) (totalBytes : Nat)
  | queueUploadTransfer (id : Uuid) (name : String) (totalBytes : Nat) (localPath : PathBuf)
      (remotePath : String)
  | queueTransferEvent (id : Uuid) (name : String) (totalBytes : Nat) (upload : Bool)
      (localPath : Option PathBuf) (remotePath : Option String)
  | reserveDownloadRoot (id : Uuid)
  | beginDownloadDiscovery (id : Uuid) (name : String) (localPath : PathBuf)
      (remotePath : String)
  | registerDownloadRootIntent (transferId : Uuid) (remotePath : String)
      (localDirectory : PathBuf) (filterPatterns : List String) (expectedDirectory : Bool)
  | registerDownloadFileIntent (transferId : Uuid) (remotePath : String) (localPath : PathBuf)
      (totalBytes : Nat) (replayOnReconnect : Bool)
  | registerUploadIntent (transferId batchId : Uuid) (remotePath : String)
      (localPath : PathBuf) (totalBytes : Nat) (remoteDirectories : List String)
  | registerDiscoveredDownloadIntent (rootTransferId transferId : Uuid)
  | removeTransferIntent (id : Uuid)
  | setTransferStatus (id : Uuid) (status : String)
  | startTransfer (id : Uuid) (remotePath name : String) (totalBytes : Nat) (now : Instant)
  | updateTransferProgress (id : Uuid) (downloadedBytes totalBytes : Nat) (rate : Option Nat)
      (percent : String)
  | requestTransferPause (id : Uuid)
  | pauseTransfer (id : Uuid)
  | requestTransferResume (id : Uuid)
  | resumeTransfer (id : Uuid) (downloadedBytes totalBytes : Nat) (now : Instant)
  | requestTransferCancel (id : Uuid)
  | recordUploadConflict (conflict : PendingUploadConflict)
  | resolveUploadConflict (id : Uuid) (applyToBatch : Bool)
  | finishTransfer (id : Uuid) (phase : SftpTransferPhase) (status : String)
  | finishDownloadedTransfer (id : Uuid) (totalBytes : Nat) (localPath : PathBuf)
  | finishUploadedTransfer (id : Uuid)
  | finishDownloadRoot (id : Uuid) (discoveredFiles skippedEntries failedFiles : Nat)
      (cancelled : Bool) (message : Option String)
  | failDownloadRoot (id : Uuid) (name message : String)
  | recordTransferFailure (id : Uuid) (name message : String)
  | deferRecoverableFailure (id : Uuid) (message : String)
  | removeFinishedTransfer (id : Uuid)
  | toggleTransferSelection (id : Uuid) (selected : Bool)
  | prepareForReconnect
  | finishReplay
  | clearTransferIntents
  | reset
  | browse (directory : SftpDirectoryState)

namespace SftpBrowserState

/-- The state after one operation.  `finishReplay` is the field write with which the
    reconnect loop ends, and `browse` stands for any navigation of the directory view. -/
def step (s : SftpBrowserState) : BrowserOp → SftpBrowserState
  | .queueTransfer id name total => s.queueTransfer id name total
  | .queueUploadTransfer id name total localPath remotePath =>
    s.queueUploadTransfer id name total localPath remotePath
  | .queueTransferEvent id name total upload localPath remotePath =>
    s.queueTransferEvent id name total upload localPath remotePath
  | .reserveDownloadRoot id => (s.reserveDownloadRoot id).1
  | .beginDownloadDiscovery id name localPath remotePath =>
    s.beginDownloadDiscovery id name localPath remotePath
  | .registerDownloadRootIntent id remotePath localDirectory patterns expected =>
    s.registerDownloadRootIntent id remotePath localDirectory patterns expected
  | .registerDownloadFileIntent id remotePath localPath total replay =>
    s.registerDownloadFileIntent id remotePath localPath total replay
  | .registerUploadIntent id batchId remotePath localPath total directories =>
    s.registerUploadIntent id batchId remotePath localPath total directories
  | .registerDiscoveredDownloadIntent rootId id => s.registerDiscoveredDownloadIntent rootId id
  | .removeTransferIntent id => s.removeTransferIntent id
  | .setTransferStatus id status => s.setTransferStatus id status
  | .startTransfer id remotePath name total now => s.startTransfer id remotePath name total now
  | .updateTransferProgress id downloaded total rate percent =>
    s.updateTransferProgress id downloaded total rate percent
  | .requestTransferPause id => (s.requestTransferPause id).1
  | .pauseTransfer id => (s.pauseTransfer id).1
  | .requestTransferResume id => (s.requestTransferResume id).1
  | .resumeTransfer id downloaded total now => (s.resumeTransfer id downloaded total now).1
  | .requestTransferCancel id => (s.requestTransferCancel id).1
  | .recordUploadConflict conflict => s.recordUploadConflict conflict
  | .resolveUploadConflict id batch => s.resolveUploadConflict id batch
  | .finishTransfer id phase status => s.finishTransfer id phase status
  | .finishDownloadedTransfer id total localPath =>
    (s.finishDownloadedTransfer id total localPath).1
  | .finishUploadedTransfer id => (s.finishUploadedTransfer id).1
  | .finishDownloadRoot id discovered skipped failed cancelled message =>
    s.finishDownloadRoot id discovered skipped failed cancelled message
  | .failDownloadRoot id name message => s.failDownloadRoot id name message
  | .recordTransferFailure id name message => s.recordTransferFailure id name message
  | .deferRecoverableFailure id message => s.deferRecoverableFailure id message
  | .removeFinishedTransfer id => (s.removeFinishedTransfer id).1
  | .toggleTransferSelection id selected => (s.toggleTransferSelection id selected).1
  | .prepareForReconnect => s.prepareForReconnect
  | .finishReplay => { s with reconnectReplayPending := false }
  | .clearTransferIntents => s.clearTransferIntents
  | .reset => s.reset
  | .browse directory => { s with toSftpDirectoryState := directory }

/-- The state after a sequence of operations. -/
def run (s : SftpBrowserState) (ops : List BrowserOp) : SftpBrowserState :=
  ops.foldl step s

end SftpBrowserState

end AxSsh
