import Mathlib.Data.Finset.Basic
import AxSsh.ForStd.KeyedList
import AxSsh.ForStd.AssocMap

/-!
# Data types of the SFTP browser

The records of `app/state.rs` that describe one tab's SFTP browser: transfer rows
with their phases, upload conflicts, transfer intents, and the browser state that
holds them.

Conventions used throughout the model:
- a `Uuid` is its 128 bits; `PathBuf` is the path's text; an `Instant` is a
  reading of the monotonic clock;
- `HashSet` is `Finset`, `HashMap` is `AssocMap`, `Vec` and `VecDeque` are `List`;
- byte counts and sizes are `Nat`; counters that wrap are `UInt64`.
-/

namespace AxSsh

/-- A universally unique identifier. -/
structure Uuid where
  bits : BitVec 128
deriving DecidableEq, Repr

instance (n : Nat) : OfNat Uuid n := ⟨⟨BitVec.ofNat 128 n⟩⟩

/-- The all-zero identifier. -/
def Uuid.nil : Uuid := ⟨0⟩

/-- Identifiers are ordered by their bytes. -/
def Uuid.le (a b : Uuid) : Bool := decide (a.bits ≤ b.bits)

abbrev PathBuf := String

/-- A reading of the monotonic clock. -/
abbrev Instant := Nat

/-! ## Transfers -/

inductive SftpTransferDirection where
  | download
  | upload
deriving DecidableEq, Repr

inductive SftpTransferPhase where
  | queued
  | awaitingConflict
  | skipped
  | downloading
  | uploading
  | pausing
  | paused
  | resuming
  | cancelling
  | completed
  | cancelled
  | failed
deriving DecidableEq, Repr

namespace SftpTransferPhase

def active : SftpTransferPhase → Bool
  | queued | awaitingConflict | downloading | uploading
  | pausing | paused | resuming | cancelling => true
  | _ => false

def canRequestCancel : SftpTransferPhase → Bool
  | queued | awaitingConflict | downloading | uploading
  | pausing | paused | resuming => true
  | _ => false

/-- The `(current, requested)` pairs that `finish_transfer` lets through. -/
def finishAllowed : SftpTransferPhase → SftpTransferPhase → Bool
  | queued, completed | queued, cancelled | queued, failed | queued, skipped
  | awaitingConflict, cancelled | awaitingConflict, failed
  | downloading, cancelled | downloading, failed
  | uploading, cancelled | uploading, failed | uploading, skipped
  | pausing, cancelled | pausing, failed
  | paused, cancelled | paused, failed
  | resuming, cancelled | resuming, failed
  | cancelling, cancelled | cancelling, failed
  | downloading, completed | uploading, completed
  | pausing, completed | resuming, completed => true
  | _, _ => false

end SftpTransferPhase

namespace SftpTransferDirection

def activePhase : SftpTransferDirection → SftpTransferPhase
  | download => .downloading
  | upload => .uploading

def activeStatus : SftpTransferDirection → String
  | download => "Downloading"
  | upload => "Uploading"

end SftpTransferDirection

/-- One row of the transfer list. -/
structure SftpTransferState where
  id : Uuid
  name : String
  direction : SftpTransferDirection
  phase : SftpTransferPhase
  pausable : Bool
  downloadedBytes : Nat
  totalBytes : Nat
  bytesPerSecond : Nat
  startedAt : Option Instant
  status : String
  localPath : Option PathBuf
  remotePath : Option String
deriving DecidableEq, Repr

/-- An upload that waits for the user to decide about an existing remote file. -/
structure PendingUploadConflict where
  transferId : Uuid
  batchId : Uuid
  name : String
  remoteSize : Option Nat
  remoteModified : Option Nat
deriving DecidableEq, Repr

/-- What to submit again after a reconnect. -/
inductive SftpTransferIntent where
  | downloadRoot (transferId : Uuid) (remotePath : String) (localDirectory : PathBuf)
      (filterPatterns : List String) (expectedDirectory : Bool)
      (completedChildren : Finset String)
  | downloadFile (transferId : Uuid) (remotePath : String) (localPath : PathBuf)
      (totalBytes : Nat) (replayOnReconnect : Bool)
  | upload (transferId batchId : Uuid) (remotePath : String) (localPath : PathBuf)
      (totalBytes : Nat) (remoteDirectories : List String)
deriving DecidableEq

namespace SftpTransferIntent

/-- The transfer an intent belongs to. -/
def transferId : SftpTransferIntent → Uuid
  | downloadRoot id .. => id
  | downloadFile id .. => id
  | upload id .. => id

/-- Whether a reconnect keeps the intent: an opened remote file is not fetched again. -/
def survivesReconnect : SftpTransferIntent → Bool
  | downloadFile _ _ _ _ false => false
  | _ => true

end SftpTransferIntent

/-! ## Directory browsing -/

inductive SftpNavigation where
  | direct
  | back
  | forward
  | up
deriving DecidableEq, Repr

inductive SftpSortColumn where
  | name
  | size
  | modified
deriving DecidableEq, Repr

structure SftpSortState where
  column : SftpSortColumn := .modified
  descending : Bool := true
deriving DecidableEq, Repr

structure PendingSftpNavigation where
  kind : SftpNavigation
  «from» : String
  requested : String
deriving DecidableEq, Repr

structure SftpEntry where
  name : String
  path : String
  isDir : Bool
  isSymlink : Bool
  size : Nat
  modified : Option Nat
deriving DecidableEq, Repr

structure LocalDirectoryEntry where
  name : String
  path : String
  isDir : Bool
  isSymlink : Bool
  size : Nat
  modified : Option Nat
deriving DecidableEq, Repr

structure LocalDirectoryState where
  loaded : Bool := false
  loading : Bool := false
  watcherRunning : Bool := false
  path : String := ""
  entries : List LocalDirectoryEntry := []
  hasMore : Bool := false
  truncated : Bool := false
  skippedEntries : Nat := 0
  status : String := ""
  requestId : UInt64 := 0
  selected : Finset String := ∅
  sort : SftpSortState := {}
  backHistory : List String := []
  forwardHistory : List String := []
  pendingNavigation : Option PendingSftpNavigation := none
  pendingAutoRefresh : Option String := none
  pendingEntries : List LocalDirectoryEntry := []

/-- The fields of `SftpBrowserState` that only directory browsing writes. -/
structure SftpDirectoryState where
  «open» : Bool := false
  loading : Bool := false
  home : String := ""
  path : String := ""
  entries : List SftpEntry := []
  hasMore : Bool := false
  truncated : Bool := false
  status : String := ""
  requestId : UInt64 := 0
  selected : Finset String := ∅
  sort : SftpSortState := {}
  backHistory : List String := []
  forwardHistory : List String := []
  pendingNavigation : Option PendingSftpNavigation := none
  pendingAutoRefresh : Option String := none
  «local» : LocalDirectoryState := {}
  renameName : String := ""

/-- One tab's SFTP browser: the directory view and the transfer bookkeeping. -/
structure SftpBrowserState extends SftpDirectoryState where
  transfers : List SftpTransferState := []
  pendingDownloadRoots : Finset Uuid := ∅
  scanningDownloadRoots : Finset Uuid := ∅
  uploadConflicts : List PendingUploadConflict := []
  selectedTransfers : Finset Uuid := ∅
  transferIntents : AssocMap Uuid SftpTransferIntent := ∅
  transferIntentOrder : List Uuid := []
  transferIntentRevision : UInt64 := 0
  directoryChildren : AssocMap Uuid Uuid := ∅
  reconnectReplayPending : Bool := false

end AxSsh
