import AxSsh.ForStd.KeyedList
import AxSsh.Native.SftpTypes

/-!
# Remote edits

Private local copies of remote files that an external application edits: `RemoteEdits`,
`queue_edit_save` and the loop of `watch_copy` in `app/remote_edit.rs`, for one edit among the
others of its tab.

The digest of a content is a parameter.  A blocking read takes the content at one moment, since the
source refuses a copy that changed while it was read; that the copy cannot be read comes with the
step, and so do the identifiers that `Uuid::new_v4` draws.  Times are in milliseconds.
-/

namespace AxSsh

abbrev ContentStamp := Vector UInt8 20

abbrev FileData := List UInt8

def maxTabEdits : Nat := 8
def editDebounce : Nat := 500
def editFallback : Nat := 5000

/-- `SftpWriteOperation::WriteEditFile` with its identifier. -/
structure EditWrite where
  operationId : Uuid
  path : String
  maxBytes : Nat
  data : FileData
  expectedSize : Nat
  expectedModified : Option Nat
deriving DecidableEq

inductive SftpWriteEvent where
  | completed (operationId : Uuid) (path : String)
  | updated (operationId : Uuid) (path : String) (size : Nat) (modified : Option Nat)
  | editFile (operationId : Uuid) (path : String) (data : FileData) (expectedSize : Nat)
      (expectedModified : Option Nat)
  | metadata (operationId : Uuid) (path : String) (size : Nat) (modified : Option Nat)
  | failed (operationId : Uuid) (message : String)
deriving DecidableEq

def SftpWriteEvent.operationId : SftpWriteEvent → Uuid
  | completed operationId _ | updated operationId _ _ _ | editFile operationId _ _ _ _
  | metadata operationId _ _ _ | failed operationId _ => operationId

structure RemoteEdit where
  id : Uuid
  path : String
  localPath : Option String := none
  expectedSize : Nat := 0
  expectedModified : Option Nat := none
  uploaded : ContentStamp := Vector.replicate 20 0
  observed : ContentStamp := Vector.replicate 20 0
  pending : Option (Uuid × ContentStamp) := none
  uploadRequested : Bool := false
  failed : Bool := false
  status : String := "Downloading edit copy"
deriving DecidableEq

namespace RemoteEdit

def awaits (edit : RemoteEdit) (operationId : Uuid) : Bool :=
  edit.pending.any fun pending => pending.1 == operationId

/-- The part of `finish_download` that accepts a copy. -/
def accept (localPath : String) (stamp : ContentStamp) (size : Nat) (modified : Option Nat)
    (edit : RemoteEdit) : RemoteEdit :=
  { edit with
    localPath := some localPath
    expectedSize := size
    expectedModified := modified
    uploaded := stamp
    observed := stamp
    status := "Opening system application" }

def requestUpload (edit : RemoteEdit) : RemoteEdit :=
  { edit with uploadRequested := true, failed := false }

/-- `SftpWriteEvent::Updated` for the pending write. -/
def updated (size : Nat) (modified : Option Nat) (edit : RemoteEdit) : RemoteEdit :=
  let uploaded := match edit.pending with
    | some (_, stamp) => stamp
    | none => edit.uploaded
  { edit with
    pending := none
    uploaded
    expectedSize := size
    expectedModified := modified
    failed := false
    status := if uploaded = edit.observed then "Saved to remote" else "Local changes pending" }

def fail (message : String) (edit : RemoteEdit) : RemoteEdit :=
  { edit with
    pending := none
    failed := true
    status := s!"Upload failed; local copy retained: {message}" }

/-- `set_copy_error`. -/
def copyError (message : String) (edit : RemoteEdit) : RemoteEdit :=
  { edit with
    uploadRequested := false
    status := s!"Local edit unavailable; copy retained: {message}" }

/-- What `open_copy` reports. -/
def opened (result : Except String Unit) (edit : RemoteEdit) : RemoteEdit :=
  match result with
  | .ok () => { edit with status := "Editing in system application" }
  | .error message =>
    { edit with status := s!"System application failed; local copy retained: {message}" }

/-- The write that `queue_edit_save` asks for. -/
def write (edit : RemoteEdit) (operationId : Uuid) (maxBytes : Nat) (data : FileData) : EditWrite where
  operationId
  path := edit.path
  maxBytes
  data
  expectedSize := edit.expectedSize
  expectedModified := edit.expectedModified

/-- `queue_edit_save`, with the write that was queued.  `queued` is what the worker's queue
    answers. -/
def queueEditSave (autoUpload : Bool) (maxBytes : Nat) (data : FileData) (stamp : ContentStamp)
    (operationId : Uuid) (queued : Except String Unit) (edit : RemoteEdit) :
    RemoteEdit × Option EditWrite :=
  let changed := edit.observed ≠ stamp
  let edit := { edit with observed := stamp }
  if maxBytes < data.length then
    (edit.copyError s!"file exceeds the {maxBytes}-byte edit limit", none)
  else if stamp = edit.uploaded then
    ({ edit with
      uploadRequested := false
      status := if edit.status.startsWith "Local edit unavailable" then
          "Editing in system application"
        else edit.status }, none)
  else if edit.pending.isSome || (!edit.uploadRequested && (!autoUpload || edit.failed)) then
    ({ edit with
      status := if changed ∧ ¬edit.failed then "Local changes pending" else edit.status }, none)
  else
    match queued with
    | .ok () =>
      ({ edit with
        uploadRequested := false
        pending := some (operationId, stamp)
        status := "Uploading saved changes" }, some (edit.write operationId maxBytes data))
    | .error message =>
      ({ edit with
        uploadRequested := false
        failed := true
        status := s!"Cannot upload; local copy retained: {message}" }, none)

end RemoteEdit

structure RemoteEdits where
  files : List RemoteEdit := []
  current : Option Uuid := none
  autoUpload : Bool := true
deriving DecidableEq

namespace RemoteEdits

/-- `files.iter().find(|edit| edit.id == id)`. -/
def find (edits : RemoteEdits) (id : Uuid) : Option RemoteEdit :=
  edits.files.findKey RemoteEdit.id id

/-- A change of the edit with an identifier. -/
def modify (id : Uuid) (f : RemoteEdit → RemoteEdit) (edits : RemoteEdits) : RemoteEdits :=
  { edits with files := edits.files.modifyKey RemoteEdit.id id f }

/-- `open`, with whether the file has to be downloaded. -/
def «open» (newId : Uuid) (path : String) (edits : RemoteEdits) : Except String (RemoteEdits × Bool) :=
  match edits.files.find? (·.path == path) with
  | some edit => .ok ({ edits with current := some edit.id }, false)
  | none =>
    if maxTabEdits ≤ edits.files.length then
      .error s!"at most {maxTabEdits} files can be edited per tab; stop one edit first"
    else
      .ok ({ edits with files := edits.files ++ [{ id := newId, path }], current := some newId },
        true)

def lastId (files : List RemoteEdit) : Option Uuid := files.getLast?.map (·.id)

def stopCurrent (edits : RemoteEdits) : RemoteEdits :=
  let files := match edits.current with
    | some id => edits.files.filter (·.id ≠ id)
    | none => edits.files
  { edits with files, current := lastId files }

def requestUpload (edits : RemoteEdits) : Except String RemoteEdits :=
  match edits.current with
  | none => .error "no external file is being edited"
  | some id =>
    match edits.find id with
    | none => .error "edit is no longer available"
    | some edit =>
      if edit.localPath.isNone then .error "the local edit copy is not ready"
      else .ok (edits.modify id .requestUpload)

/-- The edit that an event is about, if there is one. -/
def subject? (edits : RemoteEdits) : SftpWriteEvent → Option RemoteEdit
  | .updated operationId path _ _ =>
    edits.files.find? fun edit => edit.path == path && edit.awaits operationId
  | .failed operationId _ =>
    edits.files.find? fun edit => edit.id == operationId || edit.awaits operationId
  | _ => none

/-- A download that failed ends its edit. -/
def drop (edit : RemoteEdit) (edits : RemoteEdits) : RemoteEdits :=
  let files := edits.files.eraseP (·.id == edit.id)
  { edits with
    files
    current := if edits.current = some edit.id then lastId files else edits.current }

def applyResult (event : SftpWriteEvent) (edits : RemoteEdits) : RemoteEdits :=
  match edits.subject? event, event with
  | some edit, .updated _ _ size modified => edits.modify edit.id (.updated size modified)
  | some edit, .failed _ message =>
    if edit.localPath.isNone then edits.drop edit else edits.modify edit.id (.fail message)
  | _, _ => edits

/-- `queue_saved_copy` on the edit with an identifier, while the tab is connected. -/
def queueSavedCopy (id : Uuid) (maxBytes : Nat) (data : FileData) (stamp : ContentStamp)
    (operationId : Uuid) (queued : Except String Unit) (edits : RemoteEdits) :
    RemoteEdits × Option EditWrite :=
  match edits.find id with
  | none => (edits, none)
  | some edit =>
    let (saved, sent) :=
      edit.queueEditSave edits.autoUpload maxBytes data stamp operationId queued
    (edits.modify id fun _ => saved, sent)

end RemoteEdits

/-! ## The watcher of a copy -/

/-- A read of the copy by a blocking task, and what it found; `none` is an unchanged copy. -/
structure EditReading (φ : Type) where
  maxBytes : Nat
  force : Bool
  result : Option (Except String (Option (FileData × φ))) := none

structure EditWatcher (φ : Type) where
  running : Bool := true
  dirtyAt : Option Nat
  lastCheck : Nat
  lastFingerprint : Option φ := none
  lastLimit : Option Nat := none
  reading : Option (EditReading φ) := none

namespace EditWatcher

variable {φ : Type}

def start (now : Nat) : EditWatcher φ := { dirtyAt := some now, lastCheck := now }

/-- One turn of the loop up to the read, for the edit with `auto_upload` and the size limit that the
    loop finds; `signalled` is whether the file watcher sent a signal. -/
def tick (now : Nat) (signalled : Bool) (found : Option (RemoteEdit × Bool × Nat))
    (watcher : EditWatcher φ) : EditWatcher φ :=
  match found with
  | none => { watcher with running := false }
  | some (edit, autoUpload, maxBytes) =>
    let watcher := if signalled then { watcher with dirtyAt := some now } else watcher
    let limitChanged := watcher.lastLimit ≠ some maxBytes
    let requested := edit.uploadRequested
    let due := watcher.dirtyAt.any fun at' => editDebounce ≤ now - at'
    let fallback := editFallback ≤ now - watcher.lastCheck
    let pendingChanges := autoUpload ∧ edit.pending.isNone ∧ ¬edit.failed
      ∧ edit.uploaded ≠ edit.observed
    if ¬requested ∧ ¬due ∧ ¬fallback ∧ ¬pendingChanges ∧ ¬limitChanged then watcher
    else if edit.pending.isSome then watcher
    else
      { watcher with
        lastCheck := now
        lastLimit := some maxBytes
        dirtyAt := none
        reading := some
          { maxBytes, force := requested ∨ due ∨ pendingChanges ∨ limitChanged } }

/-- What the blocking task finds; `failure` is why the copy cannot be read. -/
def readCopy [DecidableEq φ] (reading : EditReading φ) (lastFingerprint : Option φ)
    (copy : FileData × φ) (failure : Option String) : Except String (Option (FileData × φ)) :=
  match failure with
  | some message => .error message
  | none =>
    if reading.maxBytes < copy.1.length then
      .error s!"local edit copy is not a regular file within the {reading.maxBytes}-byte limit"
    else if ¬reading.force ∧ lastFingerprint = some copy.2 then .ok none
    else .ok (some copy)

/-- The read of the copy, once. -/
def read [DecidableEq φ] (copy : FileData × φ) (failure : Option String)
    (watcher : EditWatcher φ) : EditWatcher φ :=
  match watcher.reading with
  | some reading =>
    match reading.result with
    | none =>
      let result := readCopy reading watcher.lastFingerprint copy failure
      { watcher with reading := some { reading with result := some result } }
    | some _ => watcher
  | none => watcher

end EditWatcher

/-! ## One edit -/

/-- A version of the remote file that the worker acknowledged. -/
structure EditVersion where
  data : FileData
  size : Nat
  modified : Option Nat
deriving DecidableEq

/-- An edit with its watcher, its local copy and the writes of the worker.  `connected` says that
    its tab is an SFTP tab that is still connected by the attempt of the watcher. -/
structure EditState (φ : Type) where
  id : Uuid
  edits : RemoteEdits
  connected : Bool := true
  maxBytes : Nat
  copy : FileData × φ
  watcher : EditWatcher φ
  /-- The writes of this edit that the worker has not answered. -/
  inFlight : List EditWrite := []
  /-- The version that was downloaded or acknowledged last. -/
  remote : EditVersion

inductive EditLabel (φ : Type) where
  | tick (now : Nat) (signalled : Bool)
  | read (failure : Option String)
  | finish (operationId : Uuid) (queued : Except String Unit)
  | change (data : FileData) (fingerprint : φ)
  | requestUpload
  | setAutoUpload (enabled : Bool)
  | setMaxBytes (maxBytes : Nat)
  | event (event : SftpWriteEvent)
  | «open» (newId : Uuid) (path : String)
  | accept (id : Uuid) (localPath : String) (data : FileData) (size : Nat) (modified : Option Nat)
  | opened (id : Uuid) (result : Except String Unit)
  | saveOther (id : Uuid) (data : FileData) (operationId : Uuid) (queued : Except String Unit)
  | copyErrorOther (id : Uuid) (message : String)
  | stopCurrent
  | reset
  | disconnect

namespace EditState

variable {φ : Type} (stamp : FileData → ContentStamp)

/-- The state after the copy of a newly opened edit was accepted and its watcher started. -/
def downloaded (edits : RemoteEdits) (id : Uuid) (localPath : String) (version : EditVersion)
    (maxBytes : Nat) (fingerprint : φ) (now : Nat) : EditState φ where
  id
  edits := edits.modify id (.accept localPath (stamp version.data) version.size version.modified)
  maxBytes
  copy := (version.data, fingerprint)
  watcher := .start now
  remote := version

/-- `connected_edit` with what the loop of the watcher reads beside it. -/
def connectedEdit (s : EditState φ) : Option (RemoteEdit × Bool × Nat) :=
  if s.connected then (s.edits.find s.id).map fun edit => (edit, s.edits.autoUpload, s.maxBytes)
  else none

/-- The end of a turn of the loop: what the read found is queued, or reported. -/
def finish (operationId : Uuid) (queued : Except String Unit) (s : EditState φ) : EditState φ :=
  match s.watcher.reading.bind (·.result) with
  | none => s
  | some (.ok none) => { s with watcher.reading := none }
  | some (.ok (some (data, fingerprint))) =>
    let s := { s with watcher.reading := none, watcher.lastFingerprint := some fingerprint }
    if s.connected then
      let (edits, sent) :=
        s.edits.queueSavedCopy s.id s.maxBytes data (stamp data) operationId queued
      { s with edits, inFlight := s.inFlight ++ sent.toList }
    else s
  | some (.error message) =>
    let s := { s with watcher.reading := none, watcher.lastFingerprint := none }
    if s.connected then { s with edits := s.edits.modify s.id (.copyError message) } else s

/-- The worker answers one of the writes. -/
def answered (event : SftpWriteEvent) (s : EditState φ) : EditState φ :=
  match s.inFlight.find? (·.operationId == event.operationId), event with
  | some write, .updated _ _ size modified =>
    { s with
      inFlight := s.inFlight.filter (·.operationId ≠ event.operationId)
      remote := { data := write.data, size, modified } }
  | some _, .failed _ _ =>
    { s with inFlight := s.inFlight.filter (·.operationId ≠ event.operationId) }
  | _, _ => s

def step [DecidableEq φ] (s : EditState φ) : EditLabel φ → EditState φ
  | .tick now signalled =>
    if s.watcher.running ∧ s.watcher.reading.isNone then
      { s with watcher := s.watcher.tick now signalled s.connectedEdit }
    else s
  | .read failure => { s with watcher := s.watcher.read s.copy failure }
  | .finish operationId queued => s.finish stamp operationId queued
  | .change data fingerprint => { s with copy := (data, fingerprint) }
  | .requestUpload =>
    match s.edits.requestUpload with
    | .ok edits => { s with edits }
    | .error _ => s
  | .setAutoUpload enabled => { s with edits.autoUpload := enabled }
  | .setMaxBytes maxBytes => { s with maxBytes }
  | .event event =>
    if s.connected then { s.answered event with edits := s.edits.applyResult event } else s
  | .open newId path =>
    match s.edits.open newId path with
    | .ok (edits, _) => { s with edits }
    | .error _ => s
  | .accept id localPath data size modified =>
    { s with edits := s.edits.modify id (.accept localPath (stamp data) size modified) }
  | .opened id result => { s with edits := s.edits.modify id (.opened result) }
  | .saveOther id data operationId queued =>
    { s with
      edits := (s.edits.queueSavedCopy id s.maxBytes data (stamp data) operationId queued).1 }
  | .copyErrorOther id message => { s with edits := s.edits.modify id (.copyError message) }
  | .stopCurrent => { s with edits := s.edits.stopCurrent }
  | .reset => { s with edits := {} }
  | .disconnect => { s with connected := false }

end EditState

end AxSsh
