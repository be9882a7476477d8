import AxSsh.ForStd.History
import AxSsh.ForStd.Transition
import AxSsh.Native.SftpWorkerTypes
import AxSsh.Native.Workspace

/-!
# One upload

`upload_initialized` of `sftp/transfer/upload.rs` with what it calls: `await_step`,
`ensure_remote_upload_directories`, `inspect_remote_upload_target`, `find_keep_both_path`, the
local reader, the window of write requests, and the publication of the temporary file.

An upload runs from one `.await` to the next, so what it waits for is its phase and the end of the
wait is an input.  The other parties are inputs too: the user's cancellation, the deadline, the
local reader with the file it reads, the rate limiter, and the server, which may carry out an open
request without its reply ever being seen.  The trace lists what happened, the newest first.

Closing the session and reporting progress send nothing that a path of the server depends on.  An
upload task that is aborted together with its connection is left out.
-/

namespace AxSsh

def downloadChunkBytes : Nat := 64 * 1024
def writerQueueCapacity : Nat := 2
def requestWindow : Nat := 16

/-- The name of a remote file, as its characters. -/
abbrev RemotePath := List Char

/-! ## Names -/

/-- `str::rsplit_once`. -/
def rsplitOnce (sep : Char) (text : List Char) : Option (List Char × List Char) :=
  if sep ∈ text then
    some (((text.reverse.dropWhile (· ≠ sep)).tail).reverse,
      (text.reverse.takeWhile (· ≠ sep)).reverse)
  else none

/-- `str::rsplit(sep).next()`. -/
def lastPart (sep : Char) (text : List Char) : List Char :=
  (text.reverse.takeWhile (· ≠ sep)).reverse

def trimEndMatches (sep : Char) (text : List Char) : List Char :=
  (text.reverse.dropWhile (· = sep)).reverse

/-- What `upload_initialized` reads of an `SftpUploadRequest`, with what `from_local_file` checks
of its paths.  `executionId` is the text of the id, which has only hexadecimal digits and
hyphens. -/
structure UploadRequest where
  remotePath : RemotePath
  name : List Char
  remoteDirectories : List RemotePath := []
  totalBytes : Nat
  conflictChoice : Option SftpUploadConflictChoice := none
  expectedRemote : Option RemoteUploadFingerprint := none
  executionId : List Char
  name_eq : name = lastPart '/' remotePath
  name_ne : name ≠ []
  directories_prefix : ∀ directory ∈ remoteDirectories,
    trimEndMatches '/' directory ++ ['/'] <+: remotePath
  executionId_ne : executionId ≠ []
  executionId_text : ∀ c ∈ executionId, c ≠ '/' ∧ c ≠ '.' ∧ c ≠ ')'

namespace UploadRequest

variable (request : UploadRequest)

def parent : RemotePath :=
  trimEndMatches '/' <|
    if request.name <:+ request.remotePath then
      request.remotePath.take (request.remotePath.length - request.name.length)
    else []

def uploadMarker : List Char := ".axssh-upload-".toList

def temporary : RemotePath :=
  request.parent ++ '/' :: '.' :: (request.name ++ uploadMarker ++ request.executionId)

end UploadRequest

/-- The candidate of one round of the loop of `find_keep_both_path`. -/
def keepBothPath (original : RemotePath) (number : Nat) : Option RemotePath := do
  let (parent, name) ← rsplitOnce '/' original
  let (stem, extension) := ((rsplitOnce '.' name).filter (·.1 ≠ [])).getD (name, [])
  let copy := stem ++ [' ', '('] ++ (toString number).toList ++ [')']
  some (parent ++ ['/'] ++ if extension = [] then copy else copy ++ ['.'] ++ extension)

/-- The paths an upload may publish to. -/
def UploadRequest.IsTarget (request : UploadRequest) (path : RemotePath) : Prop :=
  path = request.remotePath ∨ ∃ number, keepBothPath request.remotePath number = some path

/-! ## Requests, replies and events -/

/-- What an upload asks the server for. -/
inductive SftpRequest where
  | init
  | lstat (path : RemotePath)
  | mkdir (path : RemotePath)
  /-- With `CREATE | EXCLUDE | WRITE`. -/
  | «open» (path : RemotePath)
  | write (handle : String) (offset : Nat) (data : List UInt8)
  | close (handle : String)
  | rename (source target : RemotePath)
  | posixRename (source target : RemotePath)
  | remove (path : RemotePath)
deriving DecidableEq, Repr

/-- The paths a request may change.  A handle stands for the file it was opened for. -/
def SftpRequest.changes : SftpRequest → List RemotePath
  | .init | .lstat _ | .write .. | .close _ => []
  | .mkdir path | .open path | .remove path => [path]
  | .rename source target | .posixRename source target => [source, target]

/-- The path a request renames a file onto. -/
def SftpRequest.renamesOnto : SftpRequest → Option RemotePath
  | .rename _ target | .posixRename _ target => some target
  | _ => none

inductive RemoteFileKind where
  | regular
  | directory
  | other
deriving DecidableEq, Repr

inductive SftpReply where
  /-- With the version of `posix-rename@openssh.com`, when the server has it. -/
  | version (posixRename : Option String)
  | attrs (kind : RemoteFileKind) (size modified : Option Nat)
  | noSuchFile
  | handle (handle : String)
  | success
  /-- Every other error, also of the transport. -/
  | failure
deriving DecidableEq, Repr

/-- How the wait for a reply ends. -/
inductive StepAnswer where
  /-- The cancellation is selected. -/
  | abandoned
  | timedOut
  | reply (reply : SftpReply)
deriving DecidableEq, Repr

inductive UploadError where
  | cancelled
  /-- An error with the context `UploadPublicationUncertain`. -/
  | publicationUncertain (message : String)
  | failed (message : String)
deriving DecidableEq, Repr

/-- `anyhow!("{error:#}")`: the copy of an error that goes through the channel. -/
def UploadError.copy : UploadError → UploadError
  | .cancelled => .failed "SFTP download cancelled"
  | .publicationUncertain message | .failed message => .failed message

inductive UploadOutcome where
  | published
  | conflict (remote : RemoteUploadFingerprint)
  | skipped
deriving DecidableEq, Repr

inductive UploadEvent where
  | sent (request : SftpRequest)
  /-- A check of the cancellation found it set. -/
  | cancelObserved
  /-- `inspect_remote_upload_target` returned. -/
  | inspected (path : RemotePath) (found : Option RemoteUploadFingerprint)
  /-- The server created the temporary file. -/
  | created
  /-- The local reader read a chunk. -/
  | read (chunk : List UInt8)
  /-- The server acknowledged a write. -/
  | acknowledged (offset : Nat) (chunk : List UInt8)
deriving DecidableEq, Repr

/-! ## The state of an upload -/

inductive DirectoryStage where
  | checking
  | creating
  | rechecking
deriving DecidableEq, Repr

inductive UploadPhase where
  | handshake
  | directories (directory : RemotePath) (rest : List RemotePath) (stage : DirectoryStage)
  | inspecting
  | keepBoth (number : Nat)
  | opening
  /-- In `wait_until_running`. -/
  | pausing
  /-- Waiting for a chunk of the reader. -/
  | receiving
  /-- In `RequestWindow::next`. -/
  | waiting
  | joining (result : Except UploadError Unit)
  | closing (result : Except UploadError Unit)
  | rechecking
  | publishing
  | removing (error : UploadError)
  | done (result : Except UploadError UploadOutcome)

inductive WriteStage where
  | limiting
  | inFlight
  | settled (result : Except UploadError Unit)

structure PendingWrite where
  offset : Nat
  chunk : List UInt8
  stage : WriteStage := .limiting

inductive ReaderStage where
  | idle
  | reading
  | sending (item : Except UploadError (List UInt8))
  | finished (result : Except UploadError Unit)

structure Upload where
  phase : UploadPhase := .handshake
  cancelled : Bool
  /-- The overall deadline has passed. -/
  expired : Bool := false
  posixRename : Option String := none
  existing : Option RemoteUploadFingerprint := none
  targetPath : RemotePath := []
  overwrite : Bool := false
  handle : String := ""
  offset : Nat := 0
  nextOffset : Nat := 0
  window : List PendingWrite := []
  /-- The channel of the reader; it is closed when the receiver is dropped. -/
  chunks : List (Except UploadError (List UInt8)) := []
  chunksOpen : Bool := true
  reader : ReaderStage := .idle
  readerOffset : Nat := 0
  trace : List UploadEvent := []

namespace Upload

def note (s : Upload) (event : UploadEvent) : Upload := { s with trace := event :: s.trace }

def send (s : Upload) (request : SftpRequest) : Upload := s.note (.sent request)

/-- An error is raised; `cancelled_error` only where the cancellation was seen. -/
def raise (s : Upload) (error : UploadError) : Upload :=
  if error = .cancelled then s.note .cancelObserved else s

def finish (s : Upload) (result : Except UploadError UploadOutcome) : Upload :=
  { s with phase := .done result }

/-- `return Err(error)` before the temporary file is open. -/
def abort (s : Upload) (error : UploadError) : Upload := (s.raise error).finish (.error error)

/-! ## Waiting -/

def overallTimeout : UploadError :=
  .failed "SFTP download exceeded the 2592000-second overall timeout"

/-- The checks of `await_step` before the future is polled. -/
def awaitStepStart (s : Upload) : Except UploadError Unit :=
  if s.cancelled then .error .cancelled
  else if s.expired then .error overallTimeout
  else .ok ()

/-- The end of `await_step`, or `none` while no branch of its `select!` is ready. -/
def awaitStep (s : Upload) (operation : String) : StepAnswer → Option (Except UploadError SftpReply)
  | .abandoned => if s.cancelled then some (.error .cancelled) else none
  | .timedOut =>
    some (.error (if s.expired then overallTimeout else .failed (operation ++ " timed out")))
  | .reply reply => some (.ok reply)

/-- The end of a `timeout` that does not look at the cancellation. -/
def timeout (message : String) : StepAnswer → Option (Except UploadError SftpReply)
  | .abandoned => none
  | .timedOut => some (.error (.failed message))
  | .reply reply => some (.ok reply)

/-- What a wait that goes on leaves, and what follows when it is over. -/
def resume (s : Upload) (ended : Option (Except UploadError SftpReply))
    (next : Except UploadError SftpReply → Upload) : Upload :=
  match ended with
  | none => s
  | some result => next result

def inspectRemoteUploadTarget :
    Except UploadError SftpReply → Except UploadError (Option RemoteUploadFingerprint)
  | .error error => .error error
  | .ok (.attrs .regular size modified) => .ok (some ⟨size, modified⟩)
  | .ok (.attrs ..) => .error (.failed "remote upload target is not a regular file")
  | .ok .noSuchFile => .ok none
  | .ok _ => .error (.failed "SFTP upload target check failed")

/-! ## Before the temporary file is open -/

variable (request : UploadRequest)

def start (cancelled : Bool) : Upload :=
  let s : Upload := { cancelled }
  match s.awaitStepStart with
  | .error error => s.abort error
  | .ok () => s.send .init

/-- The loop of `ensure_remote_upload_directories`, and the inspection after it. -/
def nextDirectory (s : Upload) : List RemotePath → Upload
  | [] => { s.send (.lstat request.remotePath) with phase := .inspecting }
  | directory :: rest =>
    { s.send (.lstat directory) with phase := .directories directory rest .checking }

def onHandshake (s : Upload) : Except UploadError SftpReply → Upload
  | .error error => s.abort error
  | .ok (.version posixRename) =>
    nextDirectory request { s with posixRename } request.remoteDirectories
  | .ok _ => s.abort (.failed "SFTP upload handshake failed")

def onDirectory (s : Upload) (directory : RemotePath) (rest : List RemotePath)
    (stage : DirectoryStage) (result : Except UploadError SftpReply) : Upload :=
  match stage, result with
  | _, .error error => s.abort error
  | .checking, .ok (.attrs .directory ..) => nextDirectory request s rest
  | .checking, .ok (.attrs ..) => s.abort (.failed "remote upload directory is not a directory")
  | .checking, .ok .noSuchFile =>
    { s.send (.mkdir directory) with phase := .directories directory rest .creating }
  | .checking, .ok _ => s.abort (.failed "SFTP upload directory check failed")
  | .creating, .ok .success => nextDirectory request s rest
  | .creating, .ok _ =>
    { s.send (.lstat directory) with phase := .directories directory rest .rechecking }
  | .rechecking, .ok (.attrs .directory ..) => nextDirectory request s rest
  | .rechecking, .ok _ => s.abort (.failed "cannot create remote upload directory")

def directoryTimeout : DirectoryStage → String
  | .checking => "SFTP upload directory check timed out"
  | .creating => "creating remote upload directory timed out"
  | .rechecking => "rechecking remote upload directory timed out"

/-- The target is chosen; `open` waits in `await_step`. -/
def beginOpen (s : Upload) (targetPath : RemotePath) (overwrite : Bool) : Upload :=
  let s := { s with targetPath, overwrite }
  match s.awaitStepStart with
  | .error error => s.abort error
  | .ok () => { s.send (.open request.temporary) with phase := .opening }

/-- One round of the loop of `find_keep_both_path`. -/
def tryCandidate (s : Upload) (number : Nat) : Upload :=
  match keepBothPath request.remotePath number with
  | none => s.abort (.failed "remote upload path is invalid")
  | some candidate =>
    if candidate.any isControl then
      s.abort (.failed "remote path cannot contain control characters")
    else { s.send (.lstat candidate) with phase := .keepBoth number }

/-- The refusal of an overwrite, if there is one. -/
def overwriteRefused (s : Upload) (remote : RemoteUploadFingerprint) : Option UploadError :=
  if request.expectedRemote.any fun expected =>
      expected.size.isNone && expected.modified.isNone then
    some (.failed "server did not provide a remote fingerprint for overwrite")
  else if request.expectedRemote.any (· ≠ remote) then
    some (.failed "remote upload target changed while awaiting confirmation")
  else if s.posixRename ≠ some "1" then
    some (.failed "server does not support atomic SFTP overwrite")
  else none

/-- The match on `(existing, request.conflict_choice)`. -/
def chooseTarget (s : Upload) : Upload :=
  match s.existing, request.conflictChoice with
  | some remote, none => s.finish (.ok (.conflict remote))
  | some _, some .skip => s.finish (.ok .skipped)
  | some remote, some .overwrite =>
    match overwriteRefused request s remote with
    | some error => s.abort error
    | none => beginOpen request s request.remotePath true
  | some _, some .keepBoth => tryCandidate request s 1
  | none, _ =>
    if request.expectedRemote.isSome then
      s.abort (.failed "remote upload target changed while awaiting confirmation")
    else beginOpen request s request.remotePath false

def onInspect (s : Upload) (result : Except UploadError SftpReply) : Upload :=
  match inspectRemoteUploadTarget result with
  | .error error => s.abort error
  | .ok existing =>
    chooseTarget request { s.note (.inspected request.remotePath existing) with existing }

def onCandidate (s : Upload) (number : Nat) (result : Except UploadError SftpReply) : Upload :=
  match inspectRemoteUploadTarget result, keepBothPath request.remotePath number with
  | .error error, _ => s.abort error
  | .ok _, none => s
  | .ok found, some candidate =>
    let s := s.note (.inspected candidate found)
    if found.isNone then beginOpen request s candidate false
    else if number + 1 < 2 ^ 64 then tryCandidate request s (number + 1)
    else s.abort (.failed "no available remote name for another copy")

/-! ## Writing the temporary file -/

/-- The loop is left; the receiver of the reader is dropped. -/
def endLoop (s : Upload) (result : Except UploadError Unit) : Upload :=
  { s with phase := .joining result, window := [], chunks := [], chunksOpen := false }

def failLoop (s : Upload) (error : UploadError) : Upload := (s.raise error).endLoop (.error error)

/-- The head of the outer loop. -/
def loopHead (s : Upload) : Upload :=
  if s.offset < request.totalBytes then { s with phase := .pausing } else s.endLoop (.ok ())

/-- The head of the inner loop. -/
def fillWindow (s : Upload) : Upload :=
  if s.window.length < requestWindow ∧ s.nextOffset < request.totalBytes then
    match s.awaitStepStart with
    | .error error => s.failLoop error
    | .ok () => { s with phase := .receiving }
  else { s with phase := .waiting }

def onOpen (s : Upload) : Except UploadError SftpReply → Upload
  | .error error => s.abort error
  | .ok (.handle handle) =>
    let s := if .created ∈ s.trace then s else s.note .created
    loopHead request { s with handle, reader := .reading }
  | .ok _ => s.abort (.failed "cannot open remote upload file")

/-- The body of the inner loop for a chunk that was received. -/
def pushChunk (s : Upload) (chunk : List UInt8) : Upload :=
  if chunk.length = 0 ∨ downloadChunkBytes < chunk.length ∨
      request.totalBytes - s.nextOffset < chunk.length then
    s.failLoop (.failed "local upload reader returned an invalid chunk size")
  else
    fillWindow request
      { s with
        window := s.window ++ [{ offset := s.nextOffset, chunk }]
        nextOffset := s.nextOffset + chunk.length }

/-- `chunks.recv()`. -/
def receive (s : Upload) : Upload :=
  match s.chunks, s.reader with
  | .ok chunk :: chunks, _ => pushChunk request { s with chunks } chunk
  | .error error :: chunks, _ => { s with chunks }.endLoop (.error error)
  | [], .finished _ =>
    s.failLoop (.failed "local upload reader stopped before the validated end")
  | [], _ => s

/-- The front of the window is settled.  `due` says that the progress interval is over, `closed`
that nobody receives events. -/
def onNext (s : Upload) (due closed : Bool) : Upload :=
  match s.window with
  | [] => s.failLoop (.failed "SFTP write window ended unexpectedly")
  | write :: window =>
    match write.stage with
    | .settled (.error error) => s.endLoop (.error error)
    | .settled (.ok ()) =>
      let s := { s with window, offset := s.offset + write.chunk.length }
      if (due ∨ s.offset = request.totalBytes) ∧ closed then
        s.failLoop (.failed "SFTP transfer event receiver dropped")
      else loopHead request s
    | _ => s

def setStage (s : Upload) (index : Nat) (write : PendingWrite) (stage : WriteStage) : Upload :=
  { s with window := s.window.set index { write with stage } }

/-- The rate limiter lets a write through, or its wait is cancelled. -/
def onLimited (s : Upload) (index : Nat) (abandoned : Bool) : Upload :=
  match s.window[index]? with
  | some write@{ stage := .limiting, .. } =>
    if abandoned then
      if s.cancelled then
        (s.raise .cancelled).setStage index write (.settled (.error .cancelled))
      else s
    else
      match s.awaitStepStart with
      | .error error => (s.raise error).setStage index write (.settled (.error error))
      | .ok () =>
        (s.send (.write s.handle write.offset write.chunk)).setStage index write .inFlight
  | _ => s

def onWritten (s : Upload) (index : Nat) (answer : StepAnswer) : Upload :=
  match s.window[index]? with
  | some write@{ stage := .inFlight, .. } =>
    s.resume (s.awaitStep "writing remote upload" answer) fun
      | .error error => (s.raise error).setStage index write (.settled (.error error))
      | .ok .success =>
        (s.note (.acknowledged write.offset write.chunk)).setStage index write (.settled (.ok ()))
      | .ok _ =>
        s.setStage index write (.settled (.error (.failed "cannot write remote upload")))
  | _ => s

/-! ## The local reader -/

/-- A round of the loop of `read_local_upload_chunks`, with the bytes that `read_exact` delivered
or the error of a check or a read.  After the last byte only the file is validated again. -/
def readChunk (s : Upload) (data : Except String (List UInt8)) : Upload :=
  match s.reader, data with
  | .reading, .error message => { s with reader := .sending (.error (.failed message)) }
  | .reading, .ok chunk =>
    if s.readerOffset < request.totalBytes then
      if s.cancelled then
        { s.raise .cancelled with reader := .sending (.error .cancelled) }
      else if chunk.length = min (request.totalBytes - s.readerOffset) downloadChunkBytes then
        { s.note (.read chunk) with
          reader := .sending (.ok chunk)
          readerOffset := s.readerOffset + chunk.length }
      else s
    else { s with reader := .finished (.ok ()) }
  | _, _ => s

/-- `blocking_send`: it waits for room, and fails when the receiver is gone. -/
def sendChunk (s : Upload) : Upload :=
  match s.reader with
  | .sending item =>
    if s.chunksOpen then
      if s.chunks.length < writerQueueCapacity then
        match item with
        | .ok chunk => { s with chunks := s.chunks ++ [.ok chunk], reader := .reading }
        | .error error =>
          { s with chunks := s.chunks ++ [.error error.copy], reader := .finished (.error error) }
      else s
    else
      { s with
        reader := .finished (.error
          (match item with
          | .ok _ => .failed "local upload consumer closed"
          | .error error => error)) }
  | _ => s

/-! ## Publication -/

/-- `remove_upload_temporary`. -/
def cleanUp (s : Upload) (error : UploadError) : Upload :=
  { (s.raise error).send (.remove request.temporary) with phase := .removing error }

/-- The reader is joined, or the wait for it timed out; the file is closed. -/
def onJoin (s : Upload) (result : Except UploadError Unit) (joined : Except UploadError Unit) :
    Upload :=
  { s.send (.close s.handle) with phase := .closing (result.bind fun _ => joined) }

/-- The outcome of the writes, the reader and the close, with the check of the cancellation. -/
def onClosed (s : Upload) (result : Except UploadError Unit)
    (closed : Except UploadError SftpReply) : Upload :=
  match result, closed with
  | .error error, _ => { s.send (.remove request.temporary) with phase := .removing error }
  | .ok (), .error error => cleanUp request s error
  | .ok (), .ok .success =>
    if s.cancelled then cleanUp request s .cancelled
    else { s.send (.lstat s.targetPath) with phase := .rechecking }
  | .ok (), .ok _ => cleanUp request s (.failed "cannot close remote upload file")

/-- The second inspection, and the rename. -/
def onRecheck (s : Upload) (result : Except UploadError SftpReply) : Upload :=
  match inspectRemoteUploadTarget result with
  | .error error => cleanUp request s error
  | .ok current =>
    let s := s.note (.inspected s.targetPath current)
    if s.cancelled then cleanUp request s .cancelled
    else if s.overwrite then
      if current ≠ s.existing then
        cleanUp request s (.failed "remote upload target changed before publication")
      else
        { s.send (.posixRename request.temporary s.targetPath) with phase := .publishing }
    else if current.isSome then
      cleanUp request s (.failed "remote upload target appeared before publication")
    else { s.send (.rename request.temporary s.targetPath) with phase := .publishing }

def renameTimeout (s : Upload) : String :=
  if s.overwrite then "SFTP atomic overwrite timed out" else "publishing remote upload timed out"

def renameFailure (s : Upload) : String :=
  if s.overwrite then "SFTP atomic overwrite failed" else "cannot publish remote upload"

def onRename (s : Upload) : Except UploadError SftpReply → Upload
  | .ok .success => s.finish (.ok .published)
  | .ok _ => cleanUp request s (.publicationUncertain s.renameFailure)
  | .error _ => cleanUp request s (.publicationUncertain s.renameTimeout)

/-! ## The inputs -/

inductive Input where
  | cancel
  /-- The overall deadline passes. -/
  | expire
  /-- The server carries out the open request. -/
  | create
  /-- What the upload waits for. -/
  | answer (answer : StepAnswer)
  /-- `wait_until_running` finds the upload running or cancelled. -/
  | running
  | receive
  | next (due closed : Bool)
  | limited (index : Nat) (abandoned : Bool)
  | written (index : Nat) (answer : StepAnswer)
  | readChunk (data : Except String (List UInt8))
  | sendChunk
  | readerPanics
  | joined

/-- A wait of the upload ends. -/
def onAnswer (s : Upload) (answer : StepAnswer) : Upload :=
  match s.phase with
  | .handshake => s.resume (s.awaitStep "SFTP upload handshake" answer) (onHandshake request s)
  | .directories directory rest stage =>
    s.resume (timeout (directoryTimeout stage) answer) (onDirectory request s directory rest stage)
  | .inspecting =>
    s.resume (timeout "SFTP upload target check timed out" answer) (onInspect request s)
  | .keepBoth number =>
    s.resume (timeout "SFTP upload target check timed out" answer) (onCandidate request s number)
  | .opening => s.resume (s.awaitStep "opening remote upload file" answer) (onOpen request s)
  | .receiving =>
    -- Only the chunk itself ends this wait well.
    s.resume (s.awaitStep "reading local upload" answer) fun
      | .error error => s.failLoop error
      | .ok _ => s
  | .joining result =>
    s.resume (timeout "local upload reader cleanup timed out" answer) fun
      | .error error => s.onJoin result (.error error)
      | .ok _ => s
  | .closing result =>
    s.resume (timeout "closing remote upload timed out" answer) (onClosed request s result)
  | .rechecking =>
    s.resume (timeout "SFTP upload target check timed out" answer) (onRecheck request s)
  | .publishing => s.resume (timeout s.renameTimeout answer) (onRename request s)
  | .removing error => s.resume (timeout "" answer) fun _ => s.finish (.error error)
  | .pausing | .waiting | .done _ => s

def onJoined (s : Upload) : Upload :=
  match s.phase, s.reader with
  | .joining result, .finished joined => s.onJoin result joined
  | _, _ => s

/-- The task of the reader panics while it reads; nothing is sent. -/
def readerPanics (s : Upload) : Upload :=
  match s.reader with
  | .reading => { s with reader := .finished (.error (.failed "local upload reader task failed")) }
  | _ => s

def onRunning (s : Upload) : Upload :=
  match s.phase with
  | .pausing => if s.cancelled then s.failLoop .cancelled else fillWindow request s
  | _ => s

def step (s : Upload) : Input → Upload
  | .cancel => { s with cancelled := true }
  | .expire => { s with expired := true }
  | .create =>
    if .sent (.open request.temporary) ∈ s.trace ∧ .created ∉ s.trace then s.note .created else s
  | .answer answer => onAnswer request s answer
  | .running => onRunning request s
  | .receive => match s.phase with | .receiving => receive request s | _ => s
  | .next due closed => match s.phase with | .waiting => onNext request s due closed | _ => s
  | .limited index abandoned => s.onLimited index abandoned
  | .written index answer => s.onWritten index answer
  | .readChunk data => readChunk request s data
  | .sendChunk => s.sendChunk
  | .readerPanics => s.readerPanics
  | .joined => s.onJoined

end Upload

end AxSsh
