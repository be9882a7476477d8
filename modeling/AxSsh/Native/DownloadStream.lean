import AxSsh.Native.UploadPublication

/-!
# One download to a local file

`download_open_local_handle` of `sftp/transfer/download.rs` from the start of its writer on, with
`stream_remote_file`, `read_remote_chunk`, the window of read requests, `write_local_file`, and the
match on its result in `run_download`.

A download runs from one `.await` to the next, so what it waits for is its phase and the end of the
wait is an input.  The writer and the requests in the window move on their own: a request is polled
more often here than by the code, which polls the window only where it pushes or waits.  A repeated
attempt starts over with a new part file.
-/

namespace AxSsh

inductive DownloadError where
  | cancelled
  /-- `CacheWriterStopped`. -/
  | writerStopped
  /-- `IncompleteLocalWrite`. -/
  | incomplete (expected actual : Nat)
  /-- With its message, less a path the message names. -/
  | failed (message : String)
deriving DecidableEq, Repr

/-! ## The server -/

inductive RemoteKind where
  | regular
  | directory
  | symlink
  | other
deriving DecidableEq, Repr

/-- What `validate_regular_metadata` reads of the attributes of a file. -/
structure RemoteAttributes where
  kind : RemoteKind
  size : Option Nat
  modified : Option Nat
deriving DecidableEq, Repr

structure RemoteFileMetadata where
  size : Nat
  modified : Option Nat
deriving DecidableEq, Repr

def validateRegularMetadata (attributes : RemoteAttributes) :
    Except DownloadError RemoteFileMetadata :=
  match attributes.kind, attributes.size with
  | .symlink, _ => .error (.failed "remote symbolic links cannot be downloaded for local opening")
  | .directory, _ => .error (.failed "remote directories cannot be downloaded for local opening")
  | .other, _ => .error (.failed "remote path is not a verified regular file")
  | .regular, none => .error (.failed "remote regular file did not report its size")
  | .regular, some size => .ok { size, modified := attributes.modified }

def ensureSameRemoteFile (expected actual : RemoteFileMetadata) : Except DownloadError Unit :=
  if expected.size ≠ actual.size then
    .error (.failed "remote file size changed while preparing the download")
  else
    match expected.modified, actual.modified with
    | some before, some after =>
      if before ≠ after then
        .error (.failed "remote file modification time changed while preparing the download")
      else .ok ()
    | _, _ => .ok ()

inductive RemoteReply where
  | data (data : List UInt8)
  | eof
  | attrs (attributes : RemoteAttributes)
  /-- Every other error, also of the transport. -/
  | failure
deriving DecidableEq, Repr

/-- How a wait ends. -/
inductive WaitEnd (α : Type) where
  /-- The cancellation is selected. -/
  | abandoned
  | timedOut
  | ready (value : α)
deriving DecidableEq, Repr

/-! ## The state of a download -/

inductive ReadStage where
  /-- In `cancellation.limit`. -/
  | limiting
  | inFlight
  | settled (result : Except DownloadError (List UInt8))

/-- `read_remote_chunk` in the window. -/
structure PendingRead where
  offset : Nat
  length : Nat
  chunk : List UInt8 := []
  stage : ReadStage := .limiting

inductive WriterStage where
  | receiving
  /-- In `finish`, before the file is published. -/
  | finishing
  /-- In `finish`, after it. -/
  | published
  | ended (result : Except DownloadError Unit)

/-- The file of the download: the part file, the published file, or none any more. -/
inductive LocalDownload where
  | part
  | published
  | removed
deriving DecidableEq, Repr

/-- Why the writer is waited for without a use for its result. -/
inductive CleanupReason where
  | stream (error : DownloadError)
  | cancelled
  | expired

inductive DownloadPhase where
  /-- Reporting that the transfer is paused. -/
  | announcingPause
  /-- In `wait_until_running`. -/
  | pausing
  /-- Reporting that the transfer is resumed. -/
  | announcingResume
  /-- In `RequestWindow::next`. -/
  | waiting
  /-- Sending a chunk to the writer. -/
  | handing (chunk : List UInt8)
  /-- Reading beyond the end. -/
  | confirming
  /-- In the last `fstat`. -/
  | revalidating
  /-- In the last `lstat`. -/
  | rechecking
  /-- In `await_local_writer_success`. -/
  | joining
  /-- In `await_local_writer_cleanup`. -/
  | cleaning (reason : CleanupReason)
  /-- Removing the published file. -/
  | removing (error : DownloadError)
  | done (result : Except DownloadError Unit)
  /-- The task was aborted. -/
  | aborted

structure Download where
  phase : DownloadPhase := .waiting
  cancelled : Bool := false
  paused : Bool := false
  /-- The overall deadline has passed. -/
  expired : Bool := false
  downloadedBytes : Nat := 0
  nextOffset : Nat := 0
  window : List PendingRead := []
  /-- The bytes that were handed to the writer. -/
  handed : List UInt8 := []
  queue : List (List UInt8) := []
  /-- `chunk_tx` is not dropped. -/
  senderOpen : Bool := true
  writerAbort : Bool := false
  writer : WriterStage := .receiving
  /-- The content of the part file. -/
  file : List UInt8 := []
  localFile : LocalDownload := .part
  streamResult : Option (Except DownloadError Unit) := none

namespace Download

variable (expected : RemoteFileMetadata) (s : Download)

/-! ## Waiting -/

def overallTimeout : DownloadError :=
  .failed "SFTP download exceeded the 2592000-second overall timeout"

/-- The checks of `await_step` before the future is polled. -/
def awaitStepStart : Except DownloadError Unit :=
  if s.cancelled then .error .cancelled
  else if s.expired then .error overallTimeout
  else .ok ()

/-- The end of `await_step`, or `none` while no branch of its `select!` is ready. -/
def awaitStep {α : Type} (operation : String) : WaitEnd α → Option (Except DownloadError α)
  | .abandoned => if s.cancelled then some (.error .cancelled) else none
  | .timedOut =>
    some (.error (if s.expired then overallTimeout else .failed (operation ++ " timed out")))
  | .ready value => some (.ok value)

/-- What a wait that goes on leaves, and what follows when it is over. -/
def resume {α : Type} (ended : Option (Except DownloadError α))
    (next : Except DownloadError α → Download) : Download :=
  match ended with
  | none => s
  | some result => next result

/-! ## The end of the stream -/

/-- `stream_remote_file` fails: the writer is aborted and its channel closed. -/
def failStream (error : DownloadError) : Download :=
  { s with
    streamResult := some (.error error)
    writerAbort := true
    senderOpen := false
    window := []
    phase := .cleaning (.stream error) }

/-- `stream_remote_file` succeeds; the start of `await_local_writer_success`. -/
def endStream : Download :=
  { s with
    streamResult := some (.ok ())
    senderOpen := false
    window := []
    phase := if s.cancelled then .cleaning .cancelled else .joining }

/-- The next wait in `await_step`. -/
def proceed (phase : DownloadPhase) : Download :=
  match s.awaitStepStart with
  | .error error => s.failStream error
  | .ok () => { s with phase }

def validated (reply : RemoteReply) (failure : String) : Except DownloadError Unit :=
  match reply with
  | .attrs attributes => do
    let actual ← validateRegularMetadata attributes
    ensureSameRemoteFile expected actual
  | _ => .error (.failed failure)

def onConfirmed : Except DownloadError RemoteReply → Download
  | .error error => s.failStream error
  | .ok .eof | .ok (.data []) => s.proceed .revalidating
  | .ok (.data _) => s.failStream (.failed "remote file grew while it was being downloaded")
  | .ok _ => s.failStream (.failed "cannot confirm remote end of file")

def onRevalidated : Except DownloadError RemoteReply → Download
  | .error error => s.failStream error
  | .ok reply =>
    match validated expected reply "cannot revalidate downloaded remote file" with
    | .error error => s.failStream error
    | .ok () => s.proceed .rechecking

def onRechecked : Except DownloadError RemoteReply → Download
  | .error error => s.failStream error
  | .ok reply =>
    match validated expected reply "cannot inspect remote file" with
    | .error error => s.failStream error
    | .ok () => s.endStream

/-! ## The window -/

/-- A round of the inner loop, when there is room and something left to ask for. -/
def pushRead : Download :=
  if s.window.length < requestWindow ∧ s.nextOffset < expected.size then
    let length := min (expected.size - s.nextOffset) downloadChunkBytes
    { s with
      window := s.window ++ [{ offset := s.nextOffset, length }]
      nextOffset := s.nextOffset + length }
  else s

/-- The inner loop: after as many rounds as the window has places, it is full. -/
def fillWindow : Download := { (pushRead expected)^[requestWindow] s with phase := .waiting }

/-- The head of the outer loop, and what follows it. -/
def loopHead : Download :=
  if s.downloadedBytes < expected.size then
    if s.paused then { s with phase := .announcingPause } else fillWindow expected s
  else s.proceed .confirming

/-- The writer is spawned, and the stream starts. -/
def start (cancelled paused expired : Bool) : Download :=
  loopHead expected { cancelled, paused, expired }

def setRead (index : Nat) (read : PendingRead) : Download :=
  { s with window := s.window.set index read }

/-- A request of `read_remote_chunk` is sent, or the chunk is complete. -/
def readMore (index : Nat) (read : PendingRead) : Download :=
  if read.chunk.length < read.length then
    match s.awaitStepStart with
    | .error error => s.setRead index { read with stage := .settled (.error error) }
    | .ok () => s.setRead index { read with stage := .inFlight }
  else s.setRead index { read with stage := .settled (.ok read.chunk) }

/-- The rate limiter lets a read through, or its wait is cancelled. -/
def onLimited (index : Nat) (abandoned : Bool) : Download :=
  match s.window[index]? with
  | some read@{ stage := .limiting, .. } =>
    if abandoned then
      if s.cancelled then
        s.setRead index { read with stage := .settled (.error .cancelled) }
      else s
    else s.readMore index read
  | _ => s

/-- A reply to the request of a slot. -/
def onData (index : Nat) (read : PendingRead) : Except DownloadError RemoteReply → Download
  | .error error => s.setRead index { read with stage := .settled (.error error) }
  | .ok .eof =>
    s.setRead index { read with
      stage := .settled (.error (.failed
        s!"remote file ended after {read.offset + read.chunk.length} of {expected.size} bytes")) }
  | .ok (.data []) =>
    s.setRead index { read with
      stage := .settled (.error (.failed
        "remote file returned an empty data packet before its validated end")) }
  | .ok (.data data) =>
    if read.length - read.chunk.length < data.length then
      s.setRead index { read with
        stage := .settled (.error (.failed "remote file returned more bytes than requested")) }
    else s.readMore index { read with chunk := read.chunk ++ data }
  | .ok _ =>
    s.setRead index { read with
      stage := .settled (.error (.failed "cannot read complete remote file chunk")) }

def onRead (index : Nat) (answer : WaitEnd RemoteReply) : Download :=
  match s.window[index]? with
  | some read@{ stage := .inFlight, .. } =>
    s.resume (s.awaitStep "reading remote file" answer) (onData expected s index read)
  | _ => s

/-- `RequestWindow::next`: only a settled front is taken. -/
def onNext : Download :=
  match s.window with
  | [] => s.failStream (.failed "SFTP read window ended unexpectedly")
  | read :: window =>
    match read.stage with
    | .settled (.error error) => s.failStream error
    | .settled (.ok chunk) => { s with window }.proceed (.handing chunk)
    | _ => s

/-- The channel takes a chunk.  `due` says that the progress interval is over, `closed` that nobody
receives events. -/
def onAccepted (chunk : List UInt8) (due closed : Bool) : Download :=
  match s.writer with
  | .receiving =>
    if s.queue.length < writerQueueCapacity then
      let s := { s with
        queue := s.queue ++ [chunk]
        handed := s.handed ++ chunk
        downloadedBytes := s.downloadedBytes + chunk.length }
      if (due ∨ s.downloadedBytes = expected.size) ∧ closed then
        s.failStream (.failed "SFTP transfer event receiver dropped")
      else loopHead expected s
    else s
  | _ => s.failStream .writerStopped

/-- `send_transfer_state`, and what follows it. -/
def onAnnounced (next : Download) : WaitEnd Bool → Download
  | .abandoned => s
  | .timedOut => s.failStream (.failed "timed out reporting SFTP transfer state")
  | .ready false => s.failStream (.failed "SFTP transfer event receiver dropped")
  | .ready true => next

/-- `wait_until_running` looks at the flags. -/
def onRunning : Download :=
  if s.cancelled then s.failStream .cancelled
  else if s.paused then s
  else { s with phase := .announcingResume }

/-! ## The writer -/

def endWriter (error : DownloadError) : Download :=
  { s with
    writer := .ended (.error error)
    localFile := .removed }

/-- A round of the loop of `write_local_file`, or its end when the channel is closed. `written`
says that `write_all` succeeds. -/
def onReceive (written : Bool) : Download :=
  match s.writer, s.queue with
  | .receiving, chunk :: queue =>
    let s := { s with queue }
    if s.writerAbort then s.endWriter .cancelled
    else if 2 ^ 64 ≤ s.file.length + chunk.length then
      s.endWriter (.failed "local download byte count overflowed")
    else if expected.size < s.file.length + chunk.length then
      s.endWriter (.failed "local download writer received more bytes than expected")
    else if written then { s with file := s.file ++ chunk }
    else s.endWriter (.failed "cannot write local download")
  | .receiving, [] =>
    if s.senderOpen then s
    else if s.writerAbort then s.endWriter .cancelled
    else if s.file.length ≠ expected.size then
      s.endWriter (.incomplete expected.size s.file.length)
    else { s with writer := .finishing }
  | _, _ => s

/-- `finish` up to the link, with its error. -/
def onPublish (error : Option String) : Download :=
  match s.writer, error with
  | .finishing, some message => s.endWriter (.failed message)
  | .finishing, none => { s with writer := .published, localFile := .published }
  | _, _ => s

/-- `sync_local_directory`; when it fails, the published file is removed. -/
def onSynced (error : Option String) : Download :=
  match s.writer, error with
  | .published, some message => s.endWriter (.failed message)
  | .published, none => { s with writer := .ended (.ok ()) }
  | _, _ => s

def onPanic : Download :=
  match s.writer with
  | .ended _ => s
  | _ => s.endWriter (.failed "local download writer task failed")

/-! ## The result -/

def CleanupReason.error : CleanupReason → DownloadError
  | .stream error => error
  | .cancelled => .cancelled
  | .expired => overallTimeout

/-- The error of the download, given the error of the writer. -/
def CleanupReason.combine : CleanupReason → DownloadError → DownloadError
  | .stream .cancelled, _ => .cancelled
  | .stream error, .incomplete .. | .stream error, .cancelled => error
  | .stream _, writerError => writerError
  | reason, _ => CleanupReason.error reason

/-- The writer is joined. -/
def onJoined : Download :=
  match s.phase, s.writer with
  | .joining, .ended (.error error) => { s with phase := .done (.error error) }
  | .joining, .ended (.ok ()) =>
    -- The match in `run_download`.
    if s.cancelled then { s with phase := .removing .cancelled }
    else { s with phase := .done (.ok ()) }
  | .cleaning reason, .ended (.error error) =>
    { s with phase := .done (.error (CleanupReason.combine reason error)) }
  | .cleaning reason, .ended (.ok ()) =>
    { s with phase := .removing (CleanupReason.error reason) }
  | _, _ => s

/-- The file is removed, or it stays when that fails. -/
def onRemoved (success : Bool) : Download :=
  match s.phase with
  | .removing error =>
    { s with
      phase := .done (.error error)
      localFile := if success then .removed else s.localFile }
  | _ => s

/-! ## The inputs -/

inductive Input where
  | cancel
  | pause
  | resume
  /-- The overall deadline passes. -/
  | expire
  /-- The handle is dropped, or its shutdown ran out of time. -/
  | abort
  | limited (index : Nat) (abandoned : Bool)
  | read (index : Nat) (answer : WaitEnd RemoteReply)
  | announced (answer : WaitEnd Bool)
  | running
  | next
  | accepted (due closed : Bool)
  /-- What the download waits for. -/
  | answer (answer : WaitEnd RemoteReply)
  | receive (written : Bool)
  | publish (error : Option String)
  | synced (error : Option String)
  /-- The task of the writer panics. -/
  | writerPanics
  | joined
  | removed (success : Bool)

/-- A wait of the download ends. -/
def onAnswer (answer : WaitEnd RemoteReply) : Download :=
  match s.phase with
  | .handing _ =>
    -- Only the channel itself ends this wait well.
    s.resume (s.awaitStep "writing local download" answer) fun
      | .error error => s.failStream error
      | .ok _ => s
  | .confirming => s.resume (s.awaitStep "confirming remote end of file" answer) (onConfirmed s)
  | .revalidating =>
    s.resume (s.awaitStep "revalidating downloaded remote file" answer) (onRevalidated expected s)
  | .rechecking =>
    s.resume (s.awaitStep "inspecting remote file" answer) (onRechecked expected s)
  | .joining =>
    match answer with
    | .abandoned => if s.cancelled then { s with phase := .cleaning .cancelled } else s
    | .timedOut =>
      if s.expired then { s with cancelled := true, phase := .cleaning .expired } else s
    | .ready _ => s
  | .cleaning reason =>
    match answer with
    | .timedOut => { s with phase := .done (.error (CleanupReason.error reason)) }
    | _ => s
  | _ => s

/-- The handle of the download cancels it, and its task ends where it stands. -/
def onAbort : Download :=
  match s.phase with
  | .done _ => s
  | _ => { s with cancelled := true, phase := .aborted, senderOpen := false, window := [] }

def step (s : Download) : Input → Download
  | .cancel => { s with cancelled := true }
  | .pause => if s.cancelled then s else { s with paused := true }
  | .resume => { s with paused := false }
  | .expire => { s with expired := true }
  | .abort => s.onAbort
  | .limited index abandoned => s.onLimited index abandoned
  | .read index answer => onRead expected s index answer
  | .announced answer =>
    match s.phase with
    | .announcingPause => s.onAnnounced { s with phase := .pausing } answer
    | .announcingResume => s.onAnnounced (fillWindow expected s) answer
    | _ => s
  | .running => match s.phase with | .pausing => s.onRunning | _ => s
  | .next => match s.phase with | .waiting => s.onNext | _ => s
  | .accepted due closed =>
    match s.phase with
    | .handing chunk => onAccepted expected s chunk due closed
    | _ => s
  | .answer answer => onAnswer expected s answer
  | .receive written => onReceive expected s written
  | .publish error => s.onPublish error
  | .synced error => s.onSynced error
  | .writerPanics => s.onPanic
  | .joined => s.onJoined
  | .removed success => s.onRemoved success

end Download

end AxSsh
