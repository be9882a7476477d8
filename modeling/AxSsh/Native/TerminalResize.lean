import AxSsh.ForStd.Watch
import AxSsh.Native.Telnet
import AxSsh.Native.TerminalDisplay

/-!
# Resizing a running terminal

The resize requests of `LocalShellHandle` (`local_shell.rs`), `SshSessionHandle` (`ssh/worker.rs`)
and `TelnetSessionHandle` (`telnet.rs`), and the loops of the workers that carry them out.

A worker goes from one point where another thread or the peer can come in between to the next, so
the point it has reached is its stage, and what the call there returns is an input.  `requests`
and `resizes` are a record of what was asked for and of what the backend was told; no function
reads them.  The commands' data, the events' contents and the length of the waits are left out.
-/

namespace AxSsh.Resize

/-! ## Sizes -/

/-- `TerminalSize` with the fields that only the backends are sent. -/
structure BackendSize extends TerminalSize where
  pixelWidth : Nat
  pixelHeight : Nat
deriving DecidableEq, Repr

def backend (columns rows : Nat) : BackendSize :=
  { columns := max 1 (min columns maxTerminalColumns)
    rows := max 1 (min rows maxTerminalRows)
    pixelWidth := 0
    pixelHeight := 0 }

def backendWithPixels (columns rows pixelWidth pixelHeight : Nat) : BackendSize :=
  { backend columns rows with pixelWidth := pixelWidth, pixelHeight := pixelHeight }

def validateBackendSize (columns rows : Nat) : Except String Unit :=
  if columns = 0 ∨ rows = 0 then .error "terminal dimensions must be greater than zero"
  else if columns > maxTerminalColumns ∨ rows > maxTerminalRows then
    .error "terminal dimensions cannot exceed 300x100"
  else .ok ()

/-- The arguments of a resize request. -/
structure SizeRequest where
  columns : Nat
  rows : Nat
  pixelWidth : Nat := 0
  pixelHeight : Nat := 0
deriving DecidableEq, Repr

def SizeRequest.size (request : SizeRequest) : BackendSize :=
  backendWithPixels request.columns request.rows request.pixelWidth request.pixelHeight

/-- How the call that a worker waits for comes back. -/
inductive Answer where
  | ok
  | failed
  /-- Every sender of the command queue is gone. -/
  | disconnected
deriving DecidableEq, Repr

/-! ## The local shell -/

structure PtySize where
  rows : Nat
  cols : Nat
  pixelWidth : Nat
  pixelHeight : Nat
deriving DecidableEq, Repr

def u16Max : Nat := 65535

def ptySize (size : BackendSize) : PtySize :=
  { rows := size.rows % 2 ^ 16
    cols := size.columns % 2 ^ 16
    pixelWidth := min size.pixelWidth u16Max % 2 ^ 16
    pixelHeight := min size.pixelHeight u16Max % 2 ^ 16 }

def commandCapacity : Nat := 32

inductive LocalShellCommand where
  | send
  | wake
  | readerClosed
deriving DecidableEq, Repr

/-- How far the request has got that holds the lock of `requested_resize`. -/
inductive Requester where
  | idle
  /-- `requested_resize` is set, `pending_resize` is not yet. -/
  | storing (request : SizeRequest)
  /-- Both are set and the worker is not woken yet. -/
  | waking
deriving DecidableEq, Repr

inductive LocalStage where
  /-- Before `openpty`. -/
  | opening
  /-- `Started` is being sent. -/
  | starting
  /-- At the condition of the loop. -/
  | looping
  /-- At the lock of `pending_resize` in `apply_pending_resize`. -/
  | taking
  /-- In `master.resize`. -/
  | applying (size : BackendSize)
  /-- `Resized` is being sent. -/
  | reporting
  /-- In `child.try_wait`. -/
  | polling
  /-- In `command_rx.recv_timeout`. -/
  | receiving
  /-- The data of a command is being written. -/
  | writing
  /-- The loop is left and the receiver of the commands is still there. -/
  | stopped
  | gone
deriving DecidableEq, Repr

structure LocalShell where
  initialSize : BackendSize
  requestedResize : BackendSize
  pendingResize : Option BackendSize := none
  requester : Requester := .idle
  commands : List LocalShellCommand := []
  shutdownRequested : Bool := false
  stage : LocalStage := .opening
  appliedSize : BackendSize
  /-- The size of the start and then the accepted requests, oldest first.  A request counts from
      where the worker can see its size. -/
  requests : List SizeRequest
  /-- What the PTY was told, newest first. -/
  resizes : List PtySize := []
deriving DecidableEq, Repr

inductive LocalInput where
  | request (request : SizeRequest)
  /-- A request puts its size into `pending_resize`. -/
  | store
  | wake
  | send
  | readerCloses
  | shutdown
  | work (answer : Answer)
deriving DecidableEq, Repr

namespace LocalShell

def spawn (columns rows : Nat) : LocalShell :=
  { initialSize := backend columns rows
    requestedResize := backend columns rows
    appliedSize := backend columns rows
    requests := [{ columns := columns, rows := rows }] }

/-- `try_send` on the bounded queue; a full queue drops the command. -/
def trySend (s : LocalShell) (command : LocalShellCommand) : LocalShell :=
  if s.commands.length < commandCapacity then { s with commands := s.commands ++ [command] } else s

def wakeWorker (s : LocalShell) : Except String LocalShell :=
  if s.stage = .gone then .error "local PTY worker is no longer running"
  else .ok (s.trySend .wake)

/-- `request_resize_with_pixels` up to the lock of `pending_resize`. -/
def requestResizeWithPixels (s : LocalShell) (request : SizeRequest) : Except String LocalShell := do
  validateBackendSize request.columns request.rows
  match s.requester with
  | .idle =>
    if s.requestedResize = request.size then
      return { s with requests := s.requests ++ [request] }
    else
      return { s with requestedResize := request.size, requester := .storing request }
  -- waits for the lock
  | _ => return s

def storePending (s : LocalShell) : LocalShell :=
  match s.requester with
  | .storing request =>
    { s with pendingResize := some request.size, requester := .waking
             requests := s.requests ++ [request] }
  | _ => s

/-- The rest of the request, whose error is that of `wake_worker`. -/
def finishRequest (s : LocalShell) : LocalShell :=
  match s.requester with
  | .waking => { s.wakeWorker.toOption.getD s with requester := .idle }
  | _ => s

/-- `apply_pending_resize` up to `master.resize`. -/
def takePending (s : LocalShell) : LocalShell :=
  match s.pendingResize with
  | none => { s with stage := .polling }
  | some size =>
    if size = s.appliedSize then { s with pendingResize := none, stage := .polling }
    else { s with pendingResize := none, stage := .applying size }

/-- `recv_timeout`: a command, or the end of the wait when there is none. -/
def receive (s : LocalShell) (answer : Answer) : LocalShell :=
  match answer, s.commands with
  | .ok, .send :: commands => { s with commands := commands, stage := .writing }
  | .ok, _ :: commands => { s with commands := commands, stage := .looping }
  | .failed, [] => { s with stage := .looping }
  | .disconnected, [] => { s with shutdownRequested := true, stage := .looping }
  | _, _ => s

/-- One step of `drive_local_shell` and of `run_local_shell` around it. -/
def work (s : LocalShell) (answer : Answer) : LocalShell :=
  match s.stage, answer with
  | .opening, .ok => { s with resizes := ptySize s.initialSize :: s.resizes, stage := .starting }
  | .starting, .ok => { s with appliedSize := s.initialSize, stage := .looping }
  | .looping, _ => { s with stage := if s.shutdownRequested then .stopped else .taking }
  | .taking, _ => s.takePending
  | .applying size, .ok =>
    { s with resizes := ptySize size :: s.resizes, appliedSize := size, stage := .reporting }
  | .reporting, _ => { s with stage := .polling }
  -- the child is still running
  | .polling, .ok => { s with stage := .receiving }
  | .receiving, answer => s.receive answer
  | .writing, .ok => { s with stage := .looping }
  | .stopped, _ => { s with stage := .gone }
  | .gone, _ => s
  | .opening, _ | .starting, _ | .applying _, _ | .polling, _ | .writing, _ =>
    { s with stage := .stopped }

def step (s : LocalShell) : LocalInput → LocalShell
  | .request request => (s.requestResizeWithPixels request).toOption.getD s
  | .store => s.storePending
  | .wake => s.finishRequest
  | .send => s.trySend .send
  | .readerCloses => s.trySend .readerClosed
  | .shutdown => { s with shutdownRequested := true }.trySend .wake
  | .work answer => s.work answer

end LocalShell

/-! ## The SSH shell -/

inductive SshStage where
  /-- Before `run_shell_session` reads the size. -/
  | preparing
  /-- In `open_shell`. -/
  | opening (size : BackendSize)
  /-- The events of the connection are being sent. -/
  | announcing
  | selecting
  /-- In `shell.resize`. -/
  | resizing (size : BackendSize)
  /-- `Resized` is being sent. -/
  | reporting
  /-- The loop is left and the receiver of the sizes is still there. -/
  | stopped
  | gone
deriving DecidableEq, Repr

structure SshShell where
  resize : Watch BackendSize
  stage : SshStage := .preparing
  requests : List SizeRequest
  /-- The sizes of `request_pty` and of the `window_change`s, newest first. -/
  resizes : List BackendSize := []
deriving DecidableEq, Repr

inductive SshInput where
  | request (request : SizeRequest)
  /-- `resize_rx.changed()` wins the `select!`. -/
  | changed
  | work (answer : Answer)
deriving DecidableEq, Repr

/-- The closure that the handles give to `send_if_modified`. -/
def replaceBy (size current : BackendSize) : Option BackendSize :=
  if current = size then none else some size

namespace SshShell

def spawn (columns rows : Nat) : SshShell :=
  { resize := .channel (backend columns rows)
    requests := [{ columns := columns, rows := rows }] }

def requestResizeWithPixels (s : SshShell) (request : SizeRequest) : Except String SshShell := do
  validateBackendSize request.columns request.rows
  if s.stage = .gone then .error "cannot update terminal size after SSH worker stopped"
  else return { s with resize := s.resize.sendIfModified (replaceBy request.size)
                       requests := s.requests ++ [request] }

/-- The branch of `resize_rx.changed()`. -/
def changed (s : SshShell) : SshShell :=
  if s.stage = .selecting ∧ s.resize.hasChanged then
    let (size, resize) := s.resize.borrowAndUpdate
    { s with resize := resize, stage := .resizing size }
  else s

/-- One step of `run_shell_session`; in `selecting` one of the other branches. -/
def work (s : SshShell) (answer : Answer) : SshShell :=
  match s.stage, answer with
  | .preparing, .ok =>
    let (size, resize) := s.resize.borrowAndUpdate
    { s with resize := resize, stage := .opening size }
  | .opening size, .ok => { s with resizes := size :: s.resizes, stage := .announcing }
  | .announcing, .ok => { s with stage := .selecting }
  | .selecting, .ok => s
  | .resizing size, .ok => { s with resizes := size :: s.resizes, stage := .reporting }
  | .reporting, .ok => { s with stage := .selecting }
  | .stopped, _ => { s with stage := .gone }
  | .gone, _ => s
  | .preparing, _ | .opening _, _ | .announcing, _ | .selecting, _ | .resizing _, _
  | .reporting, _ => { s with stage := .stopped }

def step (s : SshShell) : SshInput → SshShell
  | .request request => (s.requestResizeWithPixels request).toOption.getD s
  | .changed => s.changed
  | .work answer => s.work answer

end SshShell

/-! ## The Telnet terminal -/

/-- The option of RFC 1073. -/
def naws : UInt8 := 31

/-- What `parser.receive` returns, as far as `handle_inbound_frames` tells it apart. -/
inductive TelnetEvent where
  | negotiation (command option : UInt8)
  /-- Data, an answer to write or a subnegotiation. -/
  | other
deriving DecidableEq, Repr

inductive TelnetStage where
  | connecting
  | selecting
  /-- In `send_window_size` of the branch of `resize_rx.changed()`. -/
  | resizing (size : BackendSize)
  /-- In `handle_inbound_frames` with the size it was called with, before these events. -/
  | reading (size : BackendSize) (events : List TelnetEvent)
  /-- In `send_window_size` of `handle_inbound_frames`. -/
  | enabling (size : BackendSize) (events : List TelnetEvent)
  | stopped
  | gone
deriving DecidableEq, Repr

structure TelnetTerminal where
  resize : Watch BackendSize
  nawsEnabled : Bool := false
  stage : TelnetStage := .connecting
  requests : List SizeRequest
  /-- The payloads of the NAWS subnegotiations, newest first. -/
  resizes : List (List UInt8) := []
deriving DecidableEq, Repr

inductive TelnetInput where
  | request (columns rows : Nat)
  /-- `resize_rx.changed()` wins the `select!`. -/
  | changed
  /-- `reader.read` wins the `select!`, and the frames hold these events. -/
  | received (events : List TelnetEvent)
  | work (answer : Answer)
deriving DecidableEq, Repr

def terminalSize (columns rows : Nat) : BackendSize := backend columns rows

/-- `(value as u16).to_be_bytes()`. -/
def u16Bytes (value : Nat) : List UInt8 :=
  [UInt8.ofNat (value % 2 ^ 16 / 256), UInt8.ofNat (value % 2 ^ 16 % 256)]

/-- The payload that `send_window_size` builds. -/
def windowSizePayload (size : BackendSize) : List UInt8 :=
  u16Bytes size.columns ++ u16Bytes size.rows

namespace TelnetTerminal

def spawn (columns rows : Nat) : TelnetTerminal :=
  { resize := .channel (terminalSize columns rows)
    requests := [{ columns := columns, rows := rows }] }

def requestResize (s : TelnetTerminal) (columns rows : Nat) : Except String TelnetTerminal :=
  if s.stage = .gone then .error "cannot resize after Telnet worker stopped"
  else .ok { s with resize := s.resize.sendIfModified (replaceBy (terminalSize columns rows))
                    requests := s.requests ++ [{ columns := columns, rows := rows }] }

/-- The branch of `resize_rx.changed()`. -/
def changed (s : TelnetTerminal) : TelnetTerminal :=
  if s.stage = .selecting ∧ s.resize.hasChanged then
    let (size, resize) := s.resize.borrowAndUpdate
    { s with resize := resize, stage := if s.nawsEnabled then .resizing size else .selecting }
  else s

/-- The branch of `reader.read`, with the frames that it could read. -/
def received (s : TelnetTerminal) (events : List TelnetEvent) : TelnetTerminal :=
  if s.stage = .selecting then { s with stage := .reading s.resize.borrow events } else s

/-- One event of `handle_inbound_frames`. -/
def handleEvent (s : TelnetTerminal) (size : BackendSize) (event : TelnetEvent)
    (events : List TelnetEvent) (answer : Answer) : TelnetTerminal :=
  match event with
  | .negotiation command option =>
    if option = naws ∧ command = OpCommand.do then
      if s.nawsEnabled then { s with stage := .reading size events }
      else { s with nawsEnabled := true, stage := .enabling size events }
    else if option = naws ∧ command = OpCommand.dont then
      { s with nawsEnabled := false, stage := .reading size events }
    else { s with stage := .reading size events }
  | .other => { s with stage := if answer = .ok then .reading size events else .stopped }

/-- One step of `run_telnet_session`; in `selecting` one of the other branches. -/
def work (s : TelnetTerminal) (answer : Answer) : TelnetTerminal :=
  match s.stage, answer with
  | .connecting, .ok => { s with stage := .selecting }
  | .selecting, .ok => s
  | .resizing size, .ok =>
    { s with resizes := windowSizePayload size :: s.resizes, stage := .selecting }
  | .reading _ [], _ => { s with stage := .selecting }
  | .reading size (event :: events), answer => s.handleEvent size event events answer
  | .enabling size events, .ok =>
    { s with resizes := windowSizePayload size :: s.resizes, stage := .reading size events }
  | .stopped, _ => { s with stage := .gone }
  | .gone, _ => s
  | .connecting, _ | .selecting, _ | .resizing _, _ | .enabling _ _, _ =>
    { s with stage := .stopped }

def step (s : TelnetTerminal) : TelnetInput → TelnetTerminal
  | .request columns rows => (s.requestResize columns rows).toOption.getD s
  | .changed => s.changed
  | .received events => s.received events
  | .work answer => s.work answer

end TelnetTerminal

end AxSsh.Resize
