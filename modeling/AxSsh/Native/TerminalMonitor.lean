import AxSsh.ForStd.AssocMap
import AxSsh.Native.TerminalDisplay

/-!
# Terminal monitors

The deadline of `app/terminal_presentation.rs` that output waits for, and the three monitors that
process the events of a worker: `spawn_direct_monitor` in `connection/direct.rs`,
`spawn_session_monitor` in `connection_monitor.rs` and `spawn_local_shell_monitor` in
`terminal_bridge/local_shell.rs`.

A turn of a monitor's loop is one step: an event of its worker, the end of the event stream, or a
deadline.  Which of these is ready, the route and the policy of the tab and the times on the clock
come with the step; the queue budget of `try_recv_before_present` only decides between ready ones.
An exit that closes the tab is no step, as the tab is gone after it.
-/

namespace AxSsh

/-! ## Deadlines -/

/-- Durations are in nanoseconds. -/
def focusedFastInterval : Nat := 1000000000 / 60
def focusedBalancedInterval : Nat := 1000000000 / 30
def focusedSustainedInterval : Nat := 1000000000 / 20
def quietResetInterval : Nat := 250000000
def balancedAfter : Nat := 500000000
def sustainedAfter : Nat := 2000000000

inductive TerminalPresentationMode where
  | hidden
  | unfocused
  | focused
deriving DecidableEq, Repr

structure TerminalPresentationPolicy where
  focusedFps : Nat := 60
  unfocusedFps : Nat := 4
  softwareRenderer : Bool := false
deriving DecidableEq, Repr

def frameInterval (fps : Nat) : Nat := 1000000000 / max fps 1

def TerminalPresentationPolicy.focusedInterval (p : TerminalPresentationPolicy) : Nat :=
  frameInterval p.focusedFps

def TerminalPresentationPolicy.unfocusedInterval (p : TerminalPresentationPolicy) : Nat :=
  frameInterval p.unfocusedFps

structure TerminalPresentationState where
  dirty : Bool := false
  firstFrame : Bool := false
  pendingSince : Option Instant := none
  burstStartedAt : Option Instant := none
  lastOutputAt : Option Instant := none
  lastPresentedAt : Option Instant := none
deriving DecidableEq, Repr

namespace TerminalPresentationState

def recordOutput (now : Instant) (s : TerminalPresentationState) : TerminalPresentationState :=
  let startsNewBurst := s.lastOutputAt.all fun lastOutputAt =>
    quietResetInterval ≤ now - lastOutputAt
  { s with
    burstStartedAt := if startsNewBurst then some now else s.burstStartedAt
    firstFrame := startsNewBurst || s.firstFrame
    pendingSince := some (s.pendingSince.getD now)
    lastOutputAt := some now
    dirty := true }

def focusedInterval (policy : TerminalPresentationPolicy) (s : TerminalPresentationState) : Nat :=
  let burstDuration :=
    match s.lastOutputAt, s.burstStartedAt with
    | some lastOutputAt, some burstStartedAt => lastOutputAt - burstStartedAt
    | _, _ => 0
  if sustainedAfter ≤ burstDuration then max focusedSustainedInterval policy.focusedInterval
  else if balancedAfter ≤ burstDuration then max focusedBalancedInterval policy.focusedInterval
  else max focusedFastInterval policy.focusedInterval

def deadline (mode : TerminalPresentationMode) (policy : TerminalPresentationPolicy)
    (now : Instant) (s : TerminalPresentationState) : Option Instant :=
  if s.dirty = false then none
  else match mode with
    | .hidden => none
    | .focused =>
      match s.pendingSince, s.lastOutputAt with
      | some pendingSince, some lastOutputAt =>
        let settleInterval := min focusedFastInterval policy.focusedInterval
        let coalesceUntil := min (lastOutputAt + settleInterval) (pendingSince + settleInterval * 2)
        let frameDeadline :=
          if s.firstFrame then pendingSince + settleInterval
          else
            let interval :=
              if policy.softwareRenderer then policy.focusedInterval else s.focusedInterval policy
            (s.lastPresentedAt.map (· + interval)).getD pendingSince
        some (max frameDeadline coalesceUntil)
      | _, _ => none
    | .unfocused => some ((s.lastPresentedAt.map (· + policy.unfocusedInterval)).getD now)

def markPresented (now : Instant) (s : TerminalPresentationState) : TerminalPresentationState :=
  { s with dirty := false, firstFrame := false, pendingSince := none, lastPresentedAt := some now }

def clearPending (s : TerminalPresentationState) : TerminalPresentationState :=
  { s with dirty := false, firstFrame := false, pendingSince := none }

end TerminalPresentationState

structure TerminalPresentation where
  state : TerminalPresentationState := {}
  earliestOutputReceivedAt : Option Instant := none
  outputHoldUntil : Option Instant := none
deriving DecidableEq, Repr

namespace TerminalPresentation

def recordOutput (now receivedAt : Instant) (holdFor : Option Nat) (p : TerminalPresentation) :
    TerminalPresentation :=
  { state := p.state.recordOutput now
    outputHoldUntil := holdFor.map (now + ·)
    earliestOutputReceivedAt :=
      some ((p.earliestOutputReceivedAt.map (min · receivedAt)).getD receivedAt) }

def hasPendingOutput (p : TerminalPresentation) : Bool := p.state.dirty

def clearPendingOutput (p : TerminalPresentation) : TerminalPresentation :=
  { state := p.state.clearPending, earliestOutputReceivedAt := none, outputHoldUntil := none }

/-- The hold that is not over yet. -/
def holdUntil (now : Instant) (p : TerminalPresentation) : Option Instant :=
  p.outputHoldUntil.filter (now < ·)

def deadline (mode : TerminalPresentationMode) (policy : TerminalPresentationPolicy)
    (now : Instant) (p : TerminalPresentation) : Option Instant :=
  (p.state.deadline mode policy now).map fun deadline =>
    ((p.holdUntil now).map (max deadline ·)).getD deadline

def isReady (mode : TerminalPresentationMode) (policy : TerminalPresentationPolicy)
    (now : Instant) (p : TerminalPresentation) : Bool :=
  (p.deadline mode policy now).any (· ≤ now)

/-- What `wait_until_ready` leaves when the deadline has passed. -/
def present (now : Instant) (p : TerminalPresentation) : TerminalPresentation :=
  { state := p.state.markPresented now
    outputHoldUntil := p.holdUntil now
    earliestOutputReceivedAt := none }

end TerminalPresentation

/-! ## Monitors -/

inductive MonitorKind where
  | ssh
  | direct
  | «local»
deriving DecidableEq, Repr

/-- The local variables of a monitor. -/
structure Monitor where
  presentation : TerminalPresentation := {}
  terminalEvent : Bool := false
deriving DecidableEq, Repr

/-- An event of a worker, as far as the presentation goes. -/
inductive MonitorEvent where
  /-- Output, processed and recorded at two instants. -/
  | output (now recordedAt receivedAt : Instant) (data : List UInt8) (workerAccepts : Bool)
  | disconnected
  | failed
  /-- A rejected host key or credential; some of the branches `continue` past the end of the
      turn. -/
  | retry (skipsEnd : Bool)
  /-- Any other event. -/
  | other (skipsEnd : Bool)
deriving DecidableEq, Repr

/-- A terminal tab and the monitors that were started for it and still run. -/
structure MonitoredTab (σ : Type) where
  tab : DisplayTab σ
  kind : MonitorKind
  /-- The attempt of the tab's route. -/
  attempt : Option Uuid
  monitors : AssocMap Uuid Monitor

namespace MonitoredTab

variable {σ : Type}

/-- `mutate_terminal_attempt`, `mutate_direct_attempt` or `mutate_local_terminal` finds the tab. -/
def current (s : MonitoredTab σ) (id : Uuid) : Bool := s.kind = .local || s.attempt = some id

/-- `retire_session_attempt`, `finish_direct_attempt` and the retries take the route's attempt
    away. -/
def retire (s : MonitoredTab σ) (id : Uuid) : MonitoredTab σ :=
  if s.current id then { s with attempt := none } else s

def setMonitor (s : MonitoredTab σ) (id : Uuid) (monitor : Monitor) : MonitoredTab σ :=
  { s with monitors := s.monitors.insert id monitor }

def endMonitor (s : MonitoredTab σ) (id : Uuid) : MonitoredTab σ :=
  { s with monitors := s.monitors.erase id }

/-- The end of a turn of the SSH monitor. -/
def finishTurn (kind : MonitorKind) (monitor : Monitor) : Monitor :=
  if kind = .ssh ∧ monitor.terminalEvent then
    { monitor with presentation := monitor.presentation.clearPendingOutput }
  else monitor

def handleOutput (E : Emulator σ) (id : Uuid) (monitor : Monitor)
    (now recordedAt receivedAt : Instant) (data : List UInt8) (workerAccepts : Bool)
    (s : MonitoredTab σ) : MonitoredTab σ :=
  if s.current id then
    let (tab, result) := s.tab.processTerminalOutput E now data workerAccepts
    let presentationHold := match result with
      | .ok hold => hold
      | .error _ => none
    let presentation :=
      if data ≠ [] then monitor.presentation.recordOutput recordedAt receivedAt presentationHold
      else monitor.presentation
    { s with tab := tab }.setMonitor id (finishTurn s.kind { monitor with presentation })
  else s.setMonitor id (finishTurn s.kind monitor)

/-- An event that ends the connection. -/
def handleTerminalEvent (id : Uuid) (monitor : Monitor) (s : MonitoredTab σ) : MonitoredTab σ :=
  let monitor :=
    { presentation := monitor.presentation.clearPendingOutput, terminalEvent := true }
  (s.retire id).setMonitor id monitor

def handleEvent (E : Emulator σ) (id : Uuid) (monitor : Monitor) (s : MonitoredTab σ) :
    MonitorEvent → MonitoredTab σ
  | .output now recordedAt receivedAt data workerAccepts =>
    s.handleOutput E id monitor now recordedAt receivedAt data workerAccepts
  | .disconnected =>
    if s.kind = .local then s else s.handleTerminalEvent id monitor
  | .failed =>
    -- the local monitor leaves its loop
    if s.kind = .local then s.endMonitor id else s.handleTerminalEvent id monitor
  | .retry skipsEnd =>
    if s.kind = .ssh then
      let monitor := { monitor with terminalEvent := true }
      (s.retire id).setMonitor id (if skipsEnd then monitor else finishTurn s.kind monitor)
    else s
  | .other skipsEnd => if skipsEnd then s else s.setMonitor id (finishTurn s.kind monitor)

/-- `events.recv()` answers `None`. -/
def endStream (id : Uuid) (monitor : Monitor) (s : MonitoredTab σ) : MonitoredTab σ :=
  let s := if s.kind = .ssh ∨ monitor.terminalEvent = false then s.retire id else s
  s.endMonitor id

/-- The deadline of a monitor passes; the snapshot is prepared a little later. -/
def present (E : Emulator σ) (id : Uuid) (monitor : Monitor) (now preparedAt : Instant)
    (s : MonitoredTab σ) : MonitoredTab σ :=
  { s with tab := (s.tab.prepareTerminalOutputSnapshot E preparedAt).1 }.setMonitor id
    { monitor with presentation := monitor.presentation.present now }

/-- The user disconnects or retries: the route has no attempt until the next one starts. -/
def dropAttempt (s : MonitoredTab σ) : MonitoredTab σ := { s with attempt := none }

/-- A connection attempt sets the route of the tab and starts a monitor. -/
def startAttempt (id : Uuid) (s : MonitoredTab σ) : MonitoredTab σ :=
  { s with attempt := some id }.setMonitor id {}

end MonitoredTab

/-- A step of a tab, its monitors and the UI. -/
inductive MonitorOp where
  | event (id : Uuid) (event : MonitorEvent)
  | endStream (id : Uuid)
  | present (id : Uuid) (mode : TerminalPresentationMode) (policy : TerminalPresentationPolicy)
      (now preparedAt : Instant)
  | startAttempt (id : Uuid)
  | dropAttempt
  | refresh (now : Instant)
  | resize (columns rows cellWidth cellHeight : UInt32) (accepted : Bool × Bool)
  | scroll (lines : Int)
  | scrollToBottom
  | applySettings (scrollbackLines : Nat) (osc52Clipboard : Bool)
deriving DecidableEq, Repr

namespace MonitoredTab

variable {σ : Type}

/-- A step of a monitor that has ended, a deadline that has not passed and an attempt whose id is
    in use are no steps. -/
def apply (E : Emulator σ) (s : MonitoredTab σ) : MonitorOp → MonitoredTab σ
  | .event id event =>
    match s.monitors.lookup id with
    | none => s
    | some monitor => s.handleEvent E id monitor event
  | .endStream id =>
    match s.monitors.lookup id with
    | none => s
    | some monitor => s.endStream id monitor
  | .present id mode policy now preparedAt =>
    match s.monitors.lookup id with
    | none => s
    | some monitor =>
      if monitor.presentation.isReady mode policy now then s.present E id monitor now preparedAt
      else s
  | .startAttempt id =>
    match s.monitors.lookup id with
    | none => s.startAttempt id
    | some _ => s
  | .dropAttempt => s.dropAttempt
  | .refresh now => { s with tab := (s.tab.terminalSnapshotForUi E now).1 }
  | .resize columns rows cellWidth cellHeight accepted =>
    { s with
      tab := (s.tab.resizeTerminalWithMetrics E columns rows cellWidth cellHeight accepted).1 }
  | .scroll lines => { s with tab := (s.tab.scrollTerminal E lines).1 }
  | .scrollToBottom => { s with tab := (s.tab.scrollTerminalToBottom E).1 }
  | .applySettings scrollbackLines osc52Clipboard =>
    { s with tab := s.tab.applyScrollbackSetting E scrollbackLines osc52Clipboard }

end MonitoredTab

end AxSsh
