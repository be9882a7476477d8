import AxSsh.ForStd.Transition
import AxSsh.ForStd.Watch

/-!
# The latency monitor

`LatencyMonitor` in `ssh/worker/latency.rs`: one request at a time on the transport of a session,
with a deadline for its reply and one for the last sample.

`next_event` is a loop around a `select!`, and the worker drops its future whenever another branch
of its own `select!` is ready.  A step of the system runs the head of the loop, takes one branch
that is ready, calls `next_event` or drops its future, or belongs to the surroundings: the clock,
the sender of the foreground state and the transport.  The transport answers its requests in
order, as replies carry no id.
-/

namespace AxSsh

/-! ## The monitor -/

/-- Durations and instants are in nanoseconds. -/
def foregroundInterval : Nat := 10000000000
def backgroundInterval : Nat := 30000000000
def probeTimeout : Nat := 5000000000
def sampleLifetime : Nat := 90000000000

/-- What `measure_latency` ends with; the text of an error only goes to the program's log. -/
inductive LatencyReply where
  | ok (roundTrip : Nat)
  | error
deriving DecidableEq, Repr

/-- The variants of `SshSessionEvent` that `next_event` returns. -/
inductive LatencyEvent where
  | measured (roundTrip measuredAt : Nat)
  | timedOut
  | expired
  | unavailable
deriving DecidableEq, Repr

/-- The future of a request, and what it is ready with. -/
structure LatencyProbe where
  request : Nat
  reply : Option LatencyReply
deriving DecidableEq, Repr

structure LatencyMonitor where
  probe : Option LatencyProbe
  /-- Whether the receiver of the foreground state is still there. -/
  foregroundRx : Bool
  foreground : Bool
  lastCompletion : Nat
  nextProbe : Nat
  deadline : Nat
  expires : Nat
  timedOut : Bool
  expired : Bool
  stopped : Bool
deriving DecidableEq, Repr

def probeInterval (foreground : Bool) : Nat :=
  if foreground then foregroundInterval else backgroundInterval

namespace LatencyMonitor

def withProbe (now : Nat) (foreground : Bool) : LatencyMonitor where
  probe := none
  foregroundRx := true
  foreground := foreground
  lastCompletion := now
  nextProbe := now
  deadline := now
  expires := now + sampleLifetime
  timedOut := false
  expired := false
  stopped := false

def interval (m : LatencyMonitor) : Nat := probeInterval m.foreground

/-- The condition at the head of the loop. -/
def probeDue (m : LatencyMonitor) (now : Nat) : Bool :=
  m.probe.isNone && !m.stopped && decide (m.nextProbe ≤ now)

def startProbe (m : LatencyMonitor) (request now : Nat) : LatencyMonitor :=
  { m with probe := some ⟨request, none⟩, deadline := now + probeTimeout, timedOut := false }

/-- The transport makes the future of a request ready. -/
def receive (m : LatencyMonitor) (request : Nat) (reply : LatencyReply) : LatencyMonitor :=
  if m.probe = some ⟨request, none⟩ then { m with probe := some ⟨request, some reply⟩ } else m

/-! ### The branches of the `select!` -/

/-- The fields that every completion sets. -/
def complete (m : LatencyMonitor) (now : Nat) : LatencyMonitor :=
  { m with
    probe := none
    lastCompletion := now
    nextProbe := now + m.interval
    expires := now + sampleLifetime
    expired := false }

def onReply (m : LatencyMonitor) (reply : LatencyReply) (now : Nat) :
    LatencyMonitor × LatencyEvent :=
  match reply with
  | .ok roundTrip => (m.complete now, .measured roundTrip now)
  | .error => ({ m.complete now with stopped := true, expired := true }, .unavailable)

def onDeadline (m : LatencyMonitor) (now : Nat) : LatencyMonitor :=
  { m with timedOut := true, expires := now + sampleLifetime, expired := false }

def onExpires (m : LatencyMonitor) : LatencyMonitor := { m with expired := true }

def onChanged (m : LatencyMonitor) (foreground : Bool) : LatencyMonitor :=
  { m with foreground, nextProbe := m.lastCompletion + probeInterval foreground }

end LatencyMonitor

/-! ## The monitor in its surroundings -/

/-- Where a call of `next_event` stands. -/
inductive NextEvent where
  /-- There is no call, or its future was dropped. -/
  | idle
  | loopHead
  | selecting
deriving DecidableEq, Repr

inductive LatencyBranch where
  | reply
  | deadline
  | expires
  | nextProbe
  | changed
deriving DecidableEq, Repr

/-- What a run has seen; `returned` carries the request of the probe that was held. -/
inductive LatencyEntry where
  | sent (foreground : Bool)
  | read (foreground : Bool)
  | started (request time : Nat)
  | replied (request : Nat) (reply : LatencyReply)
  | returned (request : Option Nat) (event : LatencyEvent) (time : Nat)
deriving DecidableEq, Repr

structure LatencySystem where
  monitor : LatencyMonitor
  /-- The foreground state, and whether the monitor's receiver has seen it. -/
  channel : Watch Bool
  senderDropped : Bool
  now : Nat
  control : NextEvent
  /-- How many requests were sent; the next one gets this number. -/
  requests : Nat
  /-- The requests without a reply, the oldest first. -/
  inFlight : List Nat
  /-- The newest entry first. -/
  log : List LatencyEntry
deriving DecidableEq, Repr

inductive LatencyLabel where
  | tick (elapsed : Nat)
  | setForeground (foreground : Bool)
  | dropSender
  | answer (reply : LatencyReply)
  | call
  | dropFuture
  | enter
  | take (branch : LatencyBranch)
deriving DecidableEq, Repr

namespace LatencySystem

def opened (now : Nat) (foreground : Bool) : LatencySystem where
  monitor := .withProbe now foreground
  channel := .channel foreground
  senderDropped := false
  now := now
  control := .idle
  requests := 0
  inFlight := []
  log := [.read foreground, .sent foreground]

/-- `set_latency_foreground`. -/
def setLatencyForeground (s : LatencySystem) (foreground : Bool) : LatencySystem :=
  { s with
    channel := s.channel.sendIfModified fun current =>
      if current = foreground then none else some foreground
    log := if s.channel.borrow = foreground then s.log else .sent foreground :: s.log }

def answer (s : LatencySystem) (reply : LatencyReply) : Option LatencySystem :=
  match s.inFlight with
  | [] => none
  | request :: rest => some { s with
      inFlight := rest
      monitor := s.monitor.receive request reply
      log := .replied request reply :: s.log }

/-- From the head of the loop to the `select!`. -/
def enter (s : LatencySystem) : LatencySystem :=
  if s.monitor.probeDue s.now then
    { s with
      monitor := s.monitor.startProbe s.requests s.now
      control := .selecting
      requests := s.requests + 1
      inFlight := s.inFlight ++ [s.requests]
      log := .started s.requests s.now :: s.log }
  else { s with control := .selecting }

/-- `next_event` returns an event. -/
def returns (s : LatencySystem) (monitor : LatencyMonitor) (event : LatencyEvent) :
    LatencySystem :=
  { s with
    monitor
    control := .idle
    log := .returned (s.monitor.probe.map (·.request)) event s.now :: s.log }

/-- The `changed` branch: a value that was not seen comes before the end of the channel. -/
def takeChanged (s : LatencySystem) : Option LatencySystem :=
  if s.monitor.foregroundRx then
    if s.channel.hasChanged then
      let (foreground, channel) := s.channel.borrowAndUpdate
      some { s with
        monitor := s.monitor.onChanged foreground
        channel
        control := .loopHead
        log := .read foreground :: s.log }
    else if s.senderDropped then
      some { s with monitor := { s.monitor with foregroundRx := false }, control := .loopHead }
    else none
  else none

/-- A branch of the `select!`, where it is ready. -/
def take (s : LatencySystem) : LatencyBranch → Option LatencySystem
  | .reply =>
    match s.monitor.probe with
    | some ⟨_, some reply⟩ =>
      let (monitor, event) := s.monitor.onReply reply s.now
      some (s.returns monitor event)
    | _ => none
  | .deadline =>
    if s.monitor.probe.isSome && !s.monitor.timedOut && decide (s.monitor.deadline ≤ s.now) then
      some (s.returns (s.monitor.onDeadline s.now) .timedOut)
    else none
  | .expires =>
    if !s.monitor.expired && decide (s.monitor.expires ≤ s.now) then
      some (s.returns s.monitor.onExpires .expired)
    else none
  | .nextProbe => if s.monitor.probeDue s.now then some { s with control := .loopHead } else none
  | .changed => s.takeChanged

def step (s : LatencySystem) : LatencyLabel → Option LatencySystem
  | .tick elapsed => some { s with now := s.now + elapsed }
  | .setForeground foreground =>
    if s.senderDropped then none else some (s.setLatencyForeground foreground)
  | .dropSender => some { s with senderDropped := true }
  | .answer reply => s.answer reply
  | .call => if s.control = .idle then some { s with control := .loopHead } else none
  | .dropFuture => if s.control = .idle then none else some { s with control := .idle }
  | .enter => if s.control = .loopHead then some s.enter else none
  | .take branch => if s.control = .selecting then s.take branch else none

end LatencySystem

/-- Every schedule of a monitor that is made with any foreground state. -/
def latencySystem : Transition LatencySystem LatencyLabel where
  init s := ∃ now foreground, s = .opened now foreground
  step s label s' := s.step label = some s'

end AxSsh
