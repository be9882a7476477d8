import AxSsh.ForStd.Transition
import AxSsh.Native.AppTabs

/-!
# Reconnecting a terminal tab

The reconnect fields of `TerminalTabState` with their operations in `app/state/terminal.rs`, the
sections that end a connection attempt in `app/state/transitions.rs` and `connection/direct.rs`,
`schedule_reconnect` and its timer in `connection/reconnect.rs`, and the monitors that call them.

A monitor carries the id of its attempt and a timer the generation of its reconnect.  Both are
tasks, and every section that holds the lock of `AppState` is one step of its task, so other steps
come between two sections of one handler.  The fields that no section here reads are one value of
type `σ`, and what a section does to them comes with the step.
-/

namespace AxSsh

inductive ReconnectProtocol where
  | ssh
  | telnet
  | serial
deriving DecidableEq, Repr

structure PendingHostKey where
  fingerprint : String
  changed : Bool
  revoked : Bool
deriving DecidableEq, Repr

inductive SshConnectionPhase where
  | idle
  | probing
  | awaitingHostKey (prompt : PendingHostKey)
  | confirmingHostKey (prompt : PendingHostKey)
  | awaitingAuthentication (vaultUnlockOnly : Bool)
  | loadingStoredCredential
deriving DecidableEq, Repr

/-- `ssh_route`, `telnet_route` and `serial_route`. -/
def TerminalBackend.route? (protocol : ReconnectProtocol) :
    TerminalBackend → Option (Uuid × Option Uuid)
  | .ssh profileId attemptId | .sftp profileId attemptId =>
    if protocol = .ssh then some (profileId, attemptId) else none
  | .telnet profileId attemptId =>
    if protocol = .telnet then some (profileId, attemptId) else none
  | .serial profileId attemptId =>
    if protocol = .serial then some (profileId, attemptId) else none
  | .local => none

/-- `set_ssh_attempt`, `set_telnet_attempt` and `set_serial_attempt`. -/
def TerminalBackend.setAttempt (protocol : ReconnectProtocol) (attemptId : Option Uuid) :
    TerminalBackend → TerminalBackend
  | .ssh profileId current => .ssh profileId (if protocol = .ssh then attemptId else current)
  | .sftp profileId current => .sftp profileId (if protocol = .ssh then attemptId else current)
  | .telnet profileId current =>
    .telnet profileId (if protocol = .telnet then attemptId else current)
  | .serial profileId current =>
    .serial profileId (if protocol = .serial then attemptId else current)
  | .local => .local

def TerminalBackend.profileId : TerminalBackend → Option Uuid
  | .ssh profileId _ | .sftp profileId _ | .telnet profileId _ | .serial profileId _ =>
    some profileId
  | .local => none

def maxReconnectAttempts : Nat := 5

structure ReconnectTab (σ : Type) where
  backend : TerminalBackend
  worker : Bool := false
  workerRunning : Bool := false
  connected : Bool := false
  status : String := ""
  sshPhase : SshConnectionPhase := .idle
  reconnectGeneration : Nat := 0
  reconnectAttempt : Nat := 0
  reconnecting : Bool := false
  reconnectEnabled : Bool := true
  /-- The fields that no section here reads. -/
  content : σ
deriving DecidableEq

namespace ReconnectTab

variable {σ : Type}

def beginReconnect (t : ReconnectTab σ) : ReconnectTab σ × Option (Nat × Nat) :=
  if t.reconnectEnabled = false ∨ t.reconnecting ∨ t.worker then (t, none)
  else
    -- `checked_add` on a u8
    if t.reconnectAttempt + 1 > 255 ∨ t.reconnectAttempt + 1 > maxReconnectAttempts then (t, none)
    else
      ({ t with reconnectAttempt := t.reconnectAttempt + 1, reconnecting := true },
       some (t.reconnectGeneration, t.reconnectAttempt + 1))

def reconnectCurrent (generation : Nat) (t : ReconnectTab σ) : Bool :=
  t.reconnectEnabled && t.reconnectGeneration == generation && t.reconnecting

def finishReconnectAttempt (generation : Nat) (t : ReconnectTab σ) : ReconnectTab σ × Bool :=
  if t.reconnectGeneration ≠ generation then (t, false)
  else ({ t with reconnecting := false }, true)

def markReconnectConnected (generation : Nat) (t : ReconnectTab σ) : ReconnectTab σ :=
  if t.reconnectGeneration ≠ generation then t
  else { t with reconnectAttempt := 0, reconnecting := false, reconnectEnabled := true }

/-- `rest` clears the pending clipboard read and cancels the media. -/
def cancelReconnect (rest : σ → σ) (t : ReconnectTab σ) : ReconnectTab σ :=
  { t with
    reconnectGeneration := (t.reconnectGeneration + 1) % 2 ^ 64
    reconnecting := false
    reconnectEnabled := false
    content := rest t.content }

def prepareManualRetry (rest : σ → σ) (t : ReconnectTab σ) : ReconnectTab σ :=
  { t with
    reconnectGeneration := (t.reconnectGeneration + 1) % 2 ^ 64
    reconnectAttempt := 0
    reconnecting := false
    reconnectEnabled := t.backend ≠ .local
    content := rest t.content }

def setSshPhase (phase : SshConnectionPhase) (t : ReconnectTab σ) : ReconnectTab σ :=
  if (t.backend.route? .ssh).isSome then { t with sshPhase := phase } else t

/-! ## Attempts -/

/-- `matches_attempt` and `direct_attempt_matches`. -/
def matchesAttempt (protocol : ReconnectProtocol) (profileId attemptId : Uuid)
    (t : ReconnectTab σ) : Bool :=
  t.backend.route? protocol == some (profileId, some attemptId)

/-- What `prepare_retry_with_phase`, `prepare_host_key_retry`, `retire_session_attempt` and
    `finish_direct_attempt` do to a tab of their attempt. -/
def endAttempt (protocol : ReconnectProtocol) (rest : σ → σ) (t : ReconnectTab σ) :
    ReconnectTab σ :=
  let t := (t.finishReconnectAttempt t.reconnectGeneration).1
  { t with
    worker := false
    backend := t.backend.setAttempt protocol none
    connected := false
    workerRunning := false
    content := rest t.content }

/-- What `start_session_worker`, `start_telnet_connection` and `start_serial_connection` do once
    they have checked the tab.  The serial worker is spawned later, when its port is found. -/
def startAttempt (protocol : ReconnectProtocol) (attemptId : Uuid) (status : String)
    (rest : σ → σ) (t : ReconnectTab σ) : ReconnectTab σ :=
  { t with
    backend := t.backend.setAttempt protocol (some attemptId)
    worker := t.worker || protocol ≠ .serial
    reconnectEnabled := true
    workerRunning := true
    connected := false
    status := status
    sshPhase := if protocol = .ssh then .idle else t.sshPhase
    content := rest t.content }

/-- `start_telnet_connection` and `start_serial_connection`. -/
def startDirect (protocol : ReconnectProtocol) (profileId attemptId : Uuid) (profileCurrent : Bool)
    (status : String) (rest : σ → σ) (t : ReconnectTab σ) : Except String (ReconnectTab σ) :=
  let label := if protocol = .telnet then "Telnet" else "Serial"
  if profileCurrent = false then
    .error (label ++ " session profile changed before the worker started")
  else if t.backend.route? protocol ≠ some (profileId, none) ∨ t.worker then
    .error (label ++ " terminal is stale or already has a worker")
  else .ok (t.startAttempt protocol attemptId status rest)

end ReconnectTab

/-! ## Tasks -/

inductive TaskSection where
  /-- The timer of a reconnect has slept. -/
  | fire
  /-- The timer starts the connection. -/
  | reconnect
  /-- `clear_reconnect_attempt`, which may schedule the next reconnect. -/
  | clear (status : String) (again : Bool)
  /-- `schedule_reconnect`. -/
  | schedule
  /-- `set_tab_status`. -/
  | status (status : String)
  | finishStoredCredentialRetry
  | closeTab
deriving DecidableEq, Repr

inductive TaskId where
  | attempt (attemptId : Uuid)
  | generation (generation : Nat)
deriving DecidableEq, Repr

/-- A monitor or a timer, with the sections that its current handler still has to run. -/
structure ReconnectTask where
  protocol : ReconnectProtocol
  profileId : Uuid
  id : TaskId
  todo : List TaskSection := []
deriving DecidableEq, Repr

inductive RejectedAuth where
  | agent
  | privateKey
  | password
deriving DecidableEq, Repr

/-- The events that a monitor handles in a section of its attempt. -/
inductive AttemptEvent (σ : Type) where
  | connected (status : String) (rest : σ → σ)
  /-- Output, latency, system release, SFTP, X11 and microphone events. -/
  | update (action : σ × String → σ × String)
  | shellExited (rest : σ → σ)
  | disconnected (rest : σ → σ)
  | hostKeyRejected (expected : Bool) (fingerprint : String) (rest : σ → σ)
  | hostKeyRevoked (fingerprint : String) (rest : σ → σ)
  | authenticationFailed (auth : RejectedAuth) (usedStoredCredential : Bool) (rest : σ → σ)
  | privateKeyFailed (message : String) (rest : σ → σ)
  | failed (message : String) (rest : σ → σ)
  | streamEnded (terminalEvent : Bool) (rest : σ → σ)
  /-- A serial port was found and opened. -/
  | serialOpened (portName : String)
  /-- `finish_direct_attempt`, with the reconnect that its callers schedule. -/
  | directFinished (status : String) (again : Bool) (rest : σ → σ)

namespace AttemptEvent

variable {σ : Type}

/-- The section of the event on a tab of its attempt. -/
def apply (protocol : ReconnectProtocol) (event : AttemptEvent σ) (t : ReconnectTab σ) :
    ReconnectTab σ :=
  match event with
  | .connected status rest =>
    let t := t.markReconnectConnected t.reconnectGeneration
    { t with connected := true, workerRunning := true, status := status, content := rest t.content }
  | .update action =>
    let result := action (t.content, t.status)
    { t with content := result.1, status := result.2 }
  | .hostKeyRejected expected fingerprint rest =>
    (t.endAttempt protocol rest).setSshPhase (.awaitingHostKey ⟨fingerprint, expected, false⟩)
  | .hostKeyRevoked fingerprint rest =>
    (t.endAttempt protocol rest).setSshPhase (.awaitingHostKey ⟨fingerprint, false, true⟩)
  | .authenticationFailed auth usedStoredCredential rest =>
    let ended := t.endAttempt protocol rest
    if auth = .agent then ended
    else if usedStoredCredential then ended.setSshPhase .loadingStoredCredential
    else ended.setSshPhase (.awaitingAuthentication false)
  | .privateKeyFailed _ rest =>
    (t.endAttempt protocol rest).setSshPhase (.awaitingAuthentication false)
  | .shellExited rest | .disconnected rest | .failed _ rest | .streamEnded _ rest =>
    t.endAttempt protocol rest
  | .serialOpened portName =>
    if t.worker then t
    else { t with worker := true, status := "Opening serial port " ++ portName ++ "..." }
  | .directFinished status _ rest => { t.endAttempt protocol rest with status := status }

/-- What the handler runs after that section. -/
def followUps : AttemptEvent σ → List TaskSection
  | .connected _ _ | .update _ | .serialOpened _ => []
  | .shellExited _ => [.closeTab]
  | .disconnected _ => [.schedule]
  | .hostKeyRejected _ _ _ => [.status "SSH host key changed; verify it before reconnecting"]
  | .hostKeyRevoked _ _ => [.status "SSH host key is revoked; remove the record explicitly"]
  | .authenticationFailed .agent _ _ =>
    [.status "The SSH server rejected the available agent identities"]
  | .authenticationFailed .privateKey true _ =>
    [.finishStoredCredentialRetry, .status "The server rejected this private key"]
  | .authenticationFailed .privateKey false _ => [.status "The server rejected this private key"]
  | .authenticationFailed .password true _ =>
    [.finishStoredCredentialRetry, .status "Saved password was rejected; enter a new password"]
  | .authenticationFailed .password false _ =>
    [.status "Authentication failed; check the password and try again"]
  | .privateKeyFailed message _ => [.status ("Private key could not be loaded: " ++ message)]
  | .failed message _ => [.schedule, .status ("Connection failed: " ++ message)]
  | .streamEnded terminalEvent _ => if terminalEvent then [] else [.schedule]
  | .directFinished _ again _ => if again then [.schedule] else []

def isConnected : AttemptEvent σ → Bool
  | .connected _ _ => true
  | _ => false

end AttemptEvent

inductive ReconnectAuth where
  /-- A private key, the agent, or a password that can be loaded. -/
  | stored
  | prompt (encryptedVault : Bool)
  | missing
deriving DecidableEq, Repr

/-- What a section learns from outside the tab. -/
structure TaskOutcome (σ : Type) where
  /-- The profile is there and still of the protocol. -/
  found : Bool := true
  profileCurrent : Bool := true
  auth : ReconnectAuth := .stored
  attemptId : Uuid := Uuid.nil
  status : String := ""
  rest : σ → σ := id

/-- What a section leaves. -/
structure SectionResult (σ : Type) where
  tab : Option (ReconnectTab σ)
  todo : List TaskSection := []
  spawned : List ReconnectTask := []
  /-- An automatic attempt has begun. -/
  started : Bool := false

namespace ReconnectTask

variable {σ : Type}

def secondsText (attempt : Nat) : String := toString (min (2 ^ min (attempt - 1) 5) 30)

def schedule (k : ReconnectTask) (t : ReconnectTab σ) (rest : List TaskSection) :
    SectionResult σ :=
  match t.beginReconnect with
  | (t, some (generation, attempt)) =>
    { tab := some { t with
        status := "Connection lost; reconnecting in " ++ secondsText attempt ++ "s (" ++
          toString attempt ++ "/" ++ toString maxReconnectAttempts ++ ")" }
      todo := rest
      spawned := [{
        protocol := k.protocol
        profileId := k.profileId
        id := .generation generation
        todo := [.fire] }]
      started := true }
  | (t, none) =>
    { tab := some (if maxReconnectAttempts ≤ t.reconnectAttempt then
        { t with
          status := "Reconnect failed after " ++ toString maxReconnectAttempts ++
            " attempts; retry manually" }
        else t)
      todo := rest }

/-- `reconnect_ssh`; `begin_authentication` goes on without the timer. -/
def reconnectSsh (k : ReconnectTask) (outcome : TaskOutcome σ) (tab : Option (ReconnectTab σ)) :
    Except String (Option (ReconnectTab σ)) :=
  match outcome.auth with
  | .missing => .error "SSH profile is no longer available"
  | .stored =>
    match tab with
    | some t =>
      if t.backend.profileId = some k.profileId ∧ (t.backend.route? .ssh).isSome then
        .ok (some (t.setSshPhase (.awaitingAuthentication false)))
      else .error "SSH reconnect is no longer current"
    | none => .error "SSH reconnect is no longer current"
  | .prompt encryptedVault =>
    .ok (tab.map fun t =>
      let t := (t.finishReconnectAttempt t.reconnectGeneration).1
      ({ t with
         status :=
           if encryptedVault then "Reconnect paused; unlock the saved SSH password to continue"
           else "Reconnect paused; enter the SSH password to continue" }).setSshPhase
        (.awaitingAuthentication encryptedVault))

/-- `start_telnet_connection` or `start_serial_connection` by the timer. -/
def reconnectDirect (k : ReconnectTask) (outcome : TaskOutcome σ) (tab : Option (ReconnectTab σ)) :
    Except String (ReconnectTab σ) :=
  match tab with
  | some t =>
    t.startDirect k.protocol k.profileId outcome.attemptId outcome.profileCurrent outcome.status
      outcome.rest
  | none => .error "terminal tab disappeared"

def reconnect (k : ReconnectTask) (outcome : TaskOutcome σ) (tab : Option (ReconnectTab σ)) :
    SectionResult σ :=
  match k.protocol with
  | .ssh =>
    match k.reconnectSsh outcome tab with
    | .ok tab => { tab := tab }
    | .error error => { tab := tab, todo := [.clear ("Reconnect failed: " ++ error) true] }
  | protocol =>
    match k.reconnectDirect outcome tab with
    | .ok t =>
      { tab := some t
        spawned := [{
          protocol := protocol, profileId := k.profileId, id := .attempt outcome.attemptId }] }
    | .error error => { tab := tab, todo := [.clear ("Reconnect failed: " ++ error) true] }

/-- `clear_reconnect_attempt` of a generation. -/
def clear (generation : Nat) (status : String) (again : Bool) (t : ReconnectTab σ) :
    SectionResult σ :=
  match t.finishReconnectAttempt generation with
  | (t, true) => { tab := some { t with status }, todo := if again then [.schedule] else [] }
  | (t, false) => { tab := some t }

/-- The timer has slept: it goes on only while its reconnect is current. -/
def fire (k : ReconnectTask) (generation : Nat) (found : Bool) (tab : Option (ReconnectTab σ)) :
    SectionResult σ :=
  if tab.any (fun t =>
      t.reconnectCurrent generation && t.backend.profileId == some k.profileId) && found then
    { tab, todo := [.status "Reconnecting...", .reconnect] }
  else
    { tab
      todo := [.clear
        "Session changed, uses a different protocol, or was removed; reconnect cancelled" false] }

def finishStoredCredentialRetry (k : ReconnectTask) (t : ReconnectTab σ)
    (rest : List TaskSection) : SectionResult σ :=
  if (t.backend.route? .ssh).any (·.1 == k.profileId) ∧ t.sshPhase = .loadingStoredCredential then
    { tab := some (t.setSshPhase (.awaitingAuthentication false)), todo := rest }
  else { tab := some t }

/-- One section of a task, with the sections that follow it in its handler. -/
def runSection (k : ReconnectTask) (outcome : TaskOutcome σ) (sec : TaskSection)
    (rest : List TaskSection) (tab : Option (ReconnectTab σ)) : SectionResult σ :=
  match sec, k.id, tab with
  | .fire, .generation generation, tab => k.fire generation outcome.found tab
  | .clear status again, .generation generation, some t => clear generation status again t
  | .reconnect, _, tab => k.reconnect outcome tab
  | .schedule, _, some t => k.schedule t rest
  | .status status, _, some t => { tab := some { t with status }, todo := rest }
  | .finishStoredCredentialRetry, _, some t => k.finishStoredCredentialRetry t rest
  | .closeTab, _, _ => { tab := none, todo := rest }
  | _, _, tab => { tab, todo := rest }

/-- The attempt or the generation that the task carries is the one of the tab. -/
def currentIn (k : ReconnectTask) (tab : Option (ReconnectTab σ)) : Bool :=
  tab.any fun t =>
    match k.id with
    | .attempt attemptId => t.matchesAttempt k.protocol k.profileId attemptId
    | .generation generation => t.reconnectGeneration == generation

end ReconnectTask

/-! ## The system -/

/-- What happened to the count of automatic attempts. -/
inductive ReconnectMark where
  | started
  | connected
  | retried
deriving DecidableEq, Repr

structure ReconnectSystem (σ : Type) where
  tab : Option (ReconnectTab σ)
  tasks : List ReconnectTask := []
  /-- The newest mark comes first. -/
  marks : List ReconnectMark := []
deriving DecidableEq

inductive ReconnectOp (σ : Type) where
  /-- A monitor receives an event. -/
  | deliver (task : Nat) (event : AttemptEvent σ)
  /-- A task runs its next section. -/
  | next (task : Nat) (outcome : TaskOutcome σ)
  /-- A handler gives up between two sections. -/
  | abandon (task : Nat)
  /-- `retry_terminal_notice_tab`. -/
  | retry (rest : σ → σ)
  | disconnect (rest : σ → σ)
  | close
  /-- `start_session_worker`, by the flow that authenticates. -/
  | startSession (profileId attemptId : Uuid) (status : String) (rest : σ → σ)
  | startDirect (protocol : ReconnectProtocol) (profileId attemptId : Uuid) (profileCurrent : Bool)
      (status : String) (rest : σ → σ)
  /-- The flows that probe, authenticate and show messages carry no id of an attempt. -/
  | edit (status : String) (phase : SshConnectionPhase) (rest : σ → σ)

namespace ReconnectSystem

variable {σ : Type}

def deliver (i : Nat) (event : AttemptEvent σ) (s : ReconnectSystem σ) : ReconnectSystem σ :=
  match s.tasks[i]?, s.tab with
  | some k, some t =>
    match k.id with
    | .attempt attemptId =>
      -- a monitor receives its next event when the handler of the last one has returned
      if k.todo = [] ∧ t.matchesAttempt k.protocol k.profileId attemptId then
        { s with
          tab := some (event.apply k.protocol t)
          tasks := s.tasks.set i { k with todo := event.followUps }
          marks := if event.isConnected then .connected :: s.marks else s.marks }
      else s
    | .generation _ => s
  | _, _ => s

def next (i : Nat) (outcome : TaskOutcome σ) (s : ReconnectSystem σ) : ReconnectSystem σ :=
  match s.tasks[i]? with
  | some k =>
    match k.todo with
    | sec :: rest =>
      let result := k.runSection outcome sec rest s.tab
      { tab := result.tab
        tasks := s.tasks.set i { k with todo := result.todo } ++ result.spawned
        marks := if result.started then .started :: s.marks else s.marks }
    | [] => s
  | none => s

def abandon (i : Nat) (s : ReconnectSystem σ) : ReconnectSystem σ :=
  match s.tasks[i]? with
  | some k => { s with tasks := s.tasks.set i { k with todo := [] } }
  | none => s

def retry (rest : σ → σ) (s : ReconnectSystem σ) : ReconnectSystem σ :=
  match s.tab with
  | some t =>
    if t.worker ∨ t.workerRunning then s
    else { s with tab := some (t.prepareManualRetry rest), marks := .retried :: s.marks }
  | none => s

def startSession (profileId attemptId : Uuid) (status : String) (rest : σ → σ)
    (s : ReconnectSystem σ) : ReconnectSystem σ :=
  match s.tab with
  | some t =>
    if (t.backend.route? .ssh).any (·.1 == profileId) ∧ t.worker = false ∧
        (t.sshPhase = .loadingStoredCredential ∨ t.sshPhase = .awaitingAuthentication true ∨
          t.sshPhase = .awaitingAuthentication false) then
      { s with
        tab := some (t.startAttempt .ssh attemptId status rest)
        tasks := s.tasks ++ [{ protocol := .ssh, profileId, id := .attempt attemptId }] }
    else s
  | none => s

def startDirect (protocol : ReconnectProtocol) (profileId attemptId : Uuid) (profileCurrent : Bool)
    (status : String) (rest : σ → σ) (s : ReconnectSystem σ) : ReconnectSystem σ :=
  match s.tab with
  | some t =>
    match t.startDirect protocol profileId attemptId profileCurrent status rest with
    | .ok t =>
      { s with
        tab := some t
        tasks := s.tasks ++ [{ protocol, profileId, id := .attempt attemptId }] }
    | .error _ => s
  | none => s

def edit (status : String) (phase : SshConnectionPhase) (rest : σ → σ) (t : ReconnectTab σ) :
    ReconnectTab σ :=
  { t.setSshPhase phase with status := status, content := rest t.content }

def step (s : ReconnectSystem σ) : ReconnectOp σ → ReconnectSystem σ
  | .deliver i event => s.deliver i event
  | .next i outcome => s.next i outcome
  | .abandon i => s.abandon i
  | .retry rest => s.retry rest
  | .disconnect rest => { s with tab := s.tab.map (·.cancelReconnect rest) }
  | .close => { s with tab := none }
  | .startSession profileId attemptId status rest => s.startSession profileId attemptId status rest
  | .startDirect protocol profileId attemptId profileCurrent status rest =>
    s.startDirect protocol profileId attemptId profileCurrent status rest
  | .edit status phase rest => { s with tab := s.tab.map (edit status phase rest) }

def run (s : ReconnectSystem σ) (ops : List (ReconnectOp σ)) : ReconnectSystem σ :=
  ops.foldl step s

/-- A tab as `open_terminal_tab` and `restore_workspace_tabs` insert it. -/
def opened (t : ReconnectTab σ) : ReconnectSystem σ :=
  { tab := some { t with
      worker := false
      workerRunning := false
      connected := false
      reconnectGeneration := 0
      reconnectAttempt := 0
      reconnecting := false } }

end ReconnectSystem

end AxSsh
