import AxSsh.Native.KnownHosts
import AxSsh.Native.SftpTypes

/-!
# Host key checks

`check_server_key`, `connect_transport` and `probe_host_key` of `ssh.rs`, with the prompts that
`finish_host_key_probe` and the connection monitor make of their results, and the confirmations of
`connection/host_key.rs`.

The network and the SSH library are the fields of `Peer`.  A profile is valid, and is its endpoint
with its pin.  Other programs may replace the `known_hosts` file at any time.  A confirmation is
one step here: the gate and the mutation of the profile keep other tasks of the application out of
it, and what others write to the file between its edit and its commit can as well come after both.
-/

namespace AxSsh.HostKeys

variable {Key : Type}

/-- A key format with the parser of whole OpenSSH keys. -/
structure KeyCodec (Key : Type) extends KeyFormat Key where
  fromOpenssh : List Char → Option Key

variable [DecidableEq Key] (F : KeyCodec Key)

/-! ## The check of a key -/

inductive PublicKeyOrCertificate (Key : Type) where
  | publicKey (key : Key)
  | certificate

structure FingerprintObservation where
  fingerprint : Option (List Char) := none
  publicKey : Option (List Char) := none
  decision : Option TrustDecision := none
  accepted : Option Bool := none
deriving DecidableEq, Repr

structure ClientHandler (Key : Type) where
  expectedFingerprint : Option (List Char)
  knownHosts : List (Entry Key)
  host : List Char
  port : Nat

def fingerprintIsTrusted (expected : Option (List Char)) (actual : List Char) : Bool :=
  expected.any (· = actual)

/-- The answer to the library, and what is recorded of the key. -/
def checkServerKey (handler : ClientHandler Key) (serverPublicKey : PublicKeyOrCertificate Key)
    (observation : FingerprintObservation) : Bool × FingerprintObservation :=
  match serverPublicKey with
  | .certificate => (false, { observation with accepted := some false })
  | .publicKey key =>
    let actual := F.fingerprint key
    let decision :=
      decision F.toKeyFormat handler.knownHosts handler.host handler.port key
    let observation := { observation with
      fingerprint := some actual
      publicKey := some (F.toOpenssh key)
      decision := some decision }
    let accepted :=
      if decision = .revoked then false
      else if handler.expectedFingerprint.isSome then
        fingerprintIsTrusted handler.expectedFingerprint actual && decide (decision ≠ .changed)
      else decide (decision = .trusted)
    (accepted, { observation with accepted := some accepted })

/-! ## Connecting -/

/-- The `known_hosts` file, as `read_to_string` finds it. -/
inductive KnownHostsFile where
  | missing
  | unreadable
  | text (content : List Char)
deriving DecidableEq, Repr

/-- `Snapshot::load_default`, or the empty snapshot in place of its error. -/
def loadDefault : KnownHostsFile → List (Entry Key)
  | .missing | .unreadable => []
  | .text content =>
    match loadFromPath F.toKeyFormat content with
    | .error _ => []
    | .ok entries => entries

inductive HandshakeEnd where
  | connected
  | failed
  | timedOut
deriving DecidableEq, Repr

inductive TcpEnd where
  | connected
  | failed
  | timedOut
deriving DecidableEq, Repr

/-- The network with the server and the SSH library: the TCP connection, the key that is presented,
and the end of the handshake, given the answer about the key. -/
structure Peer (Key : Type) where
  tcp : TcpEnd
  presents : Option (PublicKeyOrCertificate Key)
  ends : Option Bool → HandshakeEnd

/-- The library ends a handshake whose key was refused with an error. -/
def Peer.RefusalFails (peer : Peer Key) : Prop := peer.ends (some false) = .failed

inductive TransportError where
  | hostKeyRejected (expected : Option (List Char)) (actual : List Char)
      (publicKey : Option (List Char))
  | hostKeyRevoked (actual : List Char) (publicKey : Option (List Char))
  /-- An error of the network or of the library, with its context. -/
  | network (context : String)
deriving DecidableEq, Repr

structure SshEndpoint where
  host : List Char
  port : Nat
  hostKeyFingerprint : Option (List Char) := none
deriving DecidableEq, Repr

namespace SshEndpoint

def authority (ssh : SshEndpoint) : String := s!"{String.ofList ssh.host}:{ssh.port}"

end SshEndpoint

/-- The handler that `connect_transport` makes. -/
def clientHandler (file : KnownHostsFile) (ssh : SshEndpoint)
    (expectedFingerprint : Option (List Char)) : ClientHandler Key where
  expectedFingerprint
  knownHosts := loadDefault F file
  host := ssh.host
  port := ssh.port

/-- The error of a handshake that failed. -/
def handshakeError (ssh : SshEndpoint) (expectedFingerprint : Option (List Char))
    (observation : FingerprintObservation) : TransportError :=
  match observation.fingerprint, observation.accepted with
  | some actual, some false =>
    if observation.decision = some .revoked then
      .hostKeyRevoked actual observation.publicKey
    else .hostKeyRejected expectedFingerprint actual observation.publicKey
  | fingerprint, _ =>
    let phase :=
      if fingerprint.isSome then "after the server host-key check"
      else "before the server presented a host key"
    .network s!"SSH banner or key exchange with {ssh.authority} ended {phase}"

def connectTransport (file : KnownHostsFile) (ssh : SshEndpoint)
    (expectedFingerprint : Option (List Char)) (peer : Peer Key) :
    Except TransportError Unit × FingerprintObservation :=
  match peer.tcp with
  | .timedOut => (.error (.network s!"timed out connecting to {ssh.authority}"), {})
  | .failed => (.error (.network s!"failed to connect to {ssh.authority}"), {})
  | .connected =>
    let checked := peer.presents.map fun serverPublicKey =>
      checkServerKey F (clientHandler F file ssh expectedFingerprint) serverPublicKey {}
    let observation := (checked.map (·.2)).getD {}
    match peer.ends (checked.map (·.1)) with
    | .connected => (.ok (), observation)
    | .failed => (.error (handshakeError ssh expectedFingerprint observation), observation)
    | .timedOut =>
      (.error (.network s!"timed out during SSH banner or key exchange with {ssh.authority}"),
        observation)

structure HostKeyProbe where
  fingerprint : List Char
  decision : TrustDecision
  publicKey : Option (List Char)
deriving DecidableEq, Repr

def probeHostKey (file : KnownHostsFile) (ssh : SshEndpoint) (peer : Peer Key) :
    Except TransportError HostKeyProbe :=
  let (result, observation) := connectTransport F file ssh none peer
  let probe (fingerprint : List Char) : HostKeyProbe :=
    { fingerprint
      decision := observation.decision.getD .unknown
      publicKey := observation.publicKey }
  match result, observation.fingerprint with
  | .error _, some fingerprint =>
    match observation.accepted with
    | some false => .ok (probe fingerprint)
    | some true =>
      .error (.network "SSH handshake failed after the server host key was accepted")
    | none =>
      .error (.network "SSH host-key decision failed after observing the server key")
  | .error error, none => .error error
  | .ok (), some fingerprint => .ok (probe fingerprint)
  | .ok (), none =>
    .error (.network "host-key probe completed without observing a server key")

/-! ## Prompts and confirmations -/

structure PendingHostKey where
  profileId : Uuid
  host : List Char
  port : Nat
  fingerprint : List Char
  publicKey : Option (List Char)
  changed : Bool
  revoked : Bool
deriving DecidableEq, Repr

/-- The profiles, the file, and the tabs that wait for a confirmation. -/
structure HostKeyState where
  file : KnownHostsFile
  profiles : AssocMap Uuid SshEndpoint
  prompts : AssocMap Uuid PendingHostKey := ∅

namespace HostKeyState

variable (s : HostKeyState)

/-- `finish_host_key_probe`: a trusted key needs no prompt. -/
def finishHostKeyProbe (tab profileId : Uuid) (ssh : SshEndpoint)
    (result : Except TransportError HostKeyProbe) : HostKeyState :=
  match result with
  | .error _ => s
  | .ok probe =>
    if probe.decision = .trusted then s
    else
      { s with
        prompts := s.prompts.insert tab
          { profileId
            host := ssh.host
            port := ssh.port
            fingerprint := probe.fingerprint
            publicKey := probe.publicKey
            changed := probe.decision = .changed
            revoked := probe.decision = .revoked } }

/-- What the connection monitor makes of a refused key. -/
def finishConnection (tab profileId : Uuid) (ssh : SshEndpoint)
    (result : Except TransportError Unit) : HostKeyState :=
  let prompt (fingerprint : List Char) (publicKey : Option (List Char)) (changed revoked : Bool) :=
    { s with
      prompts := s.prompts.insert tab
        { profileId, host := ssh.host, port := ssh.port, fingerprint, publicKey, changed, revoked } }
  match result with
  | .error (.hostKeyRejected expected actual publicKey) =>
    prompt actual publicKey expected.isSome false
  | .error (.hostKeyRevoked actual publicKey) => prompt actual publicKey false true
  | _ => s

/-- `append_confirmed_openssh` and `replace_confirmed_openssh`, when the file can be written. -/
def writeConfirmed (pending : PendingHostKey) (file : KnownHostsFile) : Option KnownHostsFile := do
  let key ← pending.publicKey.bind F.fromOpenssh
  match pending.changed, file with
  | true, .text content =>
    some (.text (replaceConfirmed F.toKeyFormat pending.host pending.port key content))
  | false, .text content =>
    some (.text (appendConfirmed F.toKeyFormat pending.host pending.port key content))
  | false, .missing => some (.text (appendConfirmed F.toKeyFormat pending.host pending.port key []))
  | _, _ => none

/-- The profile that a prompt is about, when its endpoint is still that of the prompt. -/
def pendingProfile (pending : PendingHostKey) : Option SshEndpoint :=
  (s.profiles.lookup pending.profileId).filter fun ssh =>
    ssh.host = pending.host ∧ ssh.port = pending.port

/-- `confirm_host_key`, when it succeeds. -/
def confirmHostKey (pending : PendingHostKey) : Option HostKeyState := do
  let ssh ← s.pendingProfile pending
  let file ← writeConfirmed F pending s.file
  some { s with
    file
    profiles := s.profiles.insert pending.profileId
      { ssh with hostKeyFingerprint := some pending.fingerprint } }

/-- The file of a confirmation that fails later may be written all the same. -/
def confirmHostKeyFails (pending : PendingHostKey) (written : Bool) : HostKeyState :=
  match s.pendingProfile pending, writeConfirmed F pending s.file with
  | some _, some file => if written then { s with file } else s
  | _, _ => s

/-- `confirm_revoked_host_key`: the pin is cleared first; `removed` says that the file can then be
written. -/
def confirmRevokedHostKey (tab : Uuid) (pending : PendingHostKey) (removed : Bool) :
    HostKeyState :=
  match s.pendingProfile pending with
  | none => s
  | some ssh =>
    let s := { s with
      profiles := s.profiles.insert pending.profileId { ssh with hostKeyFingerprint := none } }
    match s.file with
    | .text content =>
      if removed then
        { s with
          file := .text
            (removeKey F.toKeyFormat pending.host pending.port pending.fingerprint content).1
          prompts := s.prompts.erase tab }
      else s
    | _ => s

inductive Input (Key : Type) where
  /-- Another program replaces the file. -/
  | replaceFile (file : KnownHostsFile)
  /-- A profile is saved, or deleted. -/
  | editProfile (profileId : Uuid) (ssh : Option SshEndpoint)
  | probe (tab profileId : Uuid) (peer : Peer Key)
  | connect (tab profileId : Uuid) (peer : Peer Key)
  /-- The user confirms the prompt of a tab; `saved` says that the profiles can be saved, and
  `written` that the file can be written. -/
  | confirm (tab : Uuid) (saved written : Bool)
  /-- The prompt of a tab is closed. -/
  | reject (tab : Uuid)

def confirm (tab : Uuid) (saved written : Bool) : HostKeyState :=
  match s.prompts.lookup tab with
  | none => s
  | some pending =>
    if pending.revoked then
      if saved then s.confirmRevokedHostKey F tab pending written else s
    else if saved ∧ written then
      match s.confirmHostKey F pending with
      | none => s
      | some confirmed => { confirmed with prompts := confirmed.prompts.erase tab }
    else s.confirmHostKeyFails F pending written

def step (s : HostKeyState) : Input Key → HostKeyState
  | .replaceFile file => { s with file }
  | .editProfile profileId none => { s with profiles := s.profiles.erase profileId }
  | .editProfile profileId (some ssh) => { s with profiles := s.profiles.insert profileId ssh }
  | .probe tab profileId peer =>
    match s.profiles.lookup profileId with
    | none => s
    | some ssh => s.finishHostKeyProbe tab profileId ssh (probeHostKey F s.file ssh peer)
  | .connect tab profileId peer =>
    match s.profiles.lookup profileId with
    | none => s
    | some ssh =>
      s.finishConnection tab profileId ssh
        (connectTransport F s.file ssh ssh.hostKeyFingerprint peer).1
  | .confirm tab saved written => s.confirm F tab saved written
  | .reject tab => { s with prompts := s.prompts.erase tab }

end HostKeyState

end AxSsh.HostKeys
