import Mathlib.Logic.Function.Basic
import AxSsh.Native.Credentials
import AxSsh.Native.SessionManagement

/-!
# The session editor

`profile_from_editor_with_password` of `workspace/session_editor.rs`, which reads the form of the
editor into a profile and the change of its remembered password, and the operations that change
the password and the store one after the other: saving, clearing the password, and deleting.

An operation runs here as a whole; what other tasks do between its parts is in
`ProfileTransactions`.  The identifier of a new profile, the generated vault password and the
catalog of icons are parameters.
-/

namespace AxSsh.Credentials

open Profiles Faulty

/-! ## The form -/

structure EditorForm where
  name : String
  groupName : String := ""
  protocol : String
  host : String := ""
  port : String := ""
  username : String := ""
  authMethod : String := ""
  privateKeyPath : String := ""
  sftpRemotePath : String := "~"
  sftpLocalPath : String := ""
  /-- The transfer limits, where the form overrides those of the application. -/
  sftpTransferPolicy : Option SftpTransferPolicy := none
  password : String := ""
  rememberPassword : Bool := false
  credentialStorage : String := ""
  vaultPassword : String := ""
  x11ForwardingMode : String := ""
  serialPort : String := ""
  serialBaudRate : String := ""
  serialDataBits : String := ""
  serialStopBits : String := ""
  serialParity : String := ""
  serialFlowControl : String := ""
  iconId : String := ""
  resetSystem : Bool := false

/-- The identity of a device that is plugged in. -/
structure SerialPortDescriptor where
  portName : String
  usbVendorId : Option UInt16
  usbProductId : Option UInt16
  usbSerialNumber : Option String

/-- `str::eq_ignore_ascii_case`. -/
def eqIgnoreAsciiCase (a b : String) : Bool :=
  a.toList.map Char.toLower == b.toList.map Char.toLower

/-- `value.trim().to_ascii_lowercase()`. -/
def settingText (value : String) : String := String.ofList ((trim value).toList.map Char.toLower)

def CredentialStorage.fromSetting (value : String) : CredentialStorage :=
  if settingText value ∈ ["system-keyring", "system keyring", "keyring", "stored"] then
    .systemKeyring
  else .encryptedVault

def X11ForwardingMode.fromSetting (value : String) : X11ForwardingMode :=
  match settingText value with
  | "off" => .off
  | "untrusted" | "-x" => .untrusted
  | _ => .trusted

def SerialDataBits.fromSetting (value : String) : SerialDataBits :=
  match trim value with
  | "5" => .five
  | "6" => .six
  | "7" => .seven
  | _ => .eight

def SerialStopBits.fromSetting (value : String) : SerialStopBits :=
  if trim value = "2" then .two else .one

def SerialParity.fromSetting (value : String) : SerialParity :=
  match settingText value with
  | "odd" => .odd
  | "even" => .even
  | _ => .none

def SerialFlowControl.fromSetting (value : String) : SerialFlowControl :=
  match settingText value with
  | "software" => .software
  | "hardware" => .hardware
  | _ => .none

/-- `str::parse` for an unsigned integer with its largest value. -/
def parseUnsigned (text : String) (max : Nat) : Option Nat :=
  let digits : List Char := match text.toList with
    | '+' :: rest => rest
    | chars => chars
  let value := digits.foldl (fun n c => 10 * n + (c.toNat - '0'.toNat)) 0
  if digits ≠ [] ∧ digits.all Char.isDigit ∧ value ≤ max then some value else none

def parseNetworkPort (value : String) : Except String Nat :=
  match parseUnsigned (trim value) 65535 with
  | some 0 | none => .error "port must be a number between 1 and 65535"
  | some port => .ok port

/-! ## Credentials -/

inductive CredentialChange where
  | none
  | delete (storage : CredentialStorage) (vaultPasswordGenerated : Bool)
  | store (storage : CredentialStorage) (previousStorage : Option CredentialStorage)
      (password : String) (vaultPassword : Option String)
      (vaultPasswordGenerated previousVaultPasswordGenerated : Bool)
deriving DecidableEq

def existingStorage (existing : Option (Profiles.SessionProfile ConnectionFields)) :
    Option CredentialStorage :=
  (existing.bind Profiles.SessionProfile.ssh).bind (·.credentialStorage)

def existingVaultKeySaved (existing : Option (Profiles.SessionProfile ConnectionFields)) : Bool :=
  (existing.bind Profiles.SessionProfile.ssh).any (·.credentialVaultKeySaved)

namespace EditorForm

def sshProtocol (form : EditorForm) : Bool := eqIgnoreAsciiCase form.protocol "SSH"

def passwordAuth (form : EditorForm) : Bool :=
  form.sshProtocol && form.authMethod == "Password"

/-- `credential_storage_for_save`: where a new password goes. -/
def passwordStorage (form : EditorForm) : Option CredentialStorage :=
  if form.passwordAuth && form.password != "" && form.rememberPassword then
    some (CredentialStorage.fromSetting form.credentialStorage)
  else none

/-- `vault_password_for_save`: without a vault password one is generated. -/
def vaultPasswordForSave (form : EditorForm) (generated : String) : String × Bool :=
  if form.passwordStorage = some .encryptedVault then
    if form.vaultPassword = "" then (generated, true) else (form.vaultPassword, false)
  else ("", false)

def credentialChange (form : EditorForm) (generated : String)
    (existing : Option (Profiles.SessionProfile ConnectionFields)) : CredentialChange :=
  let (vaultPassword, vaultPasswordGenerated) := form.vaultPasswordForSave generated
  match form.passwordStorage with
  | some storage =>
    .store storage (existingStorage existing) form.password
      (if storage = .encryptedVault then some vaultPassword else none)
      vaultPasswordGenerated (existingVaultKeySaved existing)
  | none =>
    if form.passwordAuth then .none
    else
      match existingStorage existing with
      | some storage => .delete storage (existingVaultKeySaved existing)
      | none => .none

/-- The credentials of the new profile. -/
def credentialPolicy (form : EditorForm)
    (existing : Option (Profiles.SessionProfile ConnectionFields)) :
    Option CredentialStorage × Bool :=
  (if form.passwordAuth then form.passwordStorage <|> existingStorage existing else none,
    if form.passwordStorage = some .encryptedVault then (form.vaultPasswordForSave "").2
    else if form.passwordStorage = none then
      existingVaultKeySaved existing && decide (existingStorage existing = some .encryptedVault)
    else false)

/-! ## Connections -/

def auth (form : EditorForm) : Except String AuthMethod :=
  if form.authMethod = "Password" then .ok .password
  else if form.authMethod = "Private key" then .ok (.privateKey (trim form.privateKeyPath))
  else if form.authMethod = "SSH agent" then .ok .sshAgent
  else .error "unsupported SSH authentication method"

/-- The fingerprint stays as long as the endpoint does. -/
def preservedFingerprint (existing : Option (Profiles.SessionProfile ConnectionFields))
    (host : String) (port : Nat) : Option String :=
  (existing.bind Profiles.SessionProfile.ssh).bind fun ssh =>
    if trim ssh.host = host ∧ ssh.port = port then ssh.hostKeyFingerprint else none

def sshConnection (form : EditorForm)
    (existing : Option (Profiles.SessionProfile ConnectionFields)) :
    Except String (Profiles.ConnectionProfile ConnectionFields) := do
  let auth ← form.auth
  let port ← parseNetworkPort form.port
  let host := trim form.host
  let (credentialStorage, credentialVaultKeySaved) := form.credentialPolicy existing
  pure (.ssh {
    host, port, auth, credentialStorage, credentialVaultKeySaved
    username := trim form.username
    hostKeyFingerprint := preservedFingerprint existing host port
    rest := .ssh {
      x11Forwarding := X11ForwardingMode.fromSetting form.x11ForwardingMode
      sftpRemotePath := trim form.sftpRemotePath
      sftpLocalPath := trim form.sftpLocalPath } })

def telnetConnection (form : EditorForm) :
    Except String (Profiles.ConnectionProfile ConnectionFields) := do
  let port ← parseNetworkPort form.port
  pure (.telnet (.telnet ⟨trim form.host, port⟩))

def existingSerial (existing : Option (Profiles.SessionProfile ConnectionFields)) :
    Option SerialConfig :=
  match existing with
  | some { connection := .serial (.serial config), .. } => some config
  | _ => none

/-- The identity of the device, or the one that is known for the same port. -/
def applyDescriptor (descriptor : Option SerialPortDescriptor) (existing : Option SerialConfig)
    (config : SerialConfig) : SerialConfig :=
  match descriptor, existing with
  | some descriptor, _ =>
    { config with
      portName := descriptor.portName
      usbVendorId := descriptor.usbVendorId
      usbProductId := descriptor.usbProductId
      usbSerialNumber := descriptor.usbSerialNumber }
  | none, some existing =>
    if existing.portName = config.portName then
      { config with
        usbVendorId := existing.usbVendorId
        usbProductId := existing.usbProductId
        usbSerialNumber := existing.usbSerialNumber }
    else config
  | none, none => config

def serialConnection (form : EditorForm) (descriptor : Option SerialPortDescriptor)
    (existing : Option (Profiles.SessionProfile ConnectionFields)) :
    Except String (Profiles.ConnectionProfile ConnectionFields) :=
  match parseUnsigned (trim form.serialBaudRate) 4294967295 with
  | none => .error "baud rate must be a number"
  | some baudRate =>
    .ok (.serial (.serial (applyDescriptor descriptor (existingSerial existing) {
      portName := trim form.serialPort
      baudRate
      dataBits := SerialDataBits.fromSetting form.serialDataBits
      stopBits := SerialStopBits.fromSetting form.serialStopBits
      parity := SerialParity.fromSetting form.serialParity
      flowControl := SerialFlowControl.fromSetting form.serialFlowControl })))

def connection (form : EditorForm) (descriptor : Option SerialPortDescriptor)
    (existing : Option (Profiles.SessionProfile ConnectionFields)) :
    Except String (Profiles.ConnectionProfile ConnectionFields) :=
  if form.sshProtocol then form.sshConnection existing
  else if eqIgnoreAsciiCase form.protocol "Telnet" then form.telnetConnection
  else if eqIgnoreAsciiCase form.protocol "Serial" then form.serialConnection descriptor existing
  else .error "unknown connection protocol"

/-- What the new profile keeps of the existing one. -/
def keepExisting (newId : Uuid) (existing : Option (Profiles.SessionProfile ConnectionFields))
    (profile : Profiles.SessionProfile ConnectionFields) :
    Profiles.SessionProfile ConnectionFields :=
  match existing with
  | none => { profile with id := newId }
  | some existing =>
    { profile with
      id := existing.id
      systemIconOverride := existing.systemIconOverride
      detectedSystem := (existing.detectedSystem.filter (·.matchesProfile existing)).filter
        (·.matchesProfile profile) }

/-- The profile of `profile_from_editor_with_password`. -/
def profile (form : EditorForm) (newId : Uuid) (descriptor : Option SerialPortDescriptor)
    (existing : Option (Profiles.SessionProfile ConnectionFields)) :
    Except String (Profiles.SessionProfile ConnectionFields) := do
  let connection ← form.connection descriptor existing
  let profile := { keepExisting newId existing { id := newId, name := trim form.name, connection }
    with groupName := normalizeGroupName form.groupName }
  profile.validate
  pure profile

/-- The profile that `save_session` commits. -/
def savedProfile (form : EditorForm) (newId : Uuid) (descriptor : Option SerialPortDescriptor)
    (systemIconId : String → Option String)
    (existing : Option (Profiles.SessionProfile ConnectionFields)) :
    Except String (Profiles.SessionProfile ConnectionFields) := do
  let profile ← form.profile newId descriptor existing
  let profile := profile.modifySsh fun ssh =>
    match ssh.rest with
    | .ssh fields => { ssh with
        rest := .ssh { fields with sftpTransferPolicy := form.sftpTransferPolicy } }
    | _ => ssh
  let profile := { profile with
    systemIconOverride := systemIconId form.iconId
    detectedSystem := if form.resetSystem then none else profile.detectedSystem }
  profile.validate
  pure profile

end EditorForm

/-! ## Operations -/

section Operations

variable {R N σ : Type} (F : VaultFormat R N)

def applyCredentialChange (id : Uuid) (nonce : N) :
    CredentialChange → Backend R (Option (CredentialRollback R))
  | .none => pure none
  | .delete storage vaultPasswordGenerated => do
    let rollback ← deletePasswordInStore F storage vaultPasswordGenerated
    pure (some rollback)
  | .store storage previousStorage password vaultPassword vaultPasswordGenerated
      previousVaultPasswordGenerated => do
    let rollback ← savePassword F id nonce storage password vaultPassword vaultPasswordGenerated
      previousVaultPasswordGenerated previousStorage
    pure (some rollback)

/-- The stores of profiles and the credentials of every identifier. -/
structure CredentialWorkspace (R σ : Type) where
  stores : StorePair ConnectionFields σ
  credentials : Uuid → CredentialState R

namespace CredentialWorkspace

/-- The password is changed, then the store; a store that is not saved brings the password back. -/
def transact (id : Uuid) (nonce : N) (change : CredentialChange) (faults : List Bool)
    (commit : StorePair ConnectionFields σ → Except String Unit × StorePair ConnectionFields σ)
    (s : CredentialWorkspace R σ) : CredentialWorkspace R σ :=
  match applyCredentialChange F id nonce change (s.credentials id) faults with
  | (.error _, after, _) => { s with credentials := Function.update s.credentials id after }
  | (.ok rollback, after, faults) =>
    match commit s.stores with
    | (.ok (), stores) => ⟨stores, Function.update s.credentials id after⟩
    | (.error _, stores) =>
      let after := match rollback with
        | some rollback => (rollback.restore after faults).2.1
        | none => after
      ⟨stores, Function.update s.credentials id after⟩

/-- The profile that the editor is open for, or a new one; `none` where it is gone. -/
def editedProfile (s : CredentialWorkspace R σ) :
    Option Uuid → Option (Option (Profiles.SessionProfile ConnectionFields))
  | none => some none
  | some profileId => (s.stores.memory.find profileId).map some

/-- `on_save_session`. -/
def save (systemIconId : String → Option String) (editing : Option Uuid) (form : EditorForm)
    (newId : Uuid) (generated : String) (descriptor : Option SerialPortDescriptor) (nonce : N)
    (faults : List Bool) (outcome : WriteOutcome) (s : CredentialWorkspace R σ) :
    CredentialWorkspace R σ :=
  match s.editedProfile editing with
  | none => s
  | some existing =>
    match form.savedProfile newId descriptor systemIconId existing with
    | .error _ => s
    | .ok profile =>
      s.transact F profile.id nonce (form.credentialChange generated existing) faults
        fun stores => stores.commit (fun store => .ok (store.upsert profile)) outcome

/-- `commit_profile_password_clear`: the file must still have the profile. -/
def commitPasswordClear (expected : Profiles.SessionProfile ConnectionFields)
    (loaded : Except String (SessionStore ConnectionFields σ)) (outcome : WriteOutcome)
    (stores : StorePair ConnectionFields σ) :
    Except String Unit × StorePair ConnectionFields σ :=
  match loaded with
  | .error e => (.error e, stores)
  | .ok candidate =>
    if candidate.find expected.id ≠ some expected then
      (.error "saved session changed while clearing its password", stores)
    else
      let profile := expected.modifySsh fun ssh =>
        { ssh with credentialStorage := none, credentialVaultKeySaved := false }
      match saveStore (candidate.upsert profile) stores.disk outcome with
      | (.error e, disk) => (.error e, { stores with disk })
      | (.ok (), disk) => (.ok (), ⟨stores.memory.upsert profile, disk⟩)

/-- `clear_saved_password_in_store`. -/
def clearPassword (sessionId : Uuid) (nonce : N)
    (loaded : Except String (SessionStore ConnectionFields σ)) (faults : List Bool)
    (outcome : WriteOutcome) (s : CredentialWorkspace R σ) : CredentialWorkspace R σ :=
  match s.stores.memory.find sessionId with
  | none => s
  | some profile =>
    match profile.ssh with
    | none => s
    | some ssh =>
      match ssh.credentialStorage with
      | none => s
      | some storage =>
        s.transact F sessionId nonce (.delete storage ssh.credentialVaultKeySaved) faults
          (commitPasswordClear profile loaded outcome)

/-- `delete_session_profile`. -/
def deleteProfile (sessionId : Uuid) (nonce : N) (faults : List Bool) (outcome : WriteOutcome)
    (s : CredentialWorkspace R σ) : CredentialWorkspace R σ :=
  match s.stores.memory.find sessionId with
  | none => s
  | some profile =>
    let change := match existingStorage (some profile) with
      | some storage => .delete storage (existingVaultKeySaved (some profile))
      | none => .none
    s.transact F sessionId nonce change faults
      fun stores => stores.commit (fun store => .ok (store.remove sessionId)) outcome

inductive Action (N σ : Type) where
  | save (editing : Option Uuid) (form : EditorForm) (newId : Uuid) (generated : String)
      (descriptor : Option SerialPortDescriptor) (nonce : N) (faults : List Bool)
      (outcome : WriteOutcome)
  | clearPassword (sessionId : Uuid) (nonce : N)
      (loaded : Except String (SessionStore ConnectionFields σ)) (faults : List Bool)
      (outcome : WriteOutcome)
  | deleteProfile (sessionId : Uuid) (nonce : N) (faults : List Bool) (outcome : WriteOutcome)
  | duplicateSession (newId : Nat → Uuid) (sessionId : Uuid)
      (loaded : Except String (SessionStore ConnectionFields σ)) (outcome : WriteOutcome)
  | duplicateGroup (newId : Nat → Uuid) (groupName : String)
      (loaded : Except String (SessionStore ConnectionFields σ)) (outcome : WriteOutcome)
  | importTransfer (newId : Nat → Uuid) (text : String) (mode : SessionImportMode)
      (targetGroup : String) (loaded : Except String (SessionStore ConnectionFields σ))
      (outcome : WriteOutcome)

def step (systemIconId : String → Option String)
    (fromStr : String → Except String (SessionTransferEnvelope ConnectionFields))
    (s : CredentialWorkspace R σ) : Action N σ → CredentialWorkspace R σ
  | .save editing form newId generated descriptor nonce faults outcome =>
    s.save F systemIconId editing form newId generated descriptor nonce faults outcome
  | .clearPassword sessionId nonce loaded faults outcome =>
    s.clearPassword F sessionId nonce loaded faults outcome
  | .deleteProfile sessionId nonce faults outcome =>
    s.deleteProfile F sessionId nonce faults outcome
  | .duplicateSession newId sessionId loaded outcome =>
    { s with stores :=
        (s.stores.run fromStr (.duplicateSession newId sessionId) loaded outcome).2 }
  | .duplicateGroup newId groupName loaded outcome =>
    { s with stores := (s.stores.run fromStr (.duplicateGroup newId groupName) loaded outcome).2 }
  | .importTransfer newId text mode targetGroup loaded outcome =>
    { s with stores :=
        (s.stores.run fromStr (.importTransfer newId text mode targetGroup) loaded outcome).2 }

end CredentialWorkspace

end Operations

end AxSsh.Credentials
