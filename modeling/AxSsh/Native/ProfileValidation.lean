import AxSsh.Native.SessionStore

/-!
# Validation of profiles and stores

`SessionProfile::validate` and `SessionStore::validate` of `config/session.rs`, which `config.save`
runs before it writes the file, with the checks of `SftpTransferPolicy`.  What a profile keeps
beyond `SshConfig` is checked by `ConnectionRest.validate`; `ConnectionFields` is what the source
keeps there.
-/

namespace AxSsh.Profiles

def maxSessionNameChars : Nat := 128
def maxHostChars : Nat := 512
def maxUsernameChars : Nat := 256
def maxPrivateKeyPathChars : Nat := 4096
def maxSessionProfiles : Nat := 1024
def maxGroups : Nat := 256
def maxRecentWorkspaces : Nat := 8
def maxWorkspacePathChars : Nat := 4096
def maxHostKeyFingerprintChars : Nat := 256
def maxSerialPortChars : Nat := 512
def maxUsbSerialChars : Nat := 256
def maxSftpRemotePathChars : Nat := 4096
def maxSftpLocalPathBytes : Nat := 4096

/-! ## Texts -/

def validateOptionalText (label value : String) (maxChars : Nat) : Except String Unit := do
  bailIf (decide (maxChars < value.length)) s!"{label} cannot exceed {maxChars} characters"
  bailIf (value.toList.any isControl) s!"{label} cannot contain control characters"

def validateRequiredText (label value : String) (maxChars : Nat) : Except String Unit := do
  bailIf (trim value == "") s!"{label} cannot be empty"
  validateOptionalText label value maxChars

def validateHostAndPort (host : String) (port : Nat) : Except String Unit := do
  validateRequiredText "host" host maxHostChars
  bailIf (port == 0) "port must be between 1 and 65535"

def validateWorkspacePath (path : String) : Except String Unit := do
  bailIf (path == "") "workspace path cannot be empty"
  bailIf (decide (maxWorkspacePathChars < path.length))
    s!"workspace path cannot exceed {maxWorkspacePathChars} characters"
  bailIf (path.toList.any isControl) "workspace path cannot contain control characters"

/-- `validate_transfer_text` of `session_management.rs`. -/
def validateTransferText (label value : String) (maxChars : Nat) : Except String Unit := do
  let value := trim value
  bailIf (value == "") s!"{label} cannot be empty"
  bailIf (decide (maxChars < value.length) || value.toList.any isControl) s!"{label} is invalid"

/-! ## The rest of a connection -/

/-- The checks of what `SshConfig` leaves out, by `validate_connection_consistency` and by
`validate_transferred_profile`. -/
class ConnectionRest (ρ : Type) where
  validate : ρ → Except String Unit
  validateTransfer : ρ → Except String Unit

inductive X11ForwardingMode where
  | off
  | untrusted
  | trusted
deriving DecidableEq, Repr

structure SftpTransferPolicy where
  perTabTransfers : UInt8
  rateLimitMibPerSecond : UInt32
deriving DecidableEq, Repr

def minSftpPerTabTransfers : UInt8 := 1
def maxSftpPerTabTransfers : UInt8 := 16
def maxSftpRateLimitMibPerSecond : UInt32 := 1024

def SftpTransferPolicy.validate (policy : SftpTransferPolicy) : Except String Unit :=
  bailIf (!(minSftpPerTabTransfers ≤ policy.perTabTransfers
      && policy.perTabTransfers ≤ maxSftpPerTabTransfers)
    || maxSftpRateLimitMibPerSecond < policy.rateLimitMibPerSecond)
    "SFTP transfer policy is outside supported limits"

structure SshFields where
  x11Forwarding : X11ForwardingMode := .trusted
  sftpRemotePath : String := "~"
  sftpLocalPath : String := ""
  sftpTransferPolicy : Option SftpTransferPolicy := none
deriving DecidableEq, Repr

structure TelnetConfig where
  host : String
  port : Nat
deriving DecidableEq, Repr

inductive SerialDataBits where
  | five
  | six
  | seven
  | eight
deriving DecidableEq, Repr

inductive SerialStopBits where
  | one
  | two
deriving DecidableEq, Repr

inductive SerialParity where
  | none
  | odd
  | even
deriving DecidableEq, Repr

inductive SerialFlowControl where
  | none
  | software
  | hardware
deriving DecidableEq, Repr

structure SerialConfig where
  portName : String
  baudRate : Nat := 115200
  dataBits : SerialDataBits := .eight
  stopBits : SerialStopBits := .one
  parity : SerialParity := .none
  flowControl : SerialFlowControl := .none
  usbVendorId : Option UInt16 := none
  usbProductId : Option UInt16 := none
  usbSerialNumber : Option String := none
deriving DecidableEq, Repr

inductive ConnectionFields where
  | ssh (fields : SshFields)
  | telnet (config : TelnetConfig)
  | serial (config : SerialConfig)
deriving DecidableEq, Repr

namespace ConnectionFields

def validate : ConnectionFields → Except String Unit
  | .ssh fields => do
    validateOptionalText "SFTP remote path" fields.sftpRemotePath maxSftpRemotePathChars
    bailIf (decide (maxSftpLocalPathBytes < fields.sftpLocalPath.utf8ByteSize)
        || fields.sftpLocalPath.toList.any isControl)
      s!"SFTP local path cannot exceed {maxSftpLocalPathBytes} bytes or contain control characters"
    match fields.sftpTransferPolicy with
    | some policy => policy.validate
    | none => .ok ()
  | .telnet config => validateHostAndPort config.host config.port
  | .serial config => do
    let portName := trim config.portName
    bailIf (portName == "") "serial port cannot be empty"
    bailIf (decide (maxSerialPortChars < portName.length) || portName.toList.any isControl)
      "serial port name is invalid"
    bailIf (config.baudRate == 0 || decide (12000000 < config.baudRate))
      "serial baud rate must be between 1 and 12000000"
    match config.usbSerialNumber with
    | some serialNumber =>
      bailIf (decide (maxUsbSerialChars < serialNumber.length)
          || serialNumber.toList.any isControl) "USB serial number is invalid"
    | none => .ok ()

def validateTransfer : ConnectionFields → Except String Unit
  | .ssh _ => .ok ()
  | .telnet config => validateTransferText "Telnet host" config.host maxHostChars
  | .serial config => do
    validateTransferText "serial port" config.portName maxHostChars
    match config.usbSerialNumber with
    | some serialNumber => validateTransferText "USB serial number" serialNumber 256
    | none => .ok ()

instance : ConnectionRest ConnectionFields := ⟨validate, validateTransfer⟩

end ConnectionFields

/-! ## Profiles -/

variable {ρ σ : Type} [ConnectionRest ρ]

namespace SshConfig

/-- A remembered password and its unlock key belong to password profiles, and a generated key to a
vault record. -/
def validateCredentials (config : SshConfig ρ) : Except String Unit := do
  bailIf (decide (config.auth ≠ .password)
      && (config.credentialStorage.isSome || config.credentialVaultKeySaved))
    "non-password profiles cannot store password credentials"
  bailIf (config.credentialVaultKeySaved
      && decide (config.credentialStorage ≠ some .encryptedVault))
    "generated vault unlock keys require encrypted-vault credential storage"

def validateFingerprint (config : SshConfig ρ) : Except String Unit :=
  match config.hostKeyFingerprint with
  | some fingerprint =>
    validateOptionalText "host-key fingerprint" fingerprint maxHostKeyFingerprintChars
  | none => .ok ()

def validateAuth (config : SshConfig ρ) : Except String Unit :=
  match config.auth with
  | .privateKey path => validateRequiredText "private key path" path maxPrivateKeyPathChars
  | _ => .ok ()

def validate (config : SshConfig ρ) : Except String Unit := do
  validateHostAndPort config.host config.port
  validateRequiredText "username" config.username maxUsernameChars
  config.validateFingerprint
  config.validateCredentials
  config.validateAuth
  ConnectionRest.validate config.rest

end SshConfig

/-- `validate_connection_consistency`. -/
def ConnectionProfile.validate : ConnectionProfile ρ → Except String Unit
  | .ssh config => config.validate
  | .telnet config => ConnectionRest.validate config
  | .serial config => ConnectionRest.validate config

def SessionProfile.validate (profile : SessionProfile ρ) : Except String Unit := do
  validateRequiredText "session name" profile.name maxSessionNameChars
  validateGroupName profile.groupName true
  profile.connection.validate

/-- `validate_transferred_profile` of `session_management.rs`. -/
def validateTransferredProfile (profile : SessionProfile ρ) : Except String Unit := do
  profile.validate
  validateTransferText "session name" profile.name maxSessionNameChars
  match profile.connection with
  | .ssh config =>
    validateTransferText "SSH host" config.host maxHostChars
    validateTransferText "SSH username" config.username maxUsernameChars
    match config.auth with
    | .privateKey path => validateTransferText "private key path" path maxPrivateKeyPathChars
    | _ => .ok ()
  | .telnet config | .serial config => ConnectionRest.validateTransfer config

/-! ## Stores -/

def SessionStore.validate (store : SessionStore ρ σ) : Except String Unit := do
  bailIf (decide (maxGroups < store.groups.length))
    s!"session store cannot exceed {maxGroups} groups"
  bailIf (decide (maxSessionProfiles < store.sessions.length))
    s!"session store cannot exceed {maxSessionProfiles} profiles"
  bailIf (decide (maxRecentWorkspaces < store.recentWorkspaces.length))
    s!"session store cannot exceed {maxRecentWorkspaces} recent workspaces"
  store.recentWorkspaces.forM validateWorkspacePath
  bailIf (!decide store.recentWorkspaces.Nodup) "recent workspaces cannot contain duplicates"
  store.groups.forM fun group => validateGroupName group false
  store.sessions.forM SessionProfile.validate

end AxSsh.Profiles
