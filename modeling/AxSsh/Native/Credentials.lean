import AxSsh.ForStd.Faulty
import AxSsh.Native.SessionStore

/-!
# Remembered passwords

The part of `CredentialStore` in `credentials.rs` that keeps the password of one profile, and
`save_password`, `delete_password_in_store` and `CredentialRollback` of `app/credential_tasks.rs`.

A password is in the system keyring or in an encrypted vault record, and the key that unlocks the
record may be in a protected entry or, from an older version, in a file.  Each call to the keyring
or to the file system may fail and then changes nothing; paths are left out of the messages.  The
entries hold what was validated when it was written.  The encryption of records comes from the
libraries that the source uses and is a parameter; the random salt and nonce come with a call.
-/

namespace AxSsh.Credentials

open Profiles (CredentialStorage)

def maxVaultRecordBytes : Nat := 32 * 1024
def maxVaultPasswordBytes : Nat := 1024

/-- What `validate_password` accepts. -/
@[ext] structure Secret where
  value : String
  nonempty : value ≠ ""
  bounded : value.utf8ByteSize ≤ maxVaultPasswordBytes
deriving DecidableEq

def validatePassword (value label : String) : Except String Secret :=
  if hempty : value = "" then .error s!"{label} cannot be empty"
  else if hsize : value.utf8ByteSize ≤ maxVaultPasswordBytes then .ok ⟨value, hempty, hsize⟩
  else .error s!"{label} exceeds the size limit"

/-- The encryption of vault records `R` with random values `N`. -/
structure VaultFormat (R N : Type) where
  size : R → Nat
  encrypt : Uuid → Secret → Secret → N → R
  decrypt : Uuid → Secret → R → Except String String

/-- The old file with an unlock key, or why it cannot be read. -/
inductive LegacyUnlockFile where
  | key (password : Secret)
  | invalid (message : String)
deriving DecidableEq

/-- What the backends hold for one profile. -/
structure CredentialState (R : Type) where
  /-- The entry `session:{id}`. -/
  system : Option Secret := none
  /-- The file `{id}.json`. -/
  vault : Option R := none
  /-- The entry `vault-unlock:{id}`. -/
  unlock : Option Secret := none
  /-- The file `{id}.unlock`. -/
  legacy : Option LegacyUnlockFile := none

inductive CredentialBackup (R : Type) where
  | systemKeyring (password : Option Secret)
  | encryptedVault (record : Option R)

abbrev Backend (R : Type) := Faulty (CredentialState R)

namespace CredentialStore

open Faulty (call fail lift)

variable {R N : Type} (F : VaultFormat R N) (id : Uuid)

/-- A call that reads. -/
def read {α : Type} (message : String) (f : CredentialState R → Except String α) : Backend R α :=
  call message fun s => (f s).map fun a => (a, s)

/-- A call that writes. -/
def write (message : String) (f : CredentialState R → CredentialState R) : Backend R Unit :=
  call message fun s => .ok ((), f s)

def systemEntry : Backend R Unit := read "failed to open system credential entry" fun _ => .ok ()

def vaultUnlockEntry : Backend R Unit :=
  read "failed to open encrypted vault unlock entry" fun _ => .ok ()

/-! ## The system keyring -/

def loadSystemPassword : Backend R (Option Secret) := do
  systemEntry
  read "failed to read password from system credential store" fun s => .ok s.system

def saveSystemPassword (password : String) : Backend R Unit := do
  let password ← lift (validatePassword password "password")
  systemEntry
  write "failed to save password in system credential store" fun s =>
    { s with system := some password }

def deleteSystemPassword : Backend R Unit := do
  systemEntry
  write "failed to delete password from system credential store" fun s => { s with system := none }

/-! ## Vault records -/

def readVaultRecord : Backend R (Option R) :=
  read "failed to read encrypted credential" fun s =>
    match s.vault with
    | none => .ok none
    | some record =>
      if maxVaultRecordBytes < F.size record then
        .error "encrypted credential record exceeds the size limit"
      else .ok (some record)

def writeVaultRecord (record : R) : Backend R Unit :=
  write "failed to write encrypted credential" fun s => { s with vault := some record }

def loadVaultPassword (vaultPassword : String) : Backend R (Option String) := do
  let vaultPassword ← lift (validatePassword vaultPassword "vault password")
  match ← readVaultRecord F with
  | none => pure none
  | some record => some <$> lift (F.decrypt id vaultPassword record)

def saveVaultPassword (nonce : N) (password vaultPassword : String) : Backend R Unit := do
  let password ← lift (validatePassword password "password")
  let vaultPassword ← lift (validatePassword vaultPassword "vault password")
  writeVaultRecord (F.encrypt id password vaultPassword nonce)

def deleteVaultPassword : Backend R Unit :=
  write "failed to delete encrypted credential" fun s => { s with vault := none }

def deletePassword : CredentialStorage → Backend R Unit
  | .systemKeyring => deleteSystemPassword
  | .encryptedVault => deleteVaultPassword

/-! ## Unlock keys -/

def loadVaultUnlockPassword : Backend R (Option Secret) := do
  vaultUnlockEntry
  read "failed to read protected vault unlock key" fun s => .ok s.unlock

def saveVaultUnlockPassword (password : String) : Backend R Unit := do
  let password ← lift (validatePassword password "vault unlock password")
  vaultUnlockEntry
  write "failed to save protected vault unlock key" fun s => { s with unlock := some password }

def readLocalUnlockFile : Backend R (Option Secret) :=
  read "failed to read legacy vault unlock file" fun s =>
    match s.legacy with
    | none => .ok none
    | some (.key password) => .ok (some password)
    | some (.invalid message) => .error message

def deleteLocalUnlockFile : Backend R Unit :=
  write "failed to delete legacy vault unlock file" fun s => { s with legacy := none }

def deleteVaultUnlockPassword : Backend R Unit := do
  vaultUnlockEntry
  write "failed to delete protected vault unlock key" fun s => { s with unlock := none }
  deleteLocalUnlockFile

def loadOrMigrateVaultUnlockPassword : Backend R (Option Secret) := do
  match ← readLocalUnlockFile with
  | some password =>
    saveVaultUnlockPassword password.value
    deleteLocalUnlockFile
    pure (some password)
  | none => loadVaultUnlockPassword

def backupVaultUnlockPassword : Backend R (Option Secret) := loadOrMigrateVaultUnlockPassword

def restoreVaultUnlockPassword : Option String → Backend R Unit
  | some password => saveVaultUnlockPassword password
  | none => deleteVaultUnlockPassword

/-! ## Backups -/

def backup : CredentialStorage → Backend R (CredentialBackup R)
  | .systemKeyring => .systemKeyring <$> loadSystemPassword
  | .encryptedVault => .encryptedVault <$> readVaultRecord F

def restoreBackup : CredentialStorage → CredentialBackup R → Backend R Unit
  | .systemKeyring, .systemKeyring (some password) => saveSystemPassword password.value
  | .systemKeyring, .systemKeyring none => deleteSystemPassword
  | .encryptedVault, .encryptedVault (some record) => writeVaultRecord record
  | .encryptedVault, .encryptedVault none => deleteVaultPassword
  | _, _ => fail "credential backup does not match its storage policy"

end CredentialStore

/-! ## Changes of a remembered password -/

open CredentialStore Faulty

variable {R N : Type} (F : VaultFormat R N) (id : Uuid)

def restoreBackups : List (CredentialStorage × CredentialBackup R) → Backend R Unit
  | [] => pure ()
  | (storage, backup) :: backups => do
    restoreBackup storage backup
    restoreBackups backups

/-- A backup of the unlock key is taken only where a generated key is involved. -/
def restoreUnlock : Option (Option Secret) → Backend R Unit
  | some backup => restoreVaultUnlockPassword (backup.map Secret.value)
  | none => pure ()

structure CredentialRollback (R : Type) where
  backups : List (CredentialStorage × CredentialBackup R)
  vaultUnlockBackup : Option (Option Secret)

/-- Restores are taken to succeed: none of their calls fails. -/
def CredentialRollback.restore (rollback : CredentialRollback R) : Backend R Unit :=
  reliably do
    restoreBackups rollback.backups
    restoreUnlock rollback.vaultUnlockBackup

/-- A step that is undone when it fails. -/
def orRestore (rollback : CredentialRollback R) (message : String) (step : Backend R Unit) :
    Backend R Unit := do
  match ← attempt step with
  | .ok () => pure ()
  | .error _ =>
    rollback.restore
    fail message

def backupUnlock (needed : Bool) : Backend R (Option (Option Secret)) :=
  if needed then some <$> backupVaultUnlockPassword else pure none

def backupPrevious : Option CredentialStorage →
    Backend R (List (CredentialStorage × CredentialBackup R))
  | some previous => do
    let backup ← backup F previous
    pure [(previous, backup)]
  | none => pure []

/-- The password is saved in its new place. -/
def saveNew (rollback : CredentialRollback R) (nonce : N) (password : String) :
    CredentialStorage → Option String → Backend R Unit
  | .systemKeyring, _ =>
    orRestore rollback "failed to save remembered password" (saveSystemPassword password)
  | .encryptedVault, some vaultPassword =>
    orRestore rollback "failed to save remembered password"
      (saveVaultPassword F id nonce password vaultPassword)
  | .encryptedVault, none => fail "vault password is required"

/-- The unlock key is saved if it was generated, or removed if the previous one was. -/
def updateUnlock (rollback : CredentialRollback R) (previousVaultPasswordGenerated : Bool) :
    CredentialStorage → Bool → Option String → Backend R Unit
  | .encryptedVault, true, some vaultPassword =>
    orRestore rollback "failed to save encrypted vault unlock key"
      (saveVaultUnlockPassword vaultPassword)
  | .encryptedVault, true, none => fail "generated vault password is missing"
  | _, _, _ =>
    if previousVaultPasswordGenerated then
      orRestore rollback "failed to save encrypted vault unlock key" deleteVaultUnlockPassword
    else pure ()

/-- The password is removed from its previous place. -/
def removeReplaced (rollback : CredentialRollback R) : Option CredentialStorage → Backend R Unit
  | some previous =>
    orRestore rollback "failed to remove the replaced remembered password"
      (deletePassword previous)
  | none => pure ()

def savePassword (nonce : N) (storage : CredentialStorage) (password : String)
    (vaultPassword : Option String) (vaultPasswordGenerated previousVaultPasswordGenerated : Bool)
    (previousStorage : Option CredentialStorage) : Backend R (CredentialRollback R) := do
  let previous := previousStorage.filter (· ≠ storage)
  let first ← backup F storage
  let rest ← backupPrevious F previous
  let vaultUnlockBackup ← backupUnlock (vaultPasswordGenerated || previousVaultPasswordGenerated)
  let rollback : CredentialRollback R := ⟨(storage, first) :: rest, vaultUnlockBackup⟩
  saveNew F id rollback nonce password storage vaultPassword
  updateUnlock rollback previousVaultPasswordGenerated storage vaultPasswordGenerated vaultPassword
  removeReplaced rollback previous
  pure rollback

/-- A generated unlock key goes with its record. -/
def removeUnlock (rollback : CredentialRollback R) (vaultPasswordGenerated : Bool) :
    Backend R Unit :=
  if vaultPasswordGenerated then
    orRestore rollback "failed to remove encrypted vault unlock key" deleteVaultUnlockPassword
  else pure ()

def deletePasswordInStore (previousStorage : CredentialStorage) (vaultPasswordGenerated : Bool) :
    Backend R (CredentialRollback R) := do
  let backup ← backup F previousStorage
  let vaultUnlockBackup ← backupUnlock vaultPasswordGenerated
  let rollback : CredentialRollback R := ⟨[(previousStorage, backup)], vaultUnlockBackup⟩
  deletePassword previousStorage
  removeUnlock rollback vaultPasswordGenerated
  pure rollback

end AxSsh.Credentials
