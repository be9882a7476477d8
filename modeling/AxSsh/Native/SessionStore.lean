import AxSsh.ForStd.KeyedList
import AxSsh.Native.SftpDirectory
import AxSsh.Native.Workspace

/-!
# The session store

`SessionStore` of `config/session.rs` with its operations on profiles and groups, and the parts of
`SessionProfile`, `SshConfig`, `SystemDetection` and `AppSettings` that the transactions on the
store read.  What they do not read of a connection is one value of type `ρ`, and what they do not
read of the settings one value of type `σ`.

A store that was saved is read back as it was saved; the migration of older files is left out.
-/

namespace AxSsh.Profiles

def maxGroupNameChars : Nat := 64

inductive CredentialStorage where
  | encryptedVault
  | systemKeyring
deriving DecidableEq, Repr

inductive AuthMethod where
  | password
  | privateKey (path : String)
  | sshAgent
deriving DecidableEq, Repr

structure SshConfig (ρ : Type) where
  host : String
  port : Nat
  username : String
  auth : AuthMethod
  credentialStorage : Option CredentialStorage := none
  credentialVaultKeySaved : Bool := false
  hostKeyFingerprint : Option String := none
  rest : ρ
deriving DecidableEq

inductive ConnectionProfile (ρ : Type) where
  | ssh (config : SshConfig ρ)
  | telnet (config : ρ)
  | serial (config : ρ)
deriving DecidableEq

structure SystemDetection where
  host : String
  port : Nat
  username : String
  hostKeyFingerprint : Option String
  release : String
  iconId : Option String
deriving DecidableEq, Repr

structure SessionProfile (ρ : Type) where
  id : Uuid
  name : String
  groupName : String := ""
  systemIconOverride : Option String := none
  detectedSystem : Option SystemDetection := none
  connection : ConnectionProfile ρ
deriving DecidableEq

structure AudioSettings where
  sampleRate : Nat
  channels : Nat
  whisperExecutable : String
  whisperModel : String
deriving DecidableEq, Repr

structure AppSettings (σ : Type) where
  audio : AudioSettings
  uiLanguage : Option String
  /-- `appearance.local_shell_icon_override`. -/
  localShellIconOverride : Option String
  rest : σ
deriving DecidableEq

structure SessionStore (ρ σ : Type) where
  version : Nat
  groups : List String := []
  sessions : List (SessionProfile ρ) := []
  recentWorkspaces : List String := []
  settings : AppSettings σ
deriving DecidableEq

variable {ρ σ : Type}

/-! ## Profiles -/

namespace SessionProfile

def ssh (profile : SessionProfile ρ) : Option (SshConfig ρ) :=
  match profile.connection with
  | .ssh config => some config
  | _ => none

/-- A change through `ssh_mut`. -/
def modifySsh (f : SshConfig ρ → SshConfig ρ) (profile : SessionProfile ρ) : SessionProfile ρ :=
  match profile.connection with
  | .ssh config => { profile with connection := .ssh (f config) }
  | _ => profile

@[simp] theorem id_modifySsh (f : SshConfig ρ → SshConfig ρ) (profile : SessionProfile ρ) :
    (profile.modifySsh f).id = profile.id := by
  unfold modifySsh
  split <;> rfl

end SessionProfile

def validRelease (release : String) : Bool :=
  trim release ≠ "" && decide (release.length ≤ 96) && !release.toList.any isControl

def SystemDetection.matchesProfile (system : SystemDetection) (profile : SessionProfile ρ) : Bool :=
  profile.ssh.any fun ssh =>
    system.host == ssh.host && system.port == ssh.port && system.username == ssh.username
      && system.hostKeyFingerprint == ssh.hostKeyFingerprint && validRelease system.release

/-! ## Groups and profiles of a store -/

def normalizeGroupName (value : String) : String :=
  let value := trim value
  if value.toList.map Char.toLower = "ungrouped".toList then "" else value

def validateGroupName (value : String) (allowEmpty : Bool) : Except String Unit := do
  let value := normalizeGroupName value
  bailIf (!allowEmpty && value == "") "group name cannot be empty"
  bailIf (decide (maxGroupNameChars < value.length))
    s!"group name cannot exceed {maxGroupNameChars} characters"
  bailIf (value.toList.any isControl) "group name cannot contain control characters"

namespace SessionStore

/-- `sessions.iter().find(|profile| profile.id == id)`. -/
def find (store : SessionStore ρ σ) (id : Uuid) : Option (SessionProfile ρ) :=
  store.sessions.findKey SessionProfile.id id

/-- A change of the profile that `iter_mut().find` finds. -/
def modify (id : Uuid) (f : SessionProfile ρ → SessionProfile ρ) (store : SessionStore ρ σ) :
    SessionStore ρ σ :=
  { store with sessions := store.sessions.modifyKey SessionProfile.id id f }

def upsert (profile : SessionProfile ρ) (store : SessionStore ρ σ) : SessionStore ρ σ :=
  let profile := { profile with groupName := normalizeGroupName profile.groupName }
  let groups :=
    if profile.groupName ≠ "" ∧ profile.groupName ∉ store.groups then
      store.groups ++ [profile.groupName]
    else store.groups
  { store with
    groups
    sessions :=
      if (store.find profile.id).isSome then
        store.sessions.modifyKey SessionProfile.id profile.id fun _ => profile
      else store.sessions ++ [profile] }

def remove (id : Uuid) (store : SessionStore ρ σ) : SessionStore ρ σ :=
  { store with sessions := store.sessions.filter (·.id ≠ id) }

def addGroup (name : String) (store : SessionStore ρ σ) :
    Except String (SessionStore ρ σ × Bool) := do
  validateGroupName name false
  let name := normalizeGroupName name
  if name ∈ store.groups then .ok (store, false)
  else .ok ({ store with groups := store.groups ++ [name] }, true)

def renameGroup (oldName newName : String) (store : SessionStore ρ σ) :
    Except String (SessionStore ρ σ × Bool) := do
  let oldName := normalizeGroupName oldName
  validateGroupName oldName false
  validateGroupName newName false
  let newName := normalizeGroupName newName
  if oldName = newName then .ok (store, false)
  else if newName ∈ store.groups then .error "group already exists"
  else if oldName ∉ store.groups then .ok (store, false)
  else
    .ok ({ store with
      groups := store.groups.modifyKey id oldName fun _ => newName
      sessions := store.sessions.map fun profile =>
        if normalizeGroupName profile.groupName = oldName then { profile with groupName := newName }
        else profile }, true)

def removeGroup (name : String) (store : SessionStore ρ σ) : SessionStore ρ σ × Bool :=
  let name := normalizeGroupName name
  if name ∉ store.groups then (store, false)
  else
    ({ store with
      groups := store.groups.filter (· ≠ name)
      sessions := store.sessions.map fun profile =>
        if normalizeGroupName profile.groupName = name then { profile with groupName := "" }
        else profile }, true)

/-- A group of a file, if it is not there yet. -/
def pushNormalized (groups : List String) (name : String) : List String :=
  let name := normalizeGroupName name
  if name ≠ "" ∧ name ∉ groups then groups ++ [name] else groups

def normalizeGroups (store : SessionStore ρ σ) : SessionStore ρ σ :=
  { store with
    groups := (store.groups ++ store.sessions.map (·.groupName)).foldl pushNormalized []
    sessions := store.sessions.map fun profile =>
      { profile with groupName := normalizeGroupName profile.groupName } }

end SessionStore

/-! ## Edits -/

/-- What the closures of `update_session_store` call on their candidate. -/
inductive StoreEdit (ρ : Type) where
  | upsert (profile : SessionProfile ρ)
  | addGroup (name : String)
  | renameGroup (oldName newName : String)
  | removeGroup (name : String)

namespace StoreEdit

def apply (store : SessionStore ρ σ) : StoreEdit ρ → Except String (SessionStore ρ σ)
  | .upsert profile => .ok (store.upsert profile)
  | .addGroup name => (store.addGroup name).map Prod.fst
  | .renameGroup oldName newName => (store.renameGroup oldName newName).map Prod.fst
  | .removeGroup name => .ok (store.removeGroup name).1

/-- The edits of a closure, in their order. -/
def applyAll (edits : List (StoreEdit ρ)) (store : SessionStore ρ σ) :
    Except String (SessionStore ρ σ) :=
  edits.foldlM apply store

end StoreEdit

end AxSsh.Profiles
