import AxSsh.Native.ProfileValidation

/-!
# Duplicates, imports and groups

The updates of `workspace/session_management.rs` that change the profiles and the groups of the
store, and `update_session_store_with`, which runs one of them on a candidate, saves the candidate
and then puts it in memory.

The reading of the clipboard text by `serde_json` is a parameter, and so are the new identifiers of
profiles: `newId i` is the `i`-th one an update draws.  Replies to the user are left out.
-/

namespace AxSsh.Profiles

def sessionTransferFormat : String := "axssh-session-export"
def sessionTransferVersion : Nat := 1
def maxSessionTransferBytes : Nat := 256 * 1024
def maxSessionTransferProfiles : Nat := 128

inductive SessionTransferKind where
  | server
  | group
deriving DecidableEq, Repr

structure SessionTransferEnvelope (ρ : Type) where
  format : String
  version : Nat
  kind : SessionTransferKind
  groupName : Option String
  profiles : List (SessionProfile ρ)

inductive SessionImportMode where
  | singleServer
  | intoGroup
  | automatic
deriving DecidableEq, Repr

variable {ρ σ : Type}

/-! ## Names -/

/-- `str::trim_end`. -/
def trimEnd (text : String) : String :=
  String.ofList (text.toList.reverse.dropWhile isWhitespace).reverse

/-- The first candidate that is not taken, from copy `n` to the last `u32`. -/
def firstFree (taken : String → Bool) (candidate : Nat → String) : Nat → Nat → Option String
  | 0, _ => none
  | fuel + 1, n =>
    if taken (candidate n) then firstFree taken candidate fuel (n + 1) else some (candidate n)

/-- `u32::MAX`. -/
def maxCopies : Nat := 4294967295

/-- ` Copy`, ` Copy 2` and so on, behind as much of the name as fits. -/
def copyName (name : String) (maxChars copyNumber : Nat) : String :=
  let suffix := if copyNumber = 1 then " Copy" else s!" Copy {copyNumber}"
  let stem := String.ofList (name.toList.take (maxChars - suffix.length))
  trimEnd stem ++ suffix

def normalizedTransferGroupName (groupName : String) : Except String String := do
  let groupName := normalizeGroupName groupName
  validateGroupName groupName false
  pure groupName

namespace SessionStore

def hasName (store : SessionStore ρ σ) (name : String) : Bool :=
  store.sessions.any (·.name == name)

/-- Every candidate is validated before it is looked up. -/
def freeGroup (store : SessionStore ρ σ) (name : String) : Nat → Nat → Except String String
  | 0, _ => .error "too many duplicate group names"
  | fuel + 1, n => do
    let _ ← normalizedTransferGroupName (copyName name 64 n)
    if copyName name 64 n ∈ store.groups then store.freeGroup name fuel (n + 1)
    else .ok (copyName name 64 n)

def duplicateGroupName (store : SessionStore ρ σ) (name : String) : Except String String := do
  let name ← normalizedTransferGroupName name
  store.freeGroup name maxCopies 1

def uniqueImportedGroupName (store : SessionStore ρ σ) (name : String) : Except String String := do
  let name ← normalizedTransferGroupName name
  if name ∈ store.groups then store.duplicateGroupName name else .ok name

def uniqueImportedSessionName (store : SessionStore ρ σ) (name : String) :
    Except String String :=
  if store.hasName name then
    match firstFree store.hasName (copyName name maxSessionNameChars) maxCopies 1 with
    | some name => .ok name
    | none => .error "too many imported session name conflicts"
  else .ok name

def duplicateSessionName (store : SessionStore ρ σ) (name : String) : Except String String :=
  if store.hasName s!"{name} Copy" then
    match firstFree store.hasName (fun n => s!"{name} Copy {n}") (maxCopies - 1) 2 with
    | some name => .ok name
    | none => .error "too many duplicate session names"
  else .ok s!"{name} Copy"

def ensureSessionGroup (groupName : String) (store : SessionStore ρ σ) :
    Except String (SessionStore ρ σ) :=
  if groupName = "" ∨ groupName ∈ store.groups then .ok store
  else (store.addGroup groupName).map Prod.fst

end SessionStore

/-! ## Transfers -/

def sanitizeTransferredProfile (profile : SessionProfile ρ) : SessionProfile ρ :=
  { profile with
    id := .nil
    detectedSystem := none
    groupName := normalizeGroupName profile.groupName }.modifySsh fun ssh =>
      { ssh with
        credentialStorage := none
        credentialVaultKeySaved := false
        hostKeyFingerprint := none }

def sanitizeImportedProfile (profile : SessionProfile ρ) : SessionProfile ρ :=
  { sanitizeTransferredProfile profile with id := profile.id, groupName := profile.groupName }

section Transfers

variable [ConnectionRest ρ]

def validateTransferKind (envelope : SessionTransferEnvelope ρ) : Except String Unit :=
  match envelope.kind with
  | .server =>
    bailIf (envelope.groupName.isSome || decide (envelope.profiles.length ≠ 1))
      "server export must contain exactly one server"
  | .group =>
    match envelope.groupName with
    | none => .error "group export is missing its group name"
    | some groupName => (normalizedTransferGroupName groupName).map fun _ => ()

def validateSessionTransfer (envelope : SessionTransferEnvelope ρ) : Except String Unit := do
  bailIf (envelope.format != sessionTransferFormat) "clipboard data is not an AxSSH session export"
  bailIf (envelope.version != sessionTransferVersion) "unsupported AxSSH session export version"
  bailIf (decide (maxSessionTransferProfiles < envelope.profiles.length))
    s!"session export exceeds the {maxSessionTransferProfiles} server limit"
  validateTransferKind envelope
  envelope.profiles.forM validateTransferredProfile

/-- `fromStr` is `serde_json::from_str`. -/
def parseSessionTransfer (fromStr : String → Except String (SessionTransferEnvelope ρ))
    (text : String) : Except String (SessionTransferEnvelope ρ) := do
  bailIf (trim text == "") "clipboard is empty"
  bailIf (decide (maxSessionTransferBytes < text.utf8ByteSize))
    "clipboard data exceeds the 256 KiB import limit"
  let envelope ← fromStr text
  let envelope := { envelope with profiles := envelope.profiles.map sanitizeTransferredProfile }
  validateSessionTransfer envelope
  pure envelope

namespace SessionStore

/-! ## Updates -/

/-- The copy of a profile has no credentials. -/
def duplicateProfile (newId : Uuid) (groupName : String → String) (source : SessionProfile ρ)
    (store : SessionStore ρ σ) : Except String (SessionStore ρ σ) := do
  let name ← store.duplicateSessionName source.name
  let duplicate := { source with
    id := newId, name, groupName := groupName source.groupName }.modifySsh fun ssh =>
      { ssh with credentialStorage := none, credentialVaultKeySaved := false }
  duplicate.validate
  pure (store.upsert duplicate)

/-- The update of `duplicate_session_profile`. -/
def duplicateSession (newId : Nat → Uuid) (sessionId : Uuid) (store : SessionStore ρ σ) :
    Except String (SessionStore ρ σ) :=
  match store.find sessionId with
  | none => .error "session not found"
  | some source => store.duplicateProfile (newId 0) id source

/-- The profiles of a group, one by one, each with its own new identifier. -/
def duplicateProfiles (newId : Nat → Uuid) (groupName : String) :
    Nat → List (SessionProfile ρ) → SessionStore ρ σ → Except String (SessionStore ρ σ)
  | _, [], store => .ok store
  | i, source :: sources, store => do
    let store ← store.duplicateProfile (newId i) (fun _ => groupName) source
    duplicateProfiles newId groupName (i + 1) sources store

/-- The update of `duplicate_session_group`. -/
def duplicateGroup (newId : Nat → Uuid) (sourceGroup : String) (store : SessionStore ρ σ) :
    Except String (SessionStore ρ σ) := do
  let sourceGroup ← normalizedTransferGroupName sourceGroup
  bailIf (decide (sourceGroup ∉ store.groups)) "group not found"
  let sourceProfiles := store.sessions.filter fun profile =>
    normalizeGroupName profile.groupName = sourceGroup
  bailIf (decide (maxSessionTransferProfiles < sourceProfiles.length))
    s!"group exceeds the {maxSessionTransferProfiles} server duplicate limit"
  let groupName ← store.duplicateGroupName sourceGroup
  let (store, _) ← store.addGroup groupName
  duplicateProfiles newId groupName 0 sourceProfiles store

/-- The group that an import puts its profiles into, or `none` where each keeps its own. -/
def importGroup (envelope : SessionTransferEnvelope ρ) (targetGroup : String)
    (store : SessionStore ρ σ) :
    SessionImportMode → Except String (SessionStore ρ σ × Option String)
  | .singleServer => do
    bailIf (envelope.kind != .server) "Import Server requires a single-server export"
    let store ← store.ensureSessionGroup targetGroup
    pure (store, some targetGroup)
  | .intoGroup => do
    let targetGroup ← normalizedTransferGroupName targetGroup
    bailIf envelope.profiles.isEmpty "clipboard export contains no servers"
    let store ← store.ensureSessionGroup targetGroup
    pure (store, some targetGroup)
  | .automatic =>
    match envelope.kind, envelope.groupName with
    | .group, none => .error "group export is missing its group name"
    | .group, some sourceGroup => do
      let group ← store.uniqueImportedGroupName sourceGroup
      let (store, _) ← store.addGroup group
      pure (store, some group)
    | .server, _ => .ok (store, none)

def importProfile (newId : Uuid) (importedGroup : Option String) (profile : SessionProfile ρ)
    (store : SessionStore ρ σ) : Except String (SessionStore ρ σ) := do
  let destinationGroup := importedGroup.getD (normalizeGroupName profile.groupName)
  let store ← store.ensureSessionGroup destinationGroup
  let name ← store.uniqueImportedSessionName profile.name
  let profile := sanitizeImportedProfile
    { profile with id := newId, groupName := destinationGroup, name }
  validateTransferredProfile profile
  pure (store.upsert profile)

def importProfiles (newId : Nat → Uuid) (importedGroup : Option String) :
    Nat → List (SessionProfile ρ) → SessionStore ρ σ → Except String (SessionStore ρ σ)
  | _, [], store => .ok store
  | i, profile :: profiles, store => do
    let store ← store.importProfile (newId i) importedGroup profile
    importProfiles newId importedGroup (i + 1) profiles store

/-- `import_session_transfer_into_store`. -/
def importTransfer (fromStr : String → Except String (SessionTransferEnvelope ρ))
    (newId : Nat → Uuid) (text : String) (mode : SessionImportMode) (targetGroup : String)
    (store : SessionStore ρ σ) : Except String (SessionStore ρ σ) := do
  let envelope ← parseSessionTransfer fromStr text
  let (store, importedGroup) ←
    store.importGroup envelope (normalizeGroupName targetGroup) mode
  importProfiles newId importedGroup 0 envelope.profiles store

end SessionStore

end Transfers

/-- A change of the store, or of the candidate that an update gets. -/
inductive StoreOperation (ρ : Type) where
  | upsert (profile : SessionProfile ρ)
  | remove (id : Uuid)
  | addGroup (name : String)
  | renameGroup (oldName newName : String)
  | removeGroup (name : String)
  | duplicateSession (newId : Nat → Uuid) (sessionId : Uuid)
  | duplicateGroup (newId : Nat → Uuid) (groupName : String)
  | importTransfer (newId : Nat → Uuid) (text : String) (mode : SessionImportMode)
      (targetGroup : String)

/-- An operation, with the changes of groups as `update_session_group` makes them. -/
def StoreOperation.apply [ConnectionRest ρ]
    (fromStr : String → Except String (SessionTransferEnvelope ρ)) (operation : StoreOperation ρ)
    (store : SessionStore ρ σ) : Except String (SessionStore ρ σ) :=
  match operation with
  | .upsert profile => .ok (store.upsert profile)
  | .remove id => .ok (store.remove id)
  | .addGroup name => do
    let (store, changed) ← store.addGroup (normalizeGroupName name)
    bailIf (!changed) "group was not changed"
    pure store
  | .renameGroup oldName newName => do
    let (store, changed) ←
      store.renameGroup (normalizeGroupName oldName) (normalizeGroupName newName)
    bailIf (!changed) "group was not changed"
    pure store
  | .removeGroup name => do
    let (store, changed) := store.removeGroup (normalizeGroupName name)
    bailIf (!changed) "group was not changed"
    pure store
  | .duplicateSession newId sessionId => store.duplicateSession newId sessionId
  | .duplicateGroup newId groupName => store.duplicateGroup newId groupName
  | .importTransfer newId text mode targetGroup =>
    store.importTransfer fromStr newId text mode targetGroup

/-! ## Transactions -/

/-- How the write of the file ends, after the store was validated. -/
inductive WriteOutcome where
  | written
  /-- The file was not replaced. -/
  | failed
  /-- The file was replaced, and then the directory could not be synced. -/
  | notSynced
deriving DecidableEq, Repr

/-- `ConfigStore::save`: its result and the store that is on disk after it. -/
def saveStore [ConnectionRest ρ] (store disk : SessionStore ρ σ) (outcome : WriteOutcome) :
    Except String Unit × SessionStore ρ σ :=
  match store.validate with
  | .error _ => (.error "session store validation failed", disk)
  | .ok () =>
    match outcome with
    | .written => (.ok (), store)
    | .failed => (.error "failed to write the session store", disk)
    | .notSynced => (.error "failed to sync persistence directory", store)

/-- The store in memory and the one on disk. -/
structure StorePair (ρ σ : Type) where
  memory : SessionStore ρ σ
  disk : SessionStore ρ σ

/-- `update_session_store_with`: `loaded` is what `config.load` returns; the candidate has its
settings and history. -/
def StorePair.update [ConnectionRest ρ]
    (update : SessionStore ρ σ → Except String (SessionStore ρ σ))
    (loaded : Except String (SessionStore ρ σ)) (outcome : WriteOutcome) (s : StorePair ρ σ) :
    Except String Unit × StorePair ρ σ :=
  match loaded with
  | .error e => (.error e, s)
  | .ok loaded =>
    match update { loaded with groups := s.memory.groups, sessions := s.memory.sessions } with
    | .error e => (.error e, s)
    | .ok candidate =>
      match saveStore candidate s.disk outcome with
      | (.error e, disk) => (.error e, { s with disk })
      | (.ok (), disk) =>
        (.ok (), ⟨{ s.memory with groups := candidate.groups, sessions := candidate.sessions },
          disk⟩)

/-- `commit_profile_save` and `commit_profile_delete`: the candidate is the store in memory. -/
def StorePair.commit [ConnectionRest ρ]
    (change : SessionStore ρ σ → Except String (SessionStore ρ σ)) (outcome : WriteOutcome)
    (s : StorePair ρ σ) : Except String Unit × StorePair ρ σ :=
  match change s.memory with
  | .error e => (.error e, s)
  | .ok candidate =>
    match saveStore candidate s.disk outcome with
    | (.error e, disk) => (.error e, { s with disk })
    | (.ok (), disk) => (.ok (), ⟨candidate, disk⟩)

def StorePair.run [ConnectionRest ρ]
    (fromStr : String → Except String (SessionTransferEnvelope ρ)) (operation : StoreOperation ρ)
    (loaded : Except String (SessionStore ρ σ)) (outcome : WriteOutcome) (s : StorePair ρ σ) :
    Except String Unit × StorePair ρ σ :=
  match operation with
  | .upsert _ | .remove _ => s.commit (operation.apply fromStr) outcome
  | _ => s.update (operation.apply fromStr) loaded outcome

end AxSsh.Profiles
