import AxSsh.Native.SessionStore

/-!
# Transactions on the session store

The operations that save the store of `AppState.sessions`: those of `workspace/session_editor.rs`,
`connection/host_key.rs`, `workspace/session_management.rs` and `workspace/files.rs`,
`persist_authenticated_credential` of `connection_monitor.rs`,
`set_credential_storage_while_loading` of `state/transitions.rs`, `save_system_detection` of
`state/system_detection.rs`, and the saving of settings in `settings_bridge.rs` and
`terminal_media.rs`.

Every one of them is a task that first takes the persistence gate and then runs from one `.await`
or lock section to the next; other tasks and the user come between.  Only a Settings preview and
the acceptance of a system discovery change the state without the gate.  The outcomes of the
credential store, of the files and of the checks on tabs come with the step.  The tokens of profile
mutations are the names of the tasks.
-/

namespace AxSsh.Profiles

variable {ρ σ : Type}

/-- The parts of a `PendingHostKey` that a confirmation reads. -/
structure PendingHostKey where
  profileId : Uuid
  host : String
  port : Nat
  fingerprint : String
  /-- Whether there is a `public_key`. -/
  publicKey : Bool
deriving DecidableEq, Repr

inductive Transaction (ρ σ : Type) where
  | saveProfile (profile : SessionProfile ρ) (expected : Option (SessionProfile ρ))
      (resetSystem : Bool)
  | deleteProfile (expected : SessionProfile ρ)
  | clearPassword (expected : SessionProfile ρ)
  | storeCredential (expected : SessionProfile ρ) (storage : CredentialStorage)
      (vaultPasswordGenerated : Bool)
  | confirmHostKey (pending : PendingHostKey) (expected : SessionProfile ρ)
  | confirmRevokedHostKey (pending : PendingHostKey) (expected : SessionProfile ρ)
  | setCredentialStorage (sessionId : Uuid) (storage : Option CredentialStorage)
      (expected : Option (SessionProfile ρ))
  | saveSystemDetection (profileId : Uuid) (system : SystemDetection)
  /-- `update_session_store_with`: duplicates, imports and groups. -/
  | updateSessionStore (update : SessionStore ρ σ → Except String (List (StoreEdit ρ)))
  | updateRecentWorkspaces (update : List String → Except String (List String))
  | saveSettings (settings : AppSettings σ)
  | saveAudio (audio : AudioSettings)
  | saveUiLanguage (language : Option String)
  | saveLocalShellIcon (icon : Option String)

/-- How far a task has come. -/
inductive TaskStage (ρ σ : Type) where
  /-- Waiting for the gate. -/
  | queued
  /-- The gate is taken. -/
  | entered
  /-- Waiting for the credential store or the `known_hosts` file. -/
  | changing
  /-- The `known_hosts` file is written, and the profile was checked again. -/
  | changed
  /-- A candidate was cloned; the blocking task saves it. -/
  | cloned (candidate : SessionStore ρ σ)
  /-- Groups and profiles were cloned; the blocking task reloads, updates and saves. -/
  | snapshot (groups : List String) (sessions : List (SessionProfile ρ))
  /-- The candidate is on disk. -/
  | saved (candidate : SessionStore ρ σ)
  /-- The pin is cleared; the revoked record is removed. -/
  | removing

structure ProfileTask (ρ σ : Type) where
  transaction : Transaction ρ σ
  stage : TaskStage ρ σ := .queued

/-- What the parties outside of the state answer to one section of a task. -/
structure Outcome where
  /-- The credential store or the `known_hosts` file. -/
  external : Bool := true
  /-- `config.load()`. -/
  load : Bool := true
  /-- `config.save()`, with its validation. -/
  save : Bool := true
  /-- The tab is still loading its credential, or the revision is still the latest. -/
  current : Bool := true
deriving DecidableEq, Repr

/-- A transaction succeeded: the store in memory before and after its commit. -/
structure CommitRecord (ρ σ : Type) where
  transaction : Transaction ρ σ
  before : SessionStore ρ σ
  after : SessionStore ρ σ

/-- The part of `AppState` that the transactions work on, with the file, the gate and the tasks.
`commits` and `saves` list what happened, the newest first. -/
structure ProfileState (ρ σ : Type) where
  sessions : SessionStore ρ σ
  disk : SessionStore ρ σ
  profileMutations : AssocMap Uuid Uuid := ∅
  systemDetections : AssocMap Uuid SystemDetection := ∅
  gate : Option Uuid := none
  tasks : AssocMap Uuid (ProfileTask ρ σ) := ∅
  commits : List (CommitRecord ρ σ) := []
  /-- The file before and after a save. -/
  saves : List (CommitRecord ρ σ) := []

namespace ProfileState

/-! ## Profile mutations -/

def profileMutationIsCurrent (s : ProfileState ρ σ) (profileId token : Uuid) : Bool :=
  s.profileMutations.lookup profileId == some token

def profileMutationIsPending (s : ProfileState ρ σ) (profileId : Uuid) : Bool :=
  (s.profileMutations.lookup profileId).isSome

def finishProfileMutation (profileId token : Uuid) (s : ProfileState ρ σ) : ProfileState ρ σ :=
  if s.profileMutationIsCurrent profileId token then
    { s with profileMutations := s.profileMutations.erase profileId }
  else s

def forgetSystemDetection (profileId : Uuid) (s : ProfileState ρ σ) : ProfileState ρ σ :=
  { s with systemDetections := s.systemDetections.erase profileId }

end ProfileState

/-- The profile whose mutation a transaction announces before it takes the gate, and what it
expects that profile to be. -/
def Transaction.mutation : Transaction ρ σ → Option (Uuid × Option (SessionProfile ρ))
  | .saveProfile profile expected _ => some (profile.id, expected)
  | .deleteProfile expected | .clearPassword expected | .storeCredential expected .. =>
    some (expected.id, some expected)
  | .confirmHostKey pending expected | .confirmRevokedHostKey pending expected =>
    some (pending.profileId, some expected)
  | _ => none

variable [DecidableEq ρ]

namespace ProfileState

/-- `begin_profile_mutation`, or a task that announces nothing. -/
def spawn (token : Uuid) (transaction : Transaction ρ σ) (s : ProfileState ρ σ) :
    ProfileState ρ σ :=
  if (s.tasks.lookup token).isSome then s
  else
    match transaction.mutation with
    | none => { s with tasks := s.tasks.insert token { transaction } }
    | some (profileId, expected) =>
      if s.sessions.find profileId ≠ expected ∨ s.profileMutationIsPending profileId then s
      else
        { s with
          tasks := s.tasks.insert token { transaction }
          profileMutations := s.profileMutations.insert profileId token }

def acquire (token : Uuid) (s : ProfileState ρ σ) : ProfileState ρ σ :=
  match s.gate, s.tasks.lookup token with
  | none, some { transaction, stage := .queued } =>
    { s with gate := some token, tasks := s.tasks.insert token { transaction, stage := .entered } }
  | _, _ => s

/-- A task is over: its mutation is finished, and the gate is released. -/
def finish (token : Uuid) (transaction : Transaction ρ σ) (s : ProfileState ρ σ) :
    ProfileState ρ σ :=
  let s := { s with gate := none, tasks := s.tasks.erase token }
  match transaction.mutation with
  | none => s
  | some (profileId, _) => s.finishProfileMutation profileId token

def setStage (token : Uuid) (transaction : Transaction ρ σ) (stage : TaskStage ρ σ)
    (s : ProfileState ρ σ) : ProfileState ρ σ :=
  { s with tasks := s.tasks.insert token { transaction, stage } }

/-- The file is replaced. -/
def write (transaction : Transaction ρ σ) (stored : SessionStore ρ σ) (s : ProfileState ρ σ) :
    ProfileState ρ σ :=
  { s with disk := stored, saves := ⟨transaction, s.disk, stored⟩ :: s.saves }

/-- The store in memory is replaced. -/
def commit (transaction : Transaction ρ σ) (after : SessionStore ρ σ) (s : ProfileState ρ σ) :
    ProfileState ρ σ :=
  { s with sessions := after, commits := ⟨transaction, s.sessions, after⟩ :: s.commits }

/-- `ensure_profile_mutation_current`, and the same check in the commit functions. -/
def mutationCurrent (s : ProfileState ρ σ) (token profileId : Uuid)
    (expected : Option (SessionProfile ρ)) : Bool :=
  s.profileMutationIsCurrent profileId token && decide (s.sessions.find profileId = expected)

/-- The checks of `confirm_host_key` and `confirm_revoked_host_key` on the profile they clone. -/
def hostKeyEndpoint (pending : PendingHostKey) (expected : SessionProfile ρ) : Bool :=
  expected.ssh.any fun ssh => ssh.host == pending.host && ssh.port == pending.port

/-! ## Commits under one lock

What a commit function saves and what it puts in memory, or `none` when one of its checks fails or
there is nothing to save. -/

/-- `commit_profile_save`. -/
def commitProfileSave (s : ProfileState ρ σ) (token : Uuid) (profile : SessionProfile ρ)
    (expected : Option (SessionProfile ρ)) : Option (SessionStore ρ σ × SessionStore ρ σ) :=
  if s.mutationCurrent token profile.id expected then
    let candidate := s.sessions.upsert profile
    some (candidate, candidate)
  else none

/-- `commit_profile_delete`. -/
def commitProfileDelete (s : ProfileState ρ σ) (token : Uuid) (expected : SessionProfile ρ) :
    Option (SessionStore ρ σ × SessionStore ρ σ) :=
  if s.mutationCurrent token expected.id (some expected) then
    let candidate := s.sessions.remove expected.id
    some (candidate, candidate)
  else none

/-- `commit_profile_password_clear`. -/
def commitProfilePasswordClear (s : ProfileState ρ σ) (token : Uuid)
    (expected : SessionProfile ρ) (load : Bool) : Option (SessionStore ρ σ × SessionStore ρ σ) :=
  if s.mutationCurrent token expected.id (some expected) && load
      && decide (s.disk.find expected.id = some expected) && expected.ssh.isSome then
    let profile := expected.modifySsh fun ssh =>
      { ssh with credentialStorage := none, credentialVaultKeySaved := false }
    some (s.disk.upsert profile, s.sessions.upsert profile)
  else none

/-- `commit_profile_credential_storage`. -/
def commitProfileCredentialStorage (s : ProfileState ρ σ) (token : Uuid)
    (expected : SessionProfile ρ) (storage : CredentialStorage) (vaultPasswordGenerated : Bool) :
    Option (SessionStore ρ σ × SessionStore ρ σ) :=
  if s.mutationCurrent token expected.id (some expected) then
    match expected.ssh with
    | none => none
    | some ssh =>
      if ssh.auth ≠ .password then none
      else if vaultPasswordGenerated && decide (storage ≠ .encryptedVault) then none
      else if ssh.credentialStorage = some storage
          ∧ ssh.credentialVaultKeySaved = vaultPasswordGenerated then none
      else
        let candidate := s.sessions.modify expected.id (SessionProfile.modifySsh fun ssh =>
          { ssh with
            credentialStorage := some storage
            credentialVaultKeySaved := vaultPasswordGenerated })
        some (candidate, candidate)
  else none

/-- `set_credential_storage_while_loading`. -/
def setCredentialStorageWhileLoading (s : ProfileState ρ σ) (sessionId : Uuid)
    (storage : Option CredentialStorage) (expected : Option (SessionProfile ρ)) :
    Option (SessionStore ρ σ × SessionStore ρ σ) :=
  match s.sessions.find sessionId with
  | none => none
  | some profile =>
    if expected.any (· ≠ profile) then none
    else
      match profile.ssh with
      | none => none
      | some ssh =>
        if ssh.credentialStorage = storage then none
        else if storage.isSome && decide (ssh.auth ≠ .password) then none
        else
          let candidate := s.sessions.modify sessionId (SessionProfile.modifySsh fun ssh =>
            { ssh with
              credentialStorage := storage
              credentialVaultKeySaved :=
                ssh.credentialVaultKeySaved && decide (storage = some .encryptedVault) })
          some (candidate, candidate)

/-- `save_system_detection`. -/
def commitSystemDetection (s : ProfileState ρ σ) (profileId : Uuid) (system : SystemDetection)
    (load : Bool) : Option (SessionStore ρ σ × SessionStore ρ σ) :=
  let detect (profile : SessionProfile ρ) := { profile with detectedSystem := some system }
  if s.profileMutationIsPending profileId then none
  else if s.systemDetections.lookup profileId ≠ some system then none
  else if ¬s.sessions.sessions.any fun profile =>
      profile.id = profileId && system.matchesProfile profile then none
  else if !load then none
  else
    match s.disk.find profileId with
    | none => none
    | some profile =>
      if !system.matchesProfile profile then none
      else some (s.disk.modify profileId detect, s.sessions.modify profileId detect)

/-- `save_workspace_settings`: three settings are not those of the Settings tab. -/
def keepOwnSettings (current settings : AppSettings σ) : AppSettings σ :=
  { settings with
    audio := current.audio
    uiLanguage := current.uiLanguage
    localShellIconOverride := current.localShellIconOverride }

/-- The saving of settings; `current` is the check of the revision. -/
def commitSettings (s : ProfileState ρ σ) (load current : Bool) :
    Transaction ρ σ → Option (SessionStore ρ σ × SessionStore ρ σ)
  | .saveSettings settings =>
    let candidate := { s.sessions with settings := keepOwnSettings s.sessions.settings settings }
    some (candidate, candidate)
  | .saveAudio audio =>
    let candidate := { s.sessions with settings := { s.sessions.settings with audio } }
    some (candidate, candidate)
  | .saveUiLanguage uiLanguage =>
    if current && load then
      some ({ s.disk with settings := { s.disk.settings with uiLanguage } },
        { s.sessions with settings := { s.sessions.settings with uiLanguage } })
    else none
  | .saveLocalShellIcon localShellIconOverride =>
    if current && load then
      some ({ s.disk with settings := { s.disk.settings with localShellIconOverride } },
        { s.sessions with settings := { s.sessions.settings with localShellIconOverride } })
    else none
  | _ => none

/-- The commit of a transaction that saves under the lock of `AppState`. -/
def lockedCommit (s : ProfileState ρ σ) (token : Uuid) (outcome : Outcome) :
    Transaction ρ σ → Option (SessionStore ρ σ × SessionStore ρ σ)
  | .saveProfile profile expected _ => s.commitProfileSave token profile expected
  | .deleteProfile expected => s.commitProfileDelete token expected
  | .clearPassword expected => s.commitProfilePasswordClear token expected outcome.load
  | .storeCredential expected storage vaultPasswordGenerated =>
    s.commitProfileCredentialStorage token expected storage vaultPasswordGenerated
  | .setCredentialStorage sessionId storage expected =>
    if outcome.current then s.setCredentialStorageWhileLoading sessionId storage expected else none
  | .saveSystemDetection profileId system => s.commitSystemDetection profileId system outcome.load
  | transaction => s.commitSettings outcome.load outcome.current transaction

/-- The system discoveries that a committed transaction forgets. -/
def afterCommit (transaction : Transaction ρ σ) (s : ProfileState ρ σ) : ProfileState ρ σ :=
  match transaction with
  | .saveProfile profile expected resetSystem =>
    let endpoint (profile : SessionProfile ρ) := profile.ssh.map fun ssh =>
      (ssh.host, ssh.port, ssh.username, ssh.hostKeyFingerprint)
    if resetSystem ∨ expected.any fun old => endpoint old ≠ endpoint profile then
      s.forgetSystemDetection profile.id
    else s
  | .deleteProfile expected => s.forgetSystemDetection expected.id
  | _ => s

/-- A section that checks, saves and commits under one lock, and ends the task. -/
def runLocked (token : Uuid) (transaction : Transaction ρ σ) (outcome : Outcome)
    (s : ProfileState ρ σ) : ProfileState ρ σ :=
  match s.lockedCommit token outcome transaction with
  | none => s.finish token transaction
  | some (stored, memory) =>
    if outcome.save then
      (afterCommit transaction ((s.write transaction stored).commit transaction memory)).finish
        token transaction
    else s.finish token transaction

/-! ## Host keys -/

/-- The candidate of a confirmation. -/
def hostKeyCandidate (store : SessionStore ρ σ) (pending : PendingHostKey) (revoked : Bool) :
    SessionStore ρ σ :=
  store.modify pending.profileId (SessionProfile.modifySsh fun ssh =>
    { ssh with hostKeyFingerprint := if revoked then none else some pending.fingerprint })

/-- The clone of the store, after the profile was found unchanged. -/
def cloneHostKey (token : Uuid) (transaction : Transaction ρ σ) (pending : PendingHostKey)
    (expected : SessionProfile ρ) (revoked : Bool) (s : ProfileState ρ σ) : ProfileState ρ σ :=
  if s.sessions.find pending.profileId = some expected ∧ hostKeyEndpoint pending expected then
    s.setStage token transaction (.cloned (hostKeyCandidate s.sessions pending revoked))
  else s.finish token transaction

/-- The disk save of a cloned candidate. -/
def saveCandidate (token : Uuid) (transaction : Transaction ρ σ) (candidate : SessionStore ρ σ)
    (save : Bool) (s : ProfileState ρ σ) : ProfileState ρ σ :=
  if save then (s.write transaction candidate).setStage token transaction (.saved candidate)
  else s.finish token transaction

/-- `app.sessions = candidate`. -/
def commitHostKey (token : Uuid) (transaction : Transaction ρ σ) (pending : PendingHostKey)
    (expected : SessionProfile ρ) (candidate : SessionStore ρ σ) (revoked : Bool)
    (s : ProfileState ρ σ) : ProfileState ρ σ :=
  if s.mutationCurrent token pending.profileId (some expected) then
    let s := (s.commit transaction candidate).finishProfileMutation pending.profileId token
    if revoked then s.setStage token transaction .removing else s.finish token transaction
  else s.finish token transaction

/-! ## The steps -/

/-- The task that holds the gate runs to its next `.await` or lock section. -/
def runSection (token : Uuid) (task : ProfileTask ρ σ) (outcome : Outcome) (s : ProfileState ρ σ) :
    ProfileState ρ σ :=
  let transaction := task.transaction
  match transaction, task.stage with
  | _, .queued => s
  -- The profile is checked before and after the credential store or the file is changed.
  | .saveProfile .., .entered | .deleteProfile _, .entered | .clearPassword _, .entered
  | .storeCredential .., .entered | .confirmHostKey .., .entered =>
    match transaction.mutation with
    | some (profileId, expected) =>
      if s.mutationCurrent token profileId expected then s.setStage token transaction .changing
      else s.finish token transaction
    | none => s
  | .saveProfile .., .changing | .deleteProfile _, .changing | .clearPassword _, .changing
  | .storeCredential .., .changing =>
    if outcome.external then s.runLocked token transaction outcome else s.finish token transaction
  | .confirmHostKey pending expected, .changing =>
    if pending.publicKey ∧ outcome.external
        ∧ s.mutationCurrent token pending.profileId (some expected) then
      s.setStage token transaction .changed
    else s.finish token transaction
  | .confirmHostKey pending expected, .changed =>
    s.cloneHostKey token transaction pending expected false
  | .confirmRevokedHostKey pending expected, .entered =>
    if s.mutationCurrent token pending.profileId (some expected) then
      s.setStage token transaction .changed
    else s.finish token transaction
  | .confirmRevokedHostKey pending expected, .changed =>
    s.cloneHostKey token transaction pending expected true
  | .confirmHostKey .., .cloned candidate | .confirmRevokedHostKey .., .cloned candidate =>
    s.saveCandidate token transaction candidate outcome.save
  | .confirmHostKey pending expected, .saved candidate =>
    s.commitHostKey token transaction pending expected candidate false
  | .confirmRevokedHostKey pending expected, .saved candidate =>
    s.commitHostKey token transaction pending expected candidate true
  | .confirmRevokedHostKey .., .removing => s.finish token transaction
  | .updateSessionStore _, .entered =>
    s.setStage token transaction (.snapshot s.sessions.groups s.sessions.sessions)
  | .updateSessionStore update, .snapshot groups sessions =>
    -- The candidate has the settings and the history of the file.
    let candidate := { s.disk with groups, sessions }
    match (update candidate).bind fun edits => StoreEdit.applyAll edits candidate with
    | .error _ => s.finish token transaction
    | .ok candidate =>
      if outcome.load then s.saveCandidate token transaction candidate outcome.save
      else s.finish token transaction
  | .updateSessionStore _, .saved candidate =>
    (s.commit transaction
      { s.sessions with groups := candidate.groups, sessions := candidate.sessions }).finish
        token transaction
  | .updateRecentWorkspaces update, .entered =>
    match update s.disk.recentWorkspaces with
    | .error _ => s.finish token transaction
    | .ok recentWorkspaces =>
      if outcome.load then
        s.saveCandidate token transaction { s.disk with recentWorkspaces } outcome.save
      else s.finish token transaction
  | .updateRecentWorkspaces _, .saved candidate =>
    (s.commit transaction
      { s.sessions with recentWorkspaces := candidate.recentWorkspaces }).finish token transaction
  | .setCredentialStorage .., .entered =>
    if outcome.external then s.runLocked token transaction outcome else s.finish token transaction
  | .saveSystemDetection .., .entered | .saveSettings _, .entered | .saveAudio _, .entered
  | .saveUiLanguage _, .entered | .saveLocalShellIcon _, .entered =>
    s.runLocked token transaction outcome
  | _, _ => s

inductive Label (ρ σ : Type) where
  | spawn (token : Uuid) (transaction : Transaction ρ σ)
  | acquire (token : Uuid)
  | run (token : Uuid) (outcome : Outcome)
  /-- `apply_preview_settings`. -/
  | preview (settings : AppSettings σ)
  /-- `accept_system_detection`. -/
  | detect (profileId : Uuid) (system : SystemDetection)

def step (s : ProfileState ρ σ) : Label ρ σ → ProfileState ρ σ
  | .spawn token transaction => s.spawn token transaction
  | .acquire token => s.acquire token
  | .run token outcome =>
    match s.tasks.lookup token with
    | none => s
    | some task => s.runSection token task outcome
  | .preview settings =>
    { s with
      sessions := { s.sessions with settings := keepOwnSettings s.sessions.settings settings } }
  | .detect profileId system =>
    { s with systemDetections := s.systemDetections.insert profileId system }

/-- Before the first task: the store in memory, and the one on disk. -/
def initial (sessions disk : SessionStore ρ σ) : ProfileState ρ σ := { sessions, disk }

end ProfileState

end AxSsh.Profiles
