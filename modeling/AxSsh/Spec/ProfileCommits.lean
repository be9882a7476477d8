import AxSsh.Native.ProfileTransactions
import AxSsh.Spec.StoreFrames

/-!
# Commits under the lock

What a transaction is about, as a relation between the store in memory before and after it, and
what the transactions that save and commit under one lock do: which store they save, and that they
change nothing in memory that they are not about.

## Key results
- `lockedCommit_committed`: all of them
-/

namespace AxSsh.Profiles

variable {ρ σ : Type}

/-- Only the profile `id` differs, and a group that came with it. -/
structure ProfileChange (id : Uuid) (before after : SessionStore ρ σ) : Prop
    extends ProfileFrame id before after where
  settings : after.settings = before.settings

/-- `candidate` has the groups and profiles of `before` after an update of groups or profiles. -/
def Updated (update : SessionStore ρ σ → Except String (List (StoreEdit ρ)))
    (before candidate : SessionStore ρ σ) : Prop :=
  ∃ base edits result, base.groups = before.groups ∧ base.sessions = before.sessions ∧
    update base = .ok edits ∧ StoreEdit.applyAll edits base = .ok result ∧
    candidate.groups = result.groups ∧ candidate.sessions = result.sessions

namespace Transaction

/-- The confirmation of a host key, and whether the key was revoked. -/
def hostKey : Transaction ρ σ → Option (PendingHostKey × SessionProfile ρ × Bool)
  | .confirmHostKey pending expected => some (pending, expected, false)
  | .confirmRevokedHostKey pending expected => some (pending, expected, true)
  | _ => none

/-- The transactions that save the store in memory under the lock. -/
def savesLive : Transaction ρ σ → Bool
  | .saveProfile .. | .deleteProfile _ | .storeCredential .. | .setCredentialStorage .. => true
  | _ => false

/-- The transactions on profiles and groups. -/
def aboutProfiles : Transaction ρ σ → Bool
  | .updateRecentWorkspaces _ | .saveSettings _ | .saveAudio _ | .saveUiLanguage _
  | .saveLocalShellIcon _ => false
  | _ => true

/-- `after` differs from `before` only in what the transaction is about. -/
def Framed (before after : SessionStore ρ σ) : Transaction ρ σ → Prop
  | .saveProfile profile .. => ProfileChange profile.id before after
  | .deleteProfile expected | .clearPassword expected | .storeCredential expected .. =>
    ProfileChange expected.id before after
  | .confirmHostKey pending _ | .confirmRevokedHostKey pending _ =>
    ProfileChange pending.profileId before after
  | .setCredentialStorage profileId .. | .saveSystemDetection profileId _ =>
    ProfileChange profileId before after
  | .updateSessionStore update =>
    after = { before with groups := after.groups, sessions := after.sessions } ∧
      Updated update before after
  | .updateRecentWorkspaces _ =>
    after = { before with recentWorkspaces := after.recentWorkspaces }
  | .saveSettings settings =>
    after = { before with
      settings := ProfileState.keepOwnSettings before.settings settings }
  | .saveAudio audio => after = { before with settings := { before.settings with audio } }
  | .saveUiLanguage uiLanguage =>
    after = { before with settings := { before.settings with uiLanguage } }
  | .saveLocalShellIcon localShellIconOverride =>
    after = { before with settings := { before.settings with localShellIconOverride } }

end Transaction

namespace ProfileState

/-- What a commit under the lock saves and puts in memory. -/
structure Committed (s : ProfileState ρ σ) (transaction : Transaction ρ σ)
    (stored memory : SessionStore ρ σ) : Prop where
  framed : transaction.Framed s.sessions memory
  recents : memory.recentWorkspaces = s.sessions.recentWorkspaces
  storedRecents : stored.recentWorkspaces = s.sessions.recentWorkspaces ∨
    stored.recentWorkspaces = s.disk.recentWorkspaces
  storedSettings : transaction.aboutProfiles →
    stored.settings = if transaction.savesLive then s.sessions.settings else s.disk.settings

/-! ## Changes of one profile -/

/-- A commit, if it is made, makes one change of the profile `id` in `base`, which is saved, and in
    memory. -/
def Changes (id : Uuid) (base memory : SessionStore ρ σ) :
    Option (SessionStore ρ σ × SessionStore ρ σ) → Prop
  | none => True
  | some result => ∃ f : SessionStore ρ σ → SessionStore ρ σ,
    (∀ store, ProfileChange id store (f store)) ∧ result = (f base, f memory)

variable {s : ProfileState ρ σ} {transaction : Transaction ρ σ} {stored memory : SessionStore ρ σ}

/-- A change of the live store that is saved as well. -/
theorem Changes.committed_live {id : Uuid} {result : Option (SessionStore ρ σ × SessionStore ρ σ)}
    (h : Changes id s.sessions s.sessions result) (hresult : result = some (stored, memory))
    (hlive : transaction.savesLive)
    (hframed : ProfileChange id s.sessions memory → transaction.Framed s.sessions memory) :
    Committed s transaction stored memory := by
  subst hresult
  obtain ⟨f, hf, heq⟩ := h
  obtain ⟨rfl, rfl⟩ := Prod.mk.inj heq
  have hchange := hf s.sessions
  exact ⟨hframed hchange, hchange.recents, .inl hchange.recents,
    fun _ => by rw [if_pos hlive, hchange.settings]⟩

/-- A change that is saved in the store on disk and made in memory. -/
theorem Changes.committed_reloaded {id : Uuid}
    {result : Option (SessionStore ρ σ × SessionStore ρ σ)}
    (h : Changes id s.disk s.sessions result) (hresult : result = some (stored, memory))
    (hlive : ¬transaction.savesLive)
    (hframed : ProfileChange id s.sessions memory → transaction.Framed s.sessions memory) :
    Committed s transaction stored memory := by
  subst hresult
  obtain ⟨f, hf, heq⟩ := h
  obtain ⟨rfl, rfl⟩ := Prod.mk.inj heq
  have hmemory := hf s.sessions
  have hstored := hf s.disk
  exact ⟨hframed hmemory, hmemory.recents, .inr hstored.recents,
    fun _ => by rw [if_neg hlive, hstored.settings]⟩

theorem change_upsert (profile : SessionProfile ρ) (store : SessionStore ρ σ) :
    ProfileChange profile.id store (store.upsert profile) :=
  { store.upsert_frame profile with settings := store.settings_upsert profile }

theorem change_modify (id : Uuid) {f : SessionProfile ρ → SessionProfile ρ}
    (hf : ∀ profile, (f profile).id = profile.id) (store : SessionStore ρ σ) :
    ProfileChange id store (store.modify id f) :=
  { store.modify_frame id hf with settings := rfl }

theorem commitSystemDetection_changes (s : ProfileState ρ σ) (profileId : Uuid) (system : SystemDetection) (load : Bool) :
    Changes profileId s.disk s.sessions (s.commitSystemDetection profileId system load) := by
  have hdetect (profile : SessionProfile ρ) :
      { profile with detectedSystem := some system }.id = profile.id := rfl
  unfold commitSystemDetection
  dsimp only
  repeat' split
  all_goals first
    | trivial
    | exact ⟨_, change_modify profileId hdetect, rfl⟩

theorem commitSettings_committed (load current : Bool)
    (h : s.commitSettings load current transaction = some (stored, memory)) :
    Committed s transaction stored memory := by
  cases transaction with
  | saveSettings settings =>
    cases h
    exact ⟨rfl, rfl, .inl rfl, nofun⟩
  | saveAudio audio =>
    cases h
    exact ⟨rfl, rfl, .inl rfl, nofun⟩
  | saveUiLanguage language =>
    simp only [commitSettings] at h
    split at h
    · cases h
      exact ⟨rfl, rfl, .inr rfl, nofun⟩
    · exact nomatch h
  | saveLocalShellIcon icon =>
    simp only [commitSettings] at h
    split at h
    · cases h
      exact ⟨rfl, rfl, .inr rfl, nofun⟩
    · exact nomatch h
  | _ => exact nomatch h

variable [DecidableEq ρ] (s) (token : Uuid)

theorem commitProfileSave_changes (profile : SessionProfile ρ)
    (expected : Option (SessionProfile ρ)) :
    Changes profile.id s.sessions s.sessions (s.commitProfileSave token profile expected) := by
  unfold commitProfileSave
  split
  · exact ⟨_, change_upsert profile, rfl⟩
  · trivial

theorem commitProfileDelete_changes (expected : SessionProfile ρ) :
    Changes expected.id s.sessions s.sessions (s.commitProfileDelete token expected) := by
  unfold commitProfileDelete
  split
  · exact ⟨_, fun store => { store.remove_frame expected.id with settings := rfl }, rfl⟩
  · trivial

theorem commitProfilePasswordClear_changes (expected : SessionProfile ρ) (load : Bool) :
    Changes expected.id s.disk s.sessions
      (s.commitProfilePasswordClear token expected load) := by
  unfold commitProfilePasswordClear
  split
  · have hid := SessionProfile.id_modifySsh (fun ssh =>
      { ssh with credentialStorage := none, credentialVaultKeySaved := false }) expected
    refine ⟨_, fun store => ?_, rfl⟩
    rw [← hid]
    exact change_upsert _ store
  · trivial

theorem commitProfileCredentialStorage_changes (expected : SessionProfile ρ)
    (storage : CredentialStorage) (vaultPasswordGenerated : Bool) :
    Changes expected.id s.sessions s.sessions
      (s.commitProfileCredentialStorage token expected storage vaultPasswordGenerated) := by
  unfold commitProfileCredentialStorage
  repeat' split
  all_goals first
    | trivial
    | exact ⟨_, change_modify expected.id (SessionProfile.id_modifySsh _), rfl⟩

theorem setCredentialStorageWhileLoading_changes (sessionId : Uuid)
    (storage : Option CredentialStorage) (expected : Option (SessionProfile ρ)) :
    Changes sessionId s.sessions s.sessions
      (s.setCredentialStorageWhileLoading sessionId storage expected) := by
  unfold setCredentialStorageWhileLoading
  repeat' split
  all_goals first
    | trivial
    | exact ⟨_, change_modify sessionId (SessionProfile.id_modifySsh _), rfl⟩

/-! ## All commits -/

variable {s token} {outcome : Outcome}

theorem lockedCommit_committed
    (h : s.lockedCommit token outcome transaction = some (stored, memory)) :
    Committed s transaction stored memory := by
  cases transaction with
  | saveProfile profile expected resetSystem =>
    exact (s.commitProfileSave_changes token profile expected).committed_live h rfl id
  | deleteProfile expected =>
    exact (s.commitProfileDelete_changes token expected).committed_live h rfl id
  | clearPassword expected =>
    exact (s.commitProfilePasswordClear_changes token expected _).committed_reloaded h nofun id
  | storeCredential expected storage vaultPasswordGenerated =>
    exact (s.commitProfileCredentialStorage_changes token expected storage
      vaultPasswordGenerated).committed_live h rfl id
  | setCredentialStorage sessionId storage expected =>
    simp only [lockedCommit] at h
    split at h
    · exact (s.setCredentialStorageWhileLoading_changes sessionId storage
        expected).committed_live h rfl id
    · exact nomatch h
  | saveSystemDetection profileId system =>
    exact (s.commitSystemDetection_changes profileId system _).committed_reloaded h nofun id
  | _ => exact commitSettings_committed outcome.load outcome.current h

end ProfileState

end AxSsh.Profiles
