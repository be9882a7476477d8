import AxSsh.Spec.ProfileCommits

/-!
# The sections of a transaction

`Ran` says once what a section of a task can do: give up, go on, clone, save or commit.  Whatever
holds of all transactions is proved by its cases.

## Key results
- `runSection_ran`: every section is one of them
- `runSection_locked`, `runSection_commitHostKey`, `runSection_saveCandidate`: the sections that
  save and commit
-/

namespace AxSsh.Profiles

variable {ρ σ : Type}

/-- The section of a task that saves and commits under the lock. -/
def locksAt : Transaction ρ σ → TaskStage ρ σ → Bool
  | .saveProfile .., .changing | .deleteProfile _, .changing | .clearPassword _, .changing
  | .storeCredential .., .changing | .setCredentialStorage .., .entered
  | .saveSystemDetection .., .entered | .saveSettings _, .entered | .saveAudio _, .entered
  | .saveUiLanguage _, .entered | .saveLocalShellIcon _, .entered => true
  | _, _ => false

/-- The history of workspaces that a task saved and has not committed. -/
def ProfileTask.savedRecents (task : ProfileTask ρ σ) : Option (List String) :=
  match task.stage, task.transaction with
  | .saved candidate, .updateRecentWorkspaces _ => some candidate.recentWorkspaces
  | _, _ => none

theorem savedRecents_of_hostKey {transaction : Transaction ρ σ} (stage : TaskStage ρ σ)
    (h : transaction.hostKey.isSome) :
    (ProfileTask.mk transaction stage).savedRecents = none := by
  cases transaction with
  | confirmHostKey | confirmRevokedHostKey => cases stage <;> rfl
  | _ => exact nomatch h

theorem stage_of_locksAt {transaction : Transaction ρ σ} {stage : TaskStage ρ σ}
    (h : locksAt transaction stage) : stage = .entered ∨ stage = .changing := by
  cases stage with
  | entered => exact .inl rfl
  | changing => exact .inr rfl
  | _ => cases transaction <;> exact nomatch h

theorem savedRecents_of_locksAt {transaction : Transaction ρ σ} {stage : TaskStage ρ σ}
    (h : locksAt transaction stage) : (ProfileTask.mk transaction stage).savedRecents = none := by
  obtain rfl | rfl := stage_of_locksAt h <;> rfl

namespace ProfileState

/-! ## What a step leaves alone -/

section Fields

variable (s : ProfileState ρ σ) (token profileId : Uuid) (transaction : Transaction ρ σ)

theorem finishProfileMutation_eq : s.finishProfileMutation profileId token =
    { s with
      profileMutations := (s.finishProfileMutation profileId token).profileMutations } := by
  unfold finishProfileMutation
  split <;> rfl

theorem finish_eq : s.finish token transaction =
    { s with
      gate := none
      tasks := s.tasks.erase token
      profileMutations := (s.finish token transaction).profileMutations } := by
  unfold finish
  split
  · rfl
  · exact finishProfileMutation_eq _ _ _

theorem afterCommit_eq : afterCommit transaction s =
    { s with systemDetections := (afterCommit transaction s).systemDetections } := by
  unfold afterCommit
  split
  · dsimp only
    split <;> rfl
  · rfl
  · rfl

end Fields

/-! ## Sections -/

variable [DecidableEq ρ]

/-- What a section of a task can do. -/
inductive Ran (s : ProfileState ρ σ) (token : Uuid) (outcome : Outcome) :
    ProfileTask ρ σ → ProfileState ρ σ → Prop
  /-- There is nothing to run. -/
  | idle {task} : Ran s token outcome task s
  /-- The task ends without a commit. -/
  | over {task} (h : task.savedRecents = none) :
      Ran s token outcome task (s.finish token task.transaction)
  /-- The task goes on. -/
  | next {task stage} (h : task.savedRecents = none)
      (hstage : stage = .changing ∨ stage = .changed) :
      Ran s token outcome task (s.setStage token task.transaction stage)
  | clones {transaction stage pending expected revoked}
      (h : transaction.hostKey = some (pending, expected, revoked)) :
      Ran s token outcome ⟨transaction, stage⟩
        (s.setStage token transaction (.cloned (hostKeyCandidate s.sessions pending revoked)))
  | savesHostKey {transaction candidate} (h : transaction.hostKey.isSome) (hsave : outcome.save) :
      Ran s token outcome ⟨transaction, .cloned candidate⟩
        ((s.write transaction candidate).setStage token transaction (.saved candidate))
  | commitsHostKey {transaction candidate pending expected revoked}
      (h : transaction.hostKey = some (pending, expected, revoked))
      (hcurrent : s.mutationCurrent token pending.profileId (some expected)) :
      Ran s token outcome ⟨transaction, .saved candidate⟩
        (s.commitHostKey token transaction pending expected candidate revoked)
  | snapshots {update} :
      Ran s token outcome ⟨.updateSessionStore update, .entered⟩
        (s.setStage token (.updateSessionStore update)
          (.snapshot s.sessions.groups s.sessions.sessions))
  | savesUpdate {update groups sessions edits candidate}
      (hupdate : update { s.disk with groups, sessions } = .ok edits)
      (hedits : StoreEdit.applyAll edits { s.disk with groups, sessions } = .ok candidate) :
      Ran s token outcome ⟨.updateSessionStore update, .snapshot groups sessions⟩
        ((s.write (.updateSessionStore update) candidate).setStage token
          (.updateSessionStore update) (.saved candidate))
  | commitsUpdate {update candidate} :
      Ran s token outcome ⟨.updateSessionStore update, .saved candidate⟩
        ((s.commit (.updateSessionStore update)
          { s.sessions with groups := candidate.groups, sessions := candidate.sessions }).finish
            token (.updateSessionStore update))
  | savesRecents {update recentWorkspaces} :
      Ran s token outcome ⟨.updateRecentWorkspaces update, .entered⟩
        ((s.write (.updateRecentWorkspaces update) { s.disk with recentWorkspaces }).setStage token
          (.updateRecentWorkspaces update) (.saved { s.disk with recentWorkspaces }))
  | commitsRecents {update candidate} :
      Ran s token outcome ⟨.updateRecentWorkspaces update, .saved candidate⟩
        ((s.commit (.updateRecentWorkspaces update)
          { s.sessions with recentWorkspaces := candidate.recentWorkspaces }).finish
            token (.updateRecentWorkspaces update))
  | commits {transaction stage stored memory} (hstage : locksAt transaction stage)
      (hexternal : outcome.external ∨ ¬transaction.savesLive)
      (hcommit : s.lockedCommit token outcome transaction = some (stored, memory))
      (hsave : outcome.save) :
      Ran s token outcome ⟨transaction, stage⟩
        ((afterCommit transaction ((s.write transaction stored).commit transaction memory)).finish
          token transaction)

section Parts

variable (s : ProfileState ρ σ) (token : Uuid) (outcome : Outcome) (task : ProfileTask ρ σ)

theorem ran_check (condition : Prop) [Decidable condition] {stage : TaskStage ρ σ}
    (htask : task.savedRecents = none) (h : stage = .changing ∨ stage = .changed) :
    Ran s token outcome task (if condition then s.setStage token task.transaction stage
      else s.finish token task.transaction) := by
  split
  · exact .next htask h
  · exact .over htask

theorem ran_runLocked {transaction : Transaction ρ σ} {stage : TaskStage ρ σ}
    (hstage : locksAt transaction stage)
    (hexternal : outcome.external ∨ ¬transaction.savesLive) :
    Ran s token outcome ⟨transaction, stage⟩ (s.runLocked token transaction outcome) := by
  unfold runLocked
  split
  · exact .over (savedRecents_of_locksAt hstage)
  · rename_i stored memory hcommit
    split
    · rename_i hsave
      exact .commits hstage hexternal hcommit hsave
    · exact .over (savedRecents_of_locksAt hstage)

/-- The credential store or a file was changed before the lock is taken. -/
theorem ran_afterExternal {transaction : Transaction ρ σ} {stage : TaskStage ρ σ}
    (hstage : locksAt transaction stage) :
    Ran s token outcome ⟨transaction, stage⟩
      (if outcome.external then s.runLocked token transaction outcome
        else s.finish token transaction) := by
  split
  · rename_i hexternal
    exact s.ran_runLocked token outcome hstage (.inl hexternal)
  · exact .over (savedRecents_of_locksAt hstage)

theorem ran_cloneHostKey {transaction : Transaction ρ σ} {stage : TaskStage ρ σ}
    {pending : PendingHostKey} {expected : SessionProfile ρ} {revoked : Bool}
    (h : transaction.hostKey = some (pending, expected, revoked)) :
    Ran s token outcome ⟨transaction, stage⟩
      (s.cloneHostKey token transaction pending expected revoked) := by
  unfold cloneHostKey
  split
  · exact .clones h
  · exact .over (savedRecents_of_hostKey stage (by rw [h]; rfl))

theorem ran_saveHostKey {transaction : Transaction ρ σ} {candidate : SessionStore ρ σ}
    (h : transaction.hostKey.isSome) :
    Ran s token outcome ⟨transaction, .cloned candidate⟩
      (s.saveCandidate token transaction candidate outcome.save) := by
  unfold saveCandidate
  split
  · rename_i hsave
    exact .savesHostKey h hsave
  · exact .over (savedRecents_of_hostKey _ h)

theorem ran_commitHostKey {transaction : Transaction ρ σ} {candidate : SessionStore ρ σ}
    {pending : PendingHostKey} {expected : SessionProfile ρ} {revoked : Bool}
    (h : transaction.hostKey = some (pending, expected, revoked)) :
    Ran s token outcome ⟨transaction, .saved candidate⟩
      (s.commitHostKey token transaction pending expected candidate revoked) := by
  by_cases hcurrent : s.mutationCurrent token pending.profileId (some expected)
  · exact .commitsHostKey h hcurrent
  · unfold commitHostKey
    rw [if_neg hcurrent]
    exact .over (savedRecents_of_hostKey _ (by rw [h]; rfl))

theorem ran_update {update : SessionStore ρ σ → Except String (List (StoreEdit ρ))}
    {groups : List String} {sessions : List (SessionProfile ρ)} :
    Ran s token outcome ⟨.updateSessionStore update, .snapshot groups sessions⟩
      (s.runSection token ⟨.updateSessionStore update, .snapshot groups sessions⟩ outcome) := by
  simp only [runSection]
  split
  · exact .over rfl
  · rename_i candidate hresult
    cases hupdate : update { s.disk with groups, sessions } with
    | error message =>
      rw [hupdate] at hresult
      exact nomatch hresult
    | ok edits =>
      rw [hupdate] at hresult
      unfold saveCandidate
      split
      · split
        · exact .savesUpdate hupdate hresult
        · exact .over rfl
      · exact .over rfl

theorem ran_recents {update : List String → Except String (List String)} :
    Ran s token outcome ⟨.updateRecentWorkspaces update, .entered⟩
      (s.runSection token ⟨.updateRecentWorkspaces update, .entered⟩ outcome) := by
  simp only [runSection]
  split
  · exact .over rfl
  · unfold saveCandidate
    split
    · split
      · exact .savesRecents
      · exact .over rfl
    · exact .over rfl

end Parts

/-- Every section of a task is one of those. -/
theorem runSection_ran (s : ProfileState ρ σ) (token : Uuid) (outcome : Outcome)
    (task : ProfileTask ρ σ) : Ran s token outcome task (s.runSection token task outcome) := by
  obtain ⟨transaction, stage⟩ := task
  -- the stage of a transaction says which section runs next, and no other stage occurs
  cases transaction with
  | saveProfile profile expected resetSystem =>
    cases stage with
    | entered => exact s.ran_check token outcome _ _ rfl (.inl rfl)
    | changing => exact s.ran_afterExternal token outcome rfl
    | _ => exact .idle
  | deleteProfile expected =>
    cases stage with
    | entered => exact s.ran_check token outcome _ _ rfl (.inl rfl)
    | changing => exact s.ran_afterExternal token outcome rfl
    | _ => exact .idle
  | clearPassword expected =>
    cases stage with
    | entered => exact s.ran_check token outcome _ _ rfl (.inl rfl)
    | changing => exact s.ran_afterExternal token outcome rfl
    | _ => exact .idle
  | storeCredential expected storage vaultPasswordGenerated =>
    cases stage with
    | entered => exact s.ran_check token outcome _ _ rfl (.inl rfl)
    | changing => exact s.ran_afterExternal token outcome rfl
    | _ => exact .idle
  | confirmHostKey pending expected =>
    cases stage with
    | entered => exact s.ran_check token outcome _ _ rfl (.inl rfl)
    | changing => exact s.ran_check token outcome _ _ rfl (.inr rfl)
    | changed => exact s.ran_cloneHostKey token outcome rfl
    | cloned candidate => exact s.ran_saveHostKey token outcome rfl
    | saved candidate => exact s.ran_commitHostKey token outcome rfl
    | _ => exact .idle
  | confirmRevokedHostKey pending expected =>
    cases stage with
    | entered => exact s.ran_check token outcome _ _ rfl (.inr rfl)
    | changed => exact s.ran_cloneHostKey token outcome rfl
    | cloned candidate => exact s.ran_saveHostKey token outcome rfl
    | saved candidate => exact s.ran_commitHostKey token outcome rfl
    | removing => exact .over rfl
    | _ => exact .idle
  | setCredentialStorage sessionId storage expected =>
    cases stage with
    | entered => exact s.ran_afterExternal token outcome rfl
    | _ => exact .idle
  | updateSessionStore update =>
    cases stage with
    | entered => exact .snapshots
    | snapshot groups sessions => exact s.ran_update token outcome
    | saved candidate => exact .commitsUpdate
    | _ => exact .idle
  | updateRecentWorkspaces update =>
    cases stage with
    | entered => exact s.ran_recents token outcome
    | saved candidate => exact .commitsRecents
    | _ => exact .idle
  | saveSystemDetection profileId system =>
    cases stage with
    | entered => exact s.ran_runLocked token outcome rfl (.inr nofun)
    | _ => exact .idle
  | saveSettings settings =>
    cases stage with
    | entered => exact s.ran_runLocked token outcome rfl (.inr nofun)
    | _ => exact .idle
  | saveAudio audio =>
    cases stage with
    | entered => exact s.ran_runLocked token outcome rfl (.inr nofun)
    | _ => exact .idle
  | saveUiLanguage language =>
    cases stage with
    | entered => exact s.ran_runLocked token outcome rfl (.inr nofun)
    | _ => exact .idle
  | saveLocalShellIcon icon =>
    cases stage with
    | entered => exact s.ran_runLocked token outcome rfl (.inr nofun)
    | _ => exact .idle

/-- The section of a transaction on the live store. -/
theorem runSection_locked {s : ProfileState ρ σ} {token : Uuid} {outcome : Outcome}
    {transaction : Transaction ρ σ} {stage : TaskStage ρ σ} (hstage : locksAt transaction stage)
    (hlive : transaction.savesLive) (hexternal : outcome.external) :
    s.runSection token ⟨transaction, stage⟩ outcome = s.runLocked token transaction outcome := by
  cases transaction with
  | saveProfile | deleteProfile | storeCredential =>
    cases stage with
    | changing => exact if_pos hexternal
    | _ => exact nomatch hstage
  | setCredentialStorage =>
    cases stage with
    | entered => exact if_pos hexternal
    | _ => exact nomatch hstage
  | _ => exact nomatch hlive

/-- The section that saves a cloned store. -/
theorem runSection_saveCandidate {s : ProfileState ρ σ} {token : Uuid} {outcome : Outcome}
    {transaction : Transaction ρ σ} (h : transaction.hostKey.isSome)
    (candidate : SessionStore ρ σ) :
    s.runSection token ⟨transaction, .cloned candidate⟩ outcome =
      s.saveCandidate token transaction candidate outcome.save := by
  cases transaction with
  | confirmHostKey pending expected => rfl
  | confirmRevokedHostKey pending expected => rfl
  | _ => exact nomatch h

/-- The section that commits a cloned store. -/
theorem runSection_commitHostKey {s : ProfileState ρ σ} {token : Uuid} {outcome : Outcome}
    {transaction : Transaction ρ σ} {pending : PendingHostKey} {expected : SessionProfile ρ}
    {revoked : Bool} (h : transaction.hostKey = some (pending, expected, revoked))
    (candidate : SessionStore ρ σ) :
    s.runSection token ⟨transaction, .saved candidate⟩ outcome =
      s.commitHostKey token transaction pending expected candidate revoked := by
  cases transaction with
  | confirmHostKey pending' expected' =>
    obtain ⟨rfl, rfl, rfl⟩ : pending' = pending ∧ expected' = expected ∧ false = revoked := by
      simpa [Transaction.hostKey] using h
    rfl
  | confirmRevokedHostKey pending' expected' =>
    obtain ⟨rfl, rfl, rfl⟩ : pending' = pending ∧ expected' = expected ∧ true = revoked := by
      simpa [Transaction.hostKey] using h
    rfl
  | _ => exact nomatch h

end ProfileState

end AxSsh.Profiles
