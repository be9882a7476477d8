import AxSsh.Spec.ProfileGate

/-!
# Settings previews beside the transactions

A Settings preview is applied in memory without the persistence gate, so it can fall between any
two sections of a transaction.  Most transactions commit their own fields only, and some save a
store that they read from disk.  The confirmation of a host key commits a clone of the whole store,
and several profile operations save the store that the preview is in.

## Key results
- `commitsFramed_iff`: the runs in which no commit undoes an edit made meanwhile
- `savesKeepSettings_iff`: the runs in which no profile operation saves a preview
-/

namespace AxSsh.Profiles

variable {ρ σ : Type}

namespace ProfileState

open ProfileTask

/-- Every commit changed only what its transaction is about. -/
def CommitsFramed (s : ProfileState ρ σ) : Prop :=
  ∀ r ∈ s.commits, r.transaction.Framed r.before r.after

/-- No transaction on profiles or groups changed the settings or the history on disk. -/
def SavesKeepSettings (s : ProfileState ρ σ) : Prop :=
  ∀ r ∈ s.saves, r.transaction.aboutProfiles →
    r.after.settings = r.before.settings ∧ r.after.recentWorkspaces = r.before.recentWorkspaces

/-! ## Commits -/

variable {s : ProfileState ρ σ} {token : Uuid} {transaction : Transaction ρ σ}
  {pending : PendingHostKey} {expected : SessionProfile ρ} {revoked : Bool}
  {candidate : SessionStore ρ σ}

theorem framed_hostKey_iff (htr : transaction.hostKey = some (pending, expected, revoked))
    {before after : SessionStore ρ σ} :
    transaction.Framed before after ↔ ProfileChange pending.profileId before after := by
  cases transaction with
  | confirmHostKey pending' expected' =>
    obtain rfl : pending' = pending := congrArg Prod.fst (Option.some.inj htr)
    rfl
  | confirmRevokedHostKey pending' expected' =>
    obtain rfl : pending' = pending := congrArg Prod.fst (Option.some.inj htr)
    rfl
  | _ => exact nomatch htr

/-- Adding a commit to those that were made. -/
theorem commitsFramed_cons {r : CommitRecord ρ σ} (h : CommitsFramed s) :
    (∀ r' ∈ r :: s.commits, r'.transaction.Framed r'.before r'.after) ↔
      r.transaction.Framed r.before r.after := by
  rw [List.forall_mem_cons]
  exact and_iff_left h

theorem commits_finish : (s.finish token transaction).commits = s.commits := by
  rw [finish_eq]

/-- The confirmation of a host key commits what it is about exactly when the settings of its clone
    are those in memory. -/
theorem framed_clone_iff (htr : transaction.hostKey = some (pending, expected, revoked))
    (hfits : Fits s.sessions ⟨transaction, .saved candidate⟩) :
    transaction.Framed s.sessions candidate ↔ candidate.settings = s.sessions.settings := by
  rw [framed_hostKey_iff htr]
  constructor
  · exact ProfileChange.settings
  · intro hsettings
    exact { hfits.hostKey pending expected revoked candidate htr (.inr rfl) with
      settings := hsettings }

theorem commits_acquire (token : Uuid) :
    (s.acquire token).commits = s.commits ∧ (s.acquire token).saves = s.saves := by
  obtain heq | ⟨transaction, -, heq⟩ := s.acquire_cases token <;> rw [heq] <;> exact ⟨rfl, rfl⟩

theorem saves_finish : (s.finish token transaction).saves = s.saves := by
  rw [finish_eq]

/-- Adding a save to those that were made. -/
theorem savesKeepSettings_cons {r : CommitRecord ρ σ} (h : SavesKeepSettings s) :
    (∀ r' ∈ r :: s.saves, r'.transaction.aboutProfiles →
      r'.after.settings = r'.before.settings ∧
        r'.after.recentWorkspaces = r'.before.recentWorkspaces) ↔
      (r.transaction.aboutProfiles → r.after.settings = r.before.settings ∧
        r.after.recentWorkspaces = r.before.recentWorkspaces) := by
  rw [List.forall_mem_cons]
  exact and_iff_left h

theorem saves_saveCandidate {save : Bool} (hsave : save) :
    (s.saveCandidate token transaction candidate save).saves =
      ⟨transaction, s.disk, candidate⟩ :: s.saves := by
  unfold saveCandidate
  rw [if_pos hsave]
  rfl

theorem aboutProfiles_of_savesLive (h : transaction.savesLive) : transaction.aboutProfiles := by
  cases transaction with
  | saveProfile | deleteProfile | storeCredential | setCredentialStorage => rfl
  | _ => exact nomatch h

theorem aboutProfiles_of_hostKey (h : transaction.hostKey.isSome) :
    transaction.aboutProfiles := by
  cases transaction with
  | confirmHostKey | confirmRevokedHostKey => rfl
  | _ => exact nomatch h

variable [DecidableEq ρ]

/-- The clone that a confirmation of a host key commits has the settings in memory. -/
def CloneIsCurrent (s : ProfileState ρ σ) : Label ρ σ → Prop
  | .run token _ => ∀ transaction pending expected revoked candidate,
    s.tasks.lookup token = some ⟨transaction, .saved candidate⟩ →
    transaction.hostKey = some (pending, expected, revoked) →
    s.mutationCurrent token pending.profileId (some expected) →
    candidate.settings = s.sessions.settings
  | _ => True

variable {outcome : Outcome} {task : ProfileTask ρ σ} {s' : ProfileState ρ σ}

theorem commits_commitHostKey
    (hcurrent : s.mutationCurrent token pending.profileId (some expected)) :
    (s.commitHostKey token transaction pending expected candidate revoked).commits =
      ⟨transaction, s.sessions, candidate⟩ :: s.commits := by
  unfold commitHostKey
  rw [if_pos hcurrent, finishProfileMutation_eq]
  dsimp only
  split
  · rfl
  · exact commits_finish

/-- Every other commit changes what it is about. -/
theorem Ran.commitsFramed (h : Ran s token outcome task s') (hinv : CommitsFramed s)
    (hfits : Fits s.sessions task)
    (hclone : ∀ transaction pending expected revoked candidate,
      task = ⟨transaction, .saved candidate⟩ →
      transaction.hostKey = some (pending, expected, revoked) →
      s.mutationCurrent token pending.profileId (some expected) →
      candidate.settings = s.sessions.settings) : CommitsFramed s' := by
  unfold CommitsFramed
  cases h with
  | idle | next | clones | savesHostKey | snapshots | savesUpdate | savesRecents => exact hinv
  | «over» =>
    rw [commits_finish]
    exact hinv
  | commitsHostKey htr hcurrent =>
    rw [commits_commitHostKey hcurrent, commitsFramed_cons hinv, framed_clone_iff htr hfits]
    exact hclone _ _ _ _ _ rfl htr hcurrent
  | @commitsUpdate update candidate =>
    rw [commits_finish]
    have hupdated := hfits.update update candidate rfl rfl
    exact (commitsFramed_cons hinv).mpr ⟨rfl, hupdated⟩
  | commitsRecents =>
    rw [commits_finish]
    exact (commitsFramed_cons hinv).mpr rfl
  | commits hstage hexternal hcommit hsave =>
    rw [commits_finish, afterCommit_eq]
    exact (commitsFramed_cons hinv).mpr (lockedCommit_committed hcommit).framed

theorem commits_spawn (token : Uuid) (transaction : Transaction ρ σ) :
    (s.spawn token transaction).commits = s.commits ∧
      (s.spawn token transaction).saves = s.saves := by
  obtain heq | ⟨profileMutations, heq⟩ := s.spawn_cases token transaction <;> rw [heq] <;>
    exact ⟨rfl, rfl⟩

/-- A step commits only what it is about exactly when it commits no clone that a preview made
    stale. -/
theorem commitsFramed_step_iff (haligned : Aligned s) (h : CommitsFramed s) (l : Label ρ σ) :
    CommitsFramed (s.step l) ↔ CloneIsCurrent s l := by
  cases l with
  | spawn token transaction =>
    unfold CommitsFramed
    rw [step, (commits_spawn token transaction).1]
    exact iff_true_intro h
  | acquire token =>
    unfold CommitsFramed
    rw [step, (commits_acquire token).1]
    exact iff_true_intro h
  | preview settings => exact iff_true_intro h
  | detect profileId system => exact iff_true_intro h
  | run token outcome =>
    constructor
    · intro hafter transaction pending expected revoked candidate htask htr hcurrent
      -- the clone was made in this task, past the gate
      obtain ⟨-, hfits⟩ := haligned token _ htask (by simp [ProfileTask.Passed])
      have hframed := hafter ⟨transaction, s.sessions, candidate⟩ (by
        simp only [step, htask]
        rw [runSection_commitHostKey htr, commits_commitHostKey hcurrent]
        exact List.mem_cons_self)
      exact (framed_clone_iff htr hfits).mp hframed
    · intro hclone
      simp only [step]
      split
      · exact h
      · rename_i task htask
        obtain hidle | hpassed := s.runSection_eq_or_passed token task outcome
        · rw [hidle]
          exact h
        · obtain ⟨-, hfits⟩ := haligned token task htask hpassed
          refine (s.runSection_ran token outcome task).commitsFramed h hfits ?_
          rintro transaction pending expected revoked candidate rfl
          exact hclone transaction pending expected revoked candidate htask

/-- No commit of a run undoes an edit that was made meanwhile exactly when no confirmation of a
    host key commits a clone with other settings than those in memory. -/
theorem commitsFramed_iff (sessions disk : SessionStore ρ σ) (labels : List (Label ρ σ)) :
    Transition.Throughout step (initial sessions disk) CommitsFramed labels ↔
      Transition.AllSafe step (initial sessions disk) CloneIsCurrent labels := by
  apply Transition.throughout_iff_allSafe
  · exact fun _ hr => absurd hr List.not_mem_nil
  · intro pre l _ h
    exact commitsFramed_step_iff (aligned_foldl (aligned_initial sessions disk) pre) h l

section Example

/-- An SSH profile whose host key is not pinned. -/
def newHost : SessionProfile Unit where
  id := 1
  name := "new host"
  connection := .ssh
    { host := "host.example", port := 22, username := "user", auth := .password, rest := () }

def newHostStore : SessionStore Unit Nat where
  version := 1
  sessions := [newHost]
  settings :=
    { audio := ⟨16000, 1, "", ""⟩, uiLanguage := none, localShellIconOverride := none, rest := 0 }

/-- A preview that changes one setting. -/
def previewed : AppSettings Nat := { newHostStore.settings with rest := 1 }

/-- The user confirms the host key, and previews a setting while the profile is saved. -/
def previewDuringConfirmation : List (Label Unit Nat) :=
  [.spawn 7 (.confirmHostKey ⟨1, "host.example", 22, "SHA256:key", true⟩ newHost), .acquire 7,
    .run 7 {}, .run 7 {}, .run 7 {}, .run 7 {}, .preview previewed, .run 7 {}]

/-- The confirmation takes the preview back. -/
theorem confirmation_undoes_preview :
    ¬Transition.Throughout step (initial newHostStore newHostStore) CommitsFramed
      previewDuringConfirmation := by
  intro h
  have hundone : ((previewDuringConfirmation.foldl step
      (initial newHostStore newHostStore)).commits.any fun r =>
        r.transaction.hostKey.isSome && decide (r.after.settings ≠ r.before.settings)) = true := by
    decide
  obtain ⟨r, hr, hundone⟩ := List.any_eq_true.mp hundone
  obtain ⟨hsome, hne⟩ := Bool.and_eq_true_iff.mp hundone
  obtain ⟨⟨pending, expected, revoked⟩, htr⟩ := Option.isSome_iff_exists.mp hsome
  have hframed := h _ (List.prefix_refl _) r hr
  exact of_decide_eq_true hne ((framed_hostKey_iff htr).mp hframed).settings

end Example

/-! ## Saves -/

/-- What a profile operation saves from memory, or from a clone of it, has the settings on disk. -/
structure SavesCommitted (s : ProfileState ρ σ) (token : Uuid) (outcome : Outcome) : Prop where
  live : ∀ transaction stage, s.tasks.lookup token = some ⟨transaction, stage⟩ →
    locksAt transaction stage → transaction.savesLive → outcome.external → outcome.save →
    (s.lockedCommit token outcome transaction).isSome → s.sessions.settings = s.disk.settings
  clone : ∀ transaction candidate, s.tasks.lookup token = some ⟨transaction, .cloned candidate⟩ →
    transaction.hostKey.isSome → outcome.save → candidate.settings = s.disk.settings

def SavesNoPreview (s : ProfileState ρ σ) : Label ρ σ → Prop
  | .run token outcome => s.SavesCommitted token outcome
  | _ => True

theorem saves_commitHostKey :
    (s.commitHostKey token transaction pending expected candidate revoked).saves = s.saves := by
  unfold commitHostKey
  split
  · rw [finishProfileMutation_eq]
    dsimp only
    split
    · rfl
    · exact saves_finish
  · exact saves_finish

/-- A section saves no preview when what it saves from memory has the settings on disk. -/
theorem Ran.savesKeepSettings (h : Ran s token outcome task s') (hinv : SavesKeepSettings s)
    (hfits : FitsDisk s.sessions s.disk task)
    (hlive : ∀ transaction stage, task = ⟨transaction, stage⟩ → locksAt transaction stage →
      transaction.savesLive → outcome.external → outcome.save →
      (s.lockedCommit token outcome transaction).isSome → s.sessions.settings = s.disk.settings)
    (hclone : ∀ transaction candidate, task = ⟨transaction, .cloned candidate⟩ →
      transaction.hostKey.isSome → outcome.save → candidate.settings = s.disk.settings) :
    SavesKeepSettings s' := by
  unfold SavesKeepSettings
  cases h with
  | idle | next | clones | snapshots => exact hinv
  | «over» | commitsUpdate | commitsRecents =>
    rw [saves_finish]
    exact hinv
  | commitsHostKey =>
    rw [saves_commitHostKey]
    exact hinv
  | savesHostKey htr hsave =>
    refine (savesKeepSettings_cons hinv).mpr fun _ => ⟨?_, ?_⟩
    · exact hclone _ _ rfl htr hsave
    · exact hfits.candidate _ htr (.inl rfl)
  | savesUpdate hupdate hedits =>
    have hkept := StoreEdit.applyAll_keeps hedits
    exact (savesKeepSettings_cons hinv).mpr fun _ => ⟨hkept.settings, hkept.recents⟩
  | savesRecents => exact (savesKeepSettings_cons hinv).mpr nofun
  | @commits transaction stage stored memory hstage hexternal hcommit hsave =>
    rw [saves_finish, afterCommit_eq]
    refine (savesKeepSettings_cons hinv).mpr fun habout => ?_
    have hcommitted := lockedCommit_committed hcommit
    have hsync := hfits.synced (savedRecents_of_locksAt hstage)
    refine ⟨?_, hcommitted.storedRecents.elim (·.trans hsync) id⟩
    rw [hcommitted.storedSettings habout]
    -- only a transaction that saves the live store can save a preview
    split
    · rename_i hsavesLive
      have hout := hexternal.resolve_right (not_not.mpr hsavesLive)
      exact hlive transaction stage rfl hstage hsavesLive hout hsave
        (Option.isSome_of_eq_some hcommit)
    · rfl

theorem saves_runLocked {stored memory : SessionStore ρ σ}
    (hcommit : s.lockedCommit token outcome transaction = some (stored, memory))
    (hsave : outcome.save) :
    (s.runLocked token transaction outcome).saves = ⟨transaction, s.disk, stored⟩ :: s.saves := by
  unfold runLocked
  rw [hcommit]
  dsimp only
  rw [if_pos hsave, saves_finish, afterCommit_eq]
  rfl

/-- A step keeps the settings on disk exactly when it saves no preview. -/
theorem savesKeepSettings_step_iff (hsynced : Synced s) (h : SavesKeepSettings s)
    (l : Label ρ σ) : SavesKeepSettings (s.step l) ↔ SavesNoPreview s l := by
  cases l with
  | spawn token transaction =>
    unfold SavesKeepSettings
    rw [step, (commits_spawn token transaction).2]
    exact iff_true_intro h
  | acquire token =>
    unfold SavesKeepSettings
    rw [step, (commits_acquire token).2]
    exact iff_true_intro h
  | preview settings => exact iff_true_intro h
  | detect profileId system => exact iff_true_intro h
  -- saves are made in the sections of a task: under the lock, or of a candidate for a host key
  | run token outcome =>
    constructor
    · intro hafter
      constructor
      · intro transaction stage htask hstage hlive hexternal hsave hsome
        obtain ⟨⟨stored, memory⟩, hcommit⟩ := Option.isSome_iff_exists.mp hsome
        have habout := aboutProfiles_of_savesLive hlive
        have hkept := hafter ⟨transaction, s.disk, stored⟩ (by
          simp only [step, htask]
          rw [runSection_locked hstage hlive hexternal, saves_runLocked hcommit hsave]
          exact List.mem_cons_self) habout
        have hstored := (lockedCommit_committed hcommit).storedSettings habout
        rw [if_pos hlive] at hstored
        exact hstored.symm.trans hkept.1
      · intro transaction candidate htask htr hsave
        have hkept := hafter ⟨transaction, s.disk, candidate⟩ (by
          simp only [step, htask]
          rw [runSection_saveCandidate htr, saves_saveCandidate hsave]
          exact List.mem_cons_self) (aboutProfiles_of_hostKey htr)
        exact hkept.1
    · rintro ⟨hlive, hclone⟩
      simp only [step]
      split
      · exact h
      · rename_i task htask
        obtain hidle | hpassed := s.runSection_eq_or_passed token task outcome
        · rw [hidle]
          exact h
        -- a task past the gate saves what fits the disk
        · obtain ⟨-, hfits⟩ := hsynced.owned token task htask hpassed
          refine (s.runSection_ran token outcome task).savesKeepSettings h hfits ?_ ?_
          · rintro transaction stage rfl
            exact hlive transaction stage htask
          · rintro transaction candidate rfl
            exact hclone transaction candidate htask

/-- No operation on profiles or groups changes the settings or the history on disk exactly when
    what each of them saves from memory has the settings on disk. -/
theorem savesKeepSettings_iff (store : SessionStore ρ σ) (labels : List (Label ρ σ)) :
    Transition.Throughout step (initial store store) SavesKeepSettings labels ↔
      Transition.AllSafe step (initial store store) SavesNoPreview labels := by
  apply Transition.throughout_iff_allSafe
  · exact fun _ hr => absurd hr List.not_mem_nil
  · intro pre l _ h
    exact savesKeepSettings_step_iff (synced_foldl (synced_initial store) pre) h l

/-- The user previews a setting and deletes a profile. -/
def deletionAfterPreview : List (Label Unit Nat) :=
  [.preview previewed, .spawn 7 (.deleteProfile newHost), .acquire 7, .run 7 {}, .run 7 {}]

/-- The deletion saves the preview. -/
theorem deletion_saves_preview :
    ¬Transition.Throughout step (initial newHostStore newHostStore) SavesKeepSettings
      deletionAfterPreview := by
  intro h
  have hsaved : ((deletionAfterPreview.foldl step (initial newHostStore newHostStore)).saves.any
      fun r => r.transaction.aboutProfiles && decide (r.after.settings ≠ r.before.settings)) =
        true := by
    decide
  obtain ⟨r, hr, hsaved⟩ := List.any_eq_true.mp hsaved
  obtain ⟨habout, hne⟩ := Bool.and_eq_true_iff.mp hsaved
  exact of_decide_eq_true hne (h _ (List.prefix_refl _) r hr habout).1

end ProfileState

end AxSsh.Profiles
