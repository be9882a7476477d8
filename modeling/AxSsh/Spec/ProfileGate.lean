import AxSsh.ForStd.Gate
import AxSsh.Spec.ProfileSections

/-!
# What the holder of the persistence gate knows

A task that cloned the store, or its groups and profiles, still holds the clone when it commits.
`Aligned` says that the clone agrees with the store up to the settings and the profile the task is
about: nothing but the task itself changes anything else in between.  `Synced` says that the
history of workspaces in memory is the one on disk.

## Key results
- `aligned_foldl`, `synced_foldl`: both hold in every state of a run
- `Ran.aligned`, `Ran.synced`: one section of the holder keeps them
-/

namespace AxSsh.Profiles

variable {ρ σ : Type}

namespace ProfileTask

def Passed (task : ProfileTask ρ σ) : Prop := task.stage ≠ .queued

/-- The stages that hold nothing. -/
def Plain (stage : TaskStage ρ σ) : Prop :=
  stage = .entered ∨ stage = .changing ∨ stage = .changed ∨ stage = .removing

/-- What a task holds of the store agrees with it. -/
structure Fits (memory : SessionStore ρ σ) (task : ProfileTask ρ σ) : Prop where
  hostKey : ∀ pending expected revoked candidate,
    task.transaction.hostKey = some (pending, expected, revoked) →
    task.stage = .cloned candidate ∨ task.stage = .saved candidate →
    ProfileFrame pending.profileId memory candidate
  snapshot : ∀ groups sessions, task.stage = .snapshot groups sessions →
    groups = memory.groups ∧ sessions = memory.sessions
  update : ∀ update candidate, task.transaction = .updateSessionStore update →
    task.stage = .saved candidate → Updated update memory candidate

/-- The histories of workspaces that a task holds are the one on disk. -/
structure FitsDisk (memory disk : SessionStore ρ σ) (task : ProfileTask ρ σ) : Prop where
  recents : task.savedRecents.getD memory.recentWorkspaces = disk.recentWorkspaces
  candidate : ∀ candidate, task.transaction.hostKey.isSome →
    task.stage = .cloned candidate ∨ task.stage = .saved candidate →
    candidate.recentWorkspaces = disk.recentWorkspaces

variable {memory disk : SessionStore ρ σ} {transaction : Transaction ρ σ} {stage : TaskStage ρ σ}

theorem Plain.holds_nothing (h : Plain stage) (candidate : SessionStore ρ σ) (groups : List String)
    (sessions : List (SessionProfile ρ)) :
    stage ≠ .cloned candidate ∧ stage ≠ .saved candidate ∧ stage ≠ .snapshot groups sessions := by
  obtain rfl | rfl | rfl | rfl := h <;> simp

theorem Plain.fits (h : Plain stage) : Fits memory ⟨transaction, stage⟩ where
  hostKey _ _ _ candidate _ hstage :=
    have ⟨hcloned, hsaved, _⟩ := h.holds_nothing candidate [] []
    absurd hstage (not_or.mpr ⟨hcloned, hsaved⟩)
  snapshot groups sessions hstage := absurd hstage (h.holds_nothing memory groups sessions).2.2
  update _ candidate _ hstage := absurd hstage (h.holds_nothing candidate [] []).2.1

theorem Plain.fitsDisk (h : Plain stage) (hsync : memory.recentWorkspaces = disk.recentWorkspaces) :
    FitsDisk memory disk ⟨transaction, stage⟩ where
  recents := by obtain rfl | rfl | rfl | rfl := h <;> exact hsync
  candidate candidate _ hstage :=
    have ⟨hcloned, hsaved, _⟩ := h.holds_nothing candidate [] []
    absurd hstage (not_or.mpr ⟨hcloned, hsaved⟩)

theorem fits_snapshot : Fits memory ⟨transaction, .snapshot memory.groups memory.sessions⟩ where
  hostKey _ _ _ _ _ hstage := hstage.elim (nomatch ·) (nomatch ·)
  snapshot _ _ hstage := by
    cases hstage
    exact ⟨rfl, rfl⟩
  update _ _ _ hstage := nomatch hstage

/-- A clone differs from the store only in the host key that is confirmed. -/
theorem fits_clone {pending : PendingHostKey} {expected : SessionProfile ρ} {revoked : Bool}
    (htr : transaction.hostKey = some (pending, expected, revoked)) :
    Fits memory ⟨transaction, .cloned (ProfileState.hostKeyCandidate memory pending revoked)⟩ where
  hostKey pending' _ _ candidate htr' hstage := by
    obtain rfl : pending = pending' := congrArg Prod.fst (Option.some.inj (htr.symm.trans htr'))
    obtain hstage | hstage := hstage
    · cases hstage
      exact memory.modify_frame pending.profileId (SessionProfile.id_modifySsh _)
    · exact nomatch hstage
  snapshot _ _ hstage := nomatch hstage
  update _ _ _ hstage := nomatch hstage

/-- A saved clone is the clone that was taken. -/
theorem Fits.saved {candidate : SessionStore ρ σ} (htr : transaction.hostKey.isSome)
    (h : Fits memory ⟨transaction, .cloned candidate⟩) :
    Fits memory ⟨transaction, .saved candidate⟩ where
  hostKey pending expected revoked candidate' htr' hstage := by
    obtain hstage | hstage := hstage
    · exact nomatch hstage
    · cases hstage
      exact h.hostKey pending expected revoked candidate htr' (.inl rfl)
  snapshot _ _ hstage := nomatch hstage
  update update _ hupdate _ := by
    obtain rfl : transaction = .updateSessionStore update := hupdate
    exact nomatch htr

/-- What an update saved is the update of the groups and profiles in memory. -/
theorem fits_update {update : SessionStore ρ σ → Except String (List (StoreEdit ρ))}
    {groups : List String} {sessions : List (SessionProfile ρ)} {edits : List (StoreEdit ρ)}
    {candidate : SessionStore ρ σ}
    (h : Fits memory ⟨.updateSessionStore update, .snapshot groups sessions⟩)
    (hupdate : update { disk with groups, sessions } = .ok edits)
    (hedits : StoreEdit.applyAll edits { disk with groups, sessions } = .ok candidate) :
    Fits memory ⟨.updateSessionStore update, .saved candidate⟩ where
  hostKey _ _ _ _ htr _ := nomatch htr
  snapshot _ _ hstage := nomatch hstage
  update update' candidate' htr hstage := by
    cases htr
    cases hstage
    obtain ⟨hgroups, hsessions⟩ := h.snapshot groups sessions rfl
    exact ⟨_, edits, candidate, hgroups, hsessions, hupdate, hedits, rfl, rfl⟩

theorem fits_recents {update : List String → Except String (List String)}
    {candidate : SessionStore ρ σ} :
    Fits memory ⟨.updateRecentWorkspaces update, .saved candidate⟩ where
  hostKey _ _ _ _ htr _ := nomatch htr
  snapshot _ _ hstage := nomatch hstage
  update _ _ htr _ := nomatch htr

theorem FitsDisk.synced {task : ProfileTask ρ σ} (h : FitsDisk memory disk task)
    (htask : task.savedRecents = none) : memory.recentWorkspaces = disk.recentWorkspaces := by
  have hrecents := h.recents
  rwa [htask] at hrecents

/-- A task that holds no clone of the whole store. -/
theorem fitsDisk_of_hostKey_none (htr : transaction.hostKey = none)
    (h : (ProfileTask.mk transaction stage).savedRecents.getD memory.recentWorkspaces =
      disk.recentWorkspaces) : FitsDisk memory disk ⟨transaction, stage⟩ where
  recents := h
  candidate candidate hsome _ := by
    obtain hsome : transaction.hostKey.isSome := hsome
    rw [htr] at hsome
    exact nomatch hsome

/-- A task that holds a clone of the whole store. -/
theorem fitsDisk_of_hostKey {candidate : SessionStore ρ σ} (htr : transaction.hostKey.isSome)
    (hstage : stage = .cloned candidate ∨ stage = .saved candidate)
    (hsync : memory.recentWorkspaces = disk.recentWorkspaces)
    (hcandidate : candidate.recentWorkspaces = disk.recentWorkspaces) :
    FitsDisk memory disk ⟨transaction, stage⟩ where
  recents := by
    rw [savedRecents_of_hostKey stage htr]
    exact hsync
  candidate candidate' _ hstage' := by
    obtain rfl | rfl := hstage <;> obtain heq | heq := hstage' <;> cases heq <;> exact hcandidate

/-- A clone does not see the settings in memory. -/
theorem Fits.withSettings {task : ProfileTask ρ σ} (h : Fits memory task)
    (settings : AppSettings σ) : Fits { memory with settings } task where
  hostKey pending expected revoked candidate htr hstage :=
    (h.hostKey pending expected revoked candidate htr hstage).withSettings settings
  snapshot := h.snapshot
  update := h.update

end ProfileTask

/-- The gate as what its holder knows of the store in memory. -/
def Aligned (s : ProfileState ρ σ) : Prop :=
  Gate.Owned ProfileTask.Passed (ProfileTask.Fits s.sessions) s.gate s.tasks

/-- The history in memory is the one on disk, or about to be. -/
structure Synced (s : ProfileState ρ σ) : Prop where
  owned : Gate.Owned ProfileTask.Passed (ProfileTask.FitsDisk s.sessions s.disk) s.gate s.tasks
  free : s.gate = none → s.sessions.recentWorkspaces = s.disk.recentWorkspaces

namespace ProfileState

open ProfileTask

variable {s : ProfileState ρ σ} {token : Uuid} {transaction : Transaction ρ σ}
  {stage : TaskStage ρ σ} {fits : ProfileTask ρ σ → Prop}

/-! ## Sections -/

theorem aligned_finish (h : Gate.Owned Passed fits (some token) s.tasks) :
    Aligned (s.finish token transaction) := by
  unfold Aligned
  rw [finish_eq]
  exact h.leave

theorem aligned_setStage (h : Gate.Owned Passed fits (some token) s.tasks)
    (hgate : s.gate = some token) (hfits : Fits s.sessions ⟨transaction, stage⟩) :
    Aligned (s.setStage token transaction stage) := by
  unfold Aligned
  show Gate.Owned Passed (Fits s.sessions) s.gate _
  rw [hgate]
  exact h.advance hfits

theorem synced_finish
    (h : Gate.Owned Passed fits (some token) s.tasks)
    (hsync : s.sessions.recentWorkspaces = s.disk.recentWorkspaces) :
    Synced (s.finish token transaction) := by
  rw [finish_eq]
  exact ⟨h.leave, fun _ => hsync⟩

theorem synced_setStage
    (h : Gate.Owned Passed fits (some token) s.tasks) (hgate : s.gate = some token)
    (hfits : FitsDisk s.sessions s.disk ⟨transaction, stage⟩) :
    Synced (s.setStage token transaction stage) where
  owned := by
    show Gate.Owned Passed (FitsDisk s.sessions s.disk) s.gate _
    rw [hgate]
    exact h.advance hfits
  free hnone := nomatch hgate.symm.trans hnone

/-- The gate is taken by a task that waits, if it is free. -/
theorem acquire_cases (s : ProfileState ρ σ) (token : Uuid) :
    s.acquire token = s ∨
      ∃ transaction, s.gate = none ∧ s.acquire token =
        { s with gate := some token, tasks := s.tasks.insert token ⟨transaction, .entered⟩ } := by
  unfold acquire
  split
  · rename_i transaction hgate htask
    exact .inr ⟨transaction, hgate, rfl⟩
  · exact .inl rfl

theorem aligned_initial (sessions disk : SessionStore ρ σ) : Aligned (initial sessions disk) :=
  Gate.owned_empty

theorem synced_initial (store : SessionStore ρ σ) : Synced (initial store store) :=
  ⟨Gate.owned_empty, fun _ => rfl⟩

variable [DecidableEq ρ] {outcome : Outcome} {task : ProfileTask ρ σ} {s' : ProfileState ρ σ}

/-- The commit of a clone, whether or not a revoked record is still to be removed. -/
theorem aligned_commitHostKey {pending : PendingHostKey} {expected : SessionProfile ρ}
    {candidate : SessionStore ρ σ} {revoked : Bool}
    (h : Gate.Owned Passed fits (some token) s.tasks) (hgate : s.gate = some token) :
    Aligned (s.commitHostKey token transaction pending expected candidate revoked) := by
  unfold commitHostKey
  split
  · rw [finishProfileMutation_eq]
    dsimp only
    split
    · exact aligned_setStage h hgate (Plain.fits (.inr (.inr (.inr rfl))))
    · exact aligned_finish h
  · exact aligned_finish h

/-- A section of the holder of the gate keeps the clones true. -/
theorem Ran.aligned (h : Ran s token outcome task s') (hinv : Aligned s)
    (hgate : s.gate = some token) (hfits : Fits s.sessions task) : Aligned s' := by
  have howned : Gate.Owned Passed (Fits s.sessions) (some token) s.tasks := by
    rw [← hgate]
    exact hinv
  cases h with
  | idle => exact hinv
  | «over» htask => exact aligned_finish howned
  | next htask hstage =>
    exact aligned_setStage howned hgate (Plain.fits (.inr (hstage.imp id .inl)))
  | clones htr => exact aligned_setStage howned hgate (fits_clone htr)
  | savesHostKey htr hsave => exact aligned_setStage howned hgate (hfits.saved htr)
  | commitsHostKey htr hcurrent => exact aligned_commitHostKey howned hgate
  | snapshots => exact aligned_setStage howned hgate fits_snapshot
  | savesUpdate hupdate hedits =>
    exact aligned_setStage howned hgate (fits_update hfits hupdate hedits)
  | commitsUpdate => exact aligned_finish howned
  | savesRecents => exact aligned_setStage howned hgate fits_recents
  | commitsRecents => exact aligned_finish howned
  | commits hstage hexternal hcommit hsave =>
    apply aligned_finish
    rw [afterCommit_eq]
    exact howned

theorem synced_commitHostKey {pending : PendingHostKey} {expected : SessionProfile ρ}
    {candidate : SessionStore ρ σ} {revoked : Bool} 
    (h : Gate.Owned Passed fits (some token) s.tasks) (hgate : s.gate = some token)
    (hsync : s.sessions.recentWorkspaces = s.disk.recentWorkspaces)
    (hcandidate : candidate.recentWorkspaces = s.disk.recentWorkspaces) :
    Synced (s.commitHostKey token transaction pending expected candidate revoked) := by
  unfold commitHostKey
  split
  · rw [finishProfileMutation_eq]
    dsimp only
    split
    · exact synced_setStage h hgate (Plain.fitsDisk (.inr (.inr (.inr rfl))) hcandidate)
    · exact synced_finish h hcandidate
  · exact synced_finish h hsync

/-- A section of the holder of the gate keeps the history in memory that of the file, once it has
    committed what it saved. -/
theorem Ran.synced (h : Ran s token outcome task s') (hinv : Synced s)
    (hgate : s.gate = some token) (hfits : FitsDisk s.sessions s.disk task) : Synced s' := by
  -- the task is the one that owns the gate
  have howned : Gate.Owned Passed (FitsDisk s.sessions s.disk) (some token) s.tasks := by
    rw [← hgate]
    exact hinv.owned
  cases h with
  | idle => exact hinv
  | «over» htask => exact synced_finish howned (hfits.synced htask)
  | next htask hstage =>
    exact synced_setStage howned hgate
      (Plain.fitsDisk (.inr (hstage.imp id .inl)) (hfits.synced htask))
  | clones htr =>
    have hsome := Option.isSome_of_eq_some htr
    have hsync := hfits.synced (savedRecents_of_hostKey _ hsome)
    exact synced_setStage howned hgate (fitsDisk_of_hostKey hsome (.inl rfl) hsync hsync)
  | savesHostKey htr hsave =>
    have hsync := hfits.synced (savedRecents_of_hostKey _ htr)
    have hcandidate := hfits.candidate _ htr (.inl rfl)
    refine synced_setStage (s := s.write _ _) howned hgate ?_
    exact fitsDisk_of_hostKey htr (.inr rfl) (hsync.trans hcandidate.symm) rfl
  -- the candidate has the recent workspaces of the disk
  | commitsHostKey htr hcurrent =>
    have hsome := Option.isSome_of_eq_some htr
    exact synced_commitHostKey howned hgate (hfits.synced (savedRecents_of_hostKey _ hsome))
      (hfits.candidate _ hsome (.inr rfl))
  | snapshots =>
    exact synced_setStage howned hgate (fitsDisk_of_hostKey_none rfl (hfits.synced rfl))
  | savesUpdate hupdate hedits =>
    have hkept := (StoreEdit.applyAll_keeps hedits).recents
    refine synced_setStage (s := s.write _ _) howned hgate ?_
    exact fitsDisk_of_hostKey_none rfl ((hfits.synced rfl).trans hkept.symm)
  | commitsUpdate => exact synced_finish howned (hfits.synced rfl)
  | savesRecents =>
    exact synced_setStage (s := s.write _ _) howned hgate (fitsDisk_of_hostKey_none rfl rfl)
  | commitsRecents => exact synced_finish howned hfits.recents
  | commits hstage hexternal hcommit hsave =>
    have hsync := hfits.synced (savedRecents_of_locksAt hstage)
    have hcommitted := lockedCommit_committed hcommit
    have hstored := hcommitted.storedRecents.elim id fun hdisk => hdisk.trans hsync.symm
    apply synced_finish
    · rw [afterCommit_eq]
      exact howned
    · rw [afterCommit_eq]
      exact hcommitted.recents.trans hstored.symm

/-! ## Steps -/

theorem runSection_queued (s : ProfileState ρ σ) (token : Uuid) (transaction : Transaction ρ σ)
    (outcome : Outcome) : s.runSection token ⟨transaction, .queued⟩ outcome = s := by
  cases transaction <;> rfl

/-- A task that does not hold the gate has nothing to run. -/
theorem runSection_eq_or_passed (s : ProfileState ρ σ) (token : Uuid) (task : ProfileTask ρ σ)
    (outcome : Outcome) : s.runSection token task outcome = s ∨ task.Passed := by
  obtain ⟨transaction, stage⟩ := task
  cases stage with
  | queued => exact .inl (s.runSection_queued token transaction outcome)
  | _ => exact .inr nofun

/-- A transaction is refused, or its task waits for the gate. -/
theorem spawn_cases (s : ProfileState ρ σ) (token : Uuid) (transaction : Transaction ρ σ) :
    s.spawn token transaction = s ∨
      ∃ profileMutations, s.spawn token transaction =
        { s with tasks := s.tasks.insert token { transaction }, profileMutations } := by
  unfold spawn
  split
  · exact .inl rfl
  · split
    · exact .inr ⟨s.profileMutations, rfl⟩
    · split
      · exact .inl rfl
      · exact .inr ⟨_, rfl⟩

theorem aligned_step (h : Aligned s) (l : Label ρ σ) : Aligned (s.step l) := by
  cases l with
  | spawn token transaction =>
    obtain heq | ⟨profileMutations, heq⟩ := s.spawn_cases token transaction
    · rw [step, heq]
      exact h
    · rw [step, heq]
      exact Gate.Owned.wait h fun hpassed => hpassed rfl
  | acquire token =>
    obtain heq | ⟨transaction, hgate, heq⟩ := s.acquire_cases token
    · rw [step, heq]
      exact h
    · unfold Aligned at h
      rw [hgate] at h
      rw [step, heq]
      exact h.enter (Plain.fits (.inl rfl))
  | run token outcome =>
    simp only [step]
    split
    · exact h
    · rename_i task htask
      obtain hidle | hpassed := s.runSection_eq_or_passed token task outcome
      · rw [hidle]
        exact h
      · obtain ⟨hgate, hfits⟩ := h token task htask hpassed
        exact (s.runSection_ran token outcome task).aligned h hgate hfits
  | preview settings => exact h.mono fun task hfits => hfits.withSettings _
  | detect profileId system => exact h

theorem synced_step (h : Synced s) (l : Label ρ σ) : Synced (s.step l) := by
  cases l with
  | spawn token transaction =>
    obtain heq | ⟨profileMutations, heq⟩ := s.spawn_cases token transaction
    · rw [step, heq]
      exact h
    · rw [step, heq]
      exact ⟨h.owned.wait fun hpassed => hpassed rfl, h.free⟩
  | acquire token =>
    obtain heq | ⟨transaction, hgate, heq⟩ := s.acquire_cases token
    · rw [step, heq]
      exact h
    · have howned := h.owned
      rw [hgate] at howned
      rw [step, heq]
      exact ⟨howned.enter (Plain.fitsDisk (.inl rfl) (h.free hgate)), nofun⟩
  | run token outcome =>
    simp only [step]
    split
    · exact h
    · rename_i task htask
      obtain hidle | hpassed := s.runSection_eq_or_passed token task outcome
      · rw [hidle]
        exact h
      · obtain ⟨hgate, hfits⟩ := h.owned token task htask hpassed
        exact (s.runSection_ran token outcome task).synced h hgate hfits
  | preview settings =>
    exact ⟨h.owned.mono fun task hfits => ⟨hfits.recents, hfits.candidate⟩, h.free⟩
  | detect profileId system => exact ⟨h.owned, h.free⟩

/-! ## Runs -/

theorem aligned_foldl (h : Aligned s) (labels : List (Label ρ σ)) :
    Aligned (labels.foldl step s) :=
  List.foldlRecOn labels step h fun _ hs l _ => aligned_step hs l

theorem synced_foldl (h : Synced s) (labels : List (Label ρ σ)) :
    Synced (labels.foldl step s) :=
  List.foldlRecOn labels step h fun _ hs l _ => synced_step hs l

end ProfileState

end AxSsh.Profiles
