import AxSsh.Native.Credentials

/-!
# Changes of a remembered password are atomic

`savePassword` and `deletePasswordInStore` change three secrets in two backends.  `Undoes` says of
a rollback and a state what the restore of the backups needs: whatever was changed since the
backups were taken is among them.

## Key results
- `Undoes.restore`: restoring brings back what was there
- `credential_changes_atomic`: a change succeeds as a whole or changes nothing
-/

namespace AxSsh.Credentials

open Profiles (CredentialStorage)
open CredentialStore Faulty

variable {R N : Type} {F : VaultFormat R N} {id : Uuid} {s s₀ : CredentialState R}

/-- The unlock key that `load_or_migrate_vault_unlock_password` returns. -/
def effectiveUnlock (s : CredentialState R) : Except String (Option Secret) :=
  (loadOrMigrateVaultUnlockPassword s []).1

/-- The secrets that a reader of the store sees are the same. -/
structure SameCredentials (s s' : CredentialState R) : Prop where
  system : s'.system = s.system
  vault : s'.vault = s.vault
  unlock : effectiveUnlock s' = effectiveUnlock s
  /-- No file comes back. -/
  file : s.legacy = none → s'.legacy = none

theorem SameCredentials.refl (s : CredentialState R) : SameCredentials s s := ⟨rfl, rfl, rfl, id⟩

theorem SameCredentials.trans {a b c : CredentialState R} (h : SameCredentials a b)
    (h' : SameCredentials b c) : SameCredentials a c :=
  ⟨h'.system.trans h.system, h'.vault.trans h.vault, h'.unlock.trans h.unlock,
    fun hnone => h'.file (h.file hnone)⟩

/-! ## Single calls -/

theorem validatePassword_value (password : Secret) (label : String) :
    validatePassword password.value label = .ok password := by
  unfold validatePassword
  rw [dif_neg password.nonempty, dif_pos password.bounded]

theorem value_of_validatePassword {value label : String} {password : Secret}
    (h : validatePassword value label = .ok password) : password.value = value := by
  unfold validatePassword at h
  split at h
  · exact nomatch h
  · split at h
    · cases h
      rfl
    · exact nomatch h

theorem effectiveUnlock_none (h : s.legacy = none) : effectiveUnlock s = .ok s.unlock := by
  unfold effectiveUnlock
  obtain ⟨system, vault, unlock, legacy⟩ := s
  subst h
  rfl

theorem effectiveUnlock_key {key : Secret} (h : s.legacy = some (.key key)) :
    effectiveUnlock s = .ok (some key) := by
  unfold effectiveUnlock
  obtain ⟨system, vault, unlock, legacy⟩ := s
  subst h
  simp only [loadOrMigrateVaultUnlockPassword, saveVaultUnlockPassword, validatePassword_value]
  rfl

theorem effectiveUnlock_invalid {message : String} (h : s.legacy = some (.invalid message)) :
    effectiveUnlock s = .error message := by
  unfold effectiveUnlock
  obtain ⟨system, vault, unlock, legacy⟩ := s
  subst h
  rfl

/-- The passwords play no part in it. -/
theorem effectiveUnlock_congr {s' : CredentialState R} (hunlock : s'.unlock = s.unlock)
    (hlegacy : s'.legacy = s.legacy) : effectiveUnlock s' = effectiveUnlock s := by
  cases hfile : s.legacy with
  | none => rw [effectiveUnlock_none hfile, effectiveUnlock_none (hlegacy.trans hfile), hunlock]
  | some file =>
    cases file with
    | key key => rw [effectiveUnlock_key hfile, effectiveUnlock_key (hlegacy.trans hfile)]
    | invalid message =>
      rw [effectiveUnlock_invalid hfile, effectiveUnlock_invalid (hlegacy.trans hfile)]

theorem read_triple {α : Type} {message : String} {f : CredentialState R → Except String α} :
    Triple (· = s₀) (read message f) (fun a s => s = s₀ ∧ f s₀ = .ok a) (· = s₀) := by
  refine Triple.call (fun _ hs => hs) ?_
  rintro s a s' rfl heq
  cases hf : f s with
  | error e =>
    rw [hf] at heq
    exact nomatch heq
  | ok b =>
    rw [hf] at heq
    cases heq
    exact ⟨rfl, rfl⟩

theorem write_triple {message : String} {f : CredentialState R → CredentialState R} :
    Triple (· = s₀) (write message f) (fun _ s => s = f s₀) (· = s₀) := by
  refine Triple.call (fun _ hs => hs) ?_
  rintro s a s' rfl heq
  cases heq
  rfl

theorem loadSystemPassword_triple :
    Triple (· = s₀) loadSystemPassword (fun password s => s = s₀ ∧ password = s₀.system)
      (· = s₀) := by
  refine Triple.bind read_triple fun _ => Triple.assume fun _ => ?_
  refine read_triple.mono (fun _ h => h) ?_ (fun _ h => h)
  rintro password s ⟨hs, heq⟩
  exact ⟨hs, (Except.ok.inj heq).symm⟩

theorem saveSystemPassword_triple {password : String} :
    Triple (· = s₀) (saveSystemPassword password)
      (fun _ s => ∃ secret : Secret, secret.value = password ∧
        s = { s₀ with system := some secret }) (· = s₀) := by
  refine Triple.bind (Triple.lift (fun _ hs => hs) fun s a hs heq =>
    ⟨hs, value_of_validatePassword heq⟩) fun secret => Triple.assume fun hvalue => ?_
  refine Triple.bind read_triple fun _ => Triple.assume fun _ => ?_
  exact write_triple.mono (fun _ h => h) (fun _ s hs => ⟨secret, hvalue, hs⟩) (fun _ h => h)

theorem deleteSystemPassword_triple :
    Triple (· = s₀) deleteSystemPassword (fun _ s => s = { s₀ with system := none }) (· = s₀) :=
  Triple.bind read_triple fun _ => Triple.assume fun _ => write_triple

theorem readVaultRecord_triple :
    Triple (· = s₀) (readVaultRecord F) (fun record s => s = s₀ ∧ record = s₀.vault) (· = s₀) := by
  refine read_triple.mono (fun _ h => h) ?_ (fun _ h => h)
  rintro record s ⟨hs, heq⟩
  refine ⟨hs, ?_⟩
  split at heq
  · rename_i hvault
    rw [← Except.ok.inj heq, hvault]
  · rename_i record' hvault
    split at heq
    · exact nomatch heq
    · rw [← Except.ok.inj heq, hvault]

theorem saveVaultPassword_triple {nonce : N} {password vaultPassword : String} :
    Triple (· = s₀) (saveVaultPassword F id nonce password vaultPassword)
      (fun _ s => ∃ secret key : Secret, secret.value = password ∧ key.value = vaultPassword ∧
        s = { s₀ with vault := some (F.encrypt id secret key nonce) }) (· = s₀) := by
  refine Triple.bind (Triple.lift (fun _ hs => hs) fun s a hs heq =>
    ⟨hs, value_of_validatePassword heq⟩) fun secret => Triple.assume fun hsecret => ?_
  refine Triple.bind (Triple.lift (fun _ hs => hs) fun s a hs heq =>
    ⟨hs, value_of_validatePassword heq⟩) fun key => Triple.assume fun hkey => ?_
  exact write_triple.mono (fun _ h => h) (fun _ s hs => ⟨secret, key, hsecret, hkey, hs⟩)
    (fun _ h => h)

/-- The store without the password of one backend. -/
def CredentialState.without (s : CredentialState R) : CredentialStorage → CredentialState R
  | .systemKeyring => { s with system := none }
  | .encryptedVault => { s with vault := none }

theorem deletePassword_triple {storage : CredentialStorage} :
    Triple (· = s₀) (deletePassword storage) (fun _ s => s = s₀.without storage) (· = s₀) := by
  cases storage with
  | systemKeyring => exact deleteSystemPassword_triple
  | encryptedVault => exact write_triple

/-! ## Unlock keys -/

theorem saveVaultUnlockPassword_triple {password : String} :
    Triple (· = s₀) (saveVaultUnlockPassword password)
      (fun _ s => ∃ key : Secret, key.value = password ∧ s = { s₀ with unlock := some key })
      (· = s₀) := by
  refine Triple.bind (Triple.lift (fun _ hs => hs) fun s a hs heq =>
    ⟨hs, value_of_validatePassword heq⟩) fun key => Triple.assume fun hkey => ?_
  refine Triple.bind read_triple fun _ => Triple.assume fun _ => ?_
  exact write_triple.mono (fun _ h => h) (fun _ s hs => ⟨key, hkey, hs⟩) (fun _ h => h)

/-- Deleting can fail with the protected entry gone and the file still there. -/
theorem deleteVaultUnlockPassword_triple :
    Triple (· = s₀) deleteVaultUnlockPassword
      (fun _ s => s = { s₀ with unlock := none, legacy := none })
      (fun s => s = s₀ ∨ s = { s₀ with unlock := none }) := by
  refine Triple.bind (read_triple.mono (fun _ h => h) (fun _ _ h => h) (fun _ h => .inl h))
    fun _ => Triple.assume fun _ => ?_
  refine Triple.bind (write_triple.mono (fun _ h => h) (fun _ _ h => h) (fun _ h => .inl h))
    fun _ => ?_
  exact write_triple.mono (fun _ h => h) (fun _ _ h => h) (fun _ h => .inr h)

/-- A migration leaves the key of the file in the protected entry, or both as they were. -/
theorem loadOrMigrate_triple :
    Triple (· = s₀) loadOrMigrateVaultUnlockPassword
      (fun key s => SameCredentials s₀ s ∧ s.legacy = none ∧ key = s.unlock)
      (SameCredentials s₀) := by
  refine Triple.bind (read_triple.mono (fun _ h => h) (fun _ _ h => h)
    fun s hs => hs ▸ .refl s₀) fun file => Triple.assume fun hfile => ?_
  split at hfile
  · rename_i hlegacy
    cases hfile
    refine Triple.bind (read_triple.mono (fun _ h => h) (fun _ _ h => h)
      fun s hs => hs ▸ .refl s₀) fun _ => Triple.assume fun _ => ?_
    refine read_triple.mono (fun _ h => h) ?_ (fun s hs => hs ▸ .refl s₀)
    rintro key s ⟨rfl, heq⟩
    exact ⟨.refl s, hlegacy, (Except.ok.inj heq).symm⟩
  · rename_i password hlegacy
    cases hfile
    have heffective := effectiveUnlock_key hlegacy
    refine Triple.bind (saveVaultUnlockPassword_triple.mono (fun _ h => h) (fun _ _ h => h)
      fun s hs => hs ▸ .refl s₀) fun _ => ?_
    -- The key is stored before the file goes; a reader sees the same key throughout.
    refine Triple.bind (Q := fun _ s =>
      s = { s₀ with unlock := some password, legacy := none }) ?_ fun _ => ?_
    · rintro s faults ⟨key, hkey, rfl⟩
      obtain rfl : key = password := Secret.ext hkey
      refine write_triple.mono (fun _ h => h) (fun _ _ h => h) ?_ _ faults rfl
      rintro s rfl
      exact ⟨rfl, rfl, (effectiveUnlock_key (s := { s₀ with unlock := some key }) hlegacy).trans
        heffective.symm, id⟩
    · refine Triple.pure ?_
      rintro s rfl
      exact ⟨⟨rfl, rfl, (effectiveUnlock_none rfl).trans heffective.symm, fun _ => rfl⟩, rfl, rfl⟩
  · exact nomatch hfile

/-! ## Backups -/

/-- The backup of one backend in a state. -/
def CredentialState.backupOf (s : CredentialState R) : CredentialStorage → CredentialBackup R
  | .systemKeyring => .systemKeyring s.system
  | .encryptedVault => .encryptedVault s.vault

theorem backup_triple {storage : CredentialStorage} :
    Triple (· = s₀) (backup F storage) (fun b s => s = s₀ ∧ b = s₀.backupOf storage) (· = s₀) := by
  cases storage with
  | systemKeyring =>
    refine Triple.bind loadSystemPassword_triple fun password => Triple.assume fun h => ?_
    exact Triple.pure fun s hs => ⟨hs, by rw [h]; rfl⟩
  | encryptedVault =>
    refine Triple.bind readVaultRecord_triple fun record => Triple.assume fun h => ?_
    exact Triple.pure fun s hs => ⟨hs, by rw [h]; rfl⟩

/-- What a rollback needs to bring back `s₁` from `s`: the secrets that differ were backed up. -/
structure Undoes (rollback : CredentialRollback R) (s₁ s : CredentialState R) : Prop where
  backups : ∀ b ∈ rollback.backups, b.2 = s₁.backupOf b.1
  system : s.system = s₁.system ∨ ∃ b ∈ rollback.backups, b.1 = .systemKeyring
  vault : s.vault = s₁.vault ∨ ∃ b ∈ rollback.backups, b.1 = .encryptedVault
  /-- Where the unlock key was not backed up it was left alone. -/
  kept : rollback.vaultUnlockBackup = none → s.unlock = s₁.unlock ∧ s.legacy = s₁.legacy
  unlock : ∀ key, rollback.vaultUnlockBackup = some key →
    key = s₁.unlock ∧ s₁.legacy = none ∧ s.legacy = none

/-- Restoring the backup of one backend. -/
theorem restoreBackup_eq (storage : CredentialStorage) (s₁ s : CredentialState R) :
    restoreBackup storage (s₁.backupOf storage) s [] =
      (.ok (), match storage with
        | .systemKeyring => { s with system := s₁.system }
        | .encryptedVault => { s with vault := s₁.vault }, []) := by
  obtain ⟨system, vault, unlock, legacy⟩ := s₁
  cases storage with
  | systemKeyring =>
    cases system with
    | none => rfl
    | some password =>
      simp only [CredentialState.backupOf, restoreBackup, saveSystemPassword,
        validatePassword_value]
      rfl
  | encryptedVault => cases vault <;> rfl

/-- Restoring all backups puts back what was backed up and leaves the rest. -/
theorem restoreBackups_ok {backups : List (CredentialStorage × CredentialBackup R)}
    {s₁ s : CredentialState R} (h : ∀ b ∈ backups, b.2 = s₁.backupOf b.1)
    (hsystem : s.system = s₁.system ∨ ∃ b ∈ backups, b.1 = .systemKeyring)
    (hvault : s.vault = s₁.vault ∨ ∃ b ∈ backups, b.1 = .encryptedVault) :
    restoreBackups backups s [] =
      (.ok (), { s with system := s₁.system, vault := s₁.vault }, []) := by
  induction backups generalizing s with
  | nil =>
    have hsystem := hsystem.resolve_right (by simp)
    have hvault := hvault.resolve_right (by simp)
    rw [← hsystem, ← hvault]
    rfl
  | cons b backups ih =>
    obtain ⟨storage, backup⟩ := b
    obtain rfl : backup = s₁.backupOf storage := h _ List.mem_cons_self
    have hrest b (hb : b ∈ backups) := h b (List.mem_cons_of_mem _ hb)
    unfold restoreBackups
    rw [bind_ok (restoreBackup_eq storage s₁ s)]
    cases storage with
    | systemKeyring =>
      simp only [List.mem_cons, exists_eq_or_imp] at hvault
      exact ih hrest (.inl rfl) (hvault.imp id fun hb => hb.resolve_left nofun)
    | encryptedVault =>
      simp only [List.mem_cons, exists_eq_or_imp] at hsystem
      exact ih hrest (hsystem.imp id fun hb => hb.resolve_left nofun) (.inl rfl)

/-- Restoring the unlock key. -/
theorem restoreUnlock_some (key : Option Secret) (h : s.legacy = none) :
    restoreUnlock (some key) s [] = (.ok (), { s with unlock := key }, []) := by
  obtain ⟨system, vault, unlock, legacy⟩ := s
  obtain rfl : legacy = none := h
  cases key with
  | none => rfl
  | some key =>
    simp only [restoreUnlock, restoreVaultUnlockPassword, Option.map_some,
      saveVaultUnlockPassword, validatePassword_value]
    rfl

/-- Restoring brings back what the backups were taken of. -/
theorem Undoes.restore {rollback : CredentialRollback R} {s₁ s : CredentialState R}
    (h : Undoes rollback s₁ s) (faults : List Bool) :
    ∃ s', rollback.restore s faults = (.ok (), s', faults) ∧ SameCredentials s₁ s' := by
  have hbackups := restoreBackups_ok h.backups h.system h.vault
  unfold CredentialRollback.restore reliably
  rw [bind_ok hbackups]
  cases hunlock : rollback.vaultUnlockBackup with
  | none =>
    obtain ⟨hkey, hlegacy⟩ := h.kept hunlock
    refine ⟨_, rfl, rfl, rfl, effectiveUnlock_congr hkey hlegacy, fun hnone => ?_⟩
    exact hlegacy.trans hnone
  | some key =>
    obtain ⟨rfl, hlegacy₁, hlegacy⟩ := h.unlock key hunlock
    have hrestored := restoreUnlock_some
      (s := { s with system := s₁.system, vault := s₁.vault }) s₁.unlock hlegacy
    rw [hrestored]
    refine ⟨_, rfl, rfl, rfl, ?_, fun _ => hlegacy⟩
    rw [effectiveUnlock_none hlegacy₁]
    exact effectiveUnlock_none hlegacy

/-- A step that is undone leaves what was there. -/
theorem orRestore_triple {rollback : CredentialRollback R} {message : String}
    {step : Backend R Unit} {P Q : CredentialState R → Prop} {s₁ : CredentialState R}
    (hstep : Triple P step (fun _ => Q) (Undoes rollback s₁)) :
    Triple P (orRestore rollback message step) (fun _ => Q) (SameCredentials s₁) := by
  refine Triple.bind hstep.attempt fun result => ?_
  cases result with
  | ok _ => exact Triple.pure fun _ hs => hs
  | error _ =>
    refine Triple.bind (Q := fun _ => SameCredentials s₁) ?_ fun _ => Triple.fail fun _ hs => hs
    intro s faults hs
    obtain ⟨s', heq, hsame⟩ := hs.restore faults
    rw [heq]
    exact hsame

theorem backupPrevious_triple {previous : Option CredentialStorage} :
    Triple (· = s₀) (backupPrevious F previous)
      (fun backups s => s = s₀ ∧
        backups = previous.toList.map fun storage => (storage, s₀.backupOf storage)) (· = s₀) := by
  cases previous with
  | none => exact Triple.pure fun _ hs => ⟨hs, rfl⟩
  | some previous =>
    refine Triple.bind backup_triple fun b => Triple.assume fun h => ?_
    exact Triple.pure fun s hs => ⟨hs, by rw [h]; rfl⟩

theorem backupUnlock_triple {needed : Bool} :
    Triple (· = s₀) (backupUnlock needed)
      (fun b s => SameCredentials s₀ s ∧ b.isSome = needed ∧ (b = none → s = s₀) ∧
        ∀ key, b = some key → key = s.unlock ∧ s.legacy = none) (SameCredentials s₀) := by
  cases needed with
  | false =>
    refine Triple.pure ?_
    rintro s rfl
    exact ⟨.refl s, rfl, fun _ => rfl, nofun⟩
  | true =>
    refine Triple.bind loadOrMigrate_triple fun key => Triple.pure ?_
    rintro s ⟨hsame, hlegacy, rfl⟩
    refine ⟨hsame, rfl, nofun, fun key hkey => ?_⟩
    cases hkey
    exact ⟨rfl, hlegacy⟩

/-! ## The steps of a change -/

/-- The backups that a change of `storage` takes of `s₁` before it starts. -/
structure BackedUp (rollback : CredentialRollback R) (needed : Bool) (s₁ : CredentialState R) :
    Prop where
  backups : ∀ b ∈ rollback.backups, b.2 = s₁.backupOf b.1
  needed : rollback.vaultUnlockBackup.isSome = needed
  unlock : ∀ key, rollback.vaultUnlockBackup = some key → key = s₁.unlock ∧ s₁.legacy = none

/-- A state that kept what was not backed up can be undone. -/
theorem BackedUp.undoes {rollback : CredentialRollback R} {needed : Bool}
    {s₁ s : CredentialState R} (h : BackedUp rollback needed s₁)
    (hsystem : s.system = s₁.system ∨ ∃ b ∈ rollback.backups, b.1 = .systemKeyring)
    (hvault : s.vault = s₁.vault ∨ ∃ b ∈ rollback.backups, b.1 = .encryptedVault)
    (hkept : needed = false → s.unlock = s₁.unlock)
    (hlegacy : s.legacy = s₁.legacy ∨ needed ∧ s.legacy = none) :
    Undoes rollback s₁ s where
  backups := h.backups
  system := hsystem
  vault := hvault
  kept hnone := by
    have hneeded : needed = false := by rw [← h.needed, hnone]; rfl
    exact ⟨hkept hneeded, hlegacy.resolve_right fun hboth => by simp [hneeded] at hboth⟩
  unlock key hkey := by
    obtain ⟨hvalue, hnone⟩ := h.unlock key hkey
    exact ⟨hvalue, hnone, hlegacy.elim (·.trans hnone) (·.2)⟩

/-- The password in its new place. -/
def NewPassword (F : VaultFormat R N) (id : Uuid) (nonce : N) (password : String)
    (vaultPassword : Option String) (before after : CredentialState R) : CredentialStorage → Prop
  | .systemKeyring => ∃ secret : Secret, secret.value = password ∧
      after = { before with system := some secret }
  | .encryptedVault => ∃ secret key : Secret, secret.value = password ∧
      vaultPassword = some key.value ∧
      after = { before with vault := some (F.encrypt id secret key nonce) }

theorem saveNew_triple {rollback : CredentialRollback R} {needed : Bool} {nonce : N}
    {storage : CredentialStorage} {password : String} {vaultPassword : Option String}
    (h : BackedUp rollback needed s₀) :
    Triple (· = s₀) (saveNew F id rollback nonce password storage vaultPassword)
      (fun _ s => NewPassword F id nonce password vaultPassword s₀ s storage)
      (SameCredentials s₀) := by
  have hundoes s (hs : s = s₀) : Undoes rollback s₀ s :=
    hs ▸ h.undoes (.inl rfl) (.inl rfl) (fun _ => rfl) (.inl rfl)
  cases storage with
  | systemKeyring =>
    exact orRestore_triple (saveSystemPassword_triple.mono (fun _ h => h) (fun _ _ h => h) hundoes)
  | encryptedVault =>
    cases vaultPassword with
    | none => exact Triple.fail fun s hs => hs ▸ .refl s₀
    | some vaultPassword =>
      refine orRestore_triple (saveVaultPassword_triple.mono (fun _ h => h) ?_ hundoes)
      exact fun _ s ⟨secret, key, hsecret, hkey, hs⟩ => ⟨secret, key, hsecret, by rw [hkey], hs⟩

/-- The unlock key that belongs to the new password. -/
def NewUnlock (storage : CredentialStorage) (vaultPassword : Option String)
    (vaultPasswordGenerated previousVaultPasswordGenerated : Bool)
    (before after : CredentialState R) : Prop :=
  if storage = .encryptedVault ∧ vaultPasswordGenerated then
    ∃ key : Secret, vaultPassword = some key.value ∧ after = { before with unlock := some key }
  else if previousVaultPasswordGenerated then
    after = { before with unlock := none, legacy := none }
  else after = before

theorem updateUnlock_triple {rollback : CredentialRollback R} {storage : CredentialStorage}
    {vaultPassword : Option String} {generated previousGenerated : Bool} {s₁ : CredentialState R}
    (h : BackedUp rollback (generated || previousGenerated) s₁)
    (hsystem : s₀.system = s₁.system ∨ ∃ b ∈ rollback.backups, b.1 = .systemKeyring)
    (hvault : s₀.vault = s₁.vault ∨ ∃ b ∈ rollback.backups, b.1 = .encryptedVault)
    (hunlock : s₀.unlock = s₁.unlock) (hlegacy : s₀.legacy = s₁.legacy)
    (hpassword : storage = .encryptedVault → vaultPassword ≠ none) :
    Triple (· = s₀) (updateUnlock rollback previousGenerated storage generated vaultPassword)
      (fun _ s => NewUnlock storage vaultPassword generated previousGenerated s₀ s)
      (SameCredentials s₁) := by
  have hundoes s (hs : s = s₀) : Undoes rollback s₁ s :=
    hs ▸ h.undoes hsystem hvault (fun _ => hunlock) (.inl hlegacy)
  -- where no new key is saved, the previous one may have to go
  have hremove : ¬(storage = .encryptedVault ∧ generated) →
      Triple (· = s₀)
        (if previousGenerated then
          orRestore rollback "failed to save encrypted vault unlock key" deleteVaultUnlockPassword
        else pure ())
        (fun _ s => NewUnlock storage vaultPassword generated previousGenerated s₀ s)
        (SameCredentials s₁) := by
    intro hnot
    simp only [NewUnlock, if_neg hnot]
    cases previousGenerated with
    | false => exact Triple.pure fun _ hs => hs
    | true =>
      refine orRestore_triple (deleteVaultUnlockPassword_triple.mono (fun _ h => h)
        (fun _ _ h => h) ?_)
      rintro s (rfl | rfl)
      · exact hundoes s rfl
      · exact h.undoes hsystem hvault (fun hneeded => by simp at hneeded) (.inl hlegacy)
  cases storage with
  | systemKeyring => exact hremove (fun ⟨hstorage, _⟩ => nomatch hstorage)
  | encryptedVault =>
    cases generated with
    | false => exact hremove (fun ⟨_, hgenerated⟩ => nomatch hgenerated)
    | true =>
      cases vaultPassword with
      | none => exact absurd rfl (hpassword rfl)
      | some vaultPassword =>
        simp only [NewUnlock]
        refine orRestore_triple (saveVaultUnlockPassword_triple.mono (fun _ h => h) ?_ hundoes)
        exact fun _ s ⟨key, hkey, hs⟩ => ⟨key, by rw [hkey], hs⟩

/-- The store after the replaced password is removed. -/
def CredentialState.withoutReplaced (s : CredentialState R) :
    Option CredentialStorage → CredentialState R
  | some previous => s.without previous
  | none => s

theorem removeReplaced_triple {rollback : CredentialRollback R} {s₁ : CredentialState R}
    {previous : Option CredentialStorage} (h : Undoes rollback s₁ s₀) :
    Triple (· = s₀) (removeReplaced rollback previous)
      (fun _ s => s = s₀.withoutReplaced previous) (SameCredentials s₁) := by
  cases previous with
  | none => exact Triple.pure fun _ hs => hs
  | some previous =>
    exact orRestore_triple (deletePassword_triple.mono (fun _ h => h) (fun _ _ h => h)
      fun s hs => hs ▸ h)

theorem NewPassword.keeps {nonce : N} {password : String} {vaultPassword : Option String}
    {before after : CredentialState R} {storage : CredentialStorage}
    (h : NewPassword F id nonce password vaultPassword before after storage) :
    after.unlock = before.unlock ∧ after.legacy = before.legacy ∧
      (storage ≠ .systemKeyring → after.system = before.system) ∧
      (storage ≠ .encryptedVault → after.vault = before.vault) ∧
      (storage = .encryptedVault → vaultPassword ≠ none) := by
  cases storage with
  | systemKeyring =>
    obtain ⟨secret, -, rfl⟩ := h
    exact ⟨rfl, rfl, fun hne => absurd rfl hne, fun _ => rfl, nofun⟩
  | encryptedVault =>
    obtain ⟨secret, key, -, hkey, rfl⟩ := h
    refine ⟨rfl, rfl, fun _ => rfl, fun hne => absurd rfl hne, fun _ hnone => ?_⟩
    rw [hkey] at hnone
    exact nomatch hnone

theorem NewUnlock.keeps {storage : CredentialStorage} {vaultPassword : Option String}
    {generated previousGenerated : Bool} {before after : CredentialState R}
    (h : NewUnlock storage vaultPassword generated previousGenerated before after) :
    after.system = before.system ∧ after.vault = before.vault ∧
      ((generated || previousGenerated) = false → after.unlock = before.unlock) ∧
      (after.legacy = before.legacy ∨
        (generated || previousGenerated) = true ∧ after.legacy = none) := by
  unfold NewUnlock at h
  split at h
  · rename_i hgenerated
    obtain ⟨key, -, rfl⟩ := h
    exact ⟨rfl, rfl, fun hnone => by simp [hgenerated.2] at hnone, .inl rfl⟩
  · split at h
    · rename_i hprevious
      subst h
      exact ⟨rfl, rfl, fun hnone => by simp [hprevious] at hnone, .inr ⟨by simp [hprevious], rfl⟩⟩
    · subst h
      exact ⟨rfl, rfl, fun _ => rfl, .inl rfl⟩

theorem CredentialState.withoutReplaced_keeps (s : CredentialState R)
    (previous : Option CredentialStorage) :
    (s.withoutReplaced previous).unlock = s.unlock ∧
      (s.withoutReplaced previous).legacy = s.legacy ∧
      (s.withoutReplaced previous).system =
        (if previous = some .systemKeyring then none else s.system) ∧
      (s.withoutReplaced previous).vault =
        (if previous = some .encryptedVault then none else s.vault) := by
  cases previous with
  | none => exact ⟨rfl, rfl, rfl, rfl⟩
  | some previous => cases previous <;> exact ⟨rfl, rfl, rfl, rfl⟩

/-! ## Whole changes -/

/-- What a change left, and that its rollback brings back what was there. -/
def Reversible (Done : CredentialState R → CredentialState R → Prop) (before : CredentialState R)
    (outcome : Except String (CredentialRollback R) × CredentialState R × List Bool) : Prop :=
  match outcome with
  | (.ok rollback, after, _) => Done before after ∧ ∀ faults, ∃ restored,
      rollback.restore after faults = (.ok (), restored, faults) ∧ SameCredentials before restored
  | (.error _, after, _) => SameCredentials before after

/-- The password is in its new place and not in the one it replaces. -/
structure Saved (F : VaultFormat R N) (id : Uuid) (nonce : N) (storage : CredentialStorage)
    (password : String) (vaultPassword : Option String)
    (vaultPasswordGenerated previousVaultPasswordGenerated : Bool)
    (previousStorage : Option CredentialStorage) (before after : CredentialState R) : Prop where
  system : storage = .systemKeyring → after.system.map Secret.value = some password
  vault : storage = .encryptedVault → ∃ secret key : Secret, secret.value = password ∧
    vaultPassword = some key.value ∧ after.vault = some (F.encrypt id secret key nonce)
  otherSystem : storage ≠ .systemKeyring → after.system =
    if previousStorage = some .systemKeyring then none else before.system
  otherVault : storage ≠ .encryptedVault → after.vault =
    if previousStorage = some .encryptedVault then none else before.vault
  /-- A generated key is stored, the previous one removed, and any other left alone. -/
  unlock :
    if storage = .encryptedVault ∧ vaultPasswordGenerated then
      ∃ key : Secret, vaultPassword = some key.value ∧ effectiveUnlock after = .ok (some key)
    else if previousVaultPasswordGenerated then effectiveUnlock after = .ok none
    else effectiveUnlock after = effectiveUnlock before
  file : before.legacy = none → after.legacy = none

/-- The password is removed, and the unlock key with it if it was generated. -/
structure Deleted (previousStorage : CredentialStorage) (vaultPasswordGenerated : Bool)
    (before after : CredentialState R) : Prop where
  system : after.system = if previousStorage = .systemKeyring then none else before.system
  vault : after.vault = if previousStorage = .encryptedVault then none else before.vault
  unlock : effectiveUnlock after =
    if vaultPasswordGenerated then .ok none else effectiveUnlock before
  file : before.legacy = none → after.legacy = none

theorem replaced_eq_some_iff {previousStorage : Option CredentialStorage}
    {storage previous : CredentialStorage} :
    previousStorage.filter (· ≠ storage) = some previous ↔
      previousStorage = some previous ∧ previous ≠ storage := by
  rw [Option.filter_eq_some_iff, decide_eq_true_eq]

/-- The three steps of a save make up the whole. -/
theorem saved_of_steps {before s₁ s₂ s₃ : CredentialState R} {nonce : N}
    {storage : CredentialStorage} {password : String} {vaultPassword : Option String}
    {generated previousGenerated : Bool} {previousStorage : Option CredentialStorage}
    (hsame : SameCredentials before s₁)
    (hlegacy : (generated || previousGenerated) = true → s₁.legacy = none)
    (hpassword : NewPassword F id nonce password vaultPassword s₁ s₂ storage)
    (hunlock : NewUnlock storage vaultPassword generated previousGenerated s₂ s₃) :
    Saved F id nonce storage password vaultPassword generated previousGenerated previousStorage
      before (s₃.withoutReplaced (previousStorage.filter (· ≠ storage))) := by
  obtain ⟨hunlock₂, hlegacy₂, hsystem₂, hvault₂, -⟩ := hpassword.keeps
  obtain ⟨hsystem₃, hvault₃, -, -⟩ := hunlock.keeps
  obtain ⟨hunlock₄, hlegacy₄, hsystem₄, hvault₄⟩ :=
    s₃.withoutReplaced_keeps (previousStorage.filter (· ≠ storage))
  constructor
  · rintro rfl
    obtain ⟨secret, hsecret, rfl⟩ := hpassword
    rw [hsystem₄, hsystem₃, if_neg fun h => (replaced_eq_some_iff.mp h).2 rfl, ← hsecret]
    rfl
  · rintro rfl
    obtain ⟨secret, key, hsecret, hkey, rfl⟩ := hpassword
    rw [hvault₄, hvault₃, if_neg fun h => (replaced_eq_some_iff.mp h).2 rfl]
    exact ⟨secret, key, hsecret, hkey, rfl⟩
  -- the storage that was not chosen keeps its entry unless the new one replaces it
  · intro hstorage
    rw [hsystem₄, hsystem₃, hsystem₂ hstorage, hsame.system]
    exact if_congr (replaced_eq_some_iff.trans (and_iff_left hstorage.symm)) rfl rfl
  · intro hstorage
    rw [hvault₄, hvault₃, hvault₂ hstorage, hsame.vault]
    exact if_congr (replaced_eq_some_iff.trans (and_iff_left hstorage.symm)) rfl rfl
  · rw [effectiveUnlock_congr hunlock₄ hlegacy₄]
    unfold NewUnlock at hunlock
    split at hunlock
    · rename_i hgenerated
      obtain ⟨key, hkey, rfl⟩ := hunlock
      -- without the old file the new key is the one in effect
      have hnone : s₂.legacy = none := hlegacy₂.trans (hlegacy (by simp [hgenerated.2]))
      rw [if_pos hgenerated]
      exact ⟨key, hkey, effectiveUnlock_none hnone⟩
    · rename_i hgenerated
      rw [if_neg hgenerated]
      split at hunlock
      · rename_i hprevious
        subst hunlock
        rw [if_pos hprevious]
        exact effectiveUnlock_none rfl
      · rename_i hprevious
        subst hunlock
        rw [if_neg hprevious, effectiveUnlock_congr hunlock₂ hlegacy₂]
        exact hsame.unlock
  · intro hnone
    rw [hlegacy₄]
    have hnone₂ := hlegacy₂.trans (hsame.file hnone)
    exact hunlock.keeps.2.2.2.elim (·.trans hnone₂) (·.2)

/-- From a triple to the outcome of a change. -/
theorem reversible_of_triple {m : Backend R (CredentialRollback R)}
    {Done : CredentialState R → CredentialState R → Prop} {before : CredentialState R}
    (h : Triple (· = before) m
      (fun rollback after => Done before after ∧ ∃ s₁, SameCredentials before s₁ ∧
        Undoes rollback s₁ after) (SameCredentials before)) (faults : List Bool) :
    Reversible Done before (m before faults) := by
  have hpost := h before faults rfl
  generalize m before faults = outcome at hpost
  obtain ⟨r, after, rest⟩ := outcome
  cases r with
  | error e => exact hpost
  | ok rollback =>
    obtain ⟨hdone, s₁, hsame, hundoes⟩ := hpost
    refine ⟨hdone, fun faults => ?_⟩
    obtain ⟨restored, heq, hrestored⟩ := hundoes.restore faults
    exact ⟨restored, heq, hsame.trans hrestored⟩

theorem savePassword_reversible (before : CredentialState R) (nonce : N)
    (storage : CredentialStorage) (password : String) (vaultPassword : Option String)
    (vaultPasswordGenerated previousVaultPasswordGenerated : Bool)
    (previousStorage : Option CredentialStorage) (faults : List Bool) :
    Reversible (Saved F id nonce storage password vaultPassword vaultPasswordGenerated
        previousVaultPasswordGenerated previousStorage) before
      (savePassword F id nonce storage password vaultPassword vaultPasswordGenerated
        previousVaultPasswordGenerated previousStorage before faults) := by
  apply reversible_of_triple
  -- the backups change no credential, so an error among them leaves everything as it was
  have hsame s (hs : s = before) : SameCredentials before s := hs ▸ .refl before
  refine Triple.bind (backup_triple.mono (fun _ h => h) (fun _ _ h => h) hsame) fun first =>
    Triple.assume fun hfirst => ?_
  refine Triple.bind (backupPrevious_triple.mono (fun _ h => h) (fun _ _ h => h) hsame)
    fun rest => Triple.assume fun hrest => ?_
  refine Triple.bind backupUnlock_triple fun vaultUnlockBackup => Triple.of_forall ?_
  intro s₁ ⟨hsame₁, hneeded, _, hunlock⟩
  have hbackup storage : before.backupOf storage = s₁.backupOf storage := by
    cases storage with
    | systemKeyring => exact congrArg CredentialBackup.systemKeyring hsame₁.system.symm
    | encryptedVault => exact congrArg CredentialBackup.encryptedVault hsame₁.vault.symm
  -- the list of backups names the new storage, and the previous one where it is another
  have hlist : (storage, first) :: rest = (storage :: (previousStorage.filter
      (· ≠ storage)).toList).map fun storage => (storage, s₁.backupOf storage) := by
    simp only [hfirst, hrest, hbackup, List.map_cons]
  have hbacked : BackedUp ⟨(storage, first) :: rest, vaultUnlockBackup⟩
      (vaultPasswordGenerated || previousVaultPasswordGenerated) s₁ := by
    refine ⟨fun b hb => ?_, hneeded, hunlock⟩
    rw [hlist] at hb
    obtain ⟨storage', -, rfl⟩ := List.mem_map.mp hb
    rfl
  have hmem storage' (h : storage' = storage ∨ previousStorage.filter (· ≠ storage) =
      some storage') : ∃ b ∈ (storage, first) :: rest, b.1 = storage' := by
    rw [hlist]
    refine ⟨_, List.mem_map_of_mem ?_, rfl⟩
    rw [List.mem_cons, Option.mem_toList]
    exact h
  have herror s (hs : SameCredentials s₁ s) : SameCredentials before s := hsame₁.trans hs
  refine Triple.bind ((saveNew_triple hbacked).mono (fun _ h => h) (fun _ _ h => h) herror)
    fun _ => Triple.of_forall ?_
  intro s₂ hs₂
  obtain ⟨hunlock₂, hlegacy₂, hsystem₂, hvault₂, hpassword⟩ := hs₂.keeps
  -- what the new password has overwritten is in the backups
  have hundosystem : s₂.system = s₁.system ∨ ∃ b ∈ (storage, first) :: rest,
      b.1 = .systemKeyring := by
    by_cases hstorage : storage = .systemKeyring
    · exact .inr (hmem _ (.inl hstorage.symm))
    · exact .inl (hsystem₂ hstorage)
  have hundovault : s₂.vault = s₁.vault ∨ ∃ b ∈ (storage, first) :: rest,
      b.1 = .encryptedVault := by
    by_cases hstorage : storage = .encryptedVault
    · exact .inr (hmem _ (.inl hstorage.symm))
    · exact .inl (hvault₂ hstorage)
  refine Triple.bind ((updateUnlock_triple hbacked hundosystem hundovault hunlock₂ hlegacy₂
    hpassword).mono (fun _ h => h) (fun _ _ h => h) herror) fun _ => Triple.of_forall ?_
  intro s₃ hs₃
  obtain ⟨hsystem₃, hvault₃, hunlock₃, hlegacy₃⟩ := hs₃.keeps
  rw [← hsystem₃] at hundosystem
  rw [← hvault₃] at hundovault
  rw [hunlock₂] at hunlock₃
  rw [hlegacy₂] at hlegacy₃
  -- from here on an error restores the backups of the first step
  have hundoes₃ := hbacked.undoes hundosystem hundovault hunlock₃ hlegacy₃
  refine Triple.bind ((removeReplaced_triple hundoes₃).mono (fun _ h => h) (fun _ _ h => h) herror)
    fun _ => Triple.pure ?_
  rintro s₄ rfl
  obtain ⟨hunlock₄, hlegacy₄, hsystem₄, hvault₄⟩ :=
    s₃.withoutReplaced_keeps (previousStorage.filter (· ≠ storage))
  refine ⟨saved_of_steps hsame₁ (fun hneeded' => ?_) hs₂ hs₃, s₁, hsame₁, hbacked.undoes ?_ ?_ ?_ ?_⟩
  · obtain ⟨key, hkey⟩ := Option.isSome_iff_exists.mp (hneeded.trans hneeded')
    exact (hunlock key hkey).2
  · rw [hsystem₄]
    split
    · rename_i hprevious
      exact .inr (hmem _ (.inr hprevious))
    · exact hundosystem
  · rw [hvault₄]
    split
    · rename_i hprevious
      exact .inr (hmem _ (.inr hprevious))
    · exact hundovault
  · rw [hunlock₄]
    exact hunlock₃
  · rw [hlegacy₄]
    exact hlegacy₃

theorem deletePasswordInStore_reversible (before : CredentialState R)
    (previousStorage : CredentialStorage) (vaultPasswordGenerated : Bool) (faults : List Bool) :
    Reversible (Deleted previousStorage vaultPasswordGenerated) before
      (deletePasswordInStore F previousStorage vaultPasswordGenerated before faults) := by
  apply reversible_of_triple
  refine Triple.bind (backup_triple.mono (fun _ h => h) (fun _ _ h => h)
    fun s hs => hs ▸ .refl before) fun first => Triple.assume fun hfirst => ?_
  refine Triple.bind backupUnlock_triple fun vaultUnlockBackup => Triple.of_forall ?_
  intro s₁ ⟨hsame₁, hneeded, _, hunlock⟩
  have hbackup : before.backupOf previousStorage = s₁.backupOf previousStorage := by
    cases previousStorage with
    | systemKeyring => exact congrArg CredentialBackup.systemKeyring hsame₁.system.symm
    | encryptedVault => exact congrArg CredentialBackup.encryptedVault hsame₁.vault.symm
  have hbacked : BackedUp ⟨[(previousStorage, first)], vaultUnlockBackup⟩
      vaultPasswordGenerated s₁ := by
    refine ⟨fun b hb => ?_, hneeded, hunlock⟩
    rw [List.mem_singleton.mp hb, hfirst, hbackup]
  -- an error before the deletion leaves the credentials as they were
  have herror s (hs : SameCredentials s₁ s) : SameCredentials before s := hsame₁.trans hs
  refine Triple.bind (deletePassword_triple.mono (fun _ h => h) (fun _ _ h => h)
    fun s hs => hs ▸ hsame₁) fun _ => ?_
  have hkeeps := s₁.withoutReplaced_keeps (some previousStorage)
  obtain ⟨hunlock₂, hlegacy₂, hsystem₂, hvault₂⟩ := hkeeps
  -- whatever else has happened to the unlock password, the backups undo the deletion
  have hundo s (hsystem : s.system = (s₁.without previousStorage).system)
      (hvault : s.vault = (s₁.without previousStorage).vault)
      (hkept : vaultPasswordGenerated = false → s.unlock = s₁.unlock)
      (hlegacy : s.legacy = s₁.legacy ∨ vaultPasswordGenerated ∧ s.legacy = none) :
      Undoes ⟨[(previousStorage, first)], vaultUnlockBackup⟩ s₁ s := by
    refine hbacked.undoes ?_ ?_ hkept hlegacy
    · rw [hsystem]
      cases previousStorage with
      | systemKeyring => exact .inr ⟨_, List.mem_singleton_self _, rfl⟩
      | encryptedVault => exact .inl rfl
    · rw [hvault]
      cases previousStorage with
      | systemKeyring => exact .inl rfl
      | encryptedVault => exact .inr ⟨_, List.mem_singleton_self _, rfl⟩
  have hdeleted (s : CredentialState R) (hsystem : s.system = (s₁.without previousStorage).system)
      (hvault : s.vault = (s₁.without previousStorage).vault)
      (heffective : effectiveUnlock s =
        if vaultPasswordGenerated then .ok none else effectiveUnlock s₁)
      (hfile : s₁.legacy = none → s.legacy = none) :
      Deleted previousStorage vaultPasswordGenerated before s := by
    refine ⟨?_, ?_, ?_, fun hnone => hfile (hsame₁.file hnone)⟩
    · rw [hsystem, ← hsame₁.system]
      cases previousStorage <;> rfl
    · rw [hvault, ← hsame₁.vault]
      cases previousStorage <;> rfl
    · rw [heffective, hsame₁.unlock]
  cases vaultPasswordGenerated with
  | false =>
    refine Triple.bind (Triple.pure (Q := fun _ s => s = s₁.without previousStorage)
      fun _ hs => hs) fun _ => Triple.pure ?_
    rintro s rfl
    exact ⟨hdeleted _ rfl rfl (effectiveUnlock_congr hunlock₂ hlegacy₂) hlegacy₂.trans, s₁, hsame₁,
      hundo _ rfl rfl (fun _ => hunlock₂) (.inl hlegacy₂)⟩
  -- a generated unlock password goes with the vault entry
  | true =>
    refine Triple.bind ((orRestore_triple (deleteVaultUnlockPassword_triple.mono (fun _ h => h)
      (fun _ _ h => h) ?_)).mono (fun _ h => h) (fun _ _ h => h) herror) fun _ => Triple.pure ?_
    · rintro s (rfl | rfl)
      · exact hundo _ rfl rfl nofun (.inl hlegacy₂)
      · exact hundo _ rfl rfl nofun (.inl hlegacy₂)
    · rintro s rfl
      exact ⟨hdeleted _ rfl rfl (effectiveUnlock_none rfl) fun _ => rfl, s₁, hsame₁,
        hundo _ rfl rfl nofun (.inr ⟨rfl, rfl⟩)⟩

/-- Saving and deleting a remembered password succeed as a whole, and then their rollback brings
    back what was there, or fail and change nothing that a reader sees. -/
theorem credential_changes_atomic (before : CredentialState R) (faults : List Bool) :
    (∀ (nonce : N) (storage : CredentialStorage) (password : String)
      (vaultPassword : Option String) (vaultPasswordGenerated previousVaultPasswordGenerated : Bool)
      (previousStorage : Option CredentialStorage),
      Reversible (Saved F id nonce storage password vaultPassword vaultPasswordGenerated
          previousVaultPasswordGenerated previousStorage) before
        (savePassword F id nonce storage password vaultPassword vaultPasswordGenerated
          previousVaultPasswordGenerated previousStorage before faults)) ∧
    ∀ (previousStorage : CredentialStorage) (vaultPasswordGenerated : Bool),
      Reversible (Deleted previousStorage vaultPasswordGenerated) before
        (deletePasswordInStore F previousStorage vaultPasswordGenerated before faults) :=
  ⟨fun nonce storage password vaultPassword vaultPasswordGenerated previousVaultPasswordGenerated
      previousStorage => savePassword_reversible before nonce storage password vaultPassword
        vaultPasswordGenerated previousVaultPasswordGenerated previousStorage faults,
    fun previousStorage vaultPasswordGenerated =>
      deletePasswordInStore_reversible before previousStorage vaultPasswordGenerated faults⟩

/-- A vault without secrecy: a record opens for its profile with its key. -/
def plainVault : VaultFormat (Uuid × Secret × Secret) Unit where
  size _ := 0
  encrypt id password key _ := (id, password, key)
  decrypt id key record :=
    if record.1 = id ∧ record.2.2 = key then .ok record.2.1.value
    else .error "vault password is incorrect or the credential was modified"

/-- An unlock key may be there after a save although no key was generated: a key that the previous
    policy does not call generated is left alone. -/
theorem unlock_key_without_generated :
    ¬∀ (before after : CredentialState (Uuid × Secret × Secret)) (storage : CredentialStorage)
      (password : String) (vaultPassword : Option String) (generated previousGenerated : Bool)
      (previousStorage : Option CredentialStorage)
      (rollback : CredentialRollback (Uuid × Secret × Secret)),
      savePassword plainVault .nil () storage password vaultPassword generated previousGenerated
        previousStorage before [] = (.ok rollback, after, []) →
      ((∃ key, effectiveUnlock after = .ok (some key)) ↔
        storage = .encryptedVault ∧ generated = true) := by
  intro h
  let key : Secret := ⟨"key", by decide, by decide⟩
  let password : Secret := ⟨"pw", by decide, by decide⟩
  have hiff := h { unlock := some key } { system := some password, unlock := some key }
    .systemKeyring "pw" none false false none ⟨[(.systemKeyring, .systemKeyring none)], none⟩ rfl
  exact nomatch (hiff.mp ⟨key, rfl⟩).1

end AxSsh.Credentials
