import AxSsh.Spec.CredentialChanges

/-!
# Unlock keys read back what was written

The operations on the unlock key of one profile, in any order and with any calls that fail.
`UnlockHistory` keeps, beside the store, what was written last.  A key that is saved while the file
of an older version is still there does not replace the key in it.

## Key results
- `migration_stores_key`: a migration stores the key before the file goes
- `unlock_keys_read_back`: a load returns what was written last exactly as long as every write
  replaces the key
-/

namespace AxSsh.Credentials

open CredentialStore Faulty Transition

variable {R : Type} {s : CredentialState R}

/-- A call of one of the operations on the unlock key. -/
inductive UnlockCall where
  | save (password : String)
  | delete
  | loadOrMigrate
  | backup
  | restore (password : Option String)

def UnlockCall.run : UnlockCall → Backend R Unit
  | save password => saveVaultUnlockPassword password
  | delete => deleteVaultUnlockPassword
  | loadOrMigrate => do
    let _ ← loadOrMigrateVaultUnlockPassword
    pure ()
  | backup => do
    let _ ← backupVaultUnlockPassword
    pure ()
  | restore password => restoreVaultUnlockPassword password

/-- What a call writes when it succeeds. -/
def UnlockCall.writes : UnlockCall → Option (Option String)
  | save password => some (some password)
  | delete => some none
  | loadOrMigrate | backup => none
  | restore password => some password

/-- The store of a profile and the key that was written last. -/
structure UnlockHistory (R : Type) where
  store : CredentialState R
  written : Option String

namespace UnlockHistory

/-- Nothing was written since start-up. -/
def start (store : CredentialState R) : UnlockHistory R where
  store
  written := match effectiveUnlock store with
    | .ok key => key.map Secret.value
    | .error _ => none

def record (h : UnlockHistory R) (writes : Option (Option String)) :
    Except String Unit × CredentialState R × List Bool → UnlockHistory R
  | (.ok (), store, _) => ⟨store, writes.getD h.written⟩
  | (.error _, store, _) => ⟨store, h.written⟩

def step (h : UnlockHistory R) (label : UnlockCall × List Bool) : UnlockHistory R :=
  h.record label.1.writes (label.1.run h.store label.2)

/-- A load that succeeds returns what was written last. -/
def ReadsBack (h : UnlockHistory R) : Prop :=
  ∀ faults key after rest,
    loadOrMigrateVaultUnlockPassword h.store faults = (.ok key, after, rest) →
      key.map Secret.value = h.written

end UnlockHistory

/-- A write finds no file with another key. -/
def WriteReplaces (s : CredentialState R) (password : String) (faults : List Bool) : Prop :=
  (∃ key, validatePassword password "vault unlock password" = .ok key) → true ∉ faults.take 2 →
    ∀ key, s.legacy = some (.key key) → key.value = password

/-- A delete does not stop halfway with a key of which there is no file. -/
def DeleteCompletes (s : CredentialState R) (faults : List Bool) : Prop :=
  true ∉ faults.take 2 → faults[2]? = some true → s.legacy = none → s.unlock = none

def ReplacesKey (h : UnlockHistory R) : UnlockCall × List Bool → Prop
  | (.save password, faults) | (.restore (some password), faults) =>
    WriteReplaces h.store password faults
  | (.delete, faults) | (.restore none, faults) => DeleteCompletes h.store faults
  | (.loadOrMigrate, _) | (.backup, _) => True

/-! ## What a load returns -/

theorem effectiveUnlock_eq (s : CredentialState R) :
    effectiveUnlock s = match s.legacy with
      | none => .ok s.unlock
      | some (.key key) => .ok (some key)
      | some (.invalid message) => .error message := by
  split
  · rename_i hlegacy
    exact effectiveUnlock_none hlegacy
  · rename_i hlegacy
    exact effectiveUnlock_key hlegacy
  · rename_i hlegacy
    exact effectiveUnlock_invalid hlegacy

/-- A load that succeeds returns the effective key, whatever the calls before it. -/
theorem readsBack_iff_effective {h : UnlockHistory R} :
    h.ReadsBack ↔ ∀ key, effectiveUnlock h.store = .ok key → key.map Secret.value = h.written := by
  constructor
  · intro hreads key hkey
    exact hreads [] key _ _ (Prod.ext hkey rfl)
  · intro heffective faults key after rest hload
    have hpost := loadOrMigrate_triple.run (s := h.store) rfl faults
    rw [hload] at hpost
    obtain ⟨hsame, hlegacy, rfl⟩ := hpost
    exact heffective _ (hsame.unlock.symm.trans (effectiveUnlock_none hlegacy))

/-- Loads and backups leave the effective key, also when they fail. -/
theorem UnlockCall.run_load {call : UnlockCall} (h : call.writes = none) (s : CredentialState R)
    (faults : List Bool) : SameCredentials s (call.run s faults).2.1 := by
  have htriple : Triple (· = s) (call.run (R := R)) (fun _ => SameCredentials s)
      (SameCredentials s) := by
    cases call with
    | loadOrMigrate | backup =>
      exact Triple.bind loadOrMigrate_triple fun _ => Triple.pure fun _ hs => hs.1
    | save | delete | restore => exact nomatch h
  have hpost := htriple.run rfl faults
  generalize call.run s faults = outcome at hpost
  obtain ⟨r, after, rest⟩ := outcome
  cases r with
  | ok _ => exact hpost
  | error e => exact hpost

/-- A migration never drops the key of the file before the protected entry has it. -/
theorem migration_stores_key {call : UnlockCall} (h : call.writes = none) {key : Secret}
    (hlegacy : s.legacy = some (.key key)) (faults : List Bool) :
    (call.run s faults).2.1.legacy = some (.key key) ∨
      (call.run s faults).2.1.unlock = some key := by
  have hsame := (call.run_load h s faults).unlock
  generalize (call.run s faults).2.1 = after at hsame
  rw [effectiveUnlock_key hlegacy] at hsame
  cases hafter : after.legacy with
  | none =>
    rw [effectiveUnlock_none hafter] at hsame
    exact .inr (Except.ok.inj hsame)
  | some file =>
    cases file with
    | key key' =>
      rw [effectiveUnlock_key hafter] at hsame
      cases hsame
      exact .inl rfl
    | invalid message =>
      rw [effectiveUnlock_invalid hafter] at hsame
      exact nomatch hsame

/-! ## What a write leaves -/

/-- The two calls of a save. -/
theorem saveVaultUnlockPassword_ok {password : String} {key : Secret} {faults : List Bool}
    (hkey : validatePassword password "vault unlock password" = .ok key)
    (hfaults : true ∉ faults.take 2) :
    ∃ rest, saveVaultUnlockPassword password s faults =
      (.ok (), { s with unlock := some key }, rest) := by
  unfold saveVaultUnlockPassword
  rw [hkey]
  match faults, hfaults with
  | [], _ | [false], _ | false :: false :: _, _ => exact ⟨_, rfl⟩
  | true :: _, h | false :: true :: _, h => simp at h

theorem saveVaultUnlockPassword_error {password : String} (faults : List Bool)
    (h : (∃ key, validatePassword password "vault unlock password" = .ok key) →
      true ∈ faults.take 2) :
    ∃ e rest, saveVaultUnlockPassword password s faults = (.error e, s, rest) := by
  unfold saveVaultUnlockPassword
  cases hkey : validatePassword password "vault unlock password" with
  | error e => exact ⟨e, faults, rfl⟩
  | ok key =>
    match faults, h ⟨key, hkey⟩ with
    | true :: _, _ | false :: true :: _, _ => exact ⟨_, _, rfl⟩
    | [], h | [false], h | false :: false :: _, h => simp at h

/-- The three calls of a delete: which of them fails first. -/
theorem deleteVaultUnlockPassword_cases (s : CredentialState R) (faults : List Bool) :
    (faults[2]? ≠ some true ∧ ∃ rest, deleteVaultUnlockPassword s faults =
      (.ok (), { s with unlock := none, legacy := none }, rest)) ∨
    (true ∈ faults.take 2 ∧ ∃ e rest, deleteVaultUnlockPassword s faults = (.error e, s, rest)) ∨
    (true ∉ faults.take 2 ∧ faults[2]? = some true ∧ ∃ e rest,
      deleteVaultUnlockPassword s faults = (.error e, { s with unlock := none }, rest)) := by
  match faults with
  | [] | [false] | [false, false] | false :: false :: false :: _ => exact .inl ⟨by simp, _, rfl⟩
  | true :: _ | false :: true :: _ => exact .inr (.inl ⟨by simp, _, _, rfl⟩)
  | false :: false :: true :: _ => exact .inr (.inr ⟨by simp, by simp, _, _, rfl⟩)

/-! ## Runs -/

namespace UnlockHistory

variable {h : UnlockHistory R}

theorem readsBack_congr {h' : UnlockHistory R}
    (hkey : effectiveUnlock h'.store = effectiveUnlock h.store) (hwritten : h'.written = h.written) :
    h'.ReadsBack ↔ h.ReadsBack := by
  rw [readsBack_iff_effective, readsBack_iff_effective, hkey, hwritten]

/-- After a save or restore of a key a load returns it exactly when no file has another one. -/
theorem readsBack_write_iff (hreads : h.ReadsBack) (password : String) (faults : List Bool) :
    (h.record (some (some password))
      (saveVaultUnlockPassword password h.store faults)).ReadsBack ↔
      WriteReplaces h.store password faults := by
  by_cases hvalid : ∃ key, validatePassword password "vault unlock password" = .ok key
  · by_cases hfaults : true ∈ faults.take 2
    · obtain ⟨e, rest, heq⟩ := saveVaultUnlockPassword_error (s := h.store) faults
        fun _ => hfaults
      rw [heq]
      exact iff_of_true hreads fun _ hnot => absurd hfaults hnot
    · obtain ⟨key, hkey⟩ := hvalid
      obtain ⟨rest, heq⟩ := saveVaultUnlockPassword_ok (s := h.store) hkey hfaults
      rw [heq, readsBack_iff_effective]
      simp only [record, Option.getD_some, effectiveUnlock_eq]
      constructor
      · intro heffective _ _ legacyKey hlegacy
        exact Option.some.inj (heffective (some legacyKey) (by rw [hlegacy]))
      · intro hreplaces read hread
        split at hread
        · cases hread
          exact congrArg some (value_of_validatePassword hkey)
        · rename_i legacyKey hlegacy
          cases hread
          exact congrArg some (hreplaces ⟨key, hkey⟩ hfaults legacyKey hlegacy)
        · exact nomatch hread
  · obtain ⟨e, rest, heq⟩ := saveVaultUnlockPassword_error (s := h.store) faults
      fun hkey => absurd hkey hvalid
    rw [heq]
    exact iff_of_true hreads fun hkey => absurd hkey hvalid

/-- After a delete a load returns what it should exactly when the delete did not stop halfway. -/
theorem readsBack_delete_iff (hreads : h.ReadsBack) (faults : List Bool) :
    (h.record (some none) (deleteVaultUnlockPassword h.store faults)).ReadsBack ↔
      DeleteCompletes h.store faults := by
  rw [readsBack_iff_effective] at hreads
  obtain ⟨hlast, rest, heq⟩ | ⟨hfault, e, rest, heq⟩ | ⟨hfault, hlast, e, rest, heq⟩ :=
    deleteVaultUnlockPassword_cases h.store faults
  · rw [heq, readsBack_iff_effective]
    refine iff_of_true (fun read hread => ?_) fun _ hfault => absurd hfault hlast
    simp only [record, effectiveUnlock_eq] at hread
    cases hread
    rfl
  · rw [heq, readsBack_iff_effective]
    exact iff_of_true hreads fun hnot => absurd hfault hnot
  · rw [heq, readsBack_iff_effective]
    simp only [record, effectiveUnlock_eq] at hreads ⊢
    cases hlegacy : h.store.legacy with
    | none =>
      rw [hlegacy] at hreads
      have hwritten := hreads _ rfl
      constructor
      · intro hread _ _ _
        have hnone := hread none rfl
        rw [← hwritten] at hnone
        exact Option.map_eq_none_iff.mp hnone.symm
      · intro hcompletes read hread
        cases hread
        rw [← hwritten, hcompletes hfault hlast hlegacy]
    | some file =>
      -- The file still has its key, so the entry that is gone was not read.
      rw [hlegacy] at hreads
      have hcompletes : DeleteCompletes h.store faults := fun _ _ hnone => by simp [hlegacy] at hnone
      cases file with
      | key | invalid => exact iff_of_true hreads hcompletes

/-- Loads and backups leave what a load returns. -/
theorem readsBack_load {call : UnlockCall} (hcall : call.writes = none) (faults : List Bool) :
    (h.step (call, faults)).ReadsBack ↔ h.ReadsBack := by
  have hsame := (call.run_load hcall h.store faults).unlock
  unfold step
  rw [hcall]
  generalize call.run h.store faults = outcome at hsame ⊢
  obtain ⟨r, after, rest⟩ := outcome
  cases r with
  | ok _ => exact readsBack_congr hsame rfl
  | error e => exact readsBack_congr hsame rfl

theorem readsBack_step_iff (hreads : h.ReadsBack) (label : UnlockCall × List Bool) :
    (h.step label).ReadsBack ↔ ReplacesKey h label := by
  obtain ⟨call, faults⟩ := label
  cases call with
  | save password => exact readsBack_write_iff hreads password faults
  | delete => exact readsBack_delete_iff hreads faults
  | loadOrMigrate => exact iff_of_true ((readsBack_load rfl faults).mpr hreads) trivial
  | backup => exact iff_of_true ((readsBack_load rfl faults).mpr hreads) trivial
  | restore password =>
    cases password with
    | some password => exact readsBack_write_iff hreads password faults
    | none => exact readsBack_delete_iff hreads faults

theorem readsBack_start (store : CredentialState R) : (start store).ReadsBack := by
  rw [readsBack_iff_effective]
  intro key hkey
  simp only [start] at hkey ⊢
  rw [hkey]

end UnlockHistory

open UnlockHistory

/-- In any run of the operations a load returns the key that was written last, or none after a
    delete, exactly as long as every write replaces the key; and a migration stores the key of the
    file before the file goes. -/
theorem unlock_keys_read_back (store : CredentialState R)
    (labels : List (UnlockCall × List Bool)) :
    (Throughout step (start store) ReadsBack labels ↔
      AllSafe step (start store) ReplacesKey labels) ∧
    ∀ (s : CredentialState R) (call : UnlockCall) (faults : List Bool) (key : Secret),
      call.writes = none → s.legacy = some (.key key) →
        (call.run s faults).2.1.legacy = some (.key key) ∨
          (call.run s faults).2.1.unlock = some key :=
  ⟨throughout_iff_allSafe (readsBack_start store) fun _ label _ hreads =>
      readsBack_step_iff hreads label,
    fun _ _ faults _ hcall hlegacy => migration_stores_key hcall hlegacy faults⟩

/-- A key saved over the file of an older version: the next load returns the key of the file, and
    stores it over the saved one. -/
theorem saved_key_shadowed :
    let old : Secret := ⟨"old", by decide, by decide⟩
    let h := start (R := Unit) { legacy := some (.key old) }
    let h' := h.step (.save "new", [])
    h'.written = some "new" ∧ effectiveUnlock h'.store = .ok (some old) ∧ ¬h'.ReadsBack ∧
      (h'.step (.loadOrMigrate, [])).store.unlock = some old := by
  refine ⟨rfl, rfl, fun hreads => ?_, rfl⟩
  exact absurd (readsBack_iff_effective.mp hreads _ rfl) (by decide)

end AxSsh.Credentials
