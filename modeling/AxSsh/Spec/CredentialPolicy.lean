import AxSsh.Native.SessionEditor
import AxSsh.Spec.CredentialChanges
import AxSsh.Spec.SessionGroups

/-!
# The policy of a profile and its secrets

A profile says where its password is and whether the unlock key of the vault was generated.
`PolicyAgrees` compares that with the secrets.  An operation of the editor computes a change of
the secrets and a new policy; `ChangesPolicy` says when the two fit, and then the operation keeps
the agreement whatever fails in it.

## Key results
- `credentialChange_fits`: what the editor computes
- `apply_agrees`: what the change does to the secrets
- `credentials_agree`: the agreement in every state of a run
-/

namespace AxSsh.Credentials

open Profiles Faulty CredentialStore
open Profiles.SessionStore (DistinctIds)

variable {R N σ : Type} {F : VaultFormat R N} {id : Uuid} {c : CredentialState R}

/-- The storage of the password, and whether the unlock key was generated. -/
abbrev Policy := Option CredentialStorage × Bool

/-- The secrets of an identifier are those of its policy. -/
structure PolicyAgrees (F : VaultFormat R N) (id : Uuid) (policy : Policy)
    (c : CredentialState R) : Prop where
  system : c.system ≠ none ↔ policy.1 = some .systemKeyring
  vault : c.vault ≠ none ↔ policy.1 = some .encryptedVault
  record : ∀ record, c.vault = some record → ∃ secret key nonce,
    record = F.encrypt id secret key nonce ∧ (policy.2 = true → c.unlock = some key)
  generated : policy.2 = true → policy.1 = some .encryptedVault
  unlock : policy.2 = false → c.unlock = none
  legacy : c.legacy = none

/-- Nothing is stored. -/
def NoSecrets (c : CredentialState R) : Prop :=
  c.system = none ∧ c.vault = none ∧ c.unlock = none ∧ c.legacy = none

theorem policyAgrees_none_iff : PolicyAgrees F id (none, false) c ↔ NoSecrets c := by
  constructor
  · intro h
    refine ⟨?_, ?_, h.unlock rfl, h.legacy⟩
    · by_contra hne
      exact nomatch h.system.mp hne
    · by_contra hne
      exact nomatch h.vault.mp hne
  · rintro ⟨hsystem, hvault, hunlock, hlegacy⟩
    refine ⟨?_, ?_, fun record hrecord => ?_, nofun, fun _ => hunlock, hlegacy⟩
    · simp [hsystem]
    · simp [hvault]
    · rw [hvault] at hrecord
      exact nomatch hrecord

/-! ## Changes of the secrets -/

variable {policy : Policy} {before after : CredentialState R}

theorem PolicyAgrees.same (h : PolicyAgrees F id policy before)
    (hsame : SameCredentials before after) : PolicyAgrees F id policy after := by
  have hlegacy := hsame.file h.legacy
  have hunlock : after.unlock = before.unlock := by
    have heffective := hsame.unlock
    rw [effectiveUnlock_none hlegacy, effectiveUnlock_none h.legacy] at heffective
    exact Except.ok.inj heffective
  constructor
  · rw [hsame.system]
    exact h.system
  · rw [hsame.vault]
    exact h.vault
  · rw [hsame.vault, hunlock]
    exact h.record
  · exact h.generated
  · rw [hunlock]
    exact h.unlock
  · exact hlegacy

theorem policyAgrees_saved {nonce : N} {storage : CredentialStorage} {password : String}
    {vaultPassword : Option String} {generated : Bool} (h : PolicyAgrees F id policy before)
    (hgenerated : generated = true → storage = .encryptedVault)
    (hsaved : Saved F id nonce storage password vaultPassword generated policy.2 policy.1
      before after) : PolicyAgrees F id (some storage, generated) after := by
  have hlegacy := hsaved.file h.legacy
  have heffective : effectiveUnlock after = .ok after.unlock := effectiveUnlock_none hlegacy
  have hunlock := hsaved.unlock
  rw [heffective] at hunlock
  -- Without a generated key there is none: the previous one is removed, or there was none.
  have hnone : generated = false → after.unlock = none := by
    intro hgenerated
    rw [if_neg (by simp [hgenerated])] at hunlock
    split at hunlock
    · exact Except.ok.inj hunlock
    · rename_i hprevious
      rw [effectiveUnlock_none h.legacy] at hunlock
      exact (Except.ok.inj hunlock).trans (h.unlock (by simpa using hprevious))
  cases storage with
  | systemKeyring =>
    have hsystem := hsaved.system rfl
    have hvault : after.vault = none := by
      rw [hsaved.otherVault nofun]
      split
      · rfl
      · rename_i hprevious
        by_contra hne
        exact hprevious (h.vault.mp hne)
    have hfalse : generated = false := by
      cases generated with
      | false => rfl
      | true => exact nomatch hgenerated rfl
    refine ⟨?_, ?_, fun record hrecord => ?_, ?_, hnone, hlegacy⟩
    · refine iff_of_true (fun hnone => ?_) rfl
      rw [hnone] at hsystem
      exact nomatch hsystem
    · rw [hvault]
      exact iff_of_false (fun hne => hne rfl) nofun
    · rw [hvault] at hrecord
      exact nomatch hrecord
    · intro htrue
      exact nomatch hfalse.symm.trans htrue
  | encryptedVault =>
    obtain ⟨secret, key, -, hkey, hvault⟩ := hsaved.vault rfl
    have hsystem : after.system = none := by
      rw [hsaved.otherSystem nofun]
      split
      · rfl
      · rename_i hprevious
        by_contra hne
        exact hprevious (h.system.mp hne)
    refine ⟨?_, ?_, fun record hrecord => ?_, fun _ => rfl, hnone, hlegacy⟩
    · rw [hsystem]
      exact iff_of_false (fun hne => hne rfl) nofun
    · rw [hvault]
      exact iff_of_true nofun rfl
    · rw [hvault] at hrecord
      cases hrecord
      refine ⟨secret, key, nonce, rfl, fun htrue => ?_⟩
      rw [if_pos ⟨rfl, htrue⟩] at hunlock
      obtain ⟨stored, hstored, hok⟩ := hunlock
      rw [hkey] at hstored
      rw [Except.ok.inj hok, Secret.ext (Option.some.inj hstored)]

theorem policyAgrees_deleted {storage : CredentialStorage} {generated : Bool}
    (h : PolicyAgrees F id (some storage, generated) before)
    (hdeleted : Deleted storage generated before after) : NoSecrets after := by
  have hlegacy := hdeleted.file h.legacy
  refine ⟨?_, ?_, ?_, hlegacy⟩
  · rw [hdeleted.system]
    split
    · rfl
    · rename_i hother
      by_contra hne
      exact hother (Option.some.inj (h.system.mp hne))
  · rw [hdeleted.vault]
    split
    · rfl
    · rename_i hother
      by_contra hne
      exact hother (Option.some.inj (h.vault.mp hne))
  · have hunlock := hdeleted.unlock
    rw [effectiveUnlock_none hlegacy] at hunlock
    cases generated with
    | true => exact Except.ok.inj hunlock
    | false =>
      rw [if_neg Bool.false_ne_true, effectiveUnlock_none h.legacy] at hunlock
      exact (Except.ok.inj hunlock).trans (h.unlock rfl)

/-- A change of the secrets fits a change of the policy. -/
def ChangesPolicy : CredentialChange → Policy → Policy → Prop
  | .none, before, after => after = before
  | .delete storage generated, before, after =>
    before = (some storage, generated) ∧ after = (none, false)
  | .store storage previousStorage _ _ generated previousGenerated, before, after =>
    before = (previousStorage, previousGenerated) ∧ after = (some storage, generated) ∧
      (generated = true → storage = .encryptedVault)

/-- The secrets after a rollback, if there is one. -/
def restored (rollback : Option (CredentialRollback R)) (c : CredentialState R)
    (faults : List Bool) : CredentialState R :=
  match rollback with
  | some rollback => (rollback.restore c faults).2.1
  | none => c

/-- After a change the secrets are those of the new policy, and a rollback brings back those of the
    old one; after a failure they are those of the old one. -/
def ChangeAgrees (F : VaultFormat R N) (id : Uuid) (old new : Policy) :
    Except String (Option (CredentialRollback R)) × CredentialState R × List Bool → Prop
  | (.error _, after, _) => PolicyAgrees F id old after
  | (.ok rollback, after, rest) =>
    PolicyAgrees F id new after ∧ PolicyAgrees F id old (restored rollback after rest)

theorem changeAgrees_of_reversible {m : Backend R (CredentialRollback R)} {old new : Policy}
    {Done : CredentialState R → CredentialState R → Prop} {faults : List Bool}
    (h : PolicyAgrees F id old before) (hrun : Reversible Done before (m before faults))
    (hdone : ∀ after, Done before after → PolicyAgrees F id new after) :
    ChangeAgrees F id old new ((m >>= fun rollback => pure (some rollback)) before faults) := by
  generalize houtcome : m before faults = outcome at hrun
  obtain ⟨result, after, rest⟩ := outcome
  cases result with
  | error e =>
    rw [bind_error houtcome]
    exact h.same hrun
  | ok rollback =>
    obtain ⟨hafter, hrestore⟩ := hrun
    obtain ⟨final, hfinal, hsame⟩ := hrestore rest
    rw [bind_ok houtcome]
    refine ⟨hdone after hafter, ?_⟩
    show PolicyAgrees F id old (rollback.restore after rest).2.1
    rw [hfinal]
    exact h.same hsame

theorem apply_agrees {old new : Policy} {change : CredentialChange} (nonce : N)
    (faults : List Bool) (h : PolicyAgrees F id old before) (hfits : ChangesPolicy change old new) :
    ChangeAgrees F id old new (applyCredentialChange F id nonce change before faults) := by
  cases change with
  | none =>
    obtain rfl : new = old := hfits
    exact ⟨h, h⟩
  | delete storage generated =>
    obtain ⟨rfl, rfl⟩ := hfits
    exact changeAgrees_of_reversible h
      (deletePasswordInStore_reversible before storage generated faults)
      fun after hdeleted => policyAgrees_none_iff.mpr (policyAgrees_deleted h hdeleted)
  | store storage previousStorage password vaultPassword generated previousGenerated =>
    obtain ⟨rfl, rfl, hgenerated⟩ := hfits
    exact changeAgrees_of_reversible h
      (savePassword_reversible before nonce storage password vaultPassword generated
        previousGenerated previousStorage faults)
      fun after hsaved => policyAgrees_saved h hgenerated hsaved

/-! ## The form -/

/-- The policy of the profile that the editor is open for. -/
def existingPolicy (existing : Option (Profiles.SessionProfile ConnectionFields)) : Policy :=
  (existingStorage existing, existingVaultKeySaved existing)

theorem existingPolicy_some (profile : Profiles.SessionProfile ConnectionFields) :
    existingPolicy (some profile) = profile.credentials := by
  unfold existingPolicy existingStorage existingVaultKeySaved Profiles.SessionProfile.credentials
  cases hssh : profile.ssh with
  | none => simp [hssh]
  | some ssh => simp [hssh]

/-- A profile has the credentials that the form computes if it is an SSH profile, and its way of
    authentication is the one of the form. -/
def HasPolicy (form : EditorForm) (existing : Option (Profiles.SessionProfile ConnectionFields))
    (connection : Profiles.ConnectionProfile ConnectionFields) : Prop :=
  match connection with
  | .ssh ssh => form.sshProtocol = true ∧
      (ssh.credentialStorage, ssh.credentialVaultKeySaved) = form.credentialPolicy existing ∧
      (ssh.auth = .password → form.authMethod = "Password")
  | _ => form.sshProtocol = false

theorem connection_hasPolicy {form : EditorForm} {descriptor : Option SerialPortDescriptor}
    {existing : Option (Profiles.SessionProfile ConnectionFields)}
    {connection : Profiles.ConnectionProfile ConnectionFields}
    (h : form.connection descriptor existing = .ok connection) :
    HasPolicy form existing connection := by
  unfold EditorForm.connection at h
  split at h
  · rename_i hprotocol
    obtain ⟨auth, hauth, h⟩ := Except.bind_eq_ok_iff.mp h
    obtain ⟨port, -, h⟩ := Except.bind_eq_ok_iff.mp h
    cases h
    refine ⟨hprotocol, rfl, fun hpassword => ?_⟩
    unfold EditorForm.auth at hauth
    grind
  split at h
  · rename_i hprotocol _
    obtain ⟨port, -, h⟩ := Except.bind_eq_ok_iff.mp h
    cases h
    exact Bool.eq_false_of_not_eq_true hprotocol
  split at h
  · rename_i hprotocol _ _
    unfold EditorForm.serialConnection at h
    split at h
    · exact nomatch h
    · cases h
      exact Bool.eq_false_of_not_eq_true hprotocol
  · exact nomatch h

theorem hasPolicy_modifySsh {form : EditorForm}
    {existing : Option (Profiles.SessionProfile ConnectionFields)}
    {f : SshConfig ConnectionFields → SshConfig ConnectionFields}
    (hf : ∀ ssh, (f ssh).credentialStorage = ssh.credentialStorage ∧
      (f ssh).credentialVaultKeySaved = ssh.credentialVaultKeySaved ∧ (f ssh).auth = ssh.auth)
    {profile : Profiles.SessionProfile ConnectionFields}
    (h : HasPolicy form existing profile.connection) :
    HasPolicy form existing (profile.modifySsh f).connection := by
  unfold Profiles.SessionProfile.modifySsh
  split
  · rename_i config hconnection
    rw [hconnection] at h
    obtain ⟨hstorage, hsaved, hauth⟩ := hf config
    simpa only [HasPolicy, hstorage, hsaved, hauth] using h
  · exact h

/-- Validation leaves no credentials without password authentication. -/
theorem HasPolicy.credentials {form : EditorForm}
    {existing : Option (Profiles.SessionProfile ConnectionFields)}
    {profile : Profiles.SessionProfile ConnectionFields}
    (h : HasPolicy form existing profile.connection)
    (hvalid : profile.validate = .ok ()) :
    profile.credentials =
      if form.passwordAuth then form.credentialPolicy existing else (none, false) := by
  unfold Profiles.SessionProfile.credentials
  cases hssh : profile.ssh with
  | none =>
    have hprotocol : form.sshProtocol = false := by
      unfold Profiles.SessionProfile.ssh at hssh
      split at hssh
      · exact nomatch hssh
      · rename_i hnot
        cases hconnection : profile.connection with
        | ssh config => exact absurd hconnection (hnot config)
        | telnet config => simpa only [hconnection, HasPolicy] using h
        | serial config => simpa only [hconnection, HasPolicy] using h
    simp [EditorForm.passwordAuth, hprotocol]
  | some ssh =>
    obtain ⟨hpassword, -⟩ := validateCredentials_of_validate hvalid hssh
    unfold Profiles.SessionProfile.ssh at hssh
    split at hssh
    · rename_i config hconnection
      cases hssh
      rw [hconnection] at h
      obtain ⟨hprotocol, hpolicy, hauth⟩ := h
      by_cases hmethod : form.authMethod = "Password"
      · simpa [EditorForm.passwordAuth, hprotocol, hmethod] using hpolicy
      -- another method than the password keeps no stored credential
      · have hnone := mt hpassword (mt hauth hmethod)
        rw [not_or, not_not, Bool.not_eq_true] at hnone
        simp [EditorForm.passwordAuth, hmethod, hnone]
    · exact nomatch hssh

/-- The identifier of the profile that the editor saves. -/
def editedId (newId : Uuid) (existing : Option (Profiles.SessionProfile ConnectionFields)) : Uuid :=
  existing.elim newId Profiles.SessionProfile.id

theorem keepExisting_id (newId : Uuid)
    (existing : Option (Profiles.SessionProfile ConnectionFields))
    (profile : Profiles.SessionProfile ConnectionFields) :
    (EditorForm.keepExisting newId existing profile).id = editedId newId existing := by
  cases existing <;> rfl

theorem keepExisting_connection (newId : Uuid)
    (existing : Option (Profiles.SessionProfile ConnectionFields))
    (profile : Profiles.SessionProfile ConnectionFields) :
    (EditorForm.keepExisting newId existing profile).connection = profile.connection := by
  cases existing <;> rfl


theorem profile_hasPolicy {form : EditorForm} {newId : Uuid}
    {descriptor : Option SerialPortDescriptor}
    {existing : Option (Profiles.SessionProfile ConnectionFields)}
    {profile : Profiles.SessionProfile ConnectionFields}
    (h : form.profile newId descriptor existing = .ok profile) :
    profile.id = editedId newId existing ∧ HasPolicy form existing profile.connection := by
  obtain ⟨connection, hconnection, h⟩ := Except.bind_eq_ok_iff.mp h
  obtain ⟨_, -, h⟩ := Except.bind_eq_ok_iff.mp h
  generalize normalizeGroupName form.groupName = groupName at h
  cases h
  refine ⟨keepExisting_id newId existing _, ?_⟩
  show HasPolicy form existing (EditorForm.keepExisting newId existing _).connection
  rw [keepExisting_connection]
  exact connection_hasPolicy hconnection

/-- The form with its validation decides the credentials of the saved profile. -/
theorem savedProfile_credentials {form : EditorForm} {newId : Uuid}
    {descriptor : Option SerialPortDescriptor} {icons : String → Option String}
    {existing : Option (Profiles.SessionProfile ConnectionFields)}
    {profile : Profiles.SessionProfile ConnectionFields}
    (h : form.savedProfile newId descriptor icons existing = .ok profile) :
    profile.id = editedId newId existing ∧
      profile.credentials =
        if form.passwordAuth then form.credentialPolicy existing else (none, false) := by
  obtain ⟨edited, hedited, h⟩ := Except.bind_eq_ok_iff.mp h
  obtain ⟨hid, hpolicy⟩ := profile_hasPolicy hedited
  obtain ⟨_, hvalid, h⟩ := Except.bind_eq_ok_iff.mp h
  cases h
  refine ⟨(Profiles.SessionProfile.id_modifySsh _ edited).trans hid,
    HasPolicy.credentials ?_ hvalid⟩
  refine hasPolicy_modifySsh (fun ssh => ?_) hpolicy
  split <;> exact ⟨rfl, rfl, rfl⟩

/-- The change of the secrets that the editor computes fits the change of the policy. -/
theorem credentialChange_fits {form : EditorForm} {newId : Uuid} {generated : String}
    {descriptor : Option SerialPortDescriptor} {icons : String → Option String}
    {existing : Option (Profiles.SessionProfile ConnectionFields)}
    {profile : Profiles.SessionProfile ConnectionFields}
    (hexisting : (existingPolicy existing).2 = true →
      (existingPolicy existing).1 = some .encryptedVault)
    (h : form.savedProfile newId descriptor icons existing = .ok profile) :
    ChangesPolicy (form.credentialChange generated existing) (existingPolicy existing)
      profile.credentials := by
  obtain ⟨-, hcredentials⟩ := savedProfile_credentials h
  rw [hcredentials]
  unfold existingPolicy at hexisting ⊢
  unfold EditorForm.credentialChange EditorForm.credentialPolicy EditorForm.vaultPasswordForSave
  generalize existingStorage existing = previous at hexisting ⊢
  generalize existingVaultKeySaved existing = previousGenerated at hexisting ⊢
  -- a form that stores its password, or one that does not
  cases hstorage : form.passwordStorage with
  | some storage =>
    have hauth : form.passwordAuth = true := by
      unfold EditorForm.passwordStorage at hstorage
      grind
    cases storage with
    | systemKeyring => simp [ChangesPolicy, hauth]
    | encryptedVault =>
      by_cases hvault : form.vaultPassword = ""
      · simp [ChangesPolicy, hauth, hvault]
      · simp [ChangesPolicy, hauth, hvault]
  | none =>
    by_cases hauth : form.passwordAuth = true
    · simp only [hauth, ChangesPolicy]
      cases previousGenerated with
      | false => simp
      | true => simpa using hexisting rfl
    · simp only [hauth]
      cases previous with
      | none =>
        have hfalse : previousGenerated = false := by
          cases previousGenerated with
          | false => rfl
          | true => exact nomatch hexisting rfl
        simp [ChangesPolicy, hfalse]
      | some storage => simp [ChangesPolicy]


/-! ## The policies of a store -/

/-- The policy that a store has for an identifier; an identifier without a profile has none. -/
def policyOf (store : SessionStore ConnectionFields σ) (id : Uuid) : Policy :=
  (store.find id).elim (none, false) Profiles.SessionProfile.credentials

variable {store store' : SessionStore ConnectionFields σ}

theorem policyOf_congr (h : store'.sessions = store.sessions) (id : Uuid) :
    policyOf store' id = policyOf store id := by
  unfold policyOf SessionStore.find
  rw [h]

theorem policyOf_eq_none (h : id ∉ store.sessions.map (·.id)) :
    policyOf store id = (none, false) := by
  have hnone : store.find id = none := List.findKey_eq_none.mpr h
  rw [policyOf, hnone]
  rfl

theorem policyOf_of_mem (h : DistinctIds store) {profile : Profiles.SessionProfile ConnectionFields}
    (hmem : profile ∈ store.sessions) : policyOf store profile.id = profile.credentials := by
  have hfind : store.find profile.id = some profile :=
    (List.findKey_eq_some_iff h).mpr ⟨hmem, rfl⟩
  rw [policyOf, hfind]
  rfl

/-- The profile that `upsert` puts into the store has the credentials of the given one. -/
theorem sessions_upsert (store : SessionStore ConnectionFields σ)
    (profile : Profiles.SessionProfile ConnectionFields) :
    ∃ new : Profiles.SessionProfile ConnectionFields, new.id = profile.id ∧
      new.credentials = profile.credentials ∧
      (store.upsert profile).sessions =
        if (store.find profile.id).isSome then
          store.sessions.modifyKey Profiles.SessionProfile.id profile.id fun _ => new
        else store.sessions ++ [new] := by
  simp only [SessionStore.upsert]
  generalize normalizeGroupName profile.groupName = groupName
  exact ⟨{ profile with groupName }, rfl, rfl, rfl⟩

theorem policyOf_upsert (store : SessionStore ConnectionFields σ)
    (profile : Profiles.SessionProfile ConnectionFields) (id : Uuid) :
    policyOf (store.upsert profile) id =
      if id = profile.id then profile.credentials else policyOf store id := by
  obtain ⟨new, hid, hcredentials, hsessions⟩ := sessions_upsert store profile
  unfold policyOf SessionStore.find at *
  rw [hsessions]
  split
  · rename_i hsome
    obtain ⟨old, hold⟩ := Option.isSome_iff_exists.mp hsome
    rw [List.findKey_modifyKey_of_key fun _ _ => hid]
    split
    · rw [hold, Option.map_some, Option.elim_some, hcredentials]
    · rfl
  · rename_i hnone
    rw [List.findKey_append_singleton, hid]
    by_cases heq : id = profile.id
    · rw [heq, Option.not_isSome_iff_eq_none.mp hnone, if_pos rfl, if_pos rfl]
      exact hcredentials
    · rw [if_neg (Ne.symm heq), if_neg heq, Option.or_none]

theorem policyOf_remove (store : SessionStore ConnectionFields σ) (removed id : Uuid) :
    policyOf (store.remove removed) id =
      if id = removed then (none, false) else policyOf store id := by
  unfold policyOf SessionStore.find SessionStore.remove
  rw [List.findKey_filter_ne]
  split <;> rfl

theorem adds_le {newId : Nat → Uuid} {i k : Nat} (h : SessionStore.Adds newId i store k store') :
    i ≤ k := by
  induction h with
  | nil => exact Nat.le_refl _
  | group _ _ ih => exact ih
  | profile _ _ _ ih => exact Nat.le_of_succ_le ih

/-- Profiles that are added under new identifiers change no policy. -/
theorem policyOf_adds {newId : Nat → Uuid} {i k : Nat}
    (h : SessionStore.Adds newId i store k store')
    (hnew : ∀ j, i ≤ j → j < k → policyOf store (newId j) = (none, false)) (id : Uuid) :
    policyOf store' id = policyOf store id := by
  induction h with
  | nil => rfl
  | group hadd _ ih =>
    have hcongr := policyOf_congr (SessionStore.addGroup_sessions hadd)
    rw [ih fun j hij hjk => (hcongr _).trans (hnew j hij hjk), hcongr]
  | @profile i k store store' profile hid hcredentials hadds ih =>
    have hupsert (id : Uuid) : policyOf (store.upsert profile) id = policyOf store id := by
      rw [policyOf_upsert, hid, hcredentials]
      split
      · rename_i heq
        rw [heq, hnew i (Nat.le_refl i) (adds_le hadds)]
      · rfl
    rw [ih fun j hij hjk => (hupsert _).trans (hnew j (Nat.le_of_succ_le hij) hjk), hupsert]

/-! ## Agreement -/

/-- The secrets of every identifier are those of its profile. -/
structure CredentialWorkspace.Agrees (F : VaultFormat R N) (s : CredentialWorkspace R σ) :
    Prop where
  distinct : DistinctIds s.stores.memory
  policies : ∀ id, PolicyAgrees F id (policyOf s.stores.memory id) (s.credentials id)

/-- A commit that succeeds changes the policy of one identifier, and one that fails leaves the
    store in memory. -/
inductive CommitsPolicy (id : Uuid) (new : Policy) (memory : SessionStore ConnectionFields σ) :
    Except String Unit × StorePair ConnectionFields σ → Prop
  | committed {stores : StorePair ConnectionFields σ} (distinct : DistinctIds stores.memory)
    (policy : ∀ other,
      policyOf stores.memory other = if other = id then new else policyOf memory other) :
    CommitsPolicy id new memory (.ok (), stores)
  | failed {e : String} {stores : StorePair ConnectionFields σ}
    (kept : stores.memory = memory) : CommitsPolicy id new memory (.error e, stores)

theorem CredentialWorkspace.Agrees.transact {s : CredentialWorkspace R σ} (h : s.Agrees F)
    {id : Uuid} {nonce : N} {change : CredentialChange} {new : Policy} (faults : List Bool)
    {commit : StorePair ConnectionFields σ → Except String Unit × StorePair ConnectionFields σ}
    (hfits : ChangesPolicy change (policyOf s.stores.memory id) new)
    (hcommit : CommitsPolicy id new s.stores.memory (commit s.stores)) :
    (s.transact F id nonce change faults commit).Agrees F := by
  have hchange := apply_agrees nonce faults (h.policies id) hfits
  -- The secrets of one identifier change, those of the others do not.
  have hupdate {stores : StorePair ConnectionFields σ} {after : CredentialState R} {policy : Policy}
      (hdistinct : DistinctIds stores.memory)
      (hpolicy : ∀ other, policyOf stores.memory other =
        if other = id then policy else policyOf s.stores.memory other)
      (hafter : PolicyAgrees F id policy after) :
      Agrees F ⟨stores, Function.update s.credentials id after⟩ := by
    refine ⟨hdistinct, fun other => ?_⟩
    show PolicyAgrees F other (policyOf stores.memory other)
      (Function.update s.credentials id after other)
    rw [hpolicy, Function.update_apply]
    split
    · rename_i heq
      rw [heq]
      exact hafter
    · exact h.policies other
  have hkept {stores : StorePair ConnectionFields σ} (hmemory : stores.memory = s.stores.memory)
      (other : Uuid) : policyOf stores.memory other =
        if other = id then policyOf s.stores.memory id else policyOf s.stores.memory other := by
    rw [hmemory]
    split
    · rename_i heq
      rw [heq]
    · rfl
  unfold CredentialWorkspace.transact
  generalize applyCredentialChange F id nonce change (s.credentials id) faults = outcome at hchange ⊢
  obtain ⟨result, after, rest⟩ := outcome
  cases result with
  | error e => exact hupdate h.distinct (hkept rfl) hchange
  | ok rollback =>
    generalize commit s.stores = committed at hcommit ⊢
    cases hcommit with
    | committed hdistinct hpolicy => exact hupdate hdistinct hpolicy hchange.1
    | failed hmemory => exact hupdate (hmemory ▸ h.distinct) (hkept hmemory) hchange.2

theorem commit_policy {s : StorePair ConnectionFields σ} {id : Uuid} {new : Policy}
    (change : SessionStore ConnectionFields σ → SessionStore ConnectionFields σ)
    (hdistinct : DistinctIds (change s.memory))
    (hpolicy : ∀ other, policyOf (change s.memory) other =
      if other = id then new else policyOf s.memory other) (outcome : WriteOutcome) :
    CommitsPolicy id new s.memory (s.commit (fun store => .ok (change store)) outcome) := by
  unfold StorePair.commit
  dsimp only
  obtain heq | ⟨e, heq | ⟨-, heq⟩⟩ := saveStore_cases (change s.memory) s.disk outcome
  · rw [heq]
    exact .committed hdistinct hpolicy
  · rw [heq]
    exact .failed rfl
  · rw [heq]
    exact .failed rfl

variable {s : CredentialWorkspace R σ}

theorem save_agrees {icons : String → Option String} {editing : Option Uuid} {form : EditorForm}
    {newId : Uuid} {generated : String} {descriptor : Option SerialPortDescriptor} {nonce : N}
    {faults : List Bool} {outcome : WriteOutcome} (h : s.Agrees F)
    (hnew : editing = none → newId ∉ s.stores.memory.sessions.map (·.id)) :
    (s.save F icons editing form newId generated descriptor nonce faults outcome).Agrees F := by
  unfold CredentialWorkspace.save
  split
  · exact h
  rename_i existing hexisting
  have hpolicy : existingPolicy existing =
      policyOf s.stores.memory (editedId newId existing) := by
    unfold CredentialWorkspace.editedProfile at hexisting
    split at hexisting
    · cases hexisting
      exact (policyOf_eq_none (hnew rfl)).symm
    · obtain ⟨profile, hfind, rfl⟩ := Option.map_eq_some_iff.mp hexisting
      rw [existingPolicy_some]
      exact (policyOf_of_mem h.distinct (List.mem_of_findKey hfind)).symm
  split
  · exact h
  rename_i profile hprofile
  have hid := (savedProfile_credentials hprofile).1
  have hdistinct := SessionStore.upsert_distinctIds h.distinct profile
  have hupsert := policyOf_upsert s.stores.memory profile
  refine h.transact faults ?_ (commit_policy _ hdistinct hupsert outcome)
  have hgenerated := (h.policies (editedId newId existing)).generated
  rw [← hpolicy] at hgenerated
  rw [hid, ← hpolicy]
  exact credentialChange_fits hgenerated hprofile

/-- Forgetting the password of a profile. -/
theorem delete_fits {profile : Profiles.SessionProfile ConnectionFields}
    {ssh : SshConfig ConnectionFields}
    {storage : CredentialStorage} (h : DistinctIds store) (hmem : profile ∈ store.sessions)
    (hssh : profile.ssh = some ssh) (hstorage : ssh.credentialStorage = some storage) :
    ChangesPolicy (.delete storage ssh.credentialVaultKeySaved) (policyOf store profile.id)
      (none, false) := by
  rw [policyOf_of_mem h hmem]
  unfold Profiles.SessionProfile.credentials
  rw [hssh]
  exact ⟨by rw [← hstorage], rfl⟩

theorem clearPassword_agrees {sessionId : Uuid} {nonce : N}
    {loaded : Except String (SessionStore ConnectionFields σ)} {faults : List Bool}
    {outcome : WriteOutcome} (h : s.Agrees F) :
    (s.clearPassword F sessionId nonce loaded faults outcome).Agrees F := by
  unfold CredentialWorkspace.clearPassword
  split
  · exact h
  rename_i profile hfind
  have hmem := List.mem_of_findKey hfind
  obtain rfl : profile.id = sessionId := List.key_of_findKey hfind
  split
  · exact h
  rename_i ssh hssh
  split
  · exact h
  rename_i storage hstorage
  refine h.transact faults (delete_fits h.distinct hmem hssh hstorage) ?_
  unfold CredentialWorkspace.commitPasswordClear
  split
  · exact .failed rfl
  split
  · exact .failed rfl
  -- the profile is saved without its storage
  generalize hcleared : profile.modifySsh (fun ssh =>
    { ssh with credentialStorage := none, credentialVaultKeySaved := false }) = cleared
  have hid : cleared.id = profile.id := by rw [← hcleared, Profiles.SessionProfile.id_modifySsh]
  have hnone : cleared.credentials = (none, false) := by
    rw [← hcleared]
    exact SessionStore.credentials_clear _ (fun _ => rfl) profile
  dsimp only
  split
  · exact .failed rfl
  · refine .committed (SessionStore.upsert_distinctIds h.distinct cleared) fun other => ?_
    rw [policyOf_upsert, hid, hnone]

theorem deleteProfile_agrees {sessionId : Uuid} {nonce : N} {faults : List Bool}
    {outcome : WriteOutcome} (h : s.Agrees F) :
    (s.deleteProfile F sessionId nonce faults outcome).Agrees F := by
  unfold CredentialWorkspace.deleteProfile
  split
  · exact h
  rename_i profile hfind
  have hmem := List.mem_of_findKey hfind
  obtain rfl : profile.id = sessionId := List.key_of_findKey hfind
  have hdistinct : DistinctIds (s.stores.memory.remove profile.id) :=
    (List.filter_sublist.map _).nodup h.distinct
  have hremove := policyOf_remove s.stores.memory profile.id
  refine h.transact faults ?_ (commit_policy _ hdistinct hremove outcome)
  have hpolicy := h.policies profile.id
  rw [policyOf_of_mem h.distinct hmem, ← existingPolicy_some] at hpolicy ⊢
  unfold existingPolicy at hpolicy ⊢
  cases hstorage : existingStorage (some profile) with
  | some storage => exact ⟨rfl, rfl⟩
  | none =>
    have hfalse : existingVaultKeySaved (some profile) = false := by
      rw [hstorage] at hpolicy
      cases hsaved : existingVaultKeySaved (some profile) with
      | false => rfl
      | true => exact nomatch hpolicy.generated hsaved
    rw [hfalse]
    rfl

/-- Profiles that are added have no secrets, and no profile changes. -/
theorem run_agrees {fromStr : String → Except String (SessionTransferEnvelope ConnectionFields)}
    {newId : Nat → Uuid} {loaded : Except String (SessionStore ConnectionFields σ)}
    {outcome : WriteOutcome} (h : s.Agrees F) (operation : StoreOperation ConnectionFields)
    (hadds : ∀ before candidate : SessionStore ConnectionFields σ,
      operation.apply fromStr before = .ok candidate →
        ∃ k ≤ maxSessionTransferProfiles, SessionStore.Adds newId 0 before k candidate)
    (hnew : SessionStore.NewIds newId s.stores.memory) :
    CredentialWorkspace.Agrees F
      { s with stores := (s.stores.run fromStr operation loaded outcome).2 } := by
  have htransacted := run_transacted fromStr s.stores operation loaded outcome
  generalize s.stores.run fromStr operation loaded outcome = result at htransacted ⊢
  cases htransacted with
  | failed e => exact h
  | notSynced e _ _ _ _ => exact ⟨h.distinct, h.policies⟩
  | @saved before candidate stores hgroups hsessions happly hmemoryGroups hmemorySessions hdisk =>
    obtain ⟨k, hk, hadds⟩ := hadds before candidate happly
    obtain ⟨hinjective, hunused⟩ := hnew
    rw [← hsessions] at hunused
    have hdistinct : DistinctIds candidate :=
      hadds.distinctIds hk hinjective
        (SessionStore.distinctIds_of_map_id (by rw [hsessions]) h.distinct)
        fun j _ hj => hunused j (Nat.lt_of_lt_of_le hj hk)
    refine ⟨SessionStore.distinctIds_of_map_id (by rw [hmemorySessions]) hdistinct, fun id => ?_⟩
    -- an operation adds profiles that have no policy yet, and keeps the others
    have hpolicy : policyOf stores.memory id = policyOf s.stores.memory id :=
      calc policyOf stores.memory id
        _ = policyOf candidate id := policyOf_congr hmemorySessions id
        _ = policyOf before id := policyOf_adds hadds
          (fun j _ hj => policyOf_eq_none (hunused j (Nat.lt_of_lt_of_le hj hk))) id
        _ = policyOf s.stores.memory id := policyOf_congr hsessions id
    rw [hpolicy]
    exact h.policies id

/-! ## Runs -/

/-- The identifiers that an action draws for new profiles are new. -/
def FreshIds (s : CredentialWorkspace R σ) : CredentialWorkspace.Action N σ → Prop
  | .save none _ newId .. => newId ∉ s.stores.memory.sessions.map (·.id)
  | .duplicateSession newId .. | .duplicateGroup newId .. | .importTransfer newId .. =>
    SessionStore.NewIds newId s.stores.memory
  | _ => True

theorem step_agrees {icons : String → Option String}
    {fromStr : String → Except String (SessionTransferEnvelope ConnectionFields)}
    {action : CredentialWorkspace.Action N σ} (h : s.Agrees F) (hnew : FreshIds s action) :
    (s.step F icons fromStr action).Agrees F := by
  cases action with
  | save editing form newId generated descriptor nonce faults outcome =>
    refine save_agrees h fun hediting => ?_
    subst hediting
    exact hnew
  | clearPassword sessionId nonce loaded faults outcome => exact clearPassword_agrees h
  | deleteProfile sessionId nonce faults outcome => exact deleteProfile_agrees h
  | duplicateSession newId sessionId loaded outcome =>
    refine run_agrees h (.duplicateSession newId sessionId) (fun before candidate hrun => ?_) hnew
    exact ⟨1, by decide, SessionStore.adds_duplicateSession hrun⟩
  | duplicateGroup newId groupName loaded outcome =>
    refine run_agrees h (.duplicateGroup newId groupName) (fun before candidate hrun => ?_) hnew
    exact SessionStore.adds_duplicateGroup hrun
  | importTransfer newId text mode targetGroup loaded outcome =>
    refine run_agrees h (.importTransfer newId text mode targetGroup)
      (fun before candidate hrun => ?_) hnew
    exact SessionStore.adds_importTransfer hrun

/-- A password in one backend and none in the other. -/
def HoldsOnly (c : CredentialState R) : CredentialStorage → Prop
  | .systemKeyring => c.system ≠ none ∧ c.vault = none
  | .encryptedVault => c.vault ≠ none ∧ c.system = none

/-- What the policies of the profiles promise of the secrets. -/
structure CredentialWorkspace.Secured (F : VaultFormat R N) (s : CredentialWorkspace R σ) :
    Prop where
  stored : ∀ profile ∈ s.stores.memory.sessions, ∀ storage,
    profile.credentials.1 = some storage → HoldsOnly (s.credentials profile.id) storage
  /-- The unlock key opens the record. -/
  unlocks : ∀ profile ∈ s.stores.memory.sessions, profile.credentials.2 = true →
    ∃ key record password, (s.credentials profile.id).unlock = some key ∧
      (s.credentials profile.id).vault = some record ∧
      F.decrypt profile.id key record = .ok password
  unstored : ∀ profile ∈ s.stores.memory.sessions, profile.credentials.1 = none →
    NoSecrets (s.credentials profile.id)
  absent : ∀ id, id ∉ s.stores.memory.sessions.map (·.id) → NoSecrets (s.credentials id)

theorem CredentialWorkspace.Agrees.secured (h : s.Agrees F)
    (hF : ∀ id secret key nonce, F.decrypt id key (F.encrypt id secret key nonce) =
      .ok secret.value) : s.Secured F := by
  have hprofile {profile : Profiles.SessionProfile ConnectionFields}
      (hmem : profile ∈ s.stores.memory.sessions) :
      PolicyAgrees F profile.id profile.credentials (s.credentials profile.id) := by
    rw [← policyOf_of_mem h.distinct hmem]
    exact h.policies profile.id
  refine ⟨fun profile hmem storage hstorage => ?_, fun profile hmem hgenerated => ?_,
    fun profile hmem hstorage => ?_, fun id hid => ?_⟩
  · obtain ⟨hsystem, hvault, -, -, -, -⟩ := hprofile hmem
    rw [hstorage] at hsystem hvault
    cases storage with
    | systemKeyring =>
      exact ⟨hsystem.mpr rfl, by_contra fun hne => nomatch hvault.mp hne⟩
    | encryptedVault =>
      exact ⟨hvault.mpr rfl, by_contra fun hne => nomatch hsystem.mp hne⟩
  · have hagrees := hprofile hmem
    -- a generated key unlocks the record that it was made for
    obtain ⟨record, hrecord⟩ :=
      Option.ne_none_iff_exists'.mp (hagrees.vault.mpr (hagrees.generated hgenerated))
    obtain ⟨secret, key, nonce, rfl, hunlock⟩ := hagrees.record record hrecord
    exact ⟨key, _, secret.value, hunlock hgenerated, hrecord, hF _ _ _ _⟩
  -- a profile without a storage has no policy, so nothing is kept for it
  · have hagrees := hprofile hmem
    have hfalse : profile.credentials.2 = false := by
      cases hgenerated : profile.credentials.2 with
      | false => rfl
      | true => exact nomatch hstorage.symm.trans (hagrees.generated hgenerated)
    rw [show profile.credentials = (none, false) from Prod.ext hstorage hfalse] at hagrees
    exact policyAgrees_none_iff.mp hagrees
  · have hagrees := h.policies id
    rw [policyOf_eq_none hid] at hagrees
    exact policyAgrees_none_iff.mp hagrees

/-- In any run of saves, clears, deletes, duplications and imports the secrets are those that the
    profiles say, whatever fails in it. -/
theorem credentials_agree
    (hF : ∀ id secret key nonce, F.decrypt id key (F.encrypt id secret key nonce) =
      .ok secret.value)
    (icons : String → Option String)
    (fromStr : String → Except String (SessionTransferEnvelope ConnectionFields))
    {start : CredentialWorkspace R σ} (hstart : start.Agrees F)
    (actions : List (CredentialWorkspace.Action N σ))
    (hnew : Transition.AllSafe (CredentialWorkspace.step F icons fromStr) start FreshIds actions) :
    (actions.foldl (CredentialWorkspace.step F icons fromStr) start).Secured F :=
  (hnew.preserves hstart fun _ _ => step_agrees).secured hF

/-- An application without profiles and secrets. -/
def CredentialWorkspace.empty (R : Type) (settings : AppSettings σ) : CredentialWorkspace R σ where
  stores := ⟨{ version := 1, settings }, { version := 1, settings }⟩
  credentials _ := {}

theorem CredentialWorkspace.empty_agrees (settings : AppSettings σ) :
    (CredentialWorkspace.empty R settings).Agrees F :=
  ⟨List.nodup_nil, fun _ => policyAgrees_none_iff.mpr ⟨rfl, rfl, rfl, rfl⟩⟩

/-- A password that is saved in the vault under a generated key. -/
theorem generated_key_agrees :
    let form : EditorForm :=
      { name := "web", protocol := "SSH", host := "web.example", port := "22", username := "root"
        authMethod := "Password", password := "pw", rememberPassword := true }
    let actions : List (CredentialWorkspace.Action Unit Unit) :=
      [.save none form 1 "key" none () [] .written]
    let start := CredentialWorkspace.empty (Uuid × Secret × Secret) ⟨⟨0, 0, "", ""⟩, none, none, ()⟩
    let s := actions.foldl
      (CredentialWorkspace.step plainVault (fun _ => none) fun _ => .error "") start
    policyOf s.stores.memory 1 = (some .encryptedVault, true) ∧ s.Secured plainVault := by
  intro form actions start s
  refine ⟨by decide, ?_⟩
  refine credentials_agree (fun id secret key nonce => ?_) _ _
    (CredentialWorkspace.empty_agrees _) actions
    (Transition.allSafe_cons_iff.mpr ⟨?_, Transition.allSafe_nil⟩)
  · exact if_pos ⟨rfl, rfl⟩
  · exact List.not_mem_nil

end AxSsh.Credentials
