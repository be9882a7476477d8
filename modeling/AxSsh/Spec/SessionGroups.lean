import AxSsh.Native.SessionManagement
import AxSsh.Spec.ProfileChecks

/-!
# Groups stay consistent

The names of groups are in the list of the store and in every profile.  `GroupsConsistent` says
that the two agree, and every operation keeps it: all of them put profiles into the store through
`upsert` and groups through `add_group` or `rename_group`.  Identifiers stay distinct as long as
the new ones an operation draws are new.

## Key results
- `upsert_consistent`, `addGroup_consistent`, `renameGroup_consistent`: the operations of the store
- `apply_consistent`, `run_consistent`: any operation, alone and in a transaction
-/

namespace AxSsh.Profiles

variable {ρ σ : Type}

structure GroupsConsistent (store : SessionStore ρ σ) : Prop where
  normalized : ∀ group ∈ store.groups, normalizeGroupName group = group ∧ group ≠ ""
  nodup : store.groups.Nodup
  listed : ∀ profile ∈ store.sessions, profile.groupName = "" ∨ profile.groupName ∈ store.groups

/-- The names of groups in profiles are normalized too. -/
theorem GroupsConsistent.normalized_profile {store : SessionStore ρ σ} (h : GroupsConsistent store)
    {profile : SessionProfile ρ} (hmem : profile ∈ store.sessions) :
    normalizeGroupName profile.groupName = profile.groupName := by
  cases h.listed profile hmem with
  | inl hempty => rw [hempty, normalizeGroupName_empty]
  | inr hlisted => exact (h.normalized _ hlisted).1

/-- The storage of the remembered password, and whether its unlock key was generated. -/
def SessionProfile.credentials (profile : SessionProfile ρ) : Option CredentialStorage × Bool :=
  match profile.ssh with
  | some ssh => (ssh.credentialStorage, ssh.credentialVaultKeySaved)
  | none => (none, false)

namespace SessionStore

variable {store store' : SessionStore ρ σ}

/-! ## The operations of the store -/

/-- A new group that is normalized, not empty and not there yet. -/
theorem consistent_push (h : GroupsConsistent store) {group : String}
    (hgroup : normalizeGroupName group = group) (hne : group ≠ "") (hnew : group ∉ store.groups) :
    GroupsConsistent { store with groups := store.groups ++ [group] } where
  normalized other hother := by
    rcases List.mem_append.mp hother with hold | hlast
    · exact h.normalized other hold
    · obtain rfl := List.mem_singleton.mp hlast
      exact ⟨hgroup, hne⟩
  nodup := by
    rw [List.nodup_append]
    refine ⟨h.nodup, List.nodup_singleton group, fun a ha b hb => ?_⟩
    obtain rfl := List.mem_singleton.mp hb
    exact fun heq => hnew (heq ▸ ha)
  listed profile hmem := (h.listed profile hmem).imp_right (List.mem_append_left _)

/-- A profile in the store after `upsert` was there, or is the new one. -/
theorem mem_sessions_upsert {new profile : SessionProfile ρ}
    (h : profile ∈ (store.upsert new).sessions) :
    profile ∈ store.sessions ∨
      profile = { new with groupName := normalizeGroupName new.groupName } := by
  simp only [upsert] at h
  split at h
  · rcases List.mem_modifyKey h with hold | ⟨_, _, heq⟩
    · exact .inl hold
    · exact .inr heq
  · exact (List.mem_append.mp h).imp_right List.mem_singleton.mp

theorem upsert_consistent (h : GroupsConsistent store) (profile : SessionProfile ρ) :
    GroupsConsistent (store.upsert profile) := by
  obtain ⟨groups, hgroups, hconsistent, hlisted⟩ : ∃ groups, (store.upsert profile).groups = groups ∧
      GroupsConsistent { store with groups } ∧
      (normalizeGroupName profile.groupName = "" ∨
        normalizeGroupName profile.groupName ∈ groups) := by
    simp only [upsert]
    split
    · rename_i hnew
      refine ⟨_, rfl, consistent_push h (normalizeGroupName_idem _) hnew.1 hnew.2, .inr ?_⟩
      exact List.mem_append_right _ (List.mem_singleton_self _)
    · rename_i hold
      rw [not_and_or, not_not, not_not] at hold
      exact ⟨_, rfl, h, hold⟩
  constructor
  · rw [hgroups]
    exact hconsistent.normalized
  · rw [hgroups]
    exact hconsistent.nodup
  · intro other hmem
    rw [hgroups]
    have hother := mem_sessions_upsert hmem
    generalize normalizeGroupName profile.groupName = group at hlisted hother
    rcases hother with hold | rfl
    · exact hconsistent.listed other hold
    · exact hlisted

theorem remove_consistent (h : GroupsConsistent store) (id : Uuid) :
    GroupsConsistent (store.remove id) where
  normalized := h.normalized
  nodup := h.nodup
  listed profile hmem := h.listed profile (List.mem_filter.mp hmem).1

/-- What `add_group` does. -/
theorem addGroup_cases {name : String} {changed : Bool}
    (h : store.addGroup name = .ok (store', changed)) :
    normalizeGroupName name ≠ "" ∧
      ((normalizeGroupName name ∈ store.groups ∧ store' = store ∧ changed = false) ∨
        (normalizeGroupName name ∉ store.groups ∧ changed = true ∧
          store' = { store with groups := store.groups ++ [normalizeGroupName name] })) := by
  unfold addGroup at h
  obtain ⟨_, hvalid, h⟩ := Except.bind_eq_ok_iff.mp h
  refine ⟨normalizeGroupName_ne_empty hvalid, ?_⟩
  dsimp only at h
  split at h
  · rename_i hmem
    cases h
    exact .inl ⟨hmem, rfl, rfl⟩
  · rename_i hmem
    cases h
    exact .inr ⟨hmem, rfl, rfl⟩

theorem addGroup_consistent (h : GroupsConsistent store) {name : String} {changed : Bool}
    (hadd : store.addGroup name = .ok (store', changed)) : GroupsConsistent store' := by
  obtain ⟨hne, ⟨-, rfl, -⟩ | ⟨hnew, -, rfl⟩⟩ := addGroup_cases hadd
  · exact h
  · exact consistent_push h (normalizeGroupName_idem _) hne hnew

/-- What `rename_group` does. -/
theorem renameGroup_cases {oldName newName : String} {changed : Bool}
    (h : store.renameGroup oldName newName = .ok (store', changed)) :
    (store' = store ∧ changed = false) ∨
      (normalizeGroupName oldName ∈ store.groups ∧ normalizeGroupName newName ∉ store.groups ∧
        normalizeGroupName newName ≠ "" ∧ changed = true ∧
        store' = { store with
          groups := store.groups.modifyKey id (normalizeGroupName oldName) fun _ =>
            normalizeGroupName newName
          sessions := store.sessions.map fun profile =>
            if normalizeGroupName profile.groupName = normalizeGroupName oldName then
              { profile with groupName := normalizeGroupName newName }
            else profile }) := by
  unfold renameGroup at h
  obtain ⟨_, -, h⟩ := Except.bind_eq_ok_iff.mp h
  obtain ⟨_, hvalid, h⟩ := Except.bind_eq_ok_iff.mp h
  dsimp only at h
  split at h
  · cases h
    exact .inl ⟨rfl, rfl⟩
  split at h
  · cases h
  split at h
  · cases h
    exact .inl ⟨rfl, rfl⟩
  · rename_i hnew hold
    cases h
    exact .inr ⟨not_not.mp hold, hnew, normalizeGroupName_ne_empty hvalid, rfl, rfl⟩

/-- A name replaced by one that is not there. -/
theorem mem_rename {groups : List String} {oldName newName : String} (hnodup : groups.Nodup)
    (hmem : oldName ∈ groups) (hnew : newName ∉ groups) :
    (groups.modifyKey id oldName fun _ => newName).Nodup ∧
      ∀ group, group ∈ (groups.modifyKey id oldName fun _ => newName) ↔
        group = newName ∨ (group ∈ groups ∧ group ≠ oldName) := by
  have hfind : groups.findKey id oldName = some oldName :=
    (List.findKey_eq_some_iff (by simpa using hnodup)).mpr ⟨hmem, rfl⟩
  obtain ⟨l₁, l₂, rfl, hmod⟩ := List.exists_modifyKey hfind fun _ => newName
  rw [hmod]
  simp only [List.nodup_append, List.nodup_cons, List.mem_append, List.mem_cons, not_or] at *
  grind

theorem renameGroup_consistent (h : GroupsConsistent store) {oldName newName : String}
    {changed : Bool} (hrename : store.renameGroup oldName newName = .ok (store', changed)) :
    GroupsConsistent store' := by
  obtain ⟨rfl, -⟩ | ⟨hold, hnew, hne, -, rfl⟩ := renameGroup_cases hrename
  · exact h
  · obtain ⟨hnodup, hmem⟩ := mem_rename h.nodup hold hnew
    generalize hgroup : normalizeGroupName newName = newGroup at *
    have hnormalized : normalizeGroupName newGroup = newGroup := by
      rw [← hgroup, normalizeGroupName_idem]
    refine ⟨fun group hgroup => ?_, hnodup, fun profile hprofile => ?_⟩
    · rcases (hmem group).mp hgroup with rfl | ⟨hkept, -⟩
      · exact ⟨hnormalized, hne⟩
      · exact h.normalized group hkept
    · obtain ⟨before, hbefore, rfl⟩ := List.mem_map.mp hprofile
      split
      · exact .inr ((hmem _).mpr (.inl rfl))
      · rename_i hother
        rw [h.normalized_profile hbefore] at hother
        exact (h.listed before hbefore).imp_right fun hlisted => (hmem _).mpr (.inr ⟨hlisted, hother⟩)

/-- What `remove_group` does. -/
theorem removeGroup_cases (store : SessionStore ρ σ) (name : String) :
    (normalizeGroupName name ∉ store.groups ∧ store.removeGroup name = (store, false)) ∨
      (normalizeGroupName name ∈ store.groups ∧ store.removeGroup name = ({ store with
        groups := store.groups.filter (· ≠ normalizeGroupName name)
        sessions := store.sessions.map fun profile =>
          if normalizeGroupName profile.groupName = normalizeGroupName name then
            { profile with groupName := "" }
          else profile }, true)) := by
  unfold removeGroup
  dsimp only
  split
  · rename_i hnot
    exact .inl ⟨hnot, rfl⟩
  · rename_i hmem
    exact .inr ⟨not_not.mp hmem, rfl⟩

theorem removeGroup_consistent (h : GroupsConsistent store) (name : String) :
    GroupsConsistent (store.removeGroup name).1 := by
  obtain ⟨-, heq⟩ | ⟨-, heq⟩ := removeGroup_cases store name
  · rw [heq]
    exact h
  · rw [heq]
    refine ⟨fun group hgroup => h.normalized group (List.mem_filter.mp hgroup).1,
      h.nodup.filter _, fun profile hprofile => ?_⟩
    obtain ⟨before, hbefore, rfl⟩ := List.mem_map.mp hprofile
    split
    · exact .inl rfl
    · rename_i hother
      rw [h.normalized_profile hbefore] at hother
      refine (h.listed before hbefore).imp_right fun hlisted => ?_
      exact List.mem_filter.mpr ⟨hlisted, decide_eq_true hother⟩

/-! ## Loading -/

theorem pushNormalized_cases (groups : List String) (name : String) :
    ((normalizeGroupName name = "" ∨ normalizeGroupName name ∈ groups) ∧
        pushNormalized groups name = groups) ∨
      (normalizeGroupName name ≠ "" ∧ normalizeGroupName name ∉ groups ∧
        pushNormalized groups name = groups ++ [normalizeGroupName name]) := by
  unfold pushNormalized
  dsimp only
  split
  · rename_i hnew
    exact .inr ⟨hnew.1, hnew.2, rfl⟩
  · rename_i hold
    rw [not_and_or, not_not, not_not] at hold
    exact .inl ⟨hold, rfl⟩

/-- Collecting names keeps the groups of a store consistent, and finds every name. -/
theorem foldl_pushNormalized (names : List String) (h : GroupsConsistent store) :
    GroupsConsistent { store with groups := names.foldl pushNormalized store.groups } ∧
      (∀ group ∈ store.groups, group ∈ names.foldl pushNormalized store.groups) ∧
      ∀ name ∈ names, normalizeGroupName name = "" ∨
        normalizeGroupName name ∈ names.foldl pushNormalized store.groups := by
  induction names generalizing store with
  | nil => exact ⟨h, fun _ hmem => hmem, nofun⟩
  | cons name names ih =>
    rw [List.foldl_cons]
    obtain ⟨hold, hpush⟩ | ⟨hne, hnew, hpush⟩ := pushNormalized_cases store.groups name
    · rw [hpush]
      obtain ⟨hconsistent, hkept, hfound⟩ := ih h
      refine ⟨hconsistent, hkept, fun other hother => ?_⟩
      rcases List.mem_cons.mp hother with rfl | hother
      · exact hold.imp_right (hkept _)
      · exact hfound other hother
    · rw [hpush]
      have hnext := consistent_push h (normalizeGroupName_idem name) hne hnew
      obtain ⟨hconsistent, hkept, hfound⟩ := ih hnext
      refine ⟨hconsistent, fun group hgroup => hkept group (List.mem_append_left _ hgroup),
        fun other hother => ?_⟩
      rcases List.mem_cons.mp hother with rfl | hother
      · exact .inr (hkept _ (List.mem_append_right _ (List.mem_singleton_self _)))
      · exact hfound other hother

theorem normalizeGroups_consistent (store : SessionStore ρ σ) :
    GroupsConsistent store.normalizeGroups := by
  have hempty : GroupsConsistent ({ store with groups := [], sessions := [] } :
      SessionStore ρ σ) := ⟨nofun, List.nodup_nil, nofun⟩
  obtain ⟨hconsistent, -, hfound⟩ :=
    foldl_pushNormalized (store.groups ++ store.sessions.map (·.groupName)) hempty
  unfold normalizeGroups
  dsimp only at hconsistent hfound
  generalize (store.groups ++ store.sessions.map (·.groupName)).foldl pushNormalized [] = groups
    at hconsistent hfound ⊢
  have hlisted : ∀ profile ∈ store.sessions, normalizeGroupName profile.groupName = "" ∨
      normalizeGroupName profile.groupName ∈ groups := fun profile hprofile =>
    hfound profile.groupName (List.mem_append_right _ (List.mem_map_of_mem hprofile))
  generalize normalizeGroupName = normalize at hlisted ⊢
  refine ⟨hconsistent.normalized, hconsistent.nodup, fun profile hprofile => ?_⟩
  obtain ⟨before, hbefore, rfl⟩ := List.mem_map.mp hprofile
  exact hlisted before hbefore

/-! ## Updates -/

/-- Groups and profiles are put into a store one by one, the profiles under the new identifiers
    from the `i`-th up to the `k`-th and without credentials. -/
inductive Adds (newId : Nat → Uuid) : Nat → SessionStore ρ σ → Nat → SessionStore ρ σ → Prop
  | nil (i : Nat) (store : SessionStore ρ σ) : Adds newId i store i store
  | group {i k : Nat} {store next store' : SessionStore ρ σ} {groupName : String} {changed : Bool} :
    store.addGroup groupName = .ok (next, changed) → Adds newId i next k store' →
      Adds newId i store k store'
  | profile {i k : Nat} {store store' : SessionStore ρ σ} {profile : SessionProfile ρ} :
    profile.id = newId i → profile.credentials = (none, false) →
      Adds newId (i + 1) (store.upsert profile) k store' → Adds newId i store k store'

theorem Adds.consistent {newId : Nat → Uuid} {i k : Nat} (h : Adds newId i store k store')
    (hstore : GroupsConsistent store) : GroupsConsistent store' := by
  induction h with
  | nil => exact hstore
  | group hadd _ ih => exact ih (addGroup_consistent hstore hadd)
  | profile _ _ _ ih => exact ih (upsert_consistent hstore _)

theorem Adds.of_ensure {newId : Nat → Uuid} {i k : Nat} {groupName : String}
    {next : SessionStore ρ σ} (hensure : store.ensureSessionGroup groupName = .ok next)
    (h : Adds newId i next k store') : Adds newId i store k store' := by
  unfold ensureSessionGroup at hensure
  split at hensure
  · cases hensure
    exact h
  · obtain ⟨⟨added, changed⟩, hadd, rfl⟩ := Except.map_eq_ok_iff.mp hensure
    exact .group hadd h

/-- The group of an import is added, or was there. -/
theorem Adds.of_importGroup {newId : Nat → Uuid} {k : Nat} {envelope : SessionTransferEnvelope ρ}
    {targetGroup : String} {mode : SessionImportMode} {importedGroup : Option String}
    {next : SessionStore ρ σ}
    (hgroup : store.importGroup envelope targetGroup mode = .ok (next, importedGroup))
    (h : Adds newId 0 next k store') : Adds newId 0 store k store' := by
  cases mode with
  | singleServer =>
    obtain ⟨_, -, hgroup⟩ := Except.bind_eq_ok_iff.mp hgroup
    obtain ⟨ensured, hensure, hgroup⟩ := Except.bind_eq_ok_iff.mp hgroup
    cases hgroup
    exact .of_ensure hensure h
  | intoGroup =>
    obtain ⟨_, -, hgroup⟩ := Except.bind_eq_ok_iff.mp hgroup
    obtain ⟨_, -, hgroup⟩ := Except.bind_eq_ok_iff.mp hgroup
    obtain ⟨ensured, hensure, hgroup⟩ := Except.bind_eq_ok_iff.mp hgroup
    cases hgroup
    exact .of_ensure hensure h
  | automatic =>
    simp only [importGroup] at hgroup
    split at hgroup
    · exact nomatch hgroup
    · obtain ⟨group, -, hgroup⟩ := Except.bind_eq_ok_iff.mp hgroup
      obtain ⟨⟨added, changed⟩, hadd, hgroup⟩ := Except.bind_eq_ok_iff.mp hgroup
      cases hgroup
      exact .group hadd h
    · cases hgroup
      exact h

theorem credentials_clear (f : SshConfig ρ → SshConfig ρ)
    (hf : ∀ ssh, ((f ssh).credentialStorage, (f ssh).credentialVaultKeySaved) = (none, false))
    (profile : SessionProfile ρ) : (profile.modifySsh f).credentials = (none, false) := by
  obtain ⟨id, name, groupName, icon, system, connection⟩ := profile
  cases connection with
  | ssh config => exact hf config
  | telnet config => rfl
  | serial config => rfl

theorem credentials_sanitizeImportedProfile (profile : SessionProfile ρ) :
    (sanitizeImportedProfile profile).credentials = (none, false) :=
  credentials_clear _ (fun _ => rfl)
    { profile with id := .nil, detectedSystem := none, groupName := normalizeGroupName profile.groupName }

section Updates

variable [ConnectionRest ρ]

theorem duplicateProfile_eq {newId : Uuid} {groupName : String → String}
    {source : SessionProfile ρ} (h : store.duplicateProfile newId groupName source = .ok store') :
    ∃ profile : SessionProfile ρ, profile.id = newId ∧ profile.credentials = (none, false) ∧
      store' = store.upsert profile := by
  unfold duplicateProfile at h
  obtain ⟨name, -, h⟩ := Except.bind_eq_ok_iff.mp h
  obtain ⟨_, -, h⟩ := Except.bind_eq_ok_iff.mp h
  exact ⟨_, SessionProfile.id_modifySsh _ _, credentials_clear _ (fun _ => rfl) _,
    (Except.ok.inj h).symm⟩

theorem adds_duplicateProfiles {newId : Nat → Uuid} {groupName : String}
    {sources : List (SessionProfile ρ)} {i : Nat}
    (h : duplicateProfiles newId groupName i sources store = .ok store') :
    Adds newId i store (i + sources.length) store' := by
  induction sources generalizing store i with
  | nil =>
    cases h
    exact .nil i _
  | cons source sources ih =>
    obtain ⟨next, hnext, h⟩ := Except.bind_eq_ok_iff.mp h
    obtain ⟨profile, hid, hcredentials, rfl⟩ := duplicateProfile_eq hnext
    rw [List.length_cons, Nat.add_comm sources.length, ← Nat.add_assoc]
    exact .profile hid hcredentials (ih h)

theorem adds_importProfiles {newId : Nat → Uuid} {importedGroup : Option String}
    {sources : List (SessionProfile ρ)} {i : Nat}
    (h : importProfiles newId importedGroup i sources store = .ok store') :
    Adds newId i store (i + sources.length) store' := by
  induction sources generalizing store i with
  | nil =>
    cases h
    exact .nil i _
  | cons source sources ih =>
    obtain ⟨next, hnext, h⟩ := Except.bind_eq_ok_iff.mp h
    unfold importProfile at hnext
    obtain ⟨ensured, hensure, hnext⟩ := Except.bind_eq_ok_iff.mp hnext
    obtain ⟨name, -, hnext⟩ := Except.bind_eq_ok_iff.mp hnext
    obtain ⟨_, -, hnext⟩ := Except.bind_eq_ok_iff.mp hnext
    cases hnext
    rw [List.length_cons, Nat.add_comm sources.length, ← Nat.add_assoc]
    exact .of_ensure hensure (.profile rfl (credentials_sanitizeImportedProfile _) (ih h))

/-- A transfer that is accepted has a bounded number of profiles. -/
theorem length_profiles_of_parse {fromStr : String → Except String (SessionTransferEnvelope ρ)}
    {text : String} {envelope : SessionTransferEnvelope ρ}
    (h : parseSessionTransfer fromStr text = .ok envelope) :
    envelope.profiles.length ≤ maxSessionTransferProfiles := by
  unfold parseSessionTransfer at h
  obtain ⟨_, -, h⟩ := Except.bind_eq_ok_iff.mp h
  obtain ⟨_, -, h⟩ := Except.bind_eq_ok_iff.mp h
  obtain ⟨decoded, -, h⟩ := Except.bind_eq_ok_iff.mp h
  obtain ⟨_, hvalid, h⟩ := Except.bind_eq_ok_iff.mp h
  obtain ⟨_, -, hvalid⟩ := Except.bind_eq_ok_iff.mp hvalid
  obtain ⟨_, -, hvalid⟩ := Except.bind_eq_ok_iff.mp hvalid
  obtain ⟨_, hlen, -⟩ := Except.bind_eq_ok_iff.mp hvalid
  rw [bailIf_eq_ok_iff, decide_eq_false_iff_not, Nat.not_lt] at hlen
  cases h
  exact hlen

theorem adds_duplicateSession {newId : Nat → Uuid} {sessionId : Uuid}
    (h : store.duplicateSession newId sessionId = .ok store') : Adds newId 0 store 1 store' := by
  unfold duplicateSession at h
  split at h
  · exact nomatch h
  · obtain ⟨profile, hid, hcredentials, rfl⟩ := duplicateProfile_eq h
    exact .profile hid hcredentials (.nil 1 _)

theorem adds_duplicateGroup {newId : Nat → Uuid} {groupName : String}
    (h : store.duplicateGroup newId groupName = .ok store') :
    ∃ k ≤ maxSessionTransferProfiles, Adds newId 0 store k store' := by
  unfold duplicateGroup at h
  obtain ⟨source, -, h⟩ := Except.bind_eq_ok_iff.mp h
  obtain ⟨_, -, h⟩ := Except.bind_eq_ok_iff.mp h
  obtain ⟨_, hlen, h⟩ := Except.bind_eq_ok_iff.mp h
  obtain ⟨duplicate, -, h⟩ := Except.bind_eq_ok_iff.mp h
  obtain ⟨⟨next, changed⟩, hadd, h⟩ := Except.bind_eq_ok_iff.mp h
  rw [bailIf_eq_ok_iff, decide_eq_false_iff_not, Nat.not_lt] at hlen
  exact ⟨_, by rwa [Nat.zero_add], .group hadd (adds_duplicateProfiles h)⟩

theorem adds_importTransfer {fromStr : String → Except String (SessionTransferEnvelope ρ)}
    {newId : Nat → Uuid} {text : String} {mode : SessionImportMode} {targetGroup : String}
    (h : store.importTransfer fromStr newId text mode targetGroup = .ok store') :
    ∃ k ≤ maxSessionTransferProfiles, Adds newId 0 store k store' := by
  unfold importTransfer at h
  obtain ⟨envelope, hparse, h⟩ := Except.bind_eq_ok_iff.mp h
  obtain ⟨⟨next, importedGroup⟩, hgroup, h⟩ := Except.bind_eq_ok_iff.mp h
  refine ⟨_, ?_, .of_importGroup hgroup (adds_importProfiles h)⟩
  rw [Nat.zero_add]
  exact length_profiles_of_parse hparse

end Updates

/-! ## Identifiers -/

def DistinctIds (store : SessionStore ρ σ) : Prop := (store.sessions.map (·.id)).Nodup

/-- The identifiers that an update draws are new: no two are the same, and no profile has one. -/
def NewIds (newId : Nat → Uuid) (store : SessionStore ρ σ) : Prop :=
  (∀ i < maxSessionTransferProfiles, ∀ j < maxSessionTransferProfiles,
    newId i = newId j → i = j) ∧
  ∀ i < maxSessionTransferProfiles, newId i ∉ store.sessions.map (·.id)

theorem map_id_upsert (store : SessionStore ρ σ) (profile : SessionProfile ρ) :
    (store.upsert profile).sessions.map (·.id) =
      if profile.id ∈ store.sessions.map (·.id) then store.sessions.map (·.id)
      else store.sessions.map (·.id) ++ [profile.id] := by
  have hfound : (store.find profile.id).isSome ↔ profile.id ∈ store.sessions.map (·.id) :=
    List.findKey_isSome
  simp only [upsert]
  split
  · rename_i hsome
    rw [if_pos (hfound.mp hsome)]
    obtain ⟨old, hold⟩ := Option.isSome_iff_exists.mp hsome
    obtain ⟨l₁, l₂, heq, hmod⟩ := List.exists_modifyKey hold fun _ =>
      { profile with groupName := normalizeGroupName profile.groupName }
    have hid : old.id = profile.id := List.key_of_findKey hold
    rw [hmod, heq, List.map_append, List.map_append, List.map_cons, List.map_cons, hid]
  · rename_i hnone
    rw [if_neg fun hmem => hnone (hfound.mpr hmem), List.map_append]
    rfl

theorem upsert_distinctIds (h : DistinctIds store) (profile : SessionProfile ρ) :
    DistinctIds (store.upsert profile) := by
  unfold DistinctIds at h ⊢
  rw [map_id_upsert]
  split
  · exact h
  · rename_i hnew
    rw [List.nodup_append]
    refine ⟨h, List.nodup_singleton _, fun a ha b hb => ?_⟩
    obtain rfl := List.mem_singleton.mp hb
    exact fun heq => hnew (heq ▸ ha)

theorem distinctIds_of_map_id {a b : SessionStore ρ σ}
    (hids : b.sessions.map (·.id) = a.sessions.map (·.id)) (h : DistinctIds a) : DistinctIds b := by
  unfold DistinctIds
  rw [hids]
  exact h

theorem removeGroup_distinctIds (h : DistinctIds store) (name : String) :
    DistinctIds (store.removeGroup name).1 := by
  obtain ⟨-, heq⟩ | ⟨-, heq⟩ := removeGroup_cases store name
  · rw [heq]
    exact h
  · rw [heq]
    exact distinctIds_of_map_id (List.map_key_map (fun profile => by split <;> rfl) _) h

theorem normalizeGroups_distinctIds (h : DistinctIds store) :
    DistinctIds store.normalizeGroups := by
  have hids : store.normalizeGroups.sessions.map (·.id) = store.sessions.map (·.id) := by
    simp only [normalizeGroups, List.map_map, Function.comp_def]
  exact distinctIds_of_map_id hids h

theorem addGroup_sessions {name : String} {changed : Bool}
    (h : store.addGroup name = .ok (store', changed)) : store'.sessions = store.sessions := by
  obtain ⟨-, ⟨-, rfl, -⟩ | ⟨-, -, rfl⟩⟩ := addGroup_cases h
  · rfl
  · rfl

theorem Adds.distinctIds {newId : Nat → Uuid} {i k : Nat} (h : Adds newId i store k store')
    (hk : k ≤ maxSessionTransferProfiles)
    (hinj : ∀ i < maxSessionTransferProfiles, ∀ j < maxSessionTransferProfiles,
      newId i = newId j → i = j)
    (hstore : DistinctIds store)
    (hnew : ∀ j, i ≤ j → j < k → newId j ∉ store.sessions.map (·.id)) : DistinctIds store' := by
  induction h with
  | nil => exact hstore
  | group hadd _ ih =>
    have hsessions := addGroup_sessions hadd
    refine ih hk (distinctIds_of_map_id (by rw [hsessions]) hstore) ?_
    rw [hsessions]
    exact hnew
  | @profile i k store store' profile hid _ _ ih =>
    refine ih hk (upsert_distinctIds hstore profile) fun j hij hjk hmem => ?_
    have hold := hnew j (Nat.le_of_succ_le hij) hjk
    rw [map_id_upsert] at hmem
    split at hmem
    · exact hold hmem
    · rcases List.mem_append.mp hmem with hmem | hlast
      · exact hold hmem
      · -- A later identifier is not the one that was just used.
        have heq := hinj j (by omega) i (by omega) ((List.mem_singleton.mp hlast).trans hid)
        omega

end SessionStore

open SessionStore

theorem GroupsConsistent.congr {a b : SessionStore ρ σ} (h : GroupsConsistent a)
    (hgroups : b.groups = a.groups) (hsessions : b.sessions = a.sessions) :
    GroupsConsistent b where
  normalized := hgroups ▸ h.normalized
  nodup := hgroups ▸ h.nodup
  listed := by
    rw [hgroups, hsessions]
    exact h.listed

/-! ## Moves -/

/-- The profiles of one group are in another, and nothing else of the profiles changed. -/
def MovesGroup (oldName newName : String) (before after : SessionStore ρ σ) : Prop :=
  after.sessions = before.sessions.map fun profile =>
    if profile.groupName = oldName then { profile with groupName := newName } else profile

theorem movesGroup_of_map {store store' : SessionStore ρ σ} (h : GroupsConsistent store) {oldName newName : String}
    (hsessions : store'.sessions = store.sessions.map fun profile =>
      if normalizeGroupName profile.groupName = oldName then
        { profile with groupName := newName }
      else profile) : MovesGroup oldName newName store store' := by
  unfold MovesGroup
  rw [hsessions]
  refine List.map_congr_left fun profile hmem => ?_
  rw [h.normalized_profile hmem]

theorem renameGroup_moves {store store' : SessionStore ρ σ} (h : GroupsConsistent store) {oldName newName : String} {changed : Bool}
    (hrename : store.renameGroup oldName newName = .ok (store', changed)) :
    if changed then MovesGroup (normalizeGroupName oldName) (normalizeGroupName newName) store store'
    else store' = store := by
  obtain ⟨rfl, rfl⟩ | ⟨-, -, -, rfl, rfl⟩ := renameGroup_cases hrename
  · rfl
  · exact movesGroup_of_map h rfl

theorem removeGroup_moves {store : SessionStore ρ σ} (h : GroupsConsistent store) (name : String) :
    if (store.removeGroup name).2 then
      MovesGroup (normalizeGroupName name) "" store (store.removeGroup name).1
    else (store.removeGroup name).1 = store := by
  obtain ⟨-, heq⟩ | ⟨-, heq⟩ := removeGroup_cases store name
  · rw [heq]
    rfl
  · rw [heq]
    exact movesGroup_of_map h rfl

/-! ## Operations -/

variable [ConnectionRest ρ] {store store' : SessionStore ρ σ}
variable {fromStr : String → Except String (SessionTransferEnvelope ρ)}

/-- The new identifiers of an operation are new to the store. -/
def FreshIds (store : SessionStore ρ σ) : StoreOperation ρ → Prop
  | .duplicateSession newId _ | .duplicateGroup newId _ | .importTransfer newId .. =>
    NewIds newId store
  | _ => True

theorem apply_consistent {operation : StoreOperation ρ} (h : GroupsConsistent store)
    (hrun : operation.apply fromStr store = .ok store') : GroupsConsistent store' := by
  cases operation with
  | upsert profile =>
    cases hrun
    exact upsert_consistent h profile
  | remove id =>
    cases hrun
    exact remove_consistent h id
  | addGroup name =>
    obtain ⟨⟨next, changed⟩, hadd, hrun⟩ := Except.bind_eq_ok_iff.mp hrun
    obtain ⟨_, -, hrun⟩ := Except.bind_eq_ok_iff.mp hrun
    cases hrun
    exact addGroup_consistent h hadd
  | renameGroup oldName newName =>
    obtain ⟨⟨next, changed⟩, hrename, hrun⟩ := Except.bind_eq_ok_iff.mp hrun
    obtain ⟨_, -, hrun⟩ := Except.bind_eq_ok_iff.mp hrun
    cases hrun
    exact renameGroup_consistent h hrename
  | removeGroup name =>
    obtain ⟨_, -, hrun⟩ := Except.bind_eq_ok_iff.mp hrun
    cases hrun
    exact removeGroup_consistent h _
  | duplicateSession newId sessionId => exact (adds_duplicateSession hrun).consistent h
  | duplicateGroup newId groupName =>
    obtain ⟨k, -, hadds⟩ := adds_duplicateGroup hrun
    exact hadds.consistent h
  | importTransfer newId text mode targetGroup =>
    obtain ⟨k, -, hadds⟩ := adds_importTransfer hrun
    exact hadds.consistent h

theorem apply_distinctIds {operation : StoreOperation ρ} (h : DistinctIds store)
    (hnew : FreshIds store operation) (hrun : operation.apply fromStr store = .ok store') :
    DistinctIds store' := by
  cases operation with
  | upsert profile =>
    cases hrun
    exact upsert_distinctIds h profile
  | remove id =>
    cases hrun
    exact (List.filter_sublist.map _).nodup h
  | addGroup name =>
    obtain ⟨⟨next, changed⟩, hadd, hrun⟩ := Except.bind_eq_ok_iff.mp hrun
    obtain ⟨_, -, hrun⟩ := Except.bind_eq_ok_iff.mp hrun
    cases hrun
    exact distinctIds_of_map_id (by rw [addGroup_sessions hadd]) h
  | renameGroup oldName newName =>
    obtain ⟨⟨next, changed⟩, hrename, hrun⟩ := Except.bind_eq_ok_iff.mp hrun
    obtain ⟨_, -, hrun⟩ := Except.bind_eq_ok_iff.mp hrun
    cases hrun
    obtain ⟨rfl, -⟩ | ⟨-, -, -, -, rfl⟩ := renameGroup_cases hrename
    · exact h
    · exact distinctIds_of_map_id (List.map_key_map (fun profile => by split <;> rfl) _) h
  | removeGroup name =>
    obtain ⟨_, -, hrun⟩ := Except.bind_eq_ok_iff.mp hrun
    cases hrun
    exact removeGroup_distinctIds h _
  -- the copies have ids of their own
  | duplicateSession newId sessionId =>
    exact (adds_duplicateSession hrun).distinctIds (by decide) hnew.1 h
      fun j _ hj => hnew.2 j (Nat.lt_trans hj (by decide))
  | duplicateGroup newId groupName =>
    obtain ⟨k, hk, hadds⟩ := adds_duplicateGroup hrun
    exact hadds.distinctIds hk hnew.1 h fun j _ hj => hnew.2 j (Nat.lt_of_lt_of_le hj hk)
  | importTransfer newId text mode targetGroup =>
    obtain ⟨k, hk, hadds⟩ := adds_importTransfer hrun
    exact hadds.distinctIds hk hnew.1 h fun j _ hj => hnew.2 j (Nat.lt_of_lt_of_le hj hk)

/-! ## Transactions -/

/-- A save that fails leaves the file, unless only the sync of its directory failed. -/
theorem saveStore_cases (candidate disk : SessionStore ρ σ) (outcome : WriteOutcome) :
    saveStore candidate disk outcome = (.ok (), candidate) ∨
      ∃ e, saveStore candidate disk outcome = (.error e, disk) ∨
        (outcome = .notSynced ∧ saveStore candidate disk outcome = (.error e, candidate)) := by
  unfold saveStore
  split
  · exact .inr ⟨_, .inl rfl⟩
  · cases outcome with
    | written => exact .inl rfl
    | failed => exact .inr ⟨_, .inl rfl⟩
    | notSynced => exact .inr ⟨_, .inr ⟨rfl, rfl⟩⟩

/-- How a transaction ends, with its result and the two stores after it. -/
inductive Transacted (fromStr : String → Except String (SessionTransferEnvelope ρ))
    (operation : StoreOperation ρ) (outcome : WriteOutcome) (s : StorePair ρ σ) :
    Except String Unit × StorePair ρ σ → Prop
  | failed (e : String) : Transacted fromStr operation outcome s (.error e, s)
  | saved {before candidate : SessionStore ρ σ} {s' : StorePair ρ σ}
    (groups : before.groups = s.memory.groups) (sessions : before.sessions = s.memory.sessions)
    (apply : operation.apply fromStr before = .ok candidate)
    (memoryGroups : s'.memory.groups = candidate.groups)
    (memorySessions : s'.memory.sessions = candidate.sessions) (disk : s'.disk = candidate) :
    Transacted fromStr operation outcome s (.ok (), s')
  | notSynced {before candidate : SessionStore ρ σ} (e : String)
    (groups : before.groups = s.memory.groups) (sessions : before.sessions = s.memory.sessions)
    (apply : operation.apply fromStr before = .ok candidate) (write : outcome = .notSynced) :
    Transacted fromStr operation outcome s (.error e, { s with disk := candidate })

theorem commit_transacted (s : StorePair ρ σ) (operation : StoreOperation ρ)
    (outcome : WriteOutcome) :
    Transacted fromStr operation outcome s (s.commit (operation.apply fromStr) outcome) := by
  unfold StorePair.commit
  split
  · exact .failed _
  · rename_i candidate happly
    obtain heq | ⟨e, heq | ⟨houtcome, heq⟩⟩ := saveStore_cases candidate s.disk outcome
    · rw [heq]
      exact .saved rfl rfl happly rfl rfl rfl
    · rw [heq]
      exact .failed e
    · rw [heq]
      exact .notSynced e rfl rfl happly houtcome

theorem update_transacted (s : StorePair ρ σ) (operation : StoreOperation ρ)
    (loaded : Except String (SessionStore ρ σ)) (outcome : WriteOutcome) :
    Transacted fromStr operation outcome s
      (s.update (operation.apply fromStr) loaded outcome) := by
  unfold StorePair.update
  split
  · exact .failed _
  · rename_i file
    split
    · exact .failed _
    · rename_i candidate happly
      have hgroups : ({ file with groups := s.memory.groups, sessions := s.memory.sessions } :
        SessionStore ρ σ).groups = s.memory.groups := rfl
      obtain heq | ⟨e, heq | ⟨houtcome, heq⟩⟩ := saveStore_cases candidate s.disk outcome
      · rw [heq]
        exact .saved hgroups rfl happly rfl rfl rfl
      · rw [heq]
        exact .failed e
      · rw [heq]
        exact .notSynced e hgroups rfl happly houtcome

theorem run_transacted (fromStr : String → Except String (SessionTransferEnvelope ρ))
    (s : StorePair ρ σ) (operation : StoreOperation ρ)
    (loaded : Except String (SessionStore ρ σ)) (outcome : WriteOutcome) :
    Transacted fromStr operation outcome s (s.run fromStr operation loaded outcome) := by
  unfold StorePair.run
  split
  · exact commit_transacted s _ outcome
  · exact commit_transacted s _ outcome
  · exact update_transacted s operation loaded outcome

/-- A transaction with what the file and its write answer. -/
abbrev StoreLabel (ρ σ : Type) :=
  StoreOperation ρ × Except String (SessionStore ρ σ) × WriteOutcome

def StorePair.step (fromStr : String → Except String (SessionTransferEnvelope ρ))
    (s : StorePair ρ σ) (label : StoreLabel ρ σ) : StorePair ρ σ :=
  (s.run fromStr label.1 label.2.1 label.2.2).2

theorem step_consistent {s : StorePair ρ σ} (label : StoreLabel ρ σ)
    (h : GroupsConsistent s.memory ∧ GroupsConsistent s.disk) :
    GroupsConsistent (s.step fromStr label).memory ∧
      GroupsConsistent (s.step fromStr label).disk := by
  have htransacted := run_transacted fromStr s label.1 label.2.1 label.2.2
  unfold StorePair.step
  generalize s.run fromStr label.1 label.2.1 label.2.2 = outcome at htransacted ⊢
  cases htransacted with
  | failed e => exact h
  | saved hgroups hsessions happly hmemoryGroups hmemorySessions hdisk =>
    have hcandidate := apply_consistent (h.1.congr hgroups hsessions) happly
    exact ⟨hcandidate.congr hmemoryGroups hmemorySessions, hdisk ▸ hcandidate⟩
  | notSynced e hgroups hsessions happly houtcome =>
    exact ⟨h.1, apply_consistent (h.1.congr hgroups hsessions) happly⟩

theorem step_distinctIds {s : StorePair ρ σ} (label : StoreLabel ρ σ)
    (h : DistinctIds s.memory ∧ DistinctIds s.disk) (hnew : FreshIds s.memory label.1) :
    DistinctIds (s.step fromStr label).memory ∧ DistinctIds (s.step fromStr label).disk := by
  have htransacted := run_transacted fromStr s label.1 label.2.1 label.2.2
  unfold StorePair.step
  generalize s.run fromStr label.1 label.2.1 label.2.2 = outcome at htransacted ⊢
  have hbefore {before : SessionStore ρ σ} (hsessions : before.sessions = s.memory.sessions) :
      DistinctIds before ∧ FreshIds before label.1 := by
    refine ⟨distinctIds_of_map_id (by rw [hsessions]) h.1, ?_⟩
    unfold FreshIds NewIds at hnew ⊢
    rw [hsessions]
    exact hnew
  cases htransacted with
  | failed e => exact h
  | saved hgroups hsessions happly hmemoryGroups hmemorySessions hdisk =>
    have hcandidate := apply_distinctIds (hbefore hsessions).1 (hbefore hsessions).2 happly
    exact ⟨distinctIds_of_map_id (by rw [hmemorySessions]) hcandidate, hdisk ▸ hcandidate⟩
  | notSynced e hgroups hsessions happly houtcome =>
    exact ⟨h.1, apply_distinctIds (hbefore hsessions).1 (hbefore hsessions).2 happly⟩

/-! ## Runs -/

/-- What is said of the two stores after any run of transactions. -/
structure StoresAgree (fromStr : String → Except String (SessionTransferEnvelope ρ))
    (s : StorePair ρ σ) : Prop where
  memory : GroupsConsistent s.memory
  disk : GroupsConsistent s.disk
  rename : ∀ oldName newName store' changed,
    s.memory.renameGroup oldName newName = .ok (store', changed) →
      if changed then
        MovesGroup (normalizeGroupName oldName) (normalizeGroupName newName) s.memory store'
      else store' = s.memory
  remove : ∀ name, if (s.memory.removeGroup name).2 then
      MovesGroup (normalizeGroupName name) "" s.memory (s.memory.removeGroup name).1
    else (s.memory.removeGroup name).1 = s.memory
  error : ∀ operation loaded outcome e,
    (s.run fromStr operation loaded outcome).1 = .error e →
      (s.run fromStr operation loaded outcome).2.memory = s.memory ∧
        (outcome ≠ .notSynced → (s.run fromStr operation loaded outcome).2.disk = s.disk)

/-- A transaction that fails leaves both stores, unless only the sync of the directory failed. -/
theorem run_error {s : StorePair ρ σ} {operation : StoreOperation ρ}
    {loaded : Except String (SessionStore ρ σ)} {outcome : WriteOutcome} {e : String}
    (h : (s.run fromStr operation loaded outcome).1 = .error e) :
    (s.run fromStr operation loaded outcome).2.memory = s.memory ∧
      (outcome ≠ .notSynced → (s.run fromStr operation loaded outcome).2.disk = s.disk) := by
  have htransacted := run_transacted fromStr s operation loaded outcome
  generalize s.run fromStr operation loaded outcome = result at h htransacted ⊢
  cases htransacted with
  | failed e => exact ⟨rfl, fun _ => rfl⟩
  | saved => exact nomatch h
  | notSynced e _ _ _ houtcome => exact ⟨rfl, fun hne => absurd houtcome hne⟩

theorem storesAgree_of_consistent {s : StorePair ρ σ} (hmemory : GroupsConsistent s.memory)
    (hdisk : GroupsConsistent s.disk) : StoresAgree fromStr s where
  memory := hmemory
  disk := hdisk
  rename _ _ _ _ hrename := renameGroup_moves hmemory hrename
  remove name := removeGroup_moves hmemory name
  error _ _ _ _ h := run_error h

/-- The stores after a file was loaded. -/
def StorePair.ofFile (file : SessionStore ρ σ) : StorePair ρ σ :=
  ⟨file.normalizeGroups, file.normalizeGroups⟩

/-- After any run of transactions from a loaded store the groups are consistent, in memory and on
    disk; groups move exactly their profiles; and a transaction that fails leaves both stores. -/
theorem session_groups_consistent
    (fromStr : String → Except String (SessionTransferEnvelope ρ)) (file : SessionStore ρ σ)
    (labels : List (StoreLabel ρ σ)) :
    StoresAgree fromStr (labels.foldl (StorePair.step fromStr) (.ofFile file)) ∧
      (DistinctIds file →
        Transition.AllSafe (StorePair.step fromStr) (.ofFile file)
          (fun s label => FreshIds s.memory label.1) labels →
        DistinctIds (labels.foldl (StorePair.step fromStr) (.ofFile file)).memory ∧
          DistinctIds (labels.foldl (StorePair.step fromStr) (.ofFile file)).disk) := by
  constructor
  · have hfile := normalizeGroups_consistent file
    have hconsistent := List.foldlRecOn labels (StorePair.step fromStr) (b := StorePair.ofFile file)
      (motive := fun s => GroupsConsistent s.memory ∧ GroupsConsistent s.disk) ⟨hfile, hfile⟩
      fun _ hs label _ => step_consistent label hs
    exact storesAgree_of_consistent hconsistent.1 hconsistent.2
  · intro hdistinct hfresh
    have hfile := normalizeGroups_distinctIds hdistinct
    exact hfresh.preserves (P := fun s => DistinctIds s.memory ∧ DistinctIds s.disk)
      ⟨hfile, hfile⟩ fun s label hs hnew => step_distinctIds label hs hnew

/-- A store with one server, which is duplicated under a new identifier. -/
theorem duplicate_keeps_distinctIds :
    let server : SessionProfile ConnectionFields :=
      { id := 1, name := "web"
        connection := .ssh ⟨"web.example", 22, "root", .password, none, false, none, .ssh {}⟩ }
    let file : SessionStore ConnectionFields Unit :=
      { version := 1, sessions := [server], settings := ⟨⟨0, 0, "", ""⟩, none, none, ()⟩ }
    let newId (i : Nat) : Uuid := ⟨BitVec.ofNat 128 (i + 2)⟩
    let labels : List (StoreLabel ConnectionFields Unit) :=
      [(.duplicateSession newId 1, .ok file, .written)]
    DistinctIds (labels.foldl (StorePair.step fun _ => .error "") (.ofFile file)).memory := by
  intro server file newId labels
  have hdistinct : DistinctIds file := List.nodup_singleton server.id
  refine ((session_groups_consistent (fun _ => .error "") file labels).2 hdistinct
    (Transition.allSafe_cons_iff.mpr ⟨?_, Transition.allSafe_nil⟩)).1
  refine ⟨fun i hi j hj heq => ?_, fun i hi hmem => ?_⟩
  · have hbits := congrArg (fun id : Uuid => id.bits.toNat) heq
    simp only [newId, BitVec.toNat_ofNat] at hbits
    unfold maxSessionTransferProfiles at hi hj
    omega
  · have heq : newId i = 1 := List.mem_singleton.mp hmem
    have hbits := congrArg (fun id : Uuid => id.bits.toNat) heq
    simp only [newId, BitVec.toNat_ofNat] at hbits
    unfold maxSessionTransferProfiles at hi
    have hone : (1 : Uuid).bits.toNat = 1 := by decide
    omega

/-- A failed sync of the directory is reported, and the file has the new group. -/
theorem unsynced_write_reported :
    let store : SessionStore ConnectionFields Unit :=
      { version := 1, settings := ⟨⟨0, 0, "", ""⟩, none, none, ()⟩ }
    let after := StorePair.run (fun _ => .error "") (.addGroup "Team") (.ok store) .notSynced
      ⟨store, store⟩
    after.1 = .error "failed to sync persistence directory" ∧ after.2.memory = store ∧
      after.2.disk.groups = ["Team"] := by
  decide

end AxSsh.Profiles
