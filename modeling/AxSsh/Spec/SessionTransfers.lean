import AxSsh.Native.SessionTransfers
import AxSsh.Spec.CopyNames

/-!
# Imports and exports of sessions

An import adds the profiles of a transfer under new identifiers and with nothing that was trusted
about them; names that are taken are replaced.  An export that is imported into an empty store gives
the profiles back, unless two of them have the same name.

## Key results
- `importProfiles_spec`: what an import adds
- `import_reproduces`: what an import of an export adds to an empty store
- `session_transfers`: both, for every text and for every export
-/

namespace AxSsh.Profiles

open NumberedNames SessionStore

/-! ## Sanitized profiles -/

/-- Nothing is left of credentials, of the trusted host key and of the detected system. -/
structure Sanitized (profile : Profile) : Prop where
  credentials : profile.credentials = (none, false)
  fingerprint : ∀ ssh, profile.ssh = some ssh → ssh.hostKeyFingerprint = none
  detection : profile.detectedSystem = none

theorem sanitized_sanitizeTransferredProfile (profile : Profile) :
    Sanitized (sanitizeTransferredProfile profile) := by
  unfold sanitizeTransferredProfile
  generalize normalizeGroupName profile.groupName = group
  obtain ⟨id, name, groupName, icon, system, connection⟩ := profile
  cases connection with
  | ssh config =>
    refine ⟨rfl, fun ssh hssh => ?_, rfl⟩
    cases hssh
    rfl
  | telnet config => exact ⟨rfl, fun _ hssh => absurd hssh.symm (Option.some_ne_none _), rfl⟩
  | serial config => exact ⟨rfl, fun _ hssh => absurd hssh.symm (Option.some_ne_none _), rfl⟩

/-- Nothing is left to remove, whatever the identifier, the name and the group are. -/
theorem Sanitized.sanitizeImportedProfile_eq {profile : Profile} (h : Sanitized profile)
    (id : Uuid) (name groupName : String) :
    sanitizeImportedProfile { profile with id, name, groupName } =
      { profile with id, name, groupName } := by
  obtain ⟨hcredentials, hfingerprint, hdetection⟩ := h
  obtain ⟨oldId, oldName, oldGroup, icon, system, connection⟩ := profile
  obtain rfl : system = none := hdetection
  cases connection with
  | ssh config =>
    obtain ⟨host, port, username, auth, storage, saved, fingerprint, rest⟩ := config
    obtain ⟨rfl, rfl⟩ : storage = none ∧ saved = false := Prod.mk.inj hcredentials
    obtain rfl : fingerprint = none := hfingerprint _ rfl
    rfl
  | telnet config => rfl
  | serial config => rfl

theorem Sanitized.congr {profile profile' : Profile} (h : Sanitized profile)
    (hconnection : profile'.connection = profile.connection)
    (hsystem : profile'.detectedSystem = profile.detectedSystem) : Sanitized profile' := by
  obtain ⟨hcredentials, hfingerprint, hdetection⟩ := h
  have hssh : profile'.ssh = profile.ssh := by
    unfold SessionProfile.ssh
    rw [hconnection]
  refine ⟨?_, ?_, hsystem.trans hdetection⟩
  · unfold SessionProfile.credentials at hcredentials ⊢
    rw [hssh]
    exact hcredentials
  · rw [hssh]
    exact hfingerprint

/-! ## Transfers that are accepted -/

section Parse

variable {fromStr : String → Except String (SessionTransferEnvelope ConnectionFields)}
  {text : String} {envelope : SessionTransferEnvelope ConnectionFields}

theorem validateSessionTransfer_eq_ok_iff :
    validateSessionTransfer envelope = .ok () ↔
      envelope.format = sessionTransferFormat ∧ envelope.version = sessionTransferVersion ∧
        envelope.profiles.length ≤ maxSessionTransferProfiles ∧
        validateTransferKind envelope = .ok () ∧
        ∀ profile ∈ envelope.profiles, validateTransferredProfile profile = .ok () := by
  unfold validateSessionTransfer
  constructor
  · intro h
    obtain ⟨_, hformat, h⟩ := Except.bind_eq_ok_iff.mp h
    obtain ⟨_, hversion, h⟩ := Except.bind_eq_ok_iff.mp h
    obtain ⟨_, hlen, h⟩ := Except.bind_eq_ok_iff.mp h
    obtain ⟨_, hkind, hprofiles⟩ := Except.bind_eq_ok_iff.mp h
    rw [bailIf_eq_ok_iff, bne_eq_false_iff_eq] at hformat hversion
    rw [bailIf_eq_ok_iff, decide_eq_false_iff_not, Nat.not_lt] at hlen
    exact ⟨hformat, hversion, hlen, hkind, Except.forM_eq_ok_iff.mp hprofiles⟩
  · rintro ⟨hformat, hversion, hlen, hkind, hprofiles⟩
    refine Except.bind_eq_ok_iff.mpr
      ⟨(), bailIf_eq_ok_iff.mpr (bne_eq_false_iff_eq.mpr hformat), ?_⟩
    refine Except.bind_eq_ok_iff.mpr
      ⟨(), bailIf_eq_ok_iff.mpr (bne_eq_false_iff_eq.mpr hversion), ?_⟩
    refine Except.bind_eq_ok_iff.mpr ⟨(), bailIf_eq_ok_iff.mpr (by simpa using hlen), ?_⟩
    exact Except.bind_eq_ok_iff.mpr ⟨(), hkind, Except.forM_eq_ok_iff.mpr hprofiles⟩

theorem parseSessionTransfer_eq_ok_iff :
    parseSessionTransfer fromStr text = .ok envelope ↔
      trim text ≠ "" ∧ text.utf8ByteSize ≤ maxSessionTransferBytes ∧
        ∃ decoded, fromStr text = .ok decoded ∧
          { decoded with profiles := decoded.profiles.map sanitizeTransferredProfile } = envelope ∧
          validateSessionTransfer envelope = .ok () := by
  unfold parseSessionTransfer
  constructor
  · intro h
    obtain ⟨_, hempty, h⟩ := Except.bind_eq_ok_iff.mp h
    obtain ⟨_, hsize, h⟩ := Except.bind_eq_ok_iff.mp h
    obtain ⟨decoded, hread, h⟩ := Except.bind_eq_ok_iff.mp h
    obtain ⟨_, hvalid, h⟩ := Except.bind_eq_ok_iff.mp h
    obtain rfl := Except.ok.inj h
    rw [bailIf_eq_ok_iff, beq_eq_false_iff_ne] at hempty
    rw [bailIf_eq_ok_iff, decide_eq_false_iff_not, Nat.not_lt] at hsize
    exact ⟨hempty, hsize, decoded, hread, rfl, hvalid⟩
  · rintro ⟨hempty, hsize, decoded, hread, rfl, hvalid⟩
    refine Except.bind_eq_ok_iff.mpr ⟨(), bailIf_eq_ok_iff.mpr (beq_eq_false_iff_ne.mpr hempty), ?_⟩
    refine Except.bind_eq_ok_iff.mpr ⟨(), bailIf_eq_ok_iff.mpr (by simpa using hsize), ?_⟩
    exact Except.bind_eq_ok_iff.mpr ⟨decoded, hread, Except.bind_eq_ok_iff.mpr ⟨(), hvalid, rfl⟩⟩

theorem sanitized_of_parse (h : parseSessionTransfer fromStr text = .ok envelope) :
    ∀ profile ∈ envelope.profiles, Sanitized profile := by
  obtain ⟨-, -, decoded, -, rfl, -⟩ := parseSessionTransfer_eq_ok_iff.mp h
  intro profile hprofile
  obtain ⟨before, -, rfl⟩ := List.mem_map.mp hprofile
  exact sanitized_sanitizeTransferredProfile before

end Parse

/-! ## Imports -/

/-- The group that an imported profile is in. -/
def importDestination (importedGroup : Option String) (profile : Profile) : String :=
  importedGroup.getD (normalizeGroupName profile.groupName)

/-- A profile as it is in the store after it was imported. -/
def importedAs (importedGroup : Option String) (id : Uuid) (name : String) (profile : Profile) :
    Profile :=
  { profile with
    id, name, groupName := normalizeGroupName (importDestination importedGroup profile) }

section Import

variable {store store' : Store} {importedGroup : Option String}

theorem ensureSessionGroup_spec {groupName : String}
    (h : store.ensureSessionGroup groupName = .ok store') :
    store' = { store with groups := store'.groups } ∧ store.groups <+: store'.groups := by
  unfold ensureSessionGroup at h
  split at h
  · cases h
    exact ⟨rfl, List.prefix_rfl⟩
  · obtain ⟨⟨added, changed⟩, hadd, rfl⟩ := Except.map_eq_ok_iff.mp h
    obtain ⟨-, ⟨-, rfl, -⟩ | ⟨-, -, rfl⟩⟩ := addGroup_cases hadd
    · exact ⟨rfl, List.prefix_rfl⟩
    · exact ⟨rfl, List.prefix_append _ _⟩

theorem uniqueImportedSessionName_cases {name name' : String}
    (h : store.uniqueImportedSessionName name = .ok name') :
    (name ∉ store.names ∧ name' = name) ∨
      (name ∈ store.names ∧ ∃ k, name' = copyName name maxSessionNameChars k ∧
        FirstFree (· ∈ store.names) (copyName name maxSessionNameChars) 1 k) := by
  unfold uniqueImportedSessionName at h
  split at h
  · rename_i hmem
    refine .inr ⟨hasName_iff.mp hmem, ?_⟩
    split at h
    · rename_i found hfound
      obtain ⟨k, hfirst, rfl⟩ := firstFree_of_some (fun _ => hasName_iff) hfound
      exact ⟨k, (Except.ok.inj h).symm, hfirst⟩
    · exact nomatch h
  · rename_i hfree
    exact .inl ⟨fun hmem => hfree (hasName_iff.mpr hmem), (Except.ok.inj h).symm⟩

/-- Valid profiles are added, each in a group that is there or in none, and maybe groups. -/
structure Imports (store store' : Store) (added : List Profile) : Prop where
  sessions : store'.sessions = store.sessions ++ added
  groups : store.groups <+: store'.groups
  rest : store' = { store with groups := store'.groups, sessions := store'.sessions }
  registered : ∀ profile ∈ added, profile.groupName = "" ∨ profile.groupName ∈ store'.groups
  valid : ∀ profile ∈ added, profile.validate = .ok ()

theorem Imports.of_groups {groups : List String} (h : store.groups <+: groups) :
    Imports store { store with groups } [] where
  sessions := (List.append_nil _).symm
  groups := h
  rest := rfl
  registered _ hmem := absurd hmem List.not_mem_nil
  valid _ hmem := absurd hmem List.not_mem_nil

theorem Imports.nil (store : Store) : Imports store store [] :=
  .of_groups (List.prefix_rfl : store.groups <+: store.groups)

theorem Imports.trans {store'' : Store} {added added' : List Profile}
    (h : Imports store store' added) (h' : Imports store' store'' added') :
    Imports store store'' (added ++ added') where
  sessions := by rw [h'.sessions, h.sessions, List.append_assoc]
  groups := h.groups.trans h'.groups
  rest := by
    have hrest := h'.rest
    rw [h.rest] at hrest
    exact hrest
  registered profile hmem := by
    rcases List.mem_append.mp hmem with hold | hlast
    · exact (h.registered profile hold).imp_right fun hlisted => h'.groups.subset hlisted
    · exact h'.registered profile hlast
  valid profile hmem := by
    rcases List.mem_append.mp hmem with hold | hlast
    · exact h.valid profile hold
    · exact h'.valid profile hlast

theorem upsert_imports {profile : Profile} (hnew : profile.id ∉ store.sessions.map (·.id))
    (hvalid : profile.validate = .ok ()) :
    Imports store (store.upsert profile)
      [{ profile with groupName := normalizeGroupName profile.groupName }] := by
  refine ⟨upsert_sessions_of_new hnew, ?_, ?_, List.forall_mem_singleton.mpr ?_,
    List.forall_mem_singleton.mpr (validate_normalized hvalid)⟩
  · rcases upsert_groups_cases store profile with heq | ⟨-, heq⟩
    · rw [heq]
    · rw [heq]
      exact List.prefix_append _ _
  · simp only [upsert]
  · simp only [upsert]
    split
    · exact .inr (List.mem_append_right _ (List.mem_singleton_self _))
    · rename_i hold
      rw [not_and_or, not_not, not_not] at hold
      exact hold

theorem importProfile_spec {newId : Uuid} {profile : Profile} (hprofile : Sanitized profile)
    (hnew : newId ∉ store.sessions.map (·.id))
    (h : store.importProfile newId importedGroup profile = .ok store') :
    ∃ name, store.uniqueImportedSessionName profile.name = .ok name ∧
      Imports store store' [importedAs importedGroup newId name profile] := by
  obtain ⟨ensured, hensure, h⟩ := Except.bind_eq_ok_iff.mp h
  obtain ⟨name, hname, h⟩ := Except.bind_eq_ok_iff.mp h
  obtain ⟨_, hvalid, h⟩ := Except.bind_eq_ok_iff.mp h
  obtain rfl := Except.ok.inj h
  obtain ⟨hrest, hgroups⟩ := ensureSessionGroup_spec hensure
  generalize ensured.groups = groups at hrest hgroups
  subst hrest
  obtain ⟨_, hvalid, -⟩ := Except.bind_eq_ok_iff.mp hvalid
  rw [hprofile.sanitizeImportedProfile_eq] at hvalid ⊢
  exact ⟨name, hname, (Imports.of_groups hgroups).trans (upsert_imports hnew hvalid)⟩

theorem importProfiles_spec {newId : Nat → Uuid} {profiles : List Profile} {i : Nat}
    (hprofiles : ∀ profile ∈ profiles, Sanitized profile)
    (hids : i + profiles.length ≤ maxSessionTransferProfiles)
    (hinj : ∀ i < maxSessionTransferProfiles, ∀ j < maxSessionTransferProfiles,
      newId i = newId j → i = j)
    (hnew : ∀ j, i ≤ j → j < maxSessionTransferProfiles → newId j ∉ store.sessions.map (·.id))
    (h : importProfiles newId importedGroup i profiles store = .ok store') :
    ∃ names, Resolves (copyName · maxSessionNameChars) store.names (profiles.map (·.name)) names ∧
      Imports store store' (addedWith (importedAs importedGroup) newId i profiles names) := by
  induction profiles generalizing store i with
  | nil =>
    cases h
    exact ⟨[], .nil _, .nil _⟩
  | cons profile profiles ih =>
    rw [List.forall_mem_cons] at hprofiles
    rw [List.length_cons] at hids
    obtain ⟨next, hnext, h⟩ := Except.bind_eq_ok_iff.mp h
    -- the first profile takes a name that the others must avoid
    obtain ⟨name, hname, himports⟩ :=
      importProfile_spec hprofiles.1 (hnew i (Nat.le_refl i) (by omega)) hnext
    have hnames : next.names = store.names ++ [name] := by
      unfold SessionStore.names
      rw [himports.sessions, List.map_append]
      rfl
    obtain ⟨names, hresolves, hrest⟩ := ih hprofiles.2 (by omega) (fun j hj hlt => by
      rw [himports.sessions, List.map_append, List.mem_append, not_or, List.map_singleton,
        List.mem_singleton]
      refine ⟨hnew j (by omega) hlt, fun heq => ?_⟩
      have hij := hinj j hlt i (by omega) heq
      omega) h
    rw [hnames] at hresolves
    refine ⟨name :: names, ?_, himports.trans hrest⟩
    rcases uniqueImportedSessionName_cases hname with ⟨hfree, rfl⟩ | ⟨htaken, k, rfl, hfirst⟩
    · exact .keep hfree hresolves
    · exact .copy htaken hfirst hresolves

/-- The group of an import is there before its profiles are. -/
theorem importGroup_spec {envelope : SessionTransferEnvelope ConnectionFields}
    {targetGroup : String} {mode : SessionImportMode}
    (h : store.importGroup envelope targetGroup mode = .ok (store', importedGroup)) :
    Imports store store' [] := by
  -- a group that is made sure of adds no session
  have hensured {groupName : String} {next : Store}
      (hensure : store.ensureSessionGroup groupName = .ok next) : Imports store next [] := by
    obtain ⟨hrest, hgroups⟩ := ensureSessionGroup_spec hensure
    generalize next.groups = groups at hrest hgroups
    subst hrest
    exact .of_groups hgroups
  cases mode with
  | singleServer =>
    obtain ⟨_, -, h⟩ := Except.bind_eq_ok_iff.mp h
    obtain ⟨ensured, hensure, h⟩ := Except.bind_eq_ok_iff.mp h
    cases h
    exact hensured hensure
  | intoGroup =>
    obtain ⟨_, -, h⟩ := Except.bind_eq_ok_iff.mp h
    obtain ⟨_, -, h⟩ := Except.bind_eq_ok_iff.mp h
    obtain ⟨ensured, hensure, h⟩ := Except.bind_eq_ok_iff.mp h
    cases h
    exact hensured hensure
  | automatic =>
    simp only [importGroup] at h
    split at h
    · cases h
    · obtain ⟨group, -, h⟩ := Except.bind_eq_ok_iff.mp h
      obtain ⟨⟨added, changed⟩, hadd, h⟩ := Except.bind_eq_ok_iff.mp h
      cases h
      obtain ⟨-, ⟨-, rfl, -⟩ | ⟨-, -, rfl⟩⟩ := addGroup_cases hadd
      · exact .nil _
      · exact .of_groups (List.prefix_append _ _)
    · cases h
      exact .nil _

/-- The settings of a profile, in another place. -/
def SameSettings (profile copy : Profile) : Prop :=
  copy = { profile with id := copy.id, name := copy.name, groupName := copy.groupName }

theorem sameSettings_importedAs (importedGroup : Option String) (id : Uuid) (name : String)
    (profile : Profile) : SameSettings profile (importedAs importedGroup id name profile) := by
  unfold SameSettings importedAs
  generalize normalizeGroupName (importDestination importedGroup profile) = group
  rfl

/-- What an import adds: the profiles of the transfer in their order, each under the next
    identifier, with nothing trusted, under a name that no other profile has and in a group that is
    there or in none.  Everything else stays. -/
structure Imported (newId : Nat → Uuid) (profiles : List Profile) (store store' : Store)
    (added : List Profile) : Prop where
  copies : Copies store store' added
  settings : List.Forall₂ SameSettings profiles added
  ids : added.map (·.id) = (List.range' 0 profiles.length).map newId
  sanitized : ∀ profile ∈ added, Sanitized profile
  names : Resolves (copyName · maxSessionNameChars) store.names (profiles.map (·.name))
    (added.map (·.name))
  registered : ∀ profile ∈ added, profile.groupName = "" ∨ profile.groupName ∈ store'.groups
  groups : store.groups <+: store'.groups
  rest : store' = { store with groups := store'.groups, sessions := store'.sessions }

theorem Imports.imported {newId : Nat → Uuid} {profiles : List Profile} {names : List String}
    (h : Imports store store' (addedWith (importedAs importedGroup) newId 0 profiles names))
    (hprofiles : ∀ profile ∈ profiles, Sanitized profile)
    (hnames : Resolves (copyName · maxSessionNameChars) store.names (profiles.map (·.name)) names) :
    Imported newId profiles store store'
      (addedWith (importedAs importedGroup) newId 0 profiles names) := by
  have hlen : names.length = profiles.length := by
    rw [hnames.length, List.length_map]
  have haddedNames : (addedWith (importedAs importedGroup) newId 0 profiles names).map (·.name) =
      names := names_addedWith (fun _ _ _ => rfl) hlen
  refine ⟨⟨h.sessions, h.valid, fun copy hcopy => hnames.fresh.disjoint _ ?_, ?_⟩,
    forall₂_addedWith (fun _ _ _ _ => sameSettings_importedAs _ _ _ _) hlen,
    ids_addedWith (fun _ _ _ => rfl) hlen,
    fun profile hprofile => ?_, ?_, h.registered, h.groups, h.rest⟩
  · rw [← haddedNames]
    exact List.mem_map_of_mem hcopy
  · rw [haddedNames]
    exact hnames.fresh.nodup
  · obtain ⟨j, source, hsource, name, -, rfl⟩ := mem_addedWith hprofile
    exact (hprofiles source hsource).congr rfl rfl
  · rw [haddedNames]
    exact hnames

theorem importTransfer_cases {newId : Nat → Uuid} {text targetGroup : String}
    {mode : SessionImportMode}
    {fromStr : String → Except String (SessionTransferEnvelope ConnectionFields)}
    (hnew : NewIds newId store)
    (h : store.importTransfer fromStr newId text mode targetGroup = .ok store') :
    ∃ envelope next importedGroup names, parseSessionTransfer fromStr text = .ok envelope ∧
      store.importGroup envelope (normalizeGroupName targetGroup) mode = .ok (next, importedGroup) ∧
      Resolves (copyName · maxSessionNameChars) store.names (envelope.profiles.map (·.name)) names ∧
      Imports store store'
        (addedWith (importedAs importedGroup) newId 0 envelope.profiles names) := by
  obtain ⟨envelope, hparse, h⟩ := Except.bind_eq_ok_iff.mp h
  obtain ⟨⟨next, importedGroup⟩, hgroup, h⟩ := Except.bind_eq_ok_iff.mp h
  have hstart := importGroup_spec hgroup
  have hsessions : next.sessions = store.sessions := by
    rw [hstart.sessions, List.append_nil]
  obtain ⟨names, hnames, hadded⟩ := importProfiles_spec (sanitized_of_parse hparse)
    (by rw [Nat.zero_add]; exact length_profiles_of_parse hparse) hnew.1
    (fun j _ hj => hsessions ▸ hnew.2 j hj) h
  have hsame : next.names = store.names := by
    rw [SessionStore.names, hsessions, SessionStore.names]
  rw [hsame] at hnames
  exact ⟨envelope, next, importedGroup, names, hparse, hgroup, hnames, hstart.trans hadded⟩

end Import

/-! ## Exports -/

/-- A text that `serde_json` wrote is read as what was written, and is not blank. -/
structure TransferFormat.ReadsBack (F : TransferFormat) (text : String) : Prop where
  read : ∀ wire, F.toStringPretty wire = text → F.fromStr text = .ok wire
  printed : trim text ≠ ""

/-- A profile as it is in an export after it was read back: its icon is resolved. -/
def exportedAs (p : Platform) (source : Profile) : Profile :=
  { sanitizeTransferredProfile source with
    systemIconOverride := source.systemIconOverride.bind p.systemIconId }

section Export

variable {F : TransferFormat} {p : Platform} {source : Profile}

/-- `sanitize_transferred_profile` with the name of the group given. -/
def clearTrust (groupName : String) (profile : Profile) : Profile :=
  { profile with id := .nil, detectedSystem := none, groupName }.modifySsh fun ssh =>
    { ssh with
      credentialStorage := none
      credentialVaultKeySaved := false
      hostKeyFingerprint := none }

theorem sanitizeTransferredProfile_eq (profile : Profile) :
    sanitizeTransferredProfile profile =
      clearTrust (normalizeGroupName profile.groupName) profile :=
  rfl

theorem clearTrust_fields (groupName : String) (profile : Profile) :
    (clearTrust groupName profile).name = profile.name ∧
      (clearTrust groupName profile).groupName = groupName ∧
      (clearTrust groupName profile).systemIconOverride = profile.systemIconOverride := by
  unfold clearTrust SessionProfile.modifySsh
  split
  · exact ⟨rfl, rfl, rfl⟩
  · exact ⟨rfl, rfl, rfl⟩

/-- What is cleared stays so, and a detection that came back goes again. -/
theorem clearTrust_clearTrust (groupName groupName' : String) (profile : Profile)
    (icon : Option String) (system : Option SystemDetection) :
    clearTrust groupName { clearTrust groupName' profile with
        systemIconOverride := icon, detectedSystem := system } =
      { clearTrust groupName profile with systemIconOverride := icon } := by
  obtain ⟨id, name, oldGroup, oldIcon, oldSystem, connection⟩ := profile
  cases connection with
  | ssh config => rfl
  | telnet config => rfl
  | serial config => rfl

/-- What an export has of a profile is read back, but for its icon. -/
theorem sanitizeTransferredProfile_reloaded (source : Profile) :
    sanitizeTransferredProfile ((sanitizeTransferredProfile source).reloaded p) =
      exportedAs p source := by
  have hgroup : normalizeGroupName ((sanitizeTransferredProfile source).reloaded p).groupName =
      normalizeGroupName source.groupName := by
    rw [SessionProfile.reloaded, sanitizeTransferredProfile_eq, (clearTrust_fields _ _).2.1,
      normalizeGroupName_idem]
  rw [sanitizeTransferredProfile_eq, hgroup, exportedAs, sanitizeTransferredProfile_eq,
    SessionProfile.reloaded, (clearTrust_fields _ _).2.2]
  exact clearTrust_clearTrust _ _ source _ _

/-- The icon is not checked. -/
theorem validateTransferredProfile_exportedAs (source : Profile) :
    validateTransferredProfile (exportedAs p source) =
      validateTransferredProfile (sanitizeTransferredProfile source) :=
  rfl

theorem serializeSessionTransfer_eq_ok_iff {envelope : SessionTransferEnvelope ConnectionFields}
    {text : String} :
    F.serializeSessionTransfer envelope = .ok text ↔
      validateSessionTransfer envelope = .ok () ∧
        (F.toStringPretty envelope.serialize).utf8ByteSize ≤ maxSessionTransferBytes ∧
        F.toStringPretty envelope.serialize = text := by
  unfold TransferFormat.serializeSessionTransfer
  constructor
  · intro h
    obtain ⟨_, hvalid, h⟩ := Except.bind_eq_ok_iff.mp h
    obtain ⟨_, hsize, h⟩ := Except.bind_eq_ok_iff.mp h
    rw [bailIf_eq_ok_iff, decide_eq_false_iff_not, Nat.not_lt] at hsize
    exact ⟨hvalid, hsize, Except.ok.inj h⟩
  · rintro ⟨hvalid, hsize, rfl⟩
    refine Except.bind_eq_ok_iff.mpr ⟨(), hvalid, ?_⟩
    exact Except.bind_eq_ok_iff.mpr ⟨(), bailIf_eq_ok_iff.mpr (by simpa using hsize), rfl⟩

/-- An export of sanitized profiles is accepted by an import. -/
theorem parse_exported {envelope : SessionTransferEnvelope ConnectionFields} {text : String}
    {sources : List Profile} (hsources : envelope.profiles = sources.map sanitizeTransferredProfile)
    (hexport : F.serializeSessionTransfer envelope = .ok text) (hread : F.ReadsBack text) :
    parseSessionTransfer (F.readEnvelope p) text =
      .ok { envelope with profiles := sources.map (exportedAs p) } := by
  obtain ⟨hvalid, hsize, htext⟩ := serializeSessionTransfer_eq_ok_iff.mp hexport
  obtain ⟨hformat, hversion, hlen, hkind, hprofiles⟩ := validateSessionTransfer_eq_ok_iff.mp hvalid
  -- every profile is read back, because it was valid when it was written
  have hmap : envelope.serialize.profiles.mapM (·.deserialize p) =
      .ok (envelope.profiles.map (·.reloaded p)) := by
    show (envelope.profiles.map SessionProfile.serialize).mapM (·.deserialize p) = _
    rw [List.mapM_map]
    refine Except.mapM_eq_map fun profile hprofile => deserialize_serialize_profile ?_
    exact (Except.bind_eq_ok_iff.mp (hprofiles profile hprofile)).elim fun _ h => h.1
  have hdecoded : F.readEnvelope p text =
      .ok { envelope with profiles := envelope.profiles.map (·.reloaded p) } :=
    Except.bind_eq_ok_iff.mpr ⟨_, hread.read _ htext, Except.bind_eq_ok_iff.mpr ⟨_, hmap, rfl⟩⟩
  have hsanitized : (envelope.profiles.map (·.reloaded p)).map sanitizeTransferredProfile =
      sources.map (exportedAs p) := by
    rw [hsources, List.map_map, List.map_map]
    exact List.map_congr_left fun source _ => sanitizeTransferredProfile_reloaded source
  refine parseSessionTransfer_eq_ok_iff.mpr ⟨hread.printed, htext ▸ hsize, _, hdecoded, ?_, ?_⟩
  · dsimp only
    rw [hsanitized]
  -- the checks of the import are those of the export
  · rw [hsources] at hlen hprofiles
    rw [List.length_map] at hlen
    refine validateSessionTransfer_eq_ok_iff.mpr ⟨hformat, hversion, ?_, ?_, fun profile hmem => ?_⟩
    · dsimp only
      rwa [List.length_map]
    · unfold validateTransferKind at hkind ⊢
      rw [hsources, List.length_map] at hkind
      dsimp only
      rw [List.length_map]
      exact hkind
    · obtain ⟨source, hsource, rfl⟩ := List.mem_map.mp hmem
      rw [validateTransferredProfile_exportedAs]
      exact hprofiles _ (List.mem_map_of_mem hsource)

end Export

/-! ## Imports that succeed -/

section Succeeds

variable {store store' : Store} {importedGroup : Option String}

theorem length_trimmed_le (text : String) : (trim text).length ≤ text.length := by
  rw [← String.length_toList, ← String.length_toList, toList_trim]
  exact (List.rdropWhile_prefix _ _).length_le.trans (List.dropWhile_suffix _).length_le

theorem validateTransferText_of_required {label label' value : String} {maxChars : Nat}
    (h : validateRequiredText label value maxChars = .ok ()) :
    validateTransferText label' value maxChars = .ok () := by
  obtain ⟨hne, hlen, hcontrol⟩ := validateRequiredText_eq_ok_iff.mp h
  have htrim : (trim value).toList.any isControl = false := by
    rw [List.any_eq_false] at hcontrol ⊢
    rw [toList_trim]
    exact fun c hc => hcontrol c
      ((List.dropWhile_suffix _).mem ((List.rdropWhile_prefix _ _).mem hc))
  refine Except.bind_eq_ok_iff.mpr ⟨(), bailIf_eq_ok_iff.mpr (beq_eq_false_iff_ne.mpr hne), ?_⟩
  rw [bailIf_eq_ok_iff, htrim, Bool.or_false, decide_eq_false_iff_not, Nat.not_lt]
  exact (length_trimmed_le value).trans hlen

/-- A transferred profile stays valid under a valid name and in a valid group. -/
theorem validateTransferredProfile_rename {profile : Profile} {id : Uuid} {name groupName : String}
    (h : validateTransferredProfile profile = .ok ())
    (hname : validateRequiredText "session name" name maxSessionNameChars = .ok ())
    (hgroup : validateGroupName groupName true = .ok ()) :
    validateTransferredProfile ({ profile with id, name, groupName } : Profile) = .ok () := by
  obtain ⟨_, hvalid, h⟩ := Except.bind_eq_ok_iff.mp h
  obtain ⟨_, -, h⟩ := Except.bind_eq_ok_iff.mp h
  refine Except.bind_eq_ok_iff.mpr ⟨(), ?_, ?_⟩
  · exact validate_profile_eq_ok_iff.mpr
      ⟨hname, hgroup, (validate_profile_eq_ok_iff.mp hvalid).2.2⟩
  · exact Except.bind_eq_ok_iff.mpr ⟨(), validateTransferText_of_required hname, h⟩

theorem ensureSessionGroup_isOk {groupName : String}
    (h : groupName = "" ∨ validateGroupName groupName false = .ok ()) :
    ∃ next, store.ensureSessionGroup groupName = .ok next := by
  unfold ensureSessionGroup
  split
  · exact ⟨store, rfl⟩
  · rename_i hadd
    have hvalid := h.resolve_left fun hempty => hadd (.inl hempty)
    unfold addGroup
    dsimp only
    split
    · exact ⟨store, Except.map_eq_ok_iff.mpr
        ⟨_, Except.bind_eq_ok_iff.mpr ⟨(), hvalid, rfl⟩, rfl⟩⟩
    · exact ⟨_, Except.map_eq_ok_iff.mpr
        ⟨_, Except.bind_eq_ok_iff.mpr ⟨(), hvalid, rfl⟩, rfl⟩⟩

theorem length_upsert_le (store : Store) (profile : Profile) :
    (store.upsert profile).sessions.length ≤ store.sessions.length + 1 := by
  have hids := congrArg List.length (map_id_upsert store profile)
  split at hids <;> simp at hids <;> omega

theorem importProfile_isOk {newId : Uuid} {profile : Profile} (hprofile : Sanitized profile)
    (hvalid : validateTransferredProfile profile = .ok ())
    (hgroup : importDestination importedGroup profile = "" ∨
      validateGroupName (importDestination importedGroup profile) false = .ok ())
    (hlen : store.sessions.length < maxCopies) :
    ∃ next, store.importProfile newId importedGroup profile = .ok next ∧
      next.sessions.length ≤ store.sessions.length + 1 := by
  obtain ⟨ensured, hensure⟩ : ∃ ensured, store.ensureSessionGroup
    (importDestination importedGroup profile) = .ok ensured := ensureSessionGroup_isOk hgroup
  obtain ⟨hrest, -⟩ := ensureSessionGroup_spec hensure
  have hsessions : ensured.sessions = store.sessions := by rw [hrest]
  obtain ⟨_, hprofileValid, -⟩ := Except.bind_eq_ok_iff.mp hvalid
  have hlenEnsured : ensured.sessions.length < maxCopies := by rwa [hsessions]
  obtain ⟨name, hname, -, hvalidName⟩ :=
    uniqueImportedSessionName_spec hlenEnsured (validate_profile_eq_ok_iff.mp hprofileValid).1
  have hoptional : validateGroupName (importDestination importedGroup profile) true = .ok () := by
    rcases hgroup with hempty | hgroup
    · rw [hempty]
      decide
    · exact validateGroupName_optional hgroup
  refine ⟨_, Except.bind_eq_ok_iff.mpr ⟨ensured, hensure, Except.bind_eq_ok_iff.mpr ⟨name, hname,
    Except.bind_eq_ok_iff.mpr ⟨(), ?_, rfl⟩⟩⟩, ?_⟩
  · rw [hprofile.sanitizeImportedProfile_eq]
    exact validateTransferredProfile_rename hvalid hvalidName hoptional
  · rw [← hsessions]
    exact length_upsert_le ensured _

theorem importProfiles_isOk {newId : Nat → Uuid} {profiles : List Profile} {i : Nat}
    (hprofiles : ∀ profile ∈ profiles, Sanitized profile)
    (hvalid : ∀ profile ∈ profiles, validateTransferredProfile profile = .ok ())
    (hgroups : ∀ profile ∈ profiles, importDestination importedGroup profile = "" ∨
      validateGroupName (importDestination importedGroup profile) false = .ok ())
    (hlen : store.sessions.length + profiles.length < maxCopies) :
    ∃ store', importProfiles newId importedGroup i profiles store = .ok store' := by
  induction profiles generalizing store i with
  | nil => exact ⟨store, rfl⟩
  | cons profile profiles ih =>
    rw [List.forall_mem_cons] at hprofiles hvalid hgroups
    rw [List.length_cons] at hlen
    have hroom : store.sessions.length < maxCopies := by omega
    obtain ⟨next, hnext, hle⟩ : ∃ next, store.importProfile (newId i) importedGroup profile =
      .ok next ∧ next.sessions.length ≤ store.sessions.length + 1 :=
      importProfile_isOk hprofiles.1 hvalid.1 hgroups.1 hroom
    obtain ⟨store', hstore'⟩ := ih (i := i + 1) hprofiles.2 hvalid.2 hgroups.2
      (by omega : next.sessions.length + profiles.length < maxCopies)
    exact ⟨store', Except.bind_eq_ok_iff.mpr ⟨next, hnext, hstore'⟩⟩

end Succeeds

/-! ## Imports of exports -/

/-- The modes that accept an export: a target group must be valid where there is one. -/
def Accepts : SessionImportMode → SessionTransferKind → String → List Profile → Prop
  | .automatic, _, _, _ => True
  | .singleServer, kind, target, _ =>
    kind = .server ∧ (normalizeGroupName target = "" ∨ validateGroupName target false = .ok ())
  | .intoGroup, _, target, sources => validateGroupName target false = .ok () ∧ sources ≠ []

/-- A profile keeps its group, unless the import has a target group. -/
def importedGroupName : SessionImportMode → String → Profile → String
  | .automatic, _, source => normalizeGroupName source.groupName
  | .singleServer, target, _ => normalizeGroupName target
  | .intoGroup, target, _ => normalizeGroupName target

/-- The exports of a store: of one profile, and of the profiles of one group. -/
inductive Exports (F : TransferFormat) (store : Store) :
    SessionTransferKind → List Profile → String → Prop
  | server {parseStr : String → Option Uuid} {sessionId text : String} {id : Uuid}
    {profile : Profile} : parseStr sessionId = some id → store.find id = some profile →
      F.exportSessionProfile parseStr sessionId store = .ok text →
      Exports F store .server [profile] text
  | group {groupName text : String} : F.exportSessionGroup groupName store = .ok text →
    Exports F store .group (store.members groupName) text

section Reproduce

variable {F : TransferFormat} {p : Platform} {store empty : Store} {kind : SessionTransferKind}
  {sources : List Profile} {source : Profile} {text target : String} {mode : SessionImportMode}

/-- The envelope of an export. -/
theorem Exports.envelope (h : Exports F store kind sources text) :
    ∃ envelope : SessionTransferEnvelope ConnectionFields, envelope.kind = kind ∧
      envelope.profiles = sources.map sanitizeTransferredProfile ∧
      F.serializeSessionTransfer envelope = .ok text ∧
      (kind = .group → ∃ group, envelope.groupName = some group ∧
        validateGroupName group false = .ok () ∧
        ∀ source ∈ sources, normalizeGroupName source.groupName = normalizeGroupName group) := by
  cases h with
  | server hid hfind hexport =>
    unfold TransferFormat.exportSessionProfile at hexport
    rw [hid] at hexport
    dsimp only at hexport
    rw [hfind] at hexport
    exact ⟨_, rfl, rfl, hexport, nofun⟩
  | @group groupName _ hexport =>
    obtain ⟨group, hgroup, hexport⟩ := Except.bind_eq_ok_iff.mp hexport
    obtain ⟨_, hvalid, hgroup⟩ := Except.bind_eq_ok_iff.mp hgroup
    obtain rfl := Except.ok.inj hgroup
    obtain ⟨_, -, hexport⟩ := Except.bind_eq_ok_iff.mp hexport
    obtain ⟨_, -, hexport⟩ := Except.bind_eq_ok_iff.mp hexport
    refine ⟨_, rfl, rfl, hexport, fun _ => ⟨_, rfl, hvalid, fun source hsource => ?_⟩⟩
    rw [normalizeGroupName_idem]
    exact of_decide_eq_true (List.mem_filter.mp hsource).2

/-- An import into an empty store finds or makes its group. -/
theorem importGroup_isOk {envelope : SessionTransferEnvelope ConnectionFields}
    (hempty : empty.groups = []) (haccepts : Accepts mode envelope.kind target envelope.profiles)
    (hgroup : envelope.kind = .group → ∃ group, envelope.groupName = some group ∧
      validateGroupName group false = .ok () ∧
      ∀ profile ∈ envelope.profiles,
        normalizeGroupName profile.groupName = normalizeGroupName group) :
    ∃ next importedGroup,
      empty.importGroup envelope (normalizeGroupName target) mode = .ok (next, importedGroup) ∧
      ∀ profile ∈ envelope.profiles,
        importDestination importedGroup profile = importedGroupName mode target profile := by
  cases mode with
  | singleServer =>
    obtain ⟨hkind, htarget⟩ := haccepts
    obtain ⟨next, hnext⟩ : ∃ next,
      empty.ensureSessionGroup (normalizeGroupName target) = .ok next :=
      -- the target is checked in its normal form
      ensureSessionGroup_isOk (htarget.imp_right fun h => by rwa [validateGroupName_normalize])
    refine ⟨next, some (normalizeGroupName target), ?_, fun profile _ => ?_⟩
    swap
    · rw [importDestination, Option.getD_some, importedGroupName]
    refine Except.bind_eq_ok_iff.mpr ⟨(), bailIf_eq_ok_iff.mpr ?_, ?_⟩
    · rw [hkind]
      rfl
    · exact Except.bind_eq_ok_iff.mpr ⟨next, hnext, rfl⟩
  | intoGroup =>
    obtain ⟨htarget, hne⟩ := haccepts
    have hnormal : validateGroupName (normalizeGroupName target) false = .ok () := by
      rwa [validateGroupName_normalize]
    have hname := normalizedTransferGroupName_eq hnormal
    rw [normalizeGroupName_idem] at hname
    obtain ⟨next, hnext⟩ : ∃ next,
      empty.ensureSessionGroup (normalizeGroupName target) = .ok next :=
      ensureSessionGroup_isOk (.inr hnormal)
    refine ⟨next, some (normalizeGroupName target), ?_, fun profile _ => ?_⟩
    swap
    · rw [importDestination, Option.getD_some, importedGroupName]
    refine Except.bind_eq_ok_iff.mpr ⟨_, hname, ?_⟩
    refine Except.bind_eq_ok_iff.mpr ⟨(), bailIf_eq_ok_iff.mpr ?_, ?_⟩
    · rw [List.isEmpty_eq_false_iff]
      exact hne
    · exact Except.bind_eq_ok_iff.mpr ⟨next, hnext, rfl⟩
  | automatic =>
    simp only [importGroup]
    rcases hkind : envelope.kind with _ | _
    · refine ⟨empty, none, rfl, fun profile _ => ?_⟩
      rw [importDestination, Option.getD_none, importedGroupName]
    · obtain ⟨group, hsome, hvalid, hsame⟩ := hgroup hkind
      -- into an empty store the group comes under its own name
      have hnew : normalizeGroupName group ∉ empty.groups := by
        rw [hempty]
        exact List.not_mem_nil
      have hnormal : validateGroupName (normalizeGroupName group) false = .ok () := by
        rwa [validateGroupName_normalize]
      have hname : empty.uniqueImportedGroupName group = .ok (normalizeGroupName group) := by
        rw [uniqueImportedGroupName_eq hvalid, if_neg hnew]
      have hadd := addGroup_of_new hnormal (normalizeGroupName_idem group) hnew
      rw [hsome]
      refine ⟨{ empty with groups := empty.groups ++ [normalizeGroupName group] },
        some (normalizeGroupName group), Except.bind_eq_ok_iff.mpr ⟨_, hname, ?_⟩,
        fun profile hprofile => ?_⟩
      · exact Except.bind_eq_ok_iff.mpr ⟨_, hadd, rfl⟩
      · rw [importDestination, Option.getD_some, importedGroupName, hsame profile hprofile]

/-- A profile that an import of an export made of `source`. -/
def IsReproduced (p : Platform) (mode : SessionImportMode) (target : String)
    (source copy : Profile) : Prop :=
  copy = { exportedAs p source with
    id := copy.id, name := copy.name, groupName := importedGroupName mode target source }

/-- The exported profiles in their order.  They have their names, unless two have the same. -/
structure Reproduced (p : Platform) (mode : SessionImportMode) (target : String)
    (sources : List Profile) (store : Store) : Prop where
  profiles : List.Forall₂ (IsReproduced p mode target) sources store.sessions
  resolved : Resolves (copyName · maxSessionNameChars) [] (sources.map (·.name)) store.names
  names : store.names = sources.map (·.name) ↔ (sources.map (·.name)).Nodup

theorem exportedAs_fields (p : Platform) (source : Profile) :
    (exportedAs p source).name = source.name ∧
      (exportedAs p source).groupName = normalizeGroupName source.groupName :=
  ⟨(clearTrust_fields _ source).1, (clearTrust_fields _ source).2.1⟩

theorem sanitized_exportedAs (p : Platform) (source : Profile) : Sanitized (exportedAs p source) :=
  (sanitized_sanitizeTransferredProfile source).congr rfl rfl

/-- The group that an export is imported into is none, or valid. -/
theorem importedGroupName_valid {profile : Profile} (haccepts : Accepts mode kind target sources)
    (hvalid : validateGroupName profile.groupName true = .ok ()) :
    importedGroupName mode target profile = "" ∨
      validateGroupName (importedGroupName mode target profile) false = .ok () := by
  cases mode with
  | singleServer =>
    rw [importedGroupName]
    exact haccepts.2.imp_right fun h => by rwa [validateGroupName_normalize]
  | intoGroup =>
    rw [importedGroupName, validateGroupName_normalize]
    exact .inr haccepts.1
  | automatic =>
    rw [importedGroupName]
    by_cases hempty : normalizeGroupName profile.groupName = ""
    · exact .inl hempty
    · rw [validateGroupName_normalize]
      exact .inr (validateGroupName_required hvalid hempty)

theorem importedGroupName_idem (mode : SessionImportMode) (target : String) (profile : Profile) :
    normalizeGroupName (importedGroupName mode target profile) =
      importedGroupName mode target profile := by
  cases mode with
  | singleServer => rw [importedGroupName, normalizeGroupName_idem]
  | intoGroup => rw [importedGroupName, normalizeGroupName_idem]
  | automatic => rw [importedGroupName, normalizeGroupName_idem]

theorem importedGroupName_exportedAs (mode : SessionImportMode) (target : String)
    (source : Profile) :
    importedGroupName mode target (exportedAs p source) =
      importedGroupName mode target source := by
  cases mode with
  | singleServer => rw [importedGroupName, importedGroupName]
  | intoGroup => rw [importedGroupName, importedGroupName]
  | automatic =>
    rw [importedGroupName, importedGroupName, (exportedAs_fields p source).2,
      normalizeGroupName_idem]

theorem Accepts.map {f : Profile → Profile} (h : Accepts mode kind target sources) :
    Accepts mode kind target (sources.map f) := by
  cases mode with
  | singleServer => exact h
  | intoGroup => exact ⟨h.1, fun hnil => h.2 (List.map_eq_nil_iff.mp hnil)⟩
  | automatic => exact h

/-- The profiles of an export as an import adds them. -/
theorem reproduced_of_imports {newId : Nat → Uuid} {names : List String}
    {importedGroup : Option String} {store' : Store} (hsessions : empty.sessions = [])
    (hdestination : ∀ profile ∈ sources.map (exportedAs p),
      importDestination importedGroup profile = importedGroupName mode target profile)
    (hnames : Resolves (copyName · maxSessionNameChars) empty.names
      ((sources.map (exportedAs p)).map (·.name)) names)
    (himports : Imports empty store'
      (addedWith (importedAs importedGroup) newId 0 (sources.map (exportedAs p)) names)) :
    Reproduced p mode target sources store' := by
  have hlen : names.length = (sources.map (exportedAs p)).length := by
    rw [hnames.length, List.length_map]
  have hadded := himports.sessions
  rw [hsessions, List.nil_append] at hadded
  have hnamesAfter : store'.names = names := by
    rw [SessionStore.names, hadded]
    exact names_addedWith (fun _ _ _ => rfl) hlen
  have hsame : (sources.map (exportedAs p)).map (·.name) = sources.map (·.name) := by
    rw [List.map_map]
    exact List.map_congr_left fun source _ => (exportedAs_fields p source).1
  rw [hsame, SessionStore.names, hsessions, List.map_nil] at hnames
  refine ⟨?_, hnamesAfter ▸ hnames, ?_⟩
  · rw [hadded]
    -- each copy is its exported profile but for id, name and group
    have hall : List.Forall₂ (fun profile copy => copy = { profile with
        id := copy.id, name := copy.name, groupName := importedGroupName mode target profile })
        (sources.map (exportedAs p))
        (addedWith (importedAs importedGroup) newId 0 (sources.map (exportedAs p)) names) :=
      forall₂_addedWith (fun j name profile hprofile => by
        rw [importedAs, hdestination profile hprofile, importedGroupName_idem]) hlen
    refine (List.forall₂_map_left_iff.mp hall).imp fun source copy hcopy => ?_
    rw [importedGroupName_exportedAs] at hcopy
    exact hcopy
  · rw [hnamesAfter, hnames.eq_iff]
    exact ⟨fun h => h.nodup, fun h => ⟨h, fun _ _ => List.not_mem_nil⟩⟩

theorem import_reproduces {newId : Nat → Uuid} (hexport : Exports F store kind sources text)
    (hread : F.ReadsBack text) (hgroups : empty.groups = []) (hsessions : empty.sessions = [])
    (hnew : NewIds newId empty) (haccepts : Accepts mode kind target sources) :
    ∃ store', empty.importTransfer (F.readEnvelope p) newId text mode target = .ok store' ∧
      Reproduced p mode target sources store' := by
  obtain ⟨envelope, rfl, hprofiles, hserialized, hgroup⟩ := hexport.envelope
  have hparse : parseSessionTransfer (F.readEnvelope p) text =
      .ok { envelope with profiles := sources.map (exportedAs p) } :=
    parse_exported hprofiles hserialized hread
  obtain ⟨-, -, hlen, -, hvalid⟩ := validateSessionTransfer_eq_ok_iff.mp
    (serializeSessionTransfer_eq_ok_iff.mp hserialized).1
  rw [hprofiles] at hlen hvalid
  -- what was exported is valid when it is read back
  have hvalidExported : ∀ profile ∈ sources.map (exportedAs p),
      validateTransferredProfile profile = .ok () := by
    intro profile hprofile
    obtain ⟨source, hsource, rfl⟩ := List.mem_map.mp hprofile
    rw [validateTransferredProfile_exportedAs]
    exact hvalid _ (List.mem_map_of_mem hsource)
  have hgroupOf : envelope.kind = .group → ∃ group, envelope.groupName = some group ∧
      validateGroupName group false = .ok () ∧ ∀ profile ∈ sources.map (exportedAs p),
        normalizeGroupName profile.groupName = normalizeGroupName group := by
    intro hkind
    obtain ⟨group, hsome, hgroupValid, hsame⟩ := hgroup hkind
    refine ⟨group, hsome, hgroupValid, fun profile hprofile => ?_⟩
    obtain ⟨source, hsource, rfl⟩ := List.mem_map.mp hprofile
    rw [(exportedAs_fields p source).2, normalizeGroupName_idem]
    exact hsame source hsource
  -- first the destination group, then the profiles
  obtain ⟨next, importedGroup, hnext, hdestination⟩ : ∃ next importedGroup,
      empty.importGroup { envelope with profiles := sources.map (exportedAs p) }
        (normalizeGroupName target) mode = .ok (next, importedGroup) ∧
      ∀ profile ∈ sources.map (exportedAs p),
        importDestination importedGroup profile = importedGroupName mode target profile :=
    importGroup_isOk hgroups haccepts.map hgroupOf
  have hnextSessions : next.sessions = [] := by
    rw [(importGroup_spec hnext).sessions, hsessions]
    rfl
  have hgroupsValid : ∀ profile ∈ sources.map (exportedAs p),
      importDestination importedGroup profile = "" ∨
        validateGroupName (importDestination importedGroup profile) false = .ok () := by
    intro profile hprofile
    rw [hdestination profile hprofile]
    obtain ⟨_, hprofileValid, -⟩ := Except.bind_eq_ok_iff.mp (hvalidExported profile hprofile)
    exact importedGroupName_valid haccepts (validate_profile_eq_ok_iff.mp hprofileValid).2.1
  have hsanitized : ∀ profile ∈ sources.map (exportedAs p), Sanitized profile := by
    intro profile hprofile
    obtain ⟨source, -, rfl⟩ := List.mem_map.mp hprofile
    exact sanitized_exportedAs p source
  have hroom : next.sessions.length + (sources.map (exportedAs p)).length < maxCopies := by
    rw [hnextSessions, List.length_nil, Nat.zero_add, List.length_map]
    rw [List.length_map] at hlen
    exact Nat.lt_of_le_of_lt hlen (by decide)
  obtain ⟨store', hstore'⟩ : ∃ store', importProfiles newId importedGroup 0
    (sources.map (exportedAs p)) next = .ok store' :=
    importProfiles_isOk hsanitized hvalidExported hgroupsValid hroom
  have himport : empty.importTransfer (F.readEnvelope p) newId text mode target = .ok store' :=
    Except.bind_eq_ok_iff.mpr ⟨_, hparse, Except.bind_eq_ok_iff.mpr ⟨_, hnext, hstore'⟩⟩
  refine ⟨store', himport, ?_⟩
  -- the import is also one of those that `importTransfer_cases` describes, with the same parts
  obtain ⟨other, _, group, names, hother, hotherGroup, hnames, hadded⟩ :=
    importTransfer_cases hnew himport
  rw [hparse] at hother
  obtain rfl := Except.ok.inj hother
  rw [hnext] at hotherGroup
  obtain ⟨-, rfl⟩ := Prod.mk.inj (Except.ok.inj hotherGroup)
  exact reproduced_of_imports hsessions hdestination hnames hadded

end Reproduce

/-- An import that succeeds adds the profiles of the transfer and nothing that was trusted about
    them.  An export that is imported into an empty store, in a mode that accepts it, gives the
    profiles back, with their names if these are all different. -/
theorem session_transfers (F : TransferFormat) (p : Platform) :
    (∀ (store store' : Store) (newId : Nat → Uuid) (text : String) (mode : SessionImportMode)
        (target : String), NewIds newId store →
      store.importTransfer (F.readEnvelope p) newId text mode target = .ok store' →
      ∃ envelope added, parseSessionTransfer (F.readEnvelope p) text = .ok envelope ∧
        Imported newId envelope.profiles store store' added) ∧
    ∀ (store : Store) (kind : SessionTransferKind) (sources : List Profile) (text : String),
      Exports F store kind sources text → F.ReadsBack text →
      ∀ (empty : Store) (newId : Nat → Uuid) (mode : SessionImportMode) (target : String),
        empty.groups = [] → empty.sessions = [] → NewIds newId empty →
        Accepts mode kind target sources →
        ∃ store', empty.importTransfer (F.readEnvelope p) newId text mode target = .ok store' ∧
          Reproduced p mode target sources store' := by
  refine ⟨fun store store' newId text mode target hnew himport => ?_,
    fun store kind sources text hexport hread empty newId mode target hgroups hsessions hnew
      haccepts => ?_⟩
  · obtain ⟨envelope, next, importedGroup, names, hparse, -, hnames, hadded⟩ :=
      importTransfer_cases hnew himport
    exact ⟨envelope, _, hparse, hadded.imported (sanitized_of_parse hparse) hnames⟩
  · exact import_reproduces hexport hread hgroups hsessions hnew haccepts

/-! ## Servers of one name -/

deriving instance DecidableEq for SessionProfileWire
deriving instance DecidableEq for SessionTransferWire

/-- The servers that are given, in a group. -/
def teamOf (servers : List (Uuid × String × String)) : Store where
  version := currentSchemaVersion
  groups := ["Team"]
  sessions := servers.map fun server =>
    { id := server.1, name := server.2.1, groupName := "Team"
      connection := .telnet (.telnet ⟨server.2.2, 23⟩) }
  settings := Settings.default plainPlatform

/-- No servers, and no groups. -/
def noServers : Store := { teamOf [] with groups := [] }

def twoServers : Store := teamOf [(1, "web", "one.example"), (2, "web", "two.example")]

def twoServersWire : SessionTransferWire :=
  SessionTransferEnvelope.serialize
    { format := sessionTransferFormat, version := sessionTransferVersion, kind := .group
      groupName := some "Team", profiles := twoServers.sessions.map sanitizeTransferredProfile }

/-- A server in the text of an export. -/
def serverLines (host : String) : List String :=
  ["    \x7b",
   "      \x22id\x22: \x2200000000-0000-0000-0000-000000000000\x22,",
   "      \x22name\x22: \x22web\x22,",
   "      \x22group_name\x22: \x22Team\x22,",
   "      \x22connection\x22: \x7b",
   "        \x22protocol\x22: \x22telnet\x22,",
   "        \x22config\x22: \x7b",
   "          \x22host\x22: \x22" ++ host ++ "\x22,",
   "          \x22port\x22: 23",
   "        \x7d",
   "      \x7d"]

def twoServersText : String :=
  "\x7b\n" ++ "\n".intercalate (
    ["  \x22format\x22: \x22axssh-session-export\x22,",
     "  \x22version\x22: 1,",
     "  \x22kind\x22: \x22group\x22,",
     "  \x22group_name\x22: \x22Team\x22,",
     "  \x22profiles\x22: ["] ++
    serverLines "one.example" ++ ["    \x7d,"] ++ serverLines "two.example" ++ ["    \x7d"] ++
    ["  ]",
     "\x7d"])

theorem twoServersText_printed : trim twoServersText ≠ "" := by
  refine trim_ne_empty (c := '\x7b') ?_ (by decide)
  rw [twoServersText, String.toList_append]
  exact List.mem_append_left _ (by decide)

/-- The format as far as one text goes. -/
def singleFormat (expected : SessionTransferWire) (expectedText : String) : TransferFormat where
  toStringPretty wire := if wire = expected then expectedText else ""
  fromStr text := if text = expectedText then .ok expected else .error "expected value"

theorem singleFormat_readsBack (expected : SessionTransferWire) {expectedText : String}
    (hprinted : trim expectedText ≠ "") :
    (singleFormat expected expectedText).ReadsBack expectedText where
  read wire hwire := by
    have hempty : "" ≠ expectedText := fun heq => hprinted (heq ▸ (by decide))
    have hwrites : (if wire = expected then expectedText else "") = expectedText := hwire
    have hreads : (if expectedText = expectedText then .ok expected else .error "expected value" :
        Except String SessionTransferWire) = .ok expected := if_pos rfl
    by_cases heq : wire = expected
    · rw [heq]
      exact hreads
    · rw [if_neg heq] at hwrites
      exact absurd hwrites hempty
  printed := hprinted

def twoServersFormat : TransferFormat := singleFormat twoServersWire twoServersText

theorem twoServers_export :
    twoServersFormat.exportSessionGroup "Team" twoServers = .ok twoServersText := by
  decide +kernel

theorem two_servers_are_imported :
    ∃ store' envelope added,
      noServers.importTransfer (twoServersFormat.readEnvelope plainPlatform) laterIds twoServersText
        .automatic "" = .ok store' ∧
      parseSessionTransfer (twoServersFormat.readEnvelope plainPlatform) twoServersText =
        .ok envelope ∧
      Imported laterIds envelope.profiles noServers store' added ∧
      Reproduced plainPlatform .automatic "" (twoServers.members "Team") store' := by
  have hnew : NewIds laterIds noServers := laterIds_new (by decide)
  obtain ⟨store', himport, hreproduced⟩ :=
    (session_transfers twoServersFormat plainPlatform).2 _ _ _ _ (.group twoServers_export)
      (singleFormat_readsBack twoServersWire twoServersText_printed) noServers laterIds .automatic ""
      rfl rfl hnew trivial
  obtain ⟨envelope, added, hparse, himported⟩ :=
    (session_transfers twoServersFormat plainPlatform).1 _ _ _ _ _ _ hnew himport
  exact ⟨store', envelope, added, himport, hparse, himported, hreproduced⟩

/-- Two servers of one name are exported and imported, but not both under their name. -/
theorem equal_names_are_not_reproduced :
    twoServersFormat.exportSessionGroup "Team" twoServers = .ok twoServersText ∧
      (twoServers.members "Team").map (·.name) = ["web", "web"] ∧
      (∃ store', noServers.importTransfer (twoServersFormat.readEnvelope plainPlatform) laterIds
        twoServersText .automatic "" = .ok store') ∧
      ∀ newId mode target store', NewIds newId noServers →
        noServers.importTransfer (twoServersFormat.readEnvelope plainPlatform) newId twoServersText
          mode target = .ok store' →
        store'.names ≠ ["web", "web"] := by
  have hnew : NewIds laterIds noServers := laterIds_new (by decide)
  refine ⟨twoServers_export, by decide, ?_, fun newId mode target store' hnewId himport => ?_⟩
  · obtain ⟨store', himport, -⟩ :
      ∃ store', noServers.importTransfer (twoServersFormat.readEnvelope plainPlatform) laterIds
        twoServersText .automatic "" = .ok store' ∧ Reproduced plainPlatform _ _ _ store' :=
      import_reproduces (.group twoServers_export)
        (singleFormat_readsBack twoServersWire twoServersText_printed) rfl rfl hnew trivial
    exact ⟨store', himport⟩
  · obtain ⟨envelope, next, importedGroup, names, hparse, -, hnames, hadded⟩ :=
      importTransfer_cases hnewId himport
    have hcopies := (hadded.imported (sanitized_of_parse hparse) hnames).copies
    intro heq
    have hnodup : store'.names.Nodup := by
      rw [SessionStore.names, hcopies.sessions]
      exact hcopies.distinct
    rw [heq] at hnodup
    exact absurd hnodup (by decide)

end AxSsh.Profiles
