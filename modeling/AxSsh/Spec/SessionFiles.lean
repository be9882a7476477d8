import AxSsh.Native.SessionFiles
import AxSsh.Spec.SessionGroups
import AxSsh.Spec.SettingsNormal

/-!
# Session files are read back

Reading a file brings every value into its canonical form before it checks the store, and saving
checks the store as it is.  The two differ in the number of groups only: the groups that profiles
mention are counted after a file is read.

## Key results
- `deserialize_serialize`: what a store that was saved is read back as
- `normalizeGroups_of_consistent`: consistent groups stay as they are
- `saved_stores_load`: which saved stores can be loaded again
-/

namespace AxSsh.Profiles

open Credentials (settingText)
open SessionStore

variable {p : Platform}

/-- What a store passes when it is validated, the number of its groups apart. -/
structure Checked (store : Store) : Prop where
  sessions : store.sessions.length ≤ maxSessionProfiles
  recent : store.recentWorkspaces.length ≤ maxRecentWorkspaces
  paths : store.recentWorkspaces.forM validateWorkspacePath = .ok ()
  distinct : store.recentWorkspaces.Nodup
  groupNames : ∀ group ∈ store.groups, validateGroupName group false = .ok ()
  profiles : ∀ profile ∈ store.sessions, profile.validate = .ok ()

/-! ## Settings -/

theorem toTheme_serialize (theme : ThemeSettings) :
    ThemeSettingsWire.toTheme p
        { mode := theme.mode.asSetting, palette := some theme.palette.serialize
          customLight := some theme.customLight, customDark := some theme.customDark } =
      theme.normalize p := by
  have hmode : settingText theme.mode.asSetting = theme.mode.asSetting := by
    cases theme.mode <;> decide
  simp [ThemeSettingsWire.toTheme, ThemeSettingsWire.resolve, ThemeSettings.normalize, hmode]

theorem normalize_toSettings_serialize (hp : p.Lawful) (settings : Settings) :
    (settings.serialize.toSettings p).normalizeInPlace p = settings.normalizeInPlace p := by
  have happearance : (settings.rest.appearance.serialize settings.localShellIconOverride
      |>.toAppearance p).1.normalizeInPlace p = settings.rest.appearance.normalizeInPlace p := by
    have htheme := ThemeSettings.normalize_idem (p := p) settings.rest.appearance.theme
    unfold ThemeSettings.normalize at htheme
    simp [AppearanceSettings.serialize, AppearanceSettingsWire.toAppearance, toTheme_serialize,
      ThemeSettings.normalize, AppearanceSettings.normalizeInPlace, htheme]
  simp only [AppSettings.normalizeInPlace, SettingsFields.normalizeInPlace,
    AppSettingsWire.toSettings, AppSettings.serialize, happearance, hp.language_getD]
  simp [AppearanceSettingsWire.toAppearance, AppearanceSettings.serialize, hp.bind_icon]

/-- The settings of a current file are not migrated. -/
theorem migrate_current {version : Nat} (h : currentSchemaVersion ≤ version) (settings : Settings) :
    settings.migrate p version = settings := by
  unfold currentSchemaVersion at h
  simp only [AppSettings.migrate, AppSettings.migrateFilters, AppSettings.migrateBrightness,
    AppSettings.migrateTheme, AppSettings.migrateSidebar, AppSettings.migrateShortcut,
    platformShortcutSchemaVersion, workspaceDensitySchemaVersion, themeSettingsSchemaVersion,
    terminalTextBrightnessSchemaVersion, sftpFilterDefaultsSchemaVersion]
  simp [Nat.not_lt.mpr (Nat.le_trans (by decide : 37 ≤ 37) h),
    Nat.not_lt.mpr (Nat.le_trans (by decide : 6 ≤ 37) h),
    Nat.not_lt.mpr (Nat.le_trans (by decide : 7 ≤ 37) h),
    Nat.not_lt.mpr (Nat.le_trans (by decide : 9 ≤ 37) h),
    Nat.not_lt.mpr (Nat.le_trans (by decide : 22 ≤ 37) h)]

/-! ## Profiles -/

/-- A profile as it is read back: its icon is resolved, and a detection of another destination is
    dropped. -/
def SessionProfile.reloaded (p : Platform) (profile : Profile) : Profile :=
  { profile with
    systemIconOverride := profile.systemIconOverride.bind p.systemIconId
    detectedSystem := (deserializeDetection p profile.detectedSystem).filter
      (·.matchesProfile profile) }

theorem deserialize_serialize_profile {profile : Profile} (h : profile.validate = .ok ()) :
    profile.serialize.deserialize p = .ok (profile.reloaded p) := by
  have hvalid : (profile.reloaded p).validate = .ok () := h
  show (do
    (profile.reloaded p).validate
    pure (profile.reloaded p) : Except String Profile) = _
  rw [hvalid]
  rfl

theorem deserializeDetection_idem (hp : p.Lawful) (detection : Option SystemDetection) :
    deserializeDetection p (deserializeDetection p detection) = deserializeDetection p detection := by
  cases detection with
  | none => rfl
  | some system =>
    cases hrelease : validRelease system.release with
    | false => simp [deserializeDetection, Option.filter, hrelease]
    | true => simp [deserializeDetection, Option.filter, hrelease, hp.bind_icon]

theorem reloaded_idem (hp : p.Lawful) (profile : Profile) :
    (profile.reloaded p).reloaded p = profile.reloaded p := by
  have hdetection : (deserializeDetection p (profile.reloaded p).detectedSystem).filter
      (·.matchesProfile (profile.reloaded p)) = (profile.reloaded p).detectedSystem := by
    show (deserializeDetection p ((deserializeDetection p profile.detectedSystem).filter
        (·.matchesProfile profile))).filter (·.matchesProfile profile) =
      (deserializeDetection p profile.detectedSystem).filter (·.matchesProfile profile)
    have hidem := deserializeDetection_idem hp profile.detectedSystem
    cases hread : deserializeDetection p profile.detectedSystem with
    | none => rfl
    | some system =>
      rw [hread] at hidem
      cases hmatches : system.matchesProfile profile with
      | false =>
        rw [Option.filter_some, if_neg (by simp [hmatches])]
        rfl
      | true =>
        have hkept : (some system).filter (·.matchesProfile profile) = some system := by
          rw [Option.filter_some, if_pos hmatches]
        rw [hkept, hidem, hkept]
  have hicon : (profile.reloaded p).systemIconOverride.bind p.systemIconId =
      (profile.reloaded p).systemIconOverride := hp.bind_icon profile.systemIconOverride
  conv_lhs => rw [SessionProfile.reloaded]
  rw [hdetection, hicon]

theorem reloaded_deserialize (hp : p.Lawful) {wire : SessionProfileWire} {profile : Profile}
    (h : wire.deserialize p = .ok profile) :
    profile.validate = .ok () ∧ profile.reloaded p = profile := by
  obtain ⟨connection, -, h⟩ := Except.bind_eq_ok_iff.mp h
  obtain ⟨_, hvalid, h⟩ := Except.bind_eq_ok_iff.mp h
  obtain rfl := Except.ok.inj h
  refine ⟨hvalid, ?_⟩
  exact reloaded_idem hp
    { id := wire.id, name := wire.name, groupName := wire.groupName, connection
      systemIconOverride := wire.systemIconOverride, detectedSystem := wire.detectedSystem }

/-! ## Groups -/

theorem foldl_pushNormalized_of_listed {groups names : List String}
    (h : ∀ name ∈ names, normalizeGroupName name = "" ∨ normalizeGroupName name ∈ groups) :
    names.foldl pushNormalized groups = groups := by
  induction names with
  | nil => rfl
  | cons name names ih =>
    obtain ⟨-, hpush⟩ | ⟨hne, hnew, -⟩ := pushNormalized_cases groups name
    · rw [List.foldl_cons, hpush]
      exact ih fun other hother => h other (List.mem_cons_of_mem name hother)
    · exact absurd (h name List.mem_cons_self) (not_or.mpr ⟨hne, hnew⟩)

theorem foldl_pushNormalized_of_new {groups names : List String}
    (hnormal : ∀ name ∈ names, normalizeGroupName name = name ∧ name ≠ "")
    (hnodup : (groups ++ names).Nodup) : names.foldl pushNormalized groups = groups ++ names := by
  induction names generalizing groups with
  | nil => exact (List.append_nil groups).symm
  | cons name names ih =>
    obtain ⟨hname, hne⟩ := hnormal name List.mem_cons_self
    have hnew : name ∉ groups := fun hmem =>
      (List.nodup_append.mp hnodup).2.2 name hmem name List.mem_cons_self rfl
    obtain ⟨hold, -⟩ | ⟨-, -, hpush⟩ := pushNormalized_cases groups name
    · rw [hname] at hold
      exact absurd hold (not_or.mpr ⟨hne, hnew⟩)
    · rw [hname] at hpush
      rw [← List.singleton_append, ← List.append_assoc] at hnodup
      rw [List.foldl_cons, hpush, ih (fun other hother =>
        hnormal other (List.mem_cons_of_mem name hother)) hnodup, List.append_assoc,
        List.singleton_append]

theorem normalizeGroups_of_consistent {store : Store} (h : GroupsConsistent store) :
    store.normalizeGroups = store := by
  have hgroups : (store.groups ++ store.sessions.map (·.groupName)).foldl pushNormalized [] =
      store.groups := by
    rw [List.foldl_append, foldl_pushNormalized_of_new h.normalized (by simpa using h.nodup),
      List.nil_append]
    refine foldl_pushNormalized_of_listed fun name hname => ?_
    obtain ⟨profile, hprofile, rfl⟩ := List.mem_map.mp hname
    rw [h.normalized_profile hprofile]
    exact h.listed profile hprofile
  have hsessions : store.sessions.map (fun profile =>
      { profile with groupName := normalizeGroupName profile.groupName }) = store.sessions := by
    refine (List.map_congr_left fun profile hprofile => ?_).trans (List.map_id' _)
    rw [h.normalized_profile hprofile]
  unfold normalizeGroups
  rw [hgroups, hsessions]

theorem mem_foldl_pushNormalized {groups names : List String} {group : String}
    (h : group ∈ names.foldl pushNormalized groups) :
    group ∈ groups ∨ ∃ name ∈ names, group = normalizeGroupName name := by
  induction names generalizing groups with
  | nil => exact .inl h
  | cons name names ih =>
    rw [List.foldl_cons] at h
    rcases ih h with hmem | ⟨other, hother, heq⟩
    · obtain ⟨-, hpush⟩ | ⟨-, -, hpush⟩ := pushNormalized_cases groups name
      · rw [hpush] at hmem
        exact .inl hmem
      · rw [hpush] at hmem
        refine (List.mem_append.mp hmem).imp_right fun hlast => ?_
        exact ⟨name, List.mem_cons_self, List.mem_singleton.mp hlast⟩
    · exact .inr ⟨other, List.mem_cons_of_mem name hother, heq⟩

/-! ## Validation -/

theorem validate_eq_ok_iff {store : Store} :
    store.validate = .ok () ↔ store.groups.length ≤ maxGroups ∧ Checked store := by
  unfold SessionStore.validate
  constructor
  · intro h
    obtain ⟨_, hgroups, h⟩ := Except.bind_eq_ok_iff.mp h
    obtain ⟨_, hsessions, h⟩ := Except.bind_eq_ok_iff.mp h
    obtain ⟨_, hrecent, h⟩ := Except.bind_eq_ok_iff.mp h
    obtain ⟨_, hpaths, h⟩ := Except.bind_eq_ok_iff.mp h
    obtain ⟨_, hdistinct, h⟩ := Except.bind_eq_ok_iff.mp h
    obtain ⟨_, hnames, hprofiles⟩ := Except.bind_eq_ok_iff.mp h
    simp only [bailIf_eq_ok_iff, decide_eq_false_iff_not, Nat.not_lt, Bool.not_eq_false',
      decide_eq_true_eq] at hgroups hsessions hrecent hdistinct
    exact ⟨hgroups, hsessions, hrecent, hpaths, hdistinct, Except.forM_eq_ok_iff.mp hnames,
      Except.forM_eq_ok_iff.mp hprofiles⟩
  · rintro ⟨hgroups, h⟩
    refine Except.bind_eq_ok_iff.mpr ⟨(), bailIf_eq_ok_iff.mpr (by simpa using hgroups), ?_⟩
    refine Except.bind_eq_ok_iff.mpr ⟨(), bailIf_eq_ok_iff.mpr (by simpa using h.sessions), ?_⟩
    refine Except.bind_eq_ok_iff.mpr ⟨(), bailIf_eq_ok_iff.mpr (by simpa using h.recent), ?_⟩
    refine Except.bind_eq_ok_iff.mpr ⟨(), h.paths, ?_⟩
    refine Except.bind_eq_ok_iff.mpr ⟨(), bailIf_eq_ok_iff.mpr (by simpa using h.distinct), ?_⟩
    refine Except.bind_eq_ok_iff.mpr ⟨(), Except.forM_eq_ok_iff.mpr h.groupNames, ?_⟩
    exact Except.forM_eq_ok_iff.mpr h.profiles

/-- The name of a profile's group may be empty, and that of a group may not. -/
theorem validateGroupName_required {value : String} (h : validateGroupName value true = .ok ())
    (hne : normalizeGroupName value ≠ "") : validateGroupName value false = .ok () := by
  unfold validateGroupName at h ⊢
  obtain ⟨_, -, h⟩ := Except.bind_eq_ok_iff.mp h
  refine Except.bind_eq_ok_iff.mpr ⟨(), bailIf_eq_ok_iff.mpr ?_, h⟩
  simpa using hne

theorem validateGroupName_optional {value : String} (h : validateGroupName value false = .ok ()) :
    validateGroupName value true = .ok () := by
  unfold validateGroupName at h ⊢
  obtain ⟨_, -, h⟩ := Except.bind_eq_ok_iff.mp h
  exact Except.bind_eq_ok_iff.mpr ⟨(), rfl, h⟩

theorem validate_profile_eq_ok_iff {profile : Profile} :
    profile.validate = .ok () ↔
      validateRequiredText "session name" profile.name maxSessionNameChars = .ok () ∧
        validateGroupName profile.groupName true = .ok () ∧
        profile.connection.validate = .ok () := by
  unfold SessionProfile.validate
  constructor
  · intro h
    obtain ⟨_, hname, h⟩ := Except.bind_eq_ok_iff.mp h
    obtain ⟨_, hgroup, h⟩ := Except.bind_eq_ok_iff.mp h
    exact ⟨hname, hgroup, h⟩
  · rintro ⟨hname, hgroup, h⟩
    exact Except.bind_eq_ok_iff.mpr ⟨(), hname, Except.bind_eq_ok_iff.mpr ⟨(), hgroup, h⟩⟩

theorem validate_normalized {profile : Profile} (h : profile.validate = .ok ()) :
    ({ profile with groupName := normalizeGroupName profile.groupName } : Profile).validate =
      .ok () := by
  obtain ⟨hname, hgroup, hconnection⟩ := validate_profile_eq_ok_iff.mp h
  rw [validate_profile_eq_ok_iff]
  dsimp only
  rw [validateGroupName_normalize]
  exact ⟨hname, hgroup, hconnection⟩

/-- Normalizing may add groups, and nothing else can fail after it. -/
theorem Checked.normalizeGroups {store : Store} (h : Checked store) :
    Checked store.normalizeGroups where
  sessions := (Nat.le_of_eq (List.length_map _)).trans h.sessions
  recent := h.recent
  paths := h.paths
  distinct := h.distinct
  groupNames group hgroup := by
    have hne := ((normalizeGroups_consistent store).normalized group hgroup).2
    rcases mem_foldl_pushNormalized hgroup with hnil | ⟨name, hname, rfl⟩
    · exact nomatch hnil
    · have hoptional : validateGroupName name true = .ok () := by
        rcases List.mem_append.mp hname with hlisted | hmentioned
        · exact validateGroupName_optional (h.groupNames name hlisted)
        · obtain ⟨profile, hprofile, rfl⟩ := List.mem_map.mp hmentioned
          exact (validate_profile_eq_ok_iff.mp (h.profiles profile hprofile)).2.1
      rw [validateGroupName_normalize]
      exact validateGroupName_required hoptional hne
  profiles profile hprofile := by
    obtain ⟨before, hbefore, rfl⟩ := List.mem_map.mp hprofile
    exact validate_normalized (h.profiles before hbefore)

/-! ## Stores -/

/-- A saved store as it is read back, up to the number of its groups. -/
def SessionStore.reloaded (p : Platform) (store : Store) : Store :=
  { store.normalizeGroups with
    version := max store.version currentSchemaVersion
    sessions := store.normalizeGroups.sessions.map (·.reloaded p)
    settings := ((store.settings.serialize.toSettings p).migrate p store.version).normalizeInPlace p }

theorem Checked.reloaded {store : Store} (h : Checked store) : Checked (store.reloaded p) where
  sessions := (Nat.le_of_eq (List.length_map _)).trans h.normalizeGroups.sessions
  recent := h.recent
  paths := h.paths
  distinct := h.distinct
  groupNames := h.normalizeGroups.groupNames
  profiles profile hprofile := by
    obtain ⟨before, hbefore, rfl⟩ := List.mem_map.mp hprofile
    exact h.normalizeGroups.profiles before hbefore

/-- What a file is read as, before the store is checked. -/
def SessionStoreWire.toStore (p : Platform) (wire : SessionStoreWire) (sessions : List Profile) :
    Store :=
  let settings : Settings := (wire.settings.map (·.toSettings p)).getD (.default p)
  SessionStore.normalizeGroups
    { version := max wire.version currentSchemaVersion
      groups := wire.groups
      sessions
      recentWorkspaces := wire.recentWorkspaces
      settings :=
        ((settings.adoptAppearance p wire.appearance).migrate p wire.version).normalizeInPlace p }

theorem deserialize_eq_ok_iff {wire : SessionStoreWire} {store : Store} :
    wire.deserialize p = .ok store ↔
      ∃ sessions, wire.sessions.mapM (·.deserialize p) = .ok sessions ∧
        wire.groups.length ≤ maxGroups ∧ sessions.length ≤ maxSessionProfiles ∧
        wire.recentWorkspaces.length ≤ maxRecentWorkspaces ∧
        (wire.toStore p sessions).validate = .ok () ∧ wire.toStore p sessions = store := by
  unfold SessionStoreWire.deserialize
  constructor
  · intro h
    obtain ⟨sessions, hread, h⟩ := Except.bind_eq_ok_iff.mp h
    obtain ⟨_, hgroups, h⟩ := Except.bind_eq_ok_iff.mp h
    obtain ⟨_, hsessions, h⟩ := Except.bind_eq_ok_iff.mp h
    obtain ⟨_, hrecent, h⟩ := Except.bind_eq_ok_iff.mp h
    obtain ⟨_, hvalid, h⟩ := Except.bind_eq_ok_iff.mp h
    simp only [bailIf_eq_ok_iff, decide_eq_false_iff_not, Nat.not_lt] at hgroups hsessions hrecent
    exact ⟨sessions, hread, hgroups, hsessions, hrecent, hvalid, Except.ok.inj h⟩
  · rintro ⟨sessions, hread, hgroups, hsessions, hrecent, hvalid, rfl⟩
    refine Except.bind_eq_ok_iff.mpr ⟨sessions, hread, ?_⟩
    refine Except.bind_eq_ok_iff.mpr ⟨(), bailIf_eq_ok_iff.mpr (by simpa using hgroups), ?_⟩
    refine Except.bind_eq_ok_iff.mpr ⟨(), bailIf_eq_ok_iff.mpr (by simpa using hsessions), ?_⟩
    refine Except.bind_eq_ok_iff.mpr ⟨(), bailIf_eq_ok_iff.mpr (by simpa using hrecent), ?_⟩
    exact Except.bind_eq_ok_iff.mpr ⟨(), hvalid, rfl⟩

theorem toStore_serialize (store : Store) :
    store.serialize.toStore p (store.sessions.map (·.reloaded p)) = store.reloaded p := by
  have hnames : (store.sessions.map (·.reloaded p)).map (·.groupName) =
      store.sessions.map (·.groupName) := by
    rw [List.map_map]
    rfl
  simp only [SessionStoreWire.toStore, SessionStore.reloaded, SessionStore.normalizeGroups,
    SessionStore.serialize, Option.map_some, Option.getD_some, AppSettings.adoptAppearance, hnames,
    List.map_map]
  generalize normalizeGroupName = normalize
  rfl

theorem deserialize_serialize {store store' : Store} (h : store.validate = .ok ()) :
    store.serialize.deserialize p = .ok store' ↔
      store.normalizeGroups.groups.length ≤ maxGroups ∧ store.reloaded p = store' := by
  obtain ⟨hgroups, hchecked⟩ := validate_eq_ok_iff.mp h
  have hread : store.serialize.sessions.mapM (·.deserialize p) =
      .ok (store.sessions.map (·.reloaded p)) := by
    show (store.sessions.map SessionProfile.serialize).mapM (·.deserialize p) = _
    rw [List.mapM_map]
    exact Except.mapM_eq_map fun profile hprofile =>
      deserialize_serialize_profile (hchecked.profiles profile hprofile)
  rw [deserialize_eq_ok_iff]
  constructor
  · rintro ⟨sessions, hsessions, -, -, -, hvalid, rfl⟩
    obtain rfl := Except.ok.inj (hread.symm.trans hsessions)
    rw [toStore_serialize] at hvalid ⊢
    exact ⟨(validate_eq_ok_iff.mp hvalid).1, rfl⟩
  · rintro ⟨hlen, rfl⟩
    refine ⟨_, hread, hgroups, ?_, hchecked.recent, ?_, toStore_serialize store⟩
    · exact (Nat.le_of_eq (List.length_map _)).trans hchecked.sessions
    · rw [toStore_serialize]
      exact validate_eq_ok_iff.mpr ⟨hlen, hchecked.reloaded⟩

/-- A store that was read from a file, whatever the version of the file. -/
structure Loaded (p : Platform) (store : Store) : Prop where
  current : currentSchemaVersion ≤ store.version
  valid : store.validate = .ok ()
  consistent : GroupsConsistent store
  profiles : ∀ profile ∈ store.sessions, profile.reloaded p = profile
  settings : store.settings.normalizeInPlace p = store.settings

theorem loaded_of_deserialize (hp : p.Lawful) {wire : SessionStoreWire} {store : Store}
    (h : wire.deserialize p = .ok store) : Loaded p store := by
  obtain ⟨sessions, hread, -, -, -, hvalid, rfl⟩ := deserialize_eq_ok_iff.mp h
  refine ⟨Nat.le_max_right _ _, hvalid, normalizeGroups_consistent _, fun profile hprofile => ?_,
    AppSettings.normalizeInPlace_idem hp _⟩
  obtain ⟨before, hbefore, rfl⟩ := List.mem_map.mp hprofile
  obtain ⟨wire, -, hwire⟩ := Except.exists_of_mem_mapM hread hbefore
  have hsame := (reloaded_deserialize hp hwire).2
  generalize normalizeGroupName before.groupName = group
  show { before.reloaded p with groupName := group } = _
  rw [hsame]

theorem Loaded.reloaded_eq (hp : p.Lawful) {store : Store} (h : Loaded p store) :
    store.reloaded p = store := by
  have hsessions : store.sessions.map (·.reloaded p) = store.sessions :=
    (List.map_congr_left h.profiles).trans (List.map_id' _)
  have hsettings : ((store.settings.serialize.toSettings p).migrate p
      store.version).normalizeInPlace p = store.settings := by
    rw [migrate_current h.current, normalize_toSettings_serialize hp, h.settings]
  unfold SessionStore.reloaded
  rw [normalizeGroups_of_consistent h.consistent, hsessions, hsettings, Nat.max_eq_left h.current]

/-! ## Files -/

section Files

variable {β : Type} {J : FileFormat β}

theorem decode_serialize
    (hJ : ∀ store : Store, J.fromSlice (J.toVecPretty store.serialize) = .ok store.serialize)
    (store : Store) : decode J p (J.toVecPretty store.serialize) = store.serialize.deserialize p := by
  unfold decode
  rw [hJ]
  rfl

theorem load_eq_ok_iff {file : β} {store : Store} :
    load J p file = .ok store ↔
      J.size file ≤ maxConfigFileBytes ∧ decode J p file = .ok store := by
  unfold load
  constructor
  · intro h
    obtain ⟨_, hsize, h⟩ := Except.bind_eq_ok_iff.mp h
    rw [bailIf_eq_ok_iff, decide_eq_false_iff_not, Nat.not_lt] at hsize
    exact ⟨hsize, h⟩
  · rintro ⟨hsize, h⟩
    exact Except.bind_eq_ok_iff.mpr ⟨(), bailIf_eq_ok_iff.mpr (by simpa using hsize), h⟩

theorem save_eq_ok_iff {store : Store} {file : β} :
    save J store = .ok file ↔
      store.validate = .ok () ∧ J.size (J.toVecPretty store.serialize) ≤ maxConfigFileBytes ∧
        J.toVecPretty store.serialize = file := by
  unfold save
  constructor
  · intro h
    obtain ⟨_, hvalid, h⟩ := Except.bind_eq_ok_iff.mp h
    obtain ⟨_, hsize, h⟩ := Except.bind_eq_ok_iff.mp h
    rw [bailIf_eq_ok_iff, decide_eq_false_iff_not, Nat.not_lt] at hsize
    exact ⟨hvalid, hsize, Except.ok.inj h⟩
  · rintro ⟨hvalid, hsize, rfl⟩
    refine Except.bind_eq_ok_iff.mpr ⟨(), hvalid, ?_⟩
    exact Except.bind_eq_ok_iff.mpr ⟨(), bailIf_eq_ok_iff.mpr (by simpa using hsize), rfl⟩

theorem loaded_of_load (hp : p.Lawful) {file : β} {store : Store} (h : load J p file = .ok store) :
    Loaded p store := by
  obtain ⟨-, h⟩ := load_eq_ok_iff.mp h
  obtain ⟨wire, -, h⟩ := Except.bind_eq_ok_iff.mp h
  exact loaded_of_deserialize hp h

/-- What a saved store is read back as, and what a loaded store is saved and loaded as.  The groups
    that profiles mention count when a file is read, and not before it is saved. -/
theorem saved_stores_load (hp : p.Lawful)
    (hJ : ∀ store : Store, J.fromSlice (J.toVecPretty store.serialize) = .ok store.serialize) :
    (∀ store : Store, store.validate = .ok () →
      ((∃ store', decode J p (J.toVecPretty store.serialize) = .ok store') ↔
        store.normalizeGroups.groups.length ≤ maxGroups) ∧
      (∀ store', decode J p (J.toVecPretty store.serialize) = .ok store' →
        store'.groups = store.normalizeGroups.groups ∧
          store'.sessions = store.normalizeGroups.sessions.map (·.reloaded p) ∧
          store'.recentWorkspaces = store.recentWorkspaces ∧
          (currentSchemaVersion ≤ store.version →
            store'.version = store.version ∧
              store'.settings = store.settings.normalizeInPlace p)) ∧
      (GroupsConsistent store → store.normalizeGroups = store)) ∧
    (∀ (file : β) (store : Store), load J p file = .ok store →
      ((∃ file', save J store = .ok file') ↔
        J.size (J.toVecPretty store.serialize) ≤ maxConfigFileBytes) ∧
      (∀ file', save J store = .ok file' → load J p file' = .ok store)) := by
  -- what is written is read back; and what was read can be written and read again
  refine ⟨fun store hvalid => ⟨?_, fun store' hread => ?_, normalizeGroups_of_consistent⟩,
    fun file store hload => ⟨?_, fun file' hsave => ?_⟩⟩
  · rw [decode_serialize hJ]
    constructor
    · rintro ⟨store', hread⟩
      exact ((deserialize_serialize hvalid).mp hread).1
    · exact fun hlen => ⟨_, (deserialize_serialize hvalid).mpr ⟨hlen, rfl⟩⟩
  · rw [decode_serialize hJ] at hread
    obtain ⟨-, rfl⟩ := (deserialize_serialize hvalid).mp hread
    refine ⟨rfl, rfl, rfl, fun hcurrent => ⟨Nat.max_eq_left hcurrent, ?_⟩⟩
    unfold SessionStore.reloaded
    rw [migrate_current hcurrent, normalize_toSettings_serialize hp]
  · have hvalid := (loaded_of_load hp hload).valid
    constructor
    · rintro ⟨file', hsave⟩
      exact (save_eq_ok_iff.mp hsave).2.1
    · exact fun hsize => ⟨_, save_eq_ok_iff.mpr ⟨hvalid, hsize, rfl⟩⟩
  · have hloaded := loaded_of_load hp hload
    obtain ⟨-, hsize, rfl⟩ := save_eq_ok_iff.mp hsave
    refine load_eq_ok_iff.mpr ⟨hsize, ?_⟩
    rw [decode_serialize hJ, deserialize_serialize hloaded.valid,
      normalizeGroups_of_consistent hloaded.consistent]
    exact ⟨(validate_eq_ok_iff.mp hloaded.valid).1, hloaded.reloaded_eq hp⟩

/-- No icons, no bundled locales, and colors that all contrast. -/
def plainPlatform : Platform :=
  ⟨false, fun _ => none, fun _ => none, fun _ _ => some 21, fun _ => false⟩

def wireFormat : FileFormat SessionStoreWire := ⟨fun _ => 0, id, .ok⟩

/-- One server, in a group. -/
def oneServer (groups : List String) (groupName : String) : Store where
  version := currentSchemaVersion
  groups
  sessions := [{
    id := 1, name := "web", groupName
    connection := .ssh ⟨"web.example", 22, "root", .password, none, false, none, .ssh {}⟩ }]
  settings := Settings.default plainPlatform

theorem groups_oneServer (groups : List String) (groupName : String) :
    (oneServer groups groupName).normalizeGroups.groups =
      (groups ++ [groupName]).foldl pushNormalized [] :=
  rfl

theorem listed_group_reads_back :
    ∃ store', decode wireFormat plainPlatform
        (wireFormat.toVecPretty (oneServer ["Team"] "Team").serialize) = .ok store' ∧
      store'.groups = ["Team"] := by
  have hlawful : plainPlatform.Lawful := ⟨nofun, nofun, rfl⟩
  have hvalid : (oneServer ["Team"] "Team").validate = .ok () := by decide
  have hgroups : (oneServer ["Team"] "Team").normalizeGroups.groups = ["Team"] := by
    decide
  obtain ⟨hreads, hread, -⟩ :=
    (saved_stores_load (J := wireFormat) hlawful fun _ => rfl).1 _ hvalid
  obtain ⟨store', hstore⟩ := hreads.mpr (by rw [hgroups]; decide)
  exact ⟨store', hstore, (hread store' hstore).1.trans hgroups⟩

theorem normalizeGroupName_pair {c d : Char} (hc : isWhitespace c = false)
    (hd : isWhitespace d = false) :
    normalizeGroupName (String.ofList [c, d]) = String.ofList [c, d] := by
  have htrim : trim (String.ofList [c, d]) = String.ofList [c, d] := by
    apply String.toList_inj.mp
    rw [toList_trim, String.toList_ofList]
    simp [List.rdropWhile, hc, hd]
  have hlonger : ¬[c, d].map Char.toLower = "ungrouped".toList := fun heq => by
    have hlen := congrArg List.length heq
    rw [List.length_map] at hlen
    exact absurd hlen (by decide : ¬2 = "ungrouped".toList.length)
  unfold normalizeGroupName
  dsimp only
  rw [htrim, String.toList_ofList, if_neg hlonger]

/-- Groups with two letters. -/
def letterGroup (i : Nat) : String :=
  String.ofList [Char.ofNat (97 + i / 16), Char.ofNat (97 + i % 16)]

theorem letter_plain : ∀ k < 17, isWhitespace (Char.ofNat (97 + k)) = false ∧
    isControl (Char.ofNat (97 + k)) = false ∧ (Char.ofNat (97 + k)).toNat = 97 + k := by
  decide

theorem letterGroup_normal {i : Nat} (hi : i < 257) :
    normalizeGroupName (letterGroup i) = letterGroup i ∧ letterGroup i ≠ "" := by
  refine ⟨normalizeGroupName_pair (letter_plain (i / 16) (by omega)).1
    (letter_plain (i % 16) (by omega)).1, fun heq => ?_⟩
  have hchars := congrArg String.toList heq
  rw [letterGroup, String.toList_ofList] at hchars
  exact nomatch hchars

theorem letterGroup_valid {i : Nat} (hi : i < 257) :
    validateGroupName (letterGroup i) false = .ok () := by
  obtain ⟨hnormal, hne⟩ := letterGroup_normal hi
  have hlen : (letterGroup i).length = 2 := String.length_ofList
  have hcontrol : (letterGroup i).toList.any isControl = false := by
    rw [letterGroup, String.toList_ofList]
    simp [(letter_plain (i / 16) (by omega)).2.1, (letter_plain (i % 16) (by omega)).2.1]
  unfold validateGroupName
  dsimp only
  rw [hnormal, hlen, hcontrol, beq_false_of_ne hne]
  rfl

theorem letterGroup_nodup : ((List.range 257).map letterGroup).Nodup := by
  refine List.Nodup.map_on (fun i hi j hj heq => ?_) List.nodup_range
  rw [List.mem_range] at hi hj
  have hchars := String.ofList_inj.mp heq
  have hquotient := congrArg Char.toNat (List.cons.inj hchars).1
  have hremainder := congrArg Char.toNat (List.cons.inj (List.cons.inj hchars).2).1
  rw [(letter_plain (i / 16) (by omega)).2.2, (letter_plain (j / 16) (by omega)).2.2] at hquotient
  rw [(letter_plain (i % 16) (by omega)).2.2, (letter_plain (j % 16) (by omega)).2.2] at hremainder
  omega

theorem letterGroups_valid :
    (oneServer ((List.range 256).map letterGroup) (letterGroup 256)).validate = .ok () := by
  refine validate_eq_ok_iff.mpr ⟨?_, ?_, Nat.zero_le _, rfl, List.nodup_nil, ?_, ?_⟩
  · exact Nat.le_of_eq ((List.length_map _).trans List.length_range)
  · exact (by decide : 1 ≤ 1024)
  · intro group hgroup
    obtain ⟨i, hi, rfl⟩ := List.mem_map.mp hgroup
    exact letterGroup_valid (by have := List.mem_range.mp hi; omega)
  · intro profile hprofile
    obtain rfl := List.mem_singleton.mp hprofile
    decide

/-- A store with 256 groups is saved, and the group of its server is one too many when it is read
    back. -/
theorem unlisted_group_not_read_back :
    let store := oneServer ((List.range 256).map letterGroup) (letterGroup 256)
    store.validate = .ok () ∧ ∀ store',
      decode wireFormat plainPlatform (wireFormat.toVecPretty store.serialize) ≠ .ok store' := by
  refine ⟨letterGroups_valid, fun store' hread => ?_⟩
  rw [decode_serialize fun _ => rfl] at hread
  obtain ⟨hlen, -⟩ := (deserialize_serialize letterGroups_valid).mp hread
  have hnormal : ∀ name ∈ (List.range 257).map letterGroup,
      normalizeGroupName name = name ∧ name ≠ "" := by
    intro name hname
    obtain ⟨i, hi, rfl⟩ := List.mem_map.mp hname
    exact letterGroup_normal (List.mem_range.mp hi)
  have hgroups : (List.range 256).map letterGroup ++ [letterGroup 256] =
      (List.range 257).map letterGroup := by
    rw [List.range_succ (n := 256), List.map_append]
    rfl
  rw [groups_oneServer, hgroups, foldl_pushNormalized_of_new hnormal
    (by simpa using letterGroup_nodup), List.nil_append, List.length_map, List.length_range] at hlen
  exact absurd hlen (by decide)

end Files

end AxSsh.Profiles
