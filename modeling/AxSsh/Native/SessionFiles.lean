import AxSsh.Native.AppSettings

/-!
# Session files

How `config/session.rs` and `config/persistence.rs` write the session store to its file and read
it back: `SessionStoreWire` is what `serde` reads from a file before the `Deserialize`
implementations of the store, of its profiles and of its settings turn it into a store.

`FileFormat` stands for `serde_json` and the derived implementations, with the defaults of missing
fields and the older spellings of single values.
-/

namespace AxSsh.Profiles

open Credentials (settingText eqIgnoreAsciiCase)

def currentSchemaVersion : Nat := 37
def terminalTextBrightnessSchemaVersion : Nat := 22
def platformShortcutSchemaVersion : Nat := 6
def workspaceDensitySchemaVersion : Nat := 7
def themeSettingsSchemaVersion : Nat := 9
def sftpFilterDefaultsSchemaVersion : Nat := 37
def maxConfigFileBytes : Nat := 8 * 1024 * 1024

abbrev Settings := AppSettings SettingsFields
abbrev Profile := SessionProfile ConnectionFields
abbrev Store := SessionStore ConnectionFields SettingsFields

/-! ## What a file holds -/

structure ThemeSettingsWire where
  mode : String := ""
  palette : Option String := none
  customLight : Option ThemePalette := none
  customDark : Option ThemePalette := none
  /-- The one palette of older versions. -/
  custom : Option ThemePalette := none

structure AppearanceSettingsWire where
  rendererPreference : String
  terminalDrawingPreference : String
  softwarePresentation : String
  theme : Option ThemeSettingsWire
  localShellIconOverride : Option String
  fields : AppearanceFields

structure AppSettingsWire where
  audio : AudioSettings
  uiLanguage : String
  appearance : AppearanceSettingsWire
  terminal : TerminalSettings
  workspace : WorkspaceSettings
  shortcuts : ShortcutSettings
  x11 : X11Settings
  credentialStorage : CredentialStorage
  sftpTransferFilters : SftpTransferFilterSettings
  sftpTransfers : SftpTransferSettings

/-- The icon of a detection is not resolved yet; one that cannot be read is left out. -/
structure SessionProfileWire where
  id : Uuid
  name : String
  groupName : String
  systemIconOverride : Option String := none
  detectedSystem : Option SystemDetection := none
  connection : Option (ConnectionProfile ConnectionFields) := none
  host : Option String := none
  port : Option Nat := none
  username : Option String := none
  auth : Option AuthMethod := none
  credentialStorage : Option CredentialStorage := none
  credentialStored : Option Bool := none
  hostKeyFingerprint : Option String := none
  x11Forwarding : Option X11ForwardingMode := none

structure SessionStoreWire where
  version : Nat := 0
  groups : List String := []
  sessions : List SessionProfileWire := []
  recentWorkspaces : List String := []
  settings : Option AppSettingsWire := none
  appearance : Option AppearanceSettingsWire := none

/-! ## Settings -/

/-- The settings without a file. -/
def Settings.default (p : Platform) : Settings where
  audio := ⟨48000, 2, "", ""⟩
  uiLanguage := none
  localShellIconOverride := none
  rest := { shortcuts := .default p.macos }

namespace ThemeSettingsWire

/-- Where the old palette belongs, and the mode that goes with it. -/
def resolve (p : Platform) (wire : ThemeSettingsWire) : String × ThemePalette × ThemePalette :=
  let mode := settingText wire.mode
  let customLight := wire.customLight.getD .axsshLight
  let customDark := wire.customDark.getD .axsshDark
  match wire.custom with
  | none => (mode, customLight, customDark)
  | some custom =>
    if p.isDark (custom .background) then
      (if mode = "custom" then "dark" else mode, customLight, custom)
    else (if mode = "custom" then "light" else mode, custom, customDark)

def toTheme (p : Platform) (wire : ThemeSettingsWire) : ThemeSettings :=
  let palette := match wire.palette with
    | some palette => ThemePaletteKind.fromSetting palette
    | none => ThemePaletteKind.fromSetting (settingText wire.mode)
  let (mode, customLight, customDark) := wire.resolve p
  .normalized p.contrastRatio mode palette.asSetting customLight customDark

end ThemeSettingsWire

/-- The appearance with the icon of the local shell. -/
def AppearanceSettingsWire.toAppearance (p : Platform) (wire : AppearanceSettingsWire) :
    AppearanceSettings × Option String :=
  ({ rendererPreference := RendererPreference.fromSetting wire.rendererPreference
     terminalDrawingPreference :=
       TerminalDrawingPreference.fromSetting wire.terminalDrawingPreference
     softwarePresentation := SoftwarePresentationMode.fromSetting wire.softwarePresentation
     theme := (wire.theme.map (·.toTheme p)).getD {}
     fields := wire.fields },
    wire.localShellIconOverride.bind p.systemIconId)

def AppSettingsWire.toSettings (p : Platform) (wire : AppSettingsWire) : Settings where
  audio := wire.audio
  uiLanguage := p.uiLanguage wire.uiLanguage
  localShellIconOverride := (wire.appearance.toAppearance p).2
  rest := {
    appearance := (wire.appearance.toAppearance p).1
    terminal := wire.terminal
    workspace := wire.workspace
    shortcuts := wire.shortcuts
    x11 := wire.x11
    credentialStorage := wire.credentialStorage
    sftpTransferFilters := wire.sftpTransferFilters
    sftpTransfers := wire.sftpTransfers }

namespace AppSettings

/-- An appearance beside the settings counts where the settings have none. -/
def adoptAppearance (p : Platform) (appearance : Option AppearanceSettingsWire)
    (settings : Settings) : Settings :=
  match appearance with
  | none => settings
  | some wire =>
    if settings.rest.appearance = {} ∧ settings.localShellIconOverride = none then
      { settings with
        localShellIconOverride := (wire.toAppearance p).2
        rest := { settings.rest with appearance := (wire.toAppearance p).1 } }
    else settings

def migrateShortcut (p : Platform) (version : Nat) (settings : Settings) : Settings :=
  if version < platformShortcutSchemaVersion
      ∧ eqIgnoreAsciiCase settings.rest.shortcuts.toggleSidebar
        (ShortcutSettings.previousToggleSidebar p.macos) then
    { settings with rest.shortcuts.toggleSidebar := (ShortcutSettings.default p.macos).toggleSidebar }
  else settings

def migrateSidebar (version : Nat) (settings : Settings) : Settings :=
  if version < workspaceDensitySchemaVersion
      ∧ settings.rest.workspace.sidebarWidth = previousDefaultSidebarWidth then
    { settings with rest.workspace.sidebarWidth := defaultSidebarWidth }
  else settings

def migrateTheme (version : Nat) (settings : Settings) : Settings :=
  if version < themeSettingsSchemaVersion then
    let theme := ThemeSettings.fromTerminalColorScheme
      settings.rest.appearance.fields.terminalColorScheme
    { settings with rest.appearance.theme := theme }
  else settings

def migrateBrightness (version : Nat) (settings : Settings) : Settings :=
  if version < terminalTextBrightnessSchemaVersion then
    { settings with
      rest.appearance.fields.terminalTextBrightnessPercent := defaultTerminalTextBrightnessPercent
      rest.appearance.fields.terminalSemanticHighlighting := false }
  else settings

def migrateFilters (version : Nat) (settings : Settings) : Settings :=
  if version < sftpFilterDefaultsSchemaVersion
      ∧ settings.rest.sftpTransferFilters.usePlatformDefaults
      ∧ settings.rest.sftpTransferFilters.customPatterns = [] then
    { settings with rest.sftpTransferFilters.enabled := false }
  else settings

def migrate (p : Platform) (version : Nat) (settings : Settings) : Settings :=
  ((((settings.migrateShortcut p version).migrateSidebar version).migrateTheme
    version).migrateBrightness version).migrateFilters version

end AppSettings

/-! ## Profiles -/

/-- `deserialize_detection`. -/
def deserializeDetection (p : Platform) (detection : Option SystemDetection) :
    Option SystemDetection :=
  (detection.filter fun system => validRelease system.release).map fun system =>
    { system with iconId := system.iconId.bind p.systemIconId }

/-- A field that an older profile must have. -/
def requiredField {α : Type} (name : String) (value : Option α) : Except String α :=
  match value with
  | some value => .ok value
  | none => .error s!"missing field {name}"

namespace SessionProfileWire

def hasLegacyField (wire : SessionProfileWire) : Bool :=
  wire.host.isSome || wire.port.isSome || wire.username.isSome || wire.auth.isSome
    || wire.credentialStorage.isSome || wire.credentialStored.isSome
    || wire.hostKeyFingerprint.isSome || wire.x11Forwarding.isSome

/-- The profiles of older versions are SSH profiles. -/
def legacyConnection (wire : SessionProfileWire) :
    Except String (ConnectionProfile ConnectionFields) := do
  let host ← requiredField "host" wire.host
  let port ← requiredField "port" wire.port
  let username ← requiredField "username" wire.username
  let auth ← requiredField "auth" wire.auth
  let stored := if wire.credentialStored = some true then some .systemKeyring else none
  pure (.ssh {
    host, port, username, auth
    credentialStorage := wire.credentialStorage <|> stored
    hostKeyFingerprint := wire.hostKeyFingerprint
    rest := .ssh { x11Forwarding := wire.x11Forwarding.getD .trusted } })

def toConnection (wire : SessionProfileWire) : Except String (ConnectionProfile ConnectionFields) :=
  match wire.connection with
  | some connection =>
    if wire.hasLegacyField then
      .error "profile cannot mix legacy SSH fields with a protocol config"
    else .ok connection
  | none => wire.legacyConnection

def deserialize (p : Platform) (wire : SessionProfileWire) : Except String Profile := do
  let connection ← wire.toConnection
  let profile : Profile :=
    { id := wire.id, name := wire.name, groupName := wire.groupName, connection
      systemIconOverride := wire.systemIconOverride.bind p.systemIconId
      detectedSystem := deserializeDetection p wire.detectedSystem }
  let profile := { profile with
    detectedSystem := profile.detectedSystem.filter (·.matchesProfile profile) }
  profile.validate
  pure profile

end SessionProfileWire

/-! ## Stores -/

def SessionStoreWire.deserialize (p : Platform) (wire : SessionStoreWire) : Except String Store := do
  let sessions ← wire.sessions.mapM (·.deserialize p)
  let settings := (wire.settings.map (·.toSettings p)).getD (.default p)
  bailIf (decide (maxGroups < wire.groups.length))
    s!"session store cannot exceed {maxGroups} groups"
  bailIf (decide (maxSessionProfiles < sessions.length))
    s!"session store cannot exceed {maxSessionProfiles} profiles"
  bailIf (decide (maxRecentWorkspaces < wire.recentWorkspaces.length))
    s!"session store cannot exceed {maxRecentWorkspaces} recent workspaces"
  let settings := (settings.adoptAppearance p wire.appearance).migrate p wire.version
  let store : Store :=
    { version := max wire.version currentSchemaVersion
      groups := wire.groups
      sessions
      recentWorkspaces := wire.recentWorkspaces
      settings := settings.normalizeInPlace p }
  let store := store.normalizeGroups
  store.validate
  pure store

/-! ## Writing -/

def AppearanceSettings.serialize (appearance : AppearanceSettings) (icon : Option String) :
    AppearanceSettingsWire where
  rendererPreference := appearance.rendererPreference.asSetting
  terminalDrawingPreference := appearance.terminalDrawingPreference.asSetting
  softwarePresentation := appearance.softwarePresentation.asSetting
  theme := some {
    mode := appearance.theme.mode.asSetting
    palette := some appearance.theme.palette.serialize
    customLight := some appearance.theme.customLight
    customDark := some appearance.theme.customDark }
  localShellIconOverride := icon
  fields := appearance.fields

def AppSettings.serialize (settings : Settings) : AppSettingsWire where
  audio := settings.audio
  uiLanguage := settings.uiLanguage.getD "system"
  appearance := settings.rest.appearance.serialize settings.localShellIconOverride
  terminal := settings.rest.terminal
  workspace := settings.rest.workspace
  shortcuts := settings.rest.shortcuts
  x11 := settings.rest.x11
  credentialStorage := settings.rest.credentialStorage
  sftpTransferFilters := settings.rest.sftpTransferFilters
  sftpTransfers := settings.rest.sftpTransfers

def SessionProfile.serialize (profile : Profile) : SessionProfileWire where
  id := profile.id
  name := profile.name
  groupName := profile.groupName
  systemIconOverride := profile.systemIconOverride
  detectedSystem := profile.detectedSystem
  connection := some profile.connection

def SessionStore.serialize (store : Store) : SessionStoreWire where
  version := store.version
  groups := store.groups
  sessions := store.sessions.map SessionProfile.serialize
  recentWorkspaces := store.recentWorkspaces
  settings := some store.settings.serialize

/-! ## Files -/

/-- `serde_json::to_vec_pretty` and `serde_json::from_slice` on files `β`. -/
structure FileFormat (β : Type) where
  size : β → Nat
  toVecPretty : SessionStoreWire → β
  fromSlice : β → Except String SessionStoreWire

section Files

variable {β : Type} (J : FileFormat β) (p : Platform)

/-- `serde_json::from_slice::<SessionStore>`. -/
def decode (file : β) : Except String Store := do
  let wire ← J.fromSlice file
  wire.deserialize p

/-- `ConfigStore::load` of a file that is there. -/
def load (file : β) : Except String Store := do
  bailIf (decide (maxConfigFileBytes < J.size file))
    s!"session store exceeds the {maxConfigFileBytes} byte limit"
  decode J p file

/-- `ConfigStore::save`, up to the bytes that it writes. -/
def save (store : Store) : Except String β := do
  store.validate
  bailIf (decide (maxConfigFileBytes < J.size (J.toVecPretty store.serialize)))
    s!"encoded session store exceeds the {maxConfigFileBytes} byte limit"
  pure (J.toVecPretty store.serialize)

end Files

end AxSsh.Profiles
