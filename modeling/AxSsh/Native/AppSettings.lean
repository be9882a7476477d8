import Mathlib.Algebra.Field.Rat
import Mathlib.Algebra.Order.Ring.Unbundled.Rat
import Mathlib.Data.Fintype.Pi
import AxSsh.ForStd.TextLines
import AxSsh.Native.SessionEditor

/-!
# Application settings

The settings of `config/settings.rs` and `config/theme.rs` with their normalization, which brings
every value into its range and every text into its canonical form, whenever a file is read.

What the build and the platform decide is in `Platform`: the catalogs of icons and languages, the
default shortcuts, and the contrast of two colors, which the source computes in floating point.
-/

namespace AxSsh.Profiles

open Credentials (settingText eqIgnoreAsciiCase)

structure Platform where
  /-- `cfg!(target_os = "macos")`. -/
  macos : Bool
  systemIconId : String → Option String
  /-- `UiLanguage::from_setting`: a bundled locale, or `none` for the system language. -/
  uiLanguage : String → Option String
  /-- `theme_contrast_ratio`. -/
  contrastRatio : String → String → Option Rat
  /-- `theme_color_is_dark`. -/
  isDark : String → Bool

/-! ## Values -/

def minTerminalFontSize : Nat := 9
def maxTerminalFontSize : Nat := 32
def minTerminalLineHeight : Nat := 100
def maxTerminalLineHeight : Nat := 200
def minTerminalSoftwareBlockRows : Nat := 1
def maxTerminalSoftwareBlockRows : Nat := 16
def minTerminalTextBrightnessPercent : Nat := 60
def maxTerminalTextBrightnessPercent : Nat := 120
def defaultTerminalTextBrightnessPercent : Nat := 100
def minTerminalRefreshFps : Nat := 1
def maxTerminalRefreshFps : Nat := 120
def minScrollbackLines : Nat := 100
def maxScrollbackLines : Nat := 50000
def minTerminalColumns : Nat := 10
def maxTerminalColumns : Nat := 300
def minTerminalRows : Nat := 3
def maxTerminalRows : Nat := 100
def minSidebarWidth : Nat := 180
def maxSidebarWidth : Nat := 420
def defaultSidebarWidth : Nat := 220
def previousDefaultSidebarWidth : Nat := 260
def minTabWidth : Nat := 120
def maxTabWidth : Nat := 260
def minCollapsedGroupLabelChars : Nat := 0
def maxCollapsedGroupLabelChars : Nat := 4
def minSftpGlobalUploads : Nat := 1
def maxSftpGlobalUploads : Nat := 32
def maxSftpLocalOpenMaxFileMib : Nat := 20 * 1024
def maxSftpRemoteEditMaxFileMib : Nat := 64
def maxFontFamilyChars : Nat := 128
def maxShortcutChars : Nat := 64
def maxKnownShells : Nat := 32
def maxShellNameChars : Nat := 256
def maxX11AppPathChars : Nat := 1024
def maxSftpTransferFilterPatterns : Nat := 64
def maxSftpTransferFilterPatternChars : Nat := 256
def maxSftpTransferFilterTextChars : Nat := 16 * 1024
def systemDefaultShell : String := "System default"

/-- `Ord::clamp`. -/
def clamp (low high value : Nat) : Nat := max low (min value high)

/-- A trimmed text that is valid, or the default. -/
def normalizeText (valid : String → Bool) (default value : String) : String :=
  if valid (trim value) then trim value else default

def hasControl (value : String) : Bool := value.toList.any isControl

/-! ## Audio -/

/-- `AudioSettings::format`: a supported format, or 48 kHz stereo. -/
def AudioSettings.normalize (audio : AudioSettings) : AudioSettings :=
  if audio.sampleRate ∈ [8000, 16000, 22050, 24000, 32000, 44100, 48000, 96000, 192000]
      ∧ audio.channels ∈ [1, 2, 4, 6, 8] then audio
  else { audio with sampleRate := 48000, channels := 2 }

/-! ## Themes -/

inductive TerminalColorScheme where
  | dark
  | light
  | solarizedDark
  | arcticDark
  | tokyoDark
  | emberDark
  | forestDark
deriving DecidableEq, Repr

inductive ThemeMode where
  | system
  | dark
  | light
deriving DecidableEq, Repr

namespace ThemeMode

/-- Also the text in the file. -/
def asSetting : ThemeMode → String
  | system => "system"
  | dark => "dark"
  | light => "light"

def fromSetting (value : String) : ThemeMode :=
  match settingText value with
  | "system" | "follow-system" | "auto" => system
  | "light" => light
  | _ => dark

end ThemeMode

inductive ThemePaletteKind where
  | axSsh
  | solarized
  | arctic
  | tokyo
  | ember
  | forest
  | custom
deriving DecidableEq, Repr

namespace ThemePaletteKind

def asSetting : ThemePaletteKind → String
  | axSsh => "axssh"
  | solarized => "solarized"
  | arctic => "arctic"
  | tokyo => "tokyo"
  | ember => "ember"
  | forest => "forest"
  | custom => "custom"

/-- The text in the file. -/
def serialize : ThemePaletteKind → String
  | axSsh => "ax-ssh"
  | kind => kind.asSetting

def fromSetting (value : String) : ThemePaletteKind :=
  match settingText value with
  | "solarized" | "solarized-dark" | "solarized dark" => solarized
  | "arctic" | "arctic-dark" | "arctic dark" => arctic
  | "tokyo" | "tokyo-dark" | "tokyo dark" => tokyo
  | "ember" | "ember-dark" | "ember dark" => ember
  | "forest" | "forest-dark" | "forest dark" => forest
  | "custom" => custom
  | _ => axSsh

end ThemePaletteKind

inductive ThemeRole where
  | background
  | panel
  | panelAlt
  | border
  | text
  | muted
  | accent
  | success
  | danger
  | overlay
  | terminalForeground
  | terminalBackground
  | terminalSelection
deriving DecidableEq, Repr

instance : Fintype ThemeRole where
  elems := {.background, .panel, .panelAlt, .border, .text, .muted, .accent, .success, .danger,
    .overlay, .terminalForeground, .terminalBackground, .terminalSelection}
  complete role := by cases role <;> decide

/-- The color of every role. -/
abbrev ThemePalette := ThemeRole → String

def ThemePalette.axsshLight : ThemePalette
  | .background => "#F7F8F7"
  | .panel => "#FFFFFF"
  | .panelAlt => "#EDF1EE"
  | .border => "#6D7972"
  | .text => "#1C2520"
  | .muted => "#526058"
  | .accent => "#116B54"
  | .success => "#126A43"
  | .danger => "#A72C28"
  | .overlay => "#10201899"
  | .terminalForeground => "#333333"
  | .terminalBackground => "#FFFFFF"
  | .terminalSelection => "#ADD6FF"

def ThemePalette.axsshDark : ThemePalette
  | .background => "#171918"
  | .panel => "#202321"
  | .panelAlt => "#292D2A"
  | .border => "#727C76"
  | .text => "#EDF1EE"
  | .muted => "#A8B2AC"
  | .accent => "#52C7A5"
  | .success => "#63D6A9"
  | .danger => "#FF8E88"
  | .overlay => "#00000099"
  | .terminalForeground => "#CCCCCC"
  | .terminalBackground => "#1E1E1E"
  | .terminalSelection => "#264F78"

inductive ThemeBrightness where
  | light
  | dark
deriving DecidableEq, Repr

namespace ThemeBrightness

def fallback : ThemeBrightness → ThemePalette
  | light => .axsshLight
  | dark => .axsshDark

def reference : ThemeBrightness → String
  | light => "#000000"
  | dark => "#FFFFFF"

end ThemeBrightness

def isAsciiHexDigit (c : Char) : Bool := "0123456789abcdefABCDEF".toList.contains c

/-- The digits of a color in capitals, each of them twice in the short forms. -/
def colorDigits (digits : List Char) : List Char :=
  if digits.length ≤ 4 then digits.flatMap fun c => [c.toUpper, c.toUpper]
  else digits.map Char.toUpper

def normalizeThemeColor (value fallback : String) : String :=
  let digits := (trim value).toList.dropWhile (· == '#')
  if digits.length ∈ [3, 4, 6, 8] ∧ digits.all isAsciiHexDigit then
    String.ofList ('#' :: colorDigits digits)
  else fallback

/-- The test of the alpha channel on `parse_theme_rgba`. -/
def isOpaque (value : String) : Bool :=
  match value.toList with
  | '#' :: digits =>
    digits.all isAsciiHexDigit
      && (digits.length == 6 || (digits.length == 8 && (digits.drop 6).map Char.toUpper == ['F', 'F']))
  | _ => false

section Contrast

-- the ratios are numbers of any field, of which the code takes floating-point ones
variable {K : Type} [Field K] [LinearOrder K] (ratio : String → String → Option K)

/-- The contrast that a text needs. -/
abbrev textContrast : K := 9 / 2

/-- The contrast that a selection needs. -/
abbrev selectionContrast : K := 3 / 2

def ensureSurfaceDirection (value fallback reference : String) : String :=
  if isOpaque value && !decide ((ratio reference value).getD 0 < 9 / 2) then value
  else fallback

def roleMeetsContrast (value : String) (surfaces : List String) (minimum : K) : Bool :=
  surfaces.all fun surface => (ratio value surface).any fun contrast => minimum ≤ contrast

def ensureRoleContrast (value fallback : String) (surfaces : List String) (minimum : K)
    (reference : String) : String :=
  if roleMeetsContrast ratio value surfaces minimum then value
  else if roleMeetsContrast ratio fallback surfaces minimum then fallback
  else reference

namespace ThemePalette

def normalizeWithFallback (palette fallback : ThemePalette) : ThemePalette := fun role =>
  normalizeThemeColor (palette role) (fallback role)

/-- The surfaces of a palette that is protected. -/
def protectSurfaces (brightness : ThemeBrightness) (palette : ThemePalette) : ThemePalette
  | role@(.background) | role@(.panel) | role@(.panelAlt) | role@(.terminalBackground) =>
    ensureSurfaceDirection ratio (palette role) (brightness.fallback role) brightness.reference
  | role => palette role

/-- The roles on these surfaces. -/
def protectRoles (brightness : ThemeBrightness) (palette : ThemePalette) : ThemePalette
  | .border => ensureRoleContrast ratio (palette .border) (brightness.fallback .border)
      [palette .background, palette .panel, palette .panelAlt] 3 brightness.reference
  | role@(.text) | role@(.muted) | role@(.accent) | role@(.success) | role@(.danger) =>
    ensureRoleContrast ratio (palette role) (brightness.fallback role)
      [palette .background, palette .panel, palette .panelAlt] (9 / 2) brightness.reference
  | .terminalForeground =>
    ensureRoleContrast ratio (palette .terminalForeground)
      (brightness.fallback .terminalForeground) [palette .terminalBackground] (9 / 2)
      brightness.reference
  | role => palette role

/-- The selection between the background and the text on it. -/
def protectSelection (brightness : ThemeBrightness) (palette : ThemePalette) : ThemePalette
  | .terminalSelection =>
    if (ratio (palette .terminalSelection) (palette .terminalBackground)).getD 0 < 3 / 2
        ∨ (ratio (palette .terminalForeground) (palette .terminalSelection)).getD 0
          < 9 / 2 then
      brightness.fallback .terminalSelection
    else palette .terminalSelection
  | role => palette role

def protectContrast (brightness : ThemeBrightness) (palette : ThemePalette) : ThemePalette :=
  ((palette.protectSurfaces ratio brightness).protectRoles ratio brightness).protectSelection ratio
    brightness

def normalizeForBrightness (brightness : ThemeBrightness) (palette : ThemePalette) :
    ThemePalette :=
  (palette.normalizeWithFallback brightness.fallback).protectContrast ratio brightness

end ThemePalette

end Contrast

structure ThemeSettings where
  mode : ThemeMode := .dark
  palette : ThemePaletteKind := .axSsh
  customLight : ThemePalette := .axsshLight
  customDark : ThemePalette := .axsshDark
deriving DecidableEq

namespace ThemeSettings

def normalized {K : Type} [Field K] [LinearOrder K] (ratio : String → String → Option K)
    (mode palette : String) (customLight customDark : ThemePalette) : ThemeSettings where
  mode := ThemeMode.fromSetting mode
  palette := ThemePaletteKind.fromSetting palette
  customLight := customLight.normalizeForBrightness ratio .light
  customDark := customDark.normalizeForBrightness ratio .dark

def fromTerminalColorScheme : TerminalColorScheme → ThemeSettings
  | .dark => { mode := .dark, palette := .axSsh }
  | .light => { mode := .light, palette := .axSsh }
  | .solarizedDark => { mode := .dark, palette := .solarized }
  | .arcticDark => { mode := .dark, palette := .arctic }
  | .tokyoDark => { mode := .dark, palette := .tokyo }
  | .emberDark => { mode := .dark, palette := .ember }
  | .forestDark => { mode := .dark, palette := .forest }

def terminalColorScheme (theme : ThemeSettings) : TerminalColorScheme :=
  match theme.mode, theme.palette with
  | .light, _ => .light
  | _, .solarized => .solarizedDark
  | _, .arctic => .arcticDark
  | _, .tokyo => .tokyoDark
  | _, .ember => .emberDark
  | _, .forest => .forestDark
  | _, _ => .dark

end ThemeSettings

/-! ## Appearance -/

inductive RendererPreference where
  | automatic
  | gpu
  | software
deriving DecidableEq, Repr

namespace RendererPreference

/-- Also the text in the file. -/
def asSetting : RendererPreference → String
  | automatic => "automatic"
  | gpu => "gpu"
  | software => "software"

def fromSetting (value : String) : RendererPreference :=
  match settingText value with
  | "gpu" => gpu
  | "software" => software
  | _ => automatic

end RendererPreference

inductive TerminalDrawingPreference where
  | itemTree
  | canvas
deriving DecidableEq, Repr

namespace TerminalDrawingPreference

/-- Also the text in the file. -/
def asSetting : TerminalDrawingPreference → String
  | itemTree => "item-tree"
  | canvas => "canvas"

def fromSetting (value : String) : TerminalDrawingPreference :=
  if settingText value = "canvas" then canvas else itemTree

end TerminalDrawingPreference

inductive SoftwarePresentationMode where
  | layerImages
  | damageBackingStore
deriving DecidableEq, Repr

namespace SoftwarePresentationMode

/-- Also the text in the file. -/
def asSetting : SoftwarePresentationMode → String
  | layerImages => "layer-images"
  | damageBackingStore => "damage-backing-store"

def fromSetting (value : String) : SoftwarePresentationMode :=
  if settingText value = "layer-images" then layerImages else damageBackingStore

end SoftwarePresentationMode

def normalizeFontFamily (value default : String) : String :=
  normalizeText
    (fun value => value != "" && decide (value.length ≤ maxFontFamilyChars) && !hasControl value)
    default value

def normalizeTerminalRefreshFps (value : Nat) : Nat :=
  clamp minTerminalRefreshFps maxTerminalRefreshFps value

/-- The nearest multiple of five.  A percentage survives its way through an `f32` fraction. -/
def normalizeTerminalTextBrightness (percent : Nat) : Nat :=
  (clamp minTerminalTextBrightnessPercent maxTerminalTextBrightnessPercent percent + 2) / 5 * 5

/-- `#RRGGBB` in capitals, or empty for the color of the theme. -/
def normalizeTerminalSemanticColor (value : String) : String :=
  match (trim value).toList with
  | '#' :: digits =>
    if digits.length = 6 ∧ digits.all isAsciiHexDigit then
      String.ofList ('#' :: digits.map Char.toUpper)
    else ""
  | _ => ""

structure TerminalSemanticColors where
  link : String := ""
  success : String := ""
  info : String := ""
  warning : String := ""
  error : String := ""
deriving DecidableEq

def TerminalSemanticColors.normalized (colors : TerminalSemanticColors) :
    TerminalSemanticColors where
  link := normalizeTerminalSemanticColor colors.link
  success := normalizeTerminalSemanticColor colors.success
  info := normalizeTerminalSemanticColor colors.info
  warning := normalizeTerminalSemanticColor colors.warning
  error := normalizeTerminalSemanticColor colors.error

/-- The part of the appearance that is in a file as it is in memory. -/
structure AppearanceFields where
  applicationFontFamily : String := "JetBrains Mono"
  terminalFontFamily : String := "JetBrains Mono"
  terminalFontSize : Nat := 14
  terminalLineHeightPercent : Nat := 120
  terminalSoftwareBlockRows : Nat := 4
  terminalColorScheme : TerminalColorScheme := .dark
  terminalTextBrightnessPercent : Nat := defaultTerminalTextBrightnessPercent
  terminalSemanticHighlighting : Bool := false
  terminalCompactRendering : Bool := true
  terminalRowRenderCache : Bool := false
  terminalCursorBlink : Bool := true
  systemIconsFollowTheme : Bool := false
  focusedTerminalRefreshFps : Nat := 60
  unfocusedTerminalRefreshFps : Nat := 4
  terminalSemanticColors : TerminalSemanticColors := {}
  brightBoldText : Bool := true
  rightClickCopyOrPaste : Bool := false
  copySelectionOnSelect : Bool := false
  terminalMouseLocalSelectionPriority : Bool := false
deriving DecidableEq

/-- `AppearanceSettings` without `local_shell_icon_override`. -/
structure AppearanceSettings where
  rendererPreference : RendererPreference := .automatic
  terminalDrawingPreference : TerminalDrawingPreference := .itemTree
  softwarePresentation : SoftwarePresentationMode := .damageBackingStore
  theme : ThemeSettings := {}
  fields : AppearanceFields := {}
deriving DecidableEq

/-- The color scheme of the terminal follows the theme. -/
def AppearanceFields.normalized (fields : AppearanceFields) (theme : ThemeSettings) :
    AppearanceFields :=
  { fields with
    applicationFontFamily := normalizeFontFamily fields.applicationFontFamily "JetBrains Mono"
    terminalFontFamily := normalizeFontFamily fields.terminalFontFamily "JetBrains Mono"
    terminalFontSize := clamp minTerminalFontSize maxTerminalFontSize fields.terminalFontSize
    terminalLineHeightPercent :=
      clamp minTerminalLineHeight maxTerminalLineHeight fields.terminalLineHeightPercent
    terminalSoftwareBlockRows :=
      clamp minTerminalSoftwareBlockRows maxTerminalSoftwareBlockRows
        fields.terminalSoftwareBlockRows
    terminalColorScheme := theme.terminalColorScheme
    terminalTextBrightnessPercent :=
      normalizeTerminalTextBrightness fields.terminalTextBrightnessPercent
    focusedTerminalRefreshFps := normalizeTerminalRefreshFps fields.focusedTerminalRefreshFps
    unfocusedTerminalRefreshFps := normalizeTerminalRefreshFps fields.unfocusedTerminalRefreshFps
    terminalSemanticColors := fields.terminalSemanticColors.normalized }

def AppearanceSettings.normalizeInPlace (p : Platform) (appearance : AppearanceSettings) :
    AppearanceSettings :=
  let theme := ThemeSettings.normalized p.contrastRatio appearance.theme.mode.asSetting
    appearance.theme.palette.asSetting appearance.theme.customLight appearance.theme.customDark
  { rendererPreference :=
      RendererPreference.fromSetting appearance.rendererPreference.asSetting
    terminalDrawingPreference :=
      TerminalDrawingPreference.fromSetting appearance.terminalDrawingPreference.asSetting
    softwarePresentation :=
      SoftwarePresentationMode.fromSetting appearance.softwarePresentation.asSetting
    theme
    fields := appearance.fields.normalized theme }

/-! ## Terminal and workspace -/

structure TerminalSettings where
  scrollbackLines : Nat := 2000
  defaultColumns : Nat := 120
  defaultRows : Nat := 36
  localShell : String := systemDefaultShell
  knownShells : List String := [systemDefaultShell]
  optionAsMeta : Bool := false
  alternateScrollToHome : Bool := false
  osc52Clipboard : Bool := false
deriving DecidableEq

def normalizeShellName (value : String) : Option String :=
  if trim value ≠ "" ∧ (trim value).length ≤ maxShellNameChars ∧ !hasControl (trim value) then
    some (trim value)
  else none

def knowsShell (known : List String) (shell : String) : Bool :=
  known.any fun other => eqIgnoreAsciiCase other shell

/-- The shells of the list that are valid and not known yet, up to the limit. -/
def pushShells (normalized : List String) : List String → List String
  | [] => normalized
  | shell :: shells =>
    match normalizeShellName shell with
    | none => pushShells normalized shells
    | some shell =>
      if knowsShell normalized shell then pushShells normalized shells
      else if maxKnownShells ≤ (normalized ++ [shell]).length then normalized ++ [shell]
      else pushShells (normalized ++ [shell]) shells

def normalizeShellSettings (localShell : String) (knownShells : List String) :
    String × List String :=
  let localShell := (normalizeShellName localShell).getD systemDefaultShell
  let normalized := pushShells [systemDefaultShell] knownShells
  if !knowsShell normalized localShell && decide (normalized.length < maxKnownShells) then
    (localShell, normalized ++ [localShell])
  else (localShell, normalized)

def TerminalSettings.normalizeInPlace (terminal : TerminalSettings) : TerminalSettings :=
  { terminal with
    scrollbackLines := clamp minScrollbackLines maxScrollbackLines terminal.scrollbackLines
    defaultColumns := clamp minTerminalColumns maxTerminalColumns terminal.defaultColumns
    defaultRows := clamp minTerminalRows maxTerminalRows terminal.defaultRows
    localShell := (normalizeShellSettings terminal.localShell terminal.knownShells).1
    knownShells := (normalizeShellSettings terminal.localShell terminal.knownShells).2 }

structure WorkspaceSettings where
  sidebarWidth : Nat := defaultSidebarWidth
  tabWidth : Nat := 172
  sessionMaskCharacter : String := "*"
  collapsedGroupLabelChars : Nat := 2
deriving DecidableEq

def normalizeSessionMaskCharacter (value : String) : String :=
  normalizeText
    (fun value => value.length == 1 && !value.toList.any fun c => isControl c || isWhitespace c)
    "*" value

def WorkspaceSettings.normalizeInPlace (workspace : WorkspaceSettings) : WorkspaceSettings where
  sidebarWidth := clamp minSidebarWidth maxSidebarWidth workspace.sidebarWidth
  tabWidth := clamp minTabWidth maxTabWidth workspace.tabWidth
  sessionMaskCharacter := normalizeSessionMaskCharacter workspace.sessionMaskCharacter
  collapsedGroupLabelChars :=
    clamp minCollapsedGroupLabelChars maxCollapsedGroupLabelChars
      workspace.collapsedGroupLabelChars

/-! ## Shortcuts -/

structure ShortcutSettings where
  openSettings : String
  newSession : String
  importSessions : String
  exportSelected : String
  toggleSidebar : String
  copySelection : String
  paste : String
  openSftp : String
deriving DecidableEq

/-- `split('+')` of the modifiers, which are known and not repeated. -/
def validateModifiers (label : String) (seen : List (List Char)) :
    List (List Char) → Except String Unit
  | [] => .ok ()
  | modifier :: modifiers => do
    bailIf (decide (modifier ∉ ["Cmd", "Meta", "Ctrl", "Alt", "Shift"].map String.toList))
      s!"{label} shortcut contains an unknown modifier"
    bailIf (decide (modifier ∈ seen)) s!"{label} shortcut contains a repeated modifier"
    validateModifiers label (seen ++ [modifier]) modifiers

def validateShortcut (label shortcut : String) : Except String Unit := do
  let shortcut := trim shortcut
  bailIf (shortcut == "") s!"{label} shortcut cannot be empty"
  bailIf (decide (maxShortcutChars < shortcut.length) || hasControl shortcut)
    s!"{label} shortcut is invalid"
  bailIf (!shortcut.toList.contains '+') s!"{label} shortcut must include a modifier"
  -- `rsplit_once('+')`.
  let key := (shortcut.toList.reverse.takeWhile (· ≠ '+')).reverse
  let modifiers := (shortcut.toList.reverse.dropWhile (· ≠ '+')).tail.reverse
  bailIf (key.isEmpty || key.any isWhitespace) s!"{label} shortcut key is invalid"
  validateModifiers label [] (modifiers.splitOn '+')

def validateDistinct : List (String × String) → Except String Unit
  | [] => .ok ()
  | (label, shortcut) :: shortcuts =>
    match shortcuts.find? fun other => eqIgnoreAsciiCase other.2 shortcut with
    | some (otherLabel, _) => .error s!"{label} and {otherLabel} cannot use the same shortcut"
    | none => validateDistinct shortcuts

namespace ShortcutSettings

def default (macos : Bool) : ShortcutSettings where
  openSettings := if macos then "Cmd+," else "Ctrl+,"
  newSession := if macos then "Cmd+N" else "Ctrl+N"
  importSessions := if macos then "Cmd+Shift+I" else "Ctrl+Shift+I"
  exportSelected := if macos then "Cmd+Shift+E" else "Ctrl+Shift+E"
  toggleSidebar := if macos then "Cmd+S" else "Ctrl+S"
  copySelection := if macos then "Cmd+C" else "Ctrl+Shift+C"
  paste := if macos then "Cmd+V" else "Ctrl+Shift+V"
  openSftp := "Ctrl+M"

/-- `previous_toggle_sidebar_shortcut`. -/
def previousToggleSidebar (macos : Bool) : String := if macos then "Cmd+B" else "Ctrl+Shift+B"

def trimmed (s : ShortcutSettings) : ShortcutSettings where
  openSettings := trim s.openSettings
  newSession := trim s.newSession
  importSessions := trim s.importSessions
  exportSelected := trim s.exportSelected
  toggleSidebar := trim s.toggleSidebar
  copySelection := trim s.copySelection
  paste := trim s.paste
  openSftp := trim s.openSftp

def labelled (s : ShortcutSettings) : List (String × String) :=
  [("open settings", s.openSettings), ("new server", s.newSession),
    ("import sessions", s.importSessions), ("export selected", s.exportSelected),
    ("toggle sidebar", s.toggleSidebar), ("copy selection", s.copySelection), ("paste", s.paste),
    ("open SFTP", s.openSftp)]

def validate (s : ShortcutSettings) : Except String Unit := do
  s.labelled.forM fun (label, shortcut) => validateShortcut label shortcut
  validateDistinct s.labelled

def normalized (macos : Bool) (s : ShortcutSettings) : ShortcutSettings :=
  match s.trimmed.validate with
  | .ok () => s.trimmed
  | .error _ => default macos

end ShortcutSettings

/-! ## X11 and SFTP -/

inductive X11ServerProvider where
  | auto
  | system
  | xQuartz
  | macXServer
  | vcXsrv
  | xming
  | custom
deriving DecidableEq, Repr

namespace X11ServerProvider

def asSetting : X11ServerProvider → String
  | auto => "auto"
  | system => "system"
  | xQuartz => "xquartz"
  | macXServer => "macxserver"
  | vcXsrv => "vcxsrv"
  | xming => "xming"
  | custom => "custom"

def fromSetting (value : String) : X11ServerProvider :=
  match settingText value with
  | "system" => system
  | "xquartz" => xQuartz
  | "macxserver" | "mac-x-server" => macXServer
  | "vcxsrv" => vcXsrv
  | "xming" => xming
  | "custom" => custom
  | _ => auto

end X11ServerProvider

structure X11Settings where
  provider : X11ServerProvider := .auto
  appPath : String := ""
  launchOnConnect : Bool := true
  allowNoAuth : Bool := false
deriving DecidableEq

def normalizeX11AppPath (value : String) : String :=
  normalizeText (fun value => decide (value.length ≤ maxX11AppPathChars) && !hasControl value)
    "" value

def X11Settings.normalizeInPlace (x11 : X11Settings) : X11Settings :=
  { x11 with
    provider := X11ServerProvider.fromSetting x11.provider.asSetting
    appPath := normalizeX11AppPath x11.appPath }

structure SftpTransferFilterSettings where
  enabled : Bool := false
  usePlatformDefaults : Bool := false
  customPatterns : List String := []
deriving DecidableEq

/-- A pattern that `normalize_sftp_transfer_filter_patterns` skips. -/
def skipsPattern (patterns : List String) (pattern : String) : Bool :=
  pattern == "" || decide (maxSftpTransferFilterPatternChars < pattern.length)
    || hasControl pattern || pattern.toList.any (fun c => c == '/' || c == '\\')
    || patterns.contains pattern

def pushPatterns (patterns : List String) : List (List Char) → List String
  | [] => patterns
  | raw :: lines =>
    if skipsPattern patterns (trim (String.ofList raw)) then pushPatterns patterns lines
    else if maxSftpTransferFilterPatterns ≤ patterns.length then patterns
    else pushPatterns (patterns ++ [trim (String.ofList raw)]) lines

def normalizeSftpTransferFilterPatterns (text : List Char) : List String :=
  if maxSftpTransferFilterTextChars < text.length then []
  else pushPatterns [] (TextLines.lines text)

def SftpTransferFilterSettings.normalizeInPlace (filters : SftpTransferFilterSettings) :
    SftpTransferFilterSettings :=
  { filters with
    customPatterns := normalizeSftpTransferFilterPatterns
      (TextLines.join (filters.customPatterns.map String.toList)) }

structure SftpTransferSettings where
  perTabTransfers : Nat := 2
  globalUploads : Nat := 8
  rateLimitMibPerSecond : Nat := 0
  localOpenMaxFileMib : Nat := 512
  remoteEditMaxFileMib : Nat := 4
deriving DecidableEq

/-- Zero means no limit. -/
def normalizeSftpLocalOpenMaxFileMib (value : Nat) : Nat :=
  if value = 0 then 0 else clamp 1 maxSftpLocalOpenMaxFileMib value

def SftpTransferSettings.normalizeInPlace (transfers : SftpTransferSettings) :
    SftpTransferSettings where
  perTabTransfers := clamp minSftpPerTabTransfers.toNat maxSftpPerTabTransfers.toNat
    transfers.perTabTransfers
  globalUploads := clamp minSftpGlobalUploads maxSftpGlobalUploads transfers.globalUploads
  rateLimitMibPerSecond := clamp 0 maxSftpRateLimitMibPerSecond.toNat
    transfers.rateLimitMibPerSecond
  localOpenMaxFileMib := normalizeSftpLocalOpenMaxFileMib transfers.localOpenMaxFileMib
  remoteEditMaxFileMib := clamp 1 maxSftpRemoteEditMaxFileMib transfers.remoteEditMaxFileMib

/-! ## All settings -/

/-- What `AppSettings` keeps beside the audio format, the language and the icon of the shell. -/
structure SettingsFields where
  appearance : AppearanceSettings := {}
  terminal : TerminalSettings := {}
  workspace : WorkspaceSettings := {}
  shortcuts : ShortcutSettings
  x11 : X11Settings := {}
  credentialStorage : CredentialStorage := .encryptedVault
  sftpTransferFilters : SftpTransferFilterSettings := {}
  sftpTransfers : SftpTransferSettings := {}
deriving DecidableEq

def SettingsFields.normalizeInPlace (p : Platform) (fields : SettingsFields) : SettingsFields where
  appearance := fields.appearance.normalizeInPlace p
  terminal := fields.terminal.normalizeInPlace
  workspace := fields.workspace.normalizeInPlace
  shortcuts := fields.shortcuts.normalized p.macos
  x11 := fields.x11.normalizeInPlace
  -- `CredentialStorage::from_setting` reads back what `as_setting` writes.
  credentialStorage := fields.credentialStorage
  sftpTransferFilters := fields.sftpTransferFilters.normalizeInPlace
  sftpTransfers := fields.sftpTransfers.normalizeInPlace

namespace AppSettings

def normalizeInPlace (p : Platform) (settings : AppSettings SettingsFields) :
    AppSettings SettingsFields where
  audio := settings.audio.normalize
  uiLanguage := p.uiLanguage (settings.uiLanguage.getD "system")
  localShellIconOverride := settings.localShellIconOverride.bind p.systemIconId
  rest := settings.rest.normalizeInPlace p

end AppSettings

end AxSsh.Profiles
