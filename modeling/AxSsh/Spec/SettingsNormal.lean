import AxSsh.Native.AppSettings
import AxSsh.Spec.ProfileChecks

/-!
# Normalized settings

Normalizing settings twice is normalizing them once, whatever the contrast of two colors is: a role
that falls back to the reference color of its brightness does so again.

## Key results
- `protectContrast_idem`: protected palettes
- `normalizeShellSettings_idem`, `normalizePatterns_idem`: lists that are collected up to a limit
- `normalizeInPlace_idem`: all settings
-/

namespace AxSsh.Profiles

open Credentials (settingText eqIgnoreAsciiCase)
open TextLines (linesLength)

/-- Catalogs whose entries resolve to themselves; the system language is none of them. -/
structure Platform.Lawful (p : Platform) : Prop where
  icon : ∀ value id, p.systemIconId value = some id → p.systemIconId id = some id
  language : ∀ value locale, p.uiLanguage value = some locale → p.uiLanguage locale = some locale
  system : p.uiLanguage "system" = none

/-! ## Numbers and texts -/

@[simp] theorem clamp_clamp (low high value : Nat) :
    clamp low high (clamp low high value) = clamp low high value := by
  unfold clamp
  omega

theorem normalizeText_idem {valid : String → Bool} {default : String}
    (hdefault : trim default = default) (value : String) :
    normalizeText valid default (normalizeText valid default value) =
      normalizeText valid default value := by
  unfold normalizeText
  by_cases hvalid : valid (trim value) = true
  · rw [if_pos hvalid, trim_trim, if_pos hvalid]
  · rw [if_neg hvalid, hdefault, ite_self]

@[simp] theorem normalizeFontFamily_idem (value : String) :
    normalizeFontFamily (normalizeFontFamily value "JetBrains Mono") "JetBrains Mono" =
      normalizeFontFamily value "JetBrains Mono" :=
  normalizeText_idem rfl value

@[simp] theorem normalizeSessionMaskCharacter_idem (value : String) :
    normalizeSessionMaskCharacter (normalizeSessionMaskCharacter value) =
      normalizeSessionMaskCharacter value :=
  normalizeText_idem rfl value

@[simp] theorem normalizeX11AppPath_idem (value : String) :
    normalizeX11AppPath (normalizeX11AppPath value) = normalizeX11AppPath value :=
  normalizeText_idem rfl value

@[simp] theorem normalizeTerminalTextBrightness_idem (percent : Nat) :
    normalizeTerminalTextBrightness (normalizeTerminalTextBrightness percent) =
      normalizeTerminalTextBrightness percent := by
  unfold normalizeTerminalTextBrightness clamp minTerminalTextBrightnessPercent
    maxTerminalTextBrightnessPercent
  omega

@[simp] theorem normalizeSftpLocalOpenMaxFileMib_idem (value : Nat) :
    normalizeSftpLocalOpenMaxFileMib (normalizeSftpLocalOpenMaxFileMib value) =
      normalizeSftpLocalOpenMaxFileMib value := by
  unfold normalizeSftpLocalOpenMaxFileMib clamp
  split
  · rfl
  · rw [if_neg (by omega)]
    omega

@[simp] theorem AudioSettings.normalize_idem (audio : AudioSettings) :
    audio.normalize.normalize = audio.normalize := by
  unfold AudioSettings.normalize
  split <;> rfl

/-! ## Names of settings -/

@[simp] theorem ThemeMode.fromSetting_asSetting (mode : ThemeMode) :
    fromSetting mode.asSetting = mode := by
  cases mode <;> rfl

@[simp] theorem ThemePaletteKind.fromSetting_asSetting (kind : ThemePaletteKind) :
    fromSetting kind.asSetting = kind := by
  cases kind <;> rfl

@[simp] theorem ThemePaletteKind.fromSetting_serialize (kind : ThemePaletteKind) :
    fromSetting kind.serialize = kind := by
  cases kind <;> rfl

@[simp] theorem RendererPreference.fromSetting_asSetting (preference : RendererPreference) :
    fromSetting preference.asSetting = preference := by
  cases preference <;> rfl

@[simp] theorem TerminalDrawingPreference.fromSetting_asSetting
    (preference : TerminalDrawingPreference) : fromSetting preference.asSetting = preference := by
  cases preference <;> rfl

@[simp] theorem SoftwarePresentationMode.fromSetting_asSetting (mode : SoftwarePresentationMode) :
    fromSetting mode.asSetting = mode := by
  cases mode <;> rfl

@[simp] theorem X11ServerProvider.fromSetting_asSetting (provider : X11ServerProvider) :
    fromSetting provider.asSetting = provider := by
  cases provider <;> rfl

/-! ## Colors -/

/-- A color in its canonical form: `#` and six or eight digits in capitals. -/
def isCanonicalColor (color : String) : Bool :=
  match color.toList with
  | '#' :: digits =>
    (digits.length == 6 || digits.length == 8)
      && digits.all fun c => isAsciiHexDigit c && c.toUpper == c
  | _ => false

theorem hexDigit_facts {c : Char} (h : isAsciiHexDigit c = true) :
    isWhitespace c = false ∧ (c == '#') = false ∧ isAsciiHexDigit c.toUpper = true ∧
      c.toUpper.toUpper = c.toUpper := by
  have hall : ∀ c ∈ "0123456789abcdefABCDEF".toList, isWhitespace c = false ∧ (c == '#') = false ∧
      isAsciiHexDigit c.toUpper = true ∧ c.toUpper.toUpper = c.toUpper :=
    TextLines.forall_mem_of_all (by decide)
  exact hall c (List.contains_iff_mem.mp h)

theorem dropWhile_eq_self {α : Type} {p : α → Bool} {l : List α} (h : ∀ x ∈ l, p x = false) :
    l.dropWhile p = l := by
  cases l with
  | nil => rfl
  | cons x l => rw [List.dropWhile_cons_of_neg (by simp [h x List.mem_cons_self])]

/-- A text without white space is trimmed. -/
theorem trim_eq_self {text : String} (h : ∀ c ∈ text.toList, isWhitespace c = false) :
    trim text = text := by
  unfold trim
  rw [dropWhile_eq_self h, dropWhile_eq_self fun c hc => h c (List.mem_reverse.mp hc),
    List.reverse_reverse, String.ofList_toList]

theorem trim_color {digits : List Char} (h : ∀ c ∈ digits, isAsciiHexDigit c = true) :
    trim (String.ofList ('#' :: digits)) = String.ofList ('#' :: digits) := by
  refine trim_eq_self fun c hc => ?_
  rw [String.toList_ofList] at hc
  rcases List.mem_cons.mp hc with rfl | hc
  · decide
  · exact (hexDigit_facts (h c hc)).1

theorem map_toUpper_eq {digits : List Char} (h : ∀ c ∈ digits, c.toUpper = c) :
    digits.map Char.toUpper = digits := by
  rw [List.map_congr_left h, List.map_id']

theorem canonicalColor_cases {color : String} (h : isCanonicalColor color = true) :
    ∃ digits, color = String.ofList ('#' :: digits) ∧ (digits.length = 6 ∨ digits.length = 8) ∧
      ∀ c ∈ digits, isAsciiHexDigit c = true ∧ c.toUpper = c := by
  unfold isCanonicalColor at h
  split at h
  · rename_i digits hdigits
    simp only [Bool.and_eq_true, Bool.or_eq_true, beq_iff_eq, List.all_eq_true] at h
    refine ⟨digits, ?_, h.1, h.2⟩
    rw [← hdigits, String.ofList_toList]
  · exact nomatch h

theorem isCanonicalColor_ofList {digits : List Char}
    (hlength : digits.length = 6 ∨ digits.length = 8)
    (hdigits : ∀ c ∈ digits, isAsciiHexDigit c = true) :
    isCanonicalColor (String.ofList ('#' :: digits.map Char.toUpper)) = true := by
  unfold isCanonicalColor
  rw [String.toList_ofList]
  simp only [List.length_map, List.all_map, Bool.and_eq_true, Bool.or_eq_true, beq_iff_eq,
    List.all_eq_true, Function.comp_apply]
  exact ⟨hlength, fun c hc => (hexDigit_facts (hdigits c hc)).2.2⟩

/-- A color in its canonical form stays as it is. -/
theorem normalizeThemeColor_canonical {color : String} (h : isCanonicalColor color = true)
    (fallback : String) : normalizeThemeColor color fallback = color := by
  obtain ⟨digits, rfl, hlength, hdigits⟩ := canonicalColor_cases h
  have htrim := trim_color fun c hc => (hdigits c hc).1
  have hdrop : ('#' :: digits).dropWhile (· == '#') = digits := by
    rw [List.dropWhile_cons_of_pos rfl]
    exact dropWhile_eq_self fun c hc => (hexDigit_facts (hdigits c hc).1).2.1
  have hupper := map_toUpper_eq fun c hc => (hdigits c hc).2
  unfold normalizeThemeColor colorDigits
  simp only [htrim, String.toList_ofList, hdrop, hupper]
  rw [if_pos ⟨by rcases hlength with hlength | hlength <;> simp [hlength],
    List.all_eq_true.mpr fun c hc => (hdigits c hc).1⟩, if_neg (by omega)]

theorem isCanonicalColor_normalize {value fallback : String}
    (hfallback : isCanonicalColor fallback = true) :
    isCanonicalColor (normalizeThemeColor value fallback) = true := by
  unfold normalizeThemeColor
  dsimp only
  generalize (trim value).toList.dropWhile (· == '#') = digits
  split
  · rename_i hvalid
    obtain ⟨hlength, hdigits⟩ := hvalid
    rw [List.all_eq_true] at hdigits
    have hdouble : digits.flatMap (fun c => [c.toUpper, c.toUpper]) =
        (digits.flatMap fun c => [c, c]).map Char.toUpper := by
      simp [List.map_flatMap]
    unfold colorDigits
    split
    · rename_i hshort
      rw [hdouble]
      refine isCanonicalColor_ofList ?_ fun c hc => ?_
      · have hlen : (digits.flatMap fun c => [c, c]).length = 2 * digits.length := by
          simp [List.length_flatMap, Nat.mul_comm]
        simp only [List.mem_cons, List.not_mem_nil, or_false] at hlength
        omega
      · obtain ⟨d, hd, hc⟩ := List.mem_flatMap.mp hc
        obtain rfl : c = d := by simpa using hc
        exact hdigits c hd
    · refine isCanonicalColor_ofList ?_ hdigits
      simp only [List.mem_cons, List.not_mem_nil, or_false] at hlength
      omega
  · exact hfallback

theorem normalizeTerminalSemanticColor_canonical {digits : List Char} (hlength : digits.length = 6)
    (h : ∀ c ∈ digits, isAsciiHexDigit c = true ∧ c.toUpper = c) :
    normalizeTerminalSemanticColor (String.ofList ('#' :: digits)) =
      String.ofList ('#' :: digits) := by
  unfold normalizeTerminalSemanticColor
  rw [trim_color fun c hc => (h c hc).1, String.toList_ofList]
  show (if digits.length = 6 ∧ digits.all isAsciiHexDigit = true then
    String.ofList ('#' :: digits.map Char.toUpper) else "") = _
  rw [map_toUpper_eq fun c hc => (h c hc).2,
    if_pos ⟨hlength, List.all_eq_true.mpr fun c hc => (h c hc).1⟩]

theorem normalizeTerminalSemanticColor_cases (value : String) :
    normalizeTerminalSemanticColor value = "" ∨
      ∃ digits, digits.length = 6 ∧ (∀ c ∈ digits, isAsciiHexDigit c = true ∧ c.toUpper = c) ∧
        normalizeTerminalSemanticColor value = String.ofList ('#' :: digits) := by
  unfold normalizeTerminalSemanticColor
  split
  · rename_i digits _
    split
    · rename_i hvalid
      rw [List.all_eq_true] at hvalid
      refine .inr ⟨digits.map Char.toUpper, by rw [List.length_map, hvalid.1], fun c hc => ?_, rfl⟩
      obtain ⟨d, hd, rfl⟩ := List.mem_map.mp hc
      exact (hexDigit_facts (hvalid.2 d hd)).2.2
    · exact .inl rfl
  · exact .inl rfl

@[simp] theorem normalizeTerminalSemanticColor_idem (value : String) :
    normalizeTerminalSemanticColor (normalizeTerminalSemanticColor value) =
      normalizeTerminalSemanticColor value := by
  obtain hempty | ⟨digits, hlength, hdigits, heq⟩ := normalizeTerminalSemanticColor_cases value
  · rw [hempty]
    rfl
  · rw [heq]
    exact normalizeTerminalSemanticColor_canonical hlength hdigits

/-! ## Palettes -/

variable {p : Platform}
variable {K : Type} [Field K] [LinearOrder K] {ratio : String → String → Option K}

theorem isCanonicalColor_fallback (brightness : ThemeBrightness) (role : ThemeRole) :
    isCanonicalColor (brightness.fallback role) = true := by
  cases brightness <;> cases role <;> rfl

theorem isCanonicalColor_reference (brightness : ThemeBrightness) :
    isCanonicalColor brightness.reference = true := by
  cases brightness <;> rfl

@[simp] theorem ensureSurfaceDirection_idem (value fallback reference : String) :
    ensureSurfaceDirection ratio (ensureSurfaceDirection ratio value fallback reference) fallback
      reference = ensureSurfaceDirection ratio value fallback reference := by
  unfold ensureSurfaceDirection
  split
  · rfl
  · exact ite_self _

omit [Field K] in
/-- A role that fell back to the reference color did so because nothing else would do. -/
@[simp] theorem ensureRoleContrast_idem (value fallback : String) (surfaces : List String)
    (minimum : K) (reference : String) :
    ensureRoleContrast ratio (ensureRoleContrast ratio value fallback surfaces minimum reference)
      fallback surfaces minimum reference =
        ensureRoleContrast ratio value fallback surfaces minimum reference := by
  by_cases hvalue : roleMeetsContrast ratio value surfaces minimum = true
  · simp [ensureRoleContrast, hvalue]
  · by_cases hfallback : roleMeetsContrast ratio fallback surfaces minimum = true
    · simp [ensureRoleContrast, hvalue, hfallback]
    · simp [ensureRoleContrast, hvalue, hfallback]

namespace ThemePalette

theorem protectContrast_idem (brightness : ThemeBrightness) (palette : ThemePalette) :
    (palette.protectContrast ratio brightness).protectContrast ratio brightness =
      palette.protectContrast ratio brightness := by
  have hsurfaces : (palette.protectContrast ratio brightness).protectSurfaces ratio brightness =
      palette.protectContrast ratio brightness := by
    funext role
    cases role <;> simp [protectContrast, protectSurfaces, protectRoles, protectSelection]
  have hroles : (palette.protectContrast ratio brightness).protectRoles ratio brightness =
      palette.protectContrast ratio brightness := by
    funext role
    cases role <;> simp [protectContrast, protectSurfaces, protectRoles, protectSelection]
  have hselection : (palette.protectContrast ratio brightness).protectSelection ratio brightness =
      palette.protectContrast ratio brightness := by
    funext role
    cases role with
    | terminalSelection =>
      simp only [protectContrast, protectSelection]
      split
      · exact ite_self _
      · rfl
    | _ => rfl
  conv_lhs => rw [protectContrast, hsurfaces, hroles, hselection]

/-- Every color of a protected palette is one of the palette, of the fallback, or the reference. -/
theorem isCanonicalColor_protect {brightness : ThemeBrightness} {palette : ThemePalette}
    (h : ∀ role, isCanonicalColor (palette role) = true) (role : ThemeRole) :
    isCanonicalColor (palette.protectContrast ratio brightness role) = true := by
  have hfallback := isCanonicalColor_fallback brightness
  -- a color is kept, or replaced by the fallback or the reference
  have hsurface {value : String} (hvalue : isCanonicalColor value = true) (role : ThemeRole) :
      isCanonicalColor (ensureSurfaceDirection ratio value (brightness.fallback role)
        brightness.reference) = true := by
    unfold ensureSurfaceDirection
    split
    · exact hvalue
    · exact hfallback role
  have hrole {value : String} (hvalue : isCanonicalColor value = true) (role : ThemeRole)
      (surfaces : List String) (minimum : K) :
      isCanonicalColor (ensureRoleContrast ratio value (brightness.fallback role) surfaces minimum
        brightness.reference) = true := by
    unfold ensureRoleContrast
    split
    · exact hvalue
    split
    · exact hfallback role
    · exact isCanonicalColor_reference brightness
  cases role with
  | background | panel | panelAlt | terminalBackground => exact hsurface (h _) _
  | border | text | muted | accent | success | danger | terminalForeground =>
    exact hrole (h _) _ _ _
  | overlay => exact h _
  | terminalSelection =>
    simp only [protectContrast, protectSelection]
    split
    · exact hfallback _
    · exact h _

theorem normalizeForBrightness_idem (brightness : ThemeBrightness) (palette : ThemePalette) :
    (palette.normalizeForBrightness ratio brightness).normalizeForBrightness ratio brightness =
      palette.normalizeForBrightness ratio brightness := by
  have hcanonical : ∀ role, isCanonicalColor
      (palette.normalizeForBrightness ratio brightness role) = true :=
    isCanonicalColor_protect fun role =>
      isCanonicalColor_normalize (isCanonicalColor_fallback brightness role)
  have hsame : (palette.normalizeForBrightness ratio brightness).normalizeWithFallback
      brightness.fallback = palette.normalizeForBrightness ratio brightness :=
    funext fun role => normalizeThemeColor_canonical (hcanonical role) _
  rw [normalizeForBrightness, hsame]
  exact protectContrast_idem brightness _

end ThemePalette

/-! ## Shells -/

theorem normalizeShellName_some {value shell : String} (h : normalizeShellName value = some shell) :
    normalizeShellName shell = some shell := by
  unfold normalizeShellName at h
  split at h
  · rename_i hvalid
    obtain rfl := Option.some.inj h
    unfold normalizeShellName
    rw [trim_trim, if_pos hvalid]
  · exact nomatch h

theorem knowsShell_append_self (known : List String) (shell : String) :
    knowsShell (known ++ [shell]) shell = true := by
  simp [knowsShell, eqIgnoreAsciiCase]

/-- Shells that `pushShells` adds behind others: valid, new, and none after the limit. -/
def AddsShells (known : List String) : List String → Prop
  | [] => True
  | shell :: shells =>
    normalizeShellName shell = some shell ∧ knowsShell known shell = false ∧
      (maxKnownShells ≤ (known ++ [shell]).length → shells = []) ∧
      AddsShells (known ++ [shell]) shells

theorem pushShells_adds (known shells : List String) :
    ∃ added, pushShells known shells = known ++ added ∧ AddsShells known added := by
  induction shells generalizing known with
  | nil => exact ⟨[], (List.append_nil known).symm, trivial⟩
  | cons value shells ih =>
    unfold pushShells
    split
    · exact ih known
    rename_i shell hshell
    split
    · exact ih known
    rename_i hnew
    rw [Bool.not_eq_true] at hnew
    split
    · exact ⟨[shell], rfl, normalizeShellName_some hshell, hnew, fun _ => rfl, trivial⟩
    · rename_i hroom
      obtain ⟨added, hpush, hadds⟩ := ih (known ++ [shell])
      refine ⟨shell :: added, ?_, normalizeShellName_some hshell, hnew,
        fun hfull => absurd hfull hroom, hadds⟩
      rw [hpush, List.append_assoc, List.singleton_append]

/-- What was added is added again. -/
theorem pushShells_of_adds {known added : List String} (h : AddsShells known added) :
    pushShells known added = known ++ added := by
  induction added generalizing known with
  | nil => exact (List.append_nil known).symm
  | cons shell added ih =>
    obtain ⟨hvalid, hnew, hlast, hadds⟩ := h
    unfold pushShells
    simp only [hvalid, hnew, Bool.false_eq_true, if_false]
    split
    · rename_i hfull
      rw [hlast hfull]
    · rw [ih hadds, List.append_assoc, List.singleton_append]

theorem addsShells_append {known added : List String} {shell : String}
    (h : AddsShells known added) (hvalid : normalizeShellName shell = some shell)
    (hnew : knowsShell (known ++ added) shell = false)
    (hroom : (known ++ added).length < maxKnownShells) : AddsShells known (added ++ [shell]) := by
  induction added generalizing known with
  | nil =>
    rw [List.append_nil] at hnew
    exact ⟨hvalid, hnew, fun _ => rfl, trivial⟩
  | cons first added ih =>
    obtain ⟨hfirst, hfirstNew, -, hadds⟩ := h
    rw [← List.singleton_append, ← List.append_assoc] at hnew hroom
    refine ⟨hfirst, hfirstNew, fun hfull => ?_, ih hadds hnew hroom⟩
    rw [List.length_append] at hroom
    omega

theorem pushShells_skip {known shells : List String} {shell : String}
    (hvalid : normalizeShellName shell = some shell) (hknown : knowsShell known shell = true) :
    pushShells known (shell :: shells) = pushShells known shells := by
  conv_lhs => unfold pushShells
  simp only [hvalid, hknown, if_true]

theorem normalizeShellName_systemDefault :
    normalizeShellName systemDefaultShell = some systemDefaultShell := rfl

theorem normalizeShellSettings_idem (localShell : String) (knownShells : List String) :
    normalizeShellSettings (normalizeShellSettings localShell knownShells).1
        (normalizeShellSettings localShell knownShells).2 =
      normalizeShellSettings localShell knownShells := by
  obtain ⟨added, hpush, hadds⟩ := pushShells_adds [systemDefaultShell] knownShells
  -- The local shell is valid after the first pass.
  obtain ⟨shell, hshell, hvalid⟩ : ∃ shell,
      (normalizeShellName localShell).getD systemDefaultShell = shell ∧
        normalizeShellName shell = some shell := by
    cases hname : normalizeShellName localShell with
    | none => exact ⟨_, rfl, normalizeShellName_systemDefault⟩
    | some shell => exact ⟨_, rfl, normalizeShellName_some hname⟩
  have hagain {known : List String} (h : AddsShells [systemDefaultShell] known) :
      pushShells [systemDefaultShell] ([systemDefaultShell] ++ known) =
        [systemDefaultShell] ++ known := by
    have hknown : knowsShell [systemDefaultShell] systemDefaultShell = true :=
      knowsShell_append_self [] _
    rw [List.singleton_append, pushShells_skip normalizeShellName_systemDefault hknown,
      pushShells_of_adds h, List.singleton_append]
  unfold normalizeShellSettings
  simp only [hpush, hshell]
  by_cases hpushed : (!knowsShell ([systemDefaultShell] ++ added) shell &&
      decide (([systemDefaultShell] ++ added).length < maxKnownShells)) = true
  · rw [if_pos hpushed]
    simp only [Bool.and_eq_true, Bool.not_eq_eq_eq_not, Bool.not_true, decide_eq_true_eq] at hpushed
    have hmore := addsShells_append hadds hvalid hpushed.1 hpushed.2
    simp only [hvalid, Option.getD_some]
    rw [List.append_assoc, hagain hmore, ← List.append_assoc, knowsShell_append_self]
    simp
  · rw [if_neg hpushed]
    simp only [hvalid, Option.getD_some, hagain hadds]
    rw [if_neg hpushed]

/-! ## Patterns -/

/-- Patterns that `pushPatterns` adds behind others: trimmed, accepted, and none after the limit. -/
def AddsPatterns (patterns : List String) : List String → Prop
  | [] => True
  | pattern :: added =>
    trim pattern = pattern ∧ skipsPattern patterns pattern = false ∧
      patterns.length < maxSftpTransferFilterPatterns ∧ AddsPatterns (patterns ++ [pattern]) added

theorem length_trim_le (text : List Char) : (trim (String.ofList text)).length ≤ text.length := by
  have hend := (List.dropWhile_suffix isWhitespace (l := text)).length_le
  have hstart := (List.dropWhile_suffix isWhitespace
    (l := (text.dropWhile isWhitespace).reverse)).length_le
  rw [List.length_reverse] at hstart
  rw [trim, String.toList_ofList, String.length_ofList, List.length_reverse]
  omega

theorem pushPatterns_adds (patterns : List String) (lines : List (List Char)) :
    ∃ added, pushPatterns patterns lines = patterns ++ added ∧ AddsPatterns patterns added ∧
      linesLength (added.map String.toList) ≤ linesLength lines := by
  induction lines generalizing patterns with
  | nil => exact ⟨[], (List.append_nil patterns).symm, trivial, Nat.le_refl _⟩
  | cons raw lines ih =>
    unfold pushPatterns
    split
    · obtain ⟨added, hpush, hadds, hchars⟩ := ih patterns
      refine ⟨added, hpush, hadds, ?_⟩
      simp only [linesLength, List.map_cons, List.sum_cons] at hchars ⊢
      omega
    rename_i haccepted
    split
    · exact ⟨[], (List.append_nil patterns).symm, trivial, Nat.zero_le _⟩
    rename_i hroom
    obtain ⟨added, hpush, hadds, hchars⟩ := ih (patterns ++ [trim (String.ofList raw)])
    refine ⟨trim (String.ofList raw) :: added, ?_, ⟨trim_trim _, by simpa using haccepted,
      Nat.lt_of_not_le hroom, hadds⟩, ?_⟩
    · rw [hpush, List.append_assoc, List.singleton_append]
    · have htrim := length_trim_le raw
      simp only [linesLength, List.map_cons, List.sum_cons, String.length_toList] at hchars ⊢
      omega

theorem pushPatterns_of_adds {patterns added : List String} (h : AddsPatterns patterns added) :
    pushPatterns patterns (added.map String.toList) = patterns ++ added := by
  induction added generalizing patterns with
  | nil => exact (List.append_nil patterns).symm
  | cons pattern added ih =>
    obtain ⟨htrim, haccepted, hroom, hadds⟩ := h
    rw [List.map_cons]
    unfold pushPatterns
    rw [String.ofList_toList, htrim, if_neg (by simp [haccepted]), if_neg (Nat.not_le.mpr hroom),
      ih hadds, List.append_assoc, List.singleton_append]

theorem addsPatterns_mem {patterns added : List String} (h : AddsPatterns patterns added)
    {pattern : String} (hmem : pattern ∈ added) :
    pattern.toList ≠ [] ∧ ∀ c ∈ pattern.toList, isControl c = false := by
  induction added generalizing patterns with
  | nil => exact nomatch hmem
  | cons first added ih =>
    obtain ⟨-, haccepted, -, hadds⟩ := h
    rcases List.mem_cons.mp hmem with rfl | hmem
    · simp only [skipsPattern, hasControl, Bool.or_eq_false_iff, List.any_eq_false] at haccepted
      obtain ⟨⟨⟨⟨hempty, -⟩, hcontrol⟩, -⟩, -⟩ := haccepted
      refine ⟨fun hnil => ?_, fun c hc => Bool.eq_false_of_not_eq_true (hcontrol c hc)⟩
      rw [String.toList_eq_nil_iff] at hnil
      simp [hnil] at hempty
    · exact ih hadds hmem

theorem normalizePatterns_idem (text : List Char) :
    normalizeSftpTransferFilterPatterns (TextLines.join
        ((normalizeSftpTransferFilterPatterns text).map String.toList)) =
      normalizeSftpTransferFilterPatterns text := by
  unfold normalizeSftpTransferFilterPatterns
  by_cases hlong : maxSftpTransferFilterTextChars < text.length
  · rw [if_pos hlong]
    rfl
  rw [if_neg hlong]
  obtain ⟨added, hpush, hadds, hchars⟩ := pushPatterns_adds [] (TextLines.lines text)
  rw [List.nil_append] at hpush
  rw [hpush]
  -- patterns are lines: not empty, and without control characters
  have hplain {l : List Char} (hl : l ∈ added.map String.toList) :
      l ≠ [] ∧ ∀ c ∈ l, isControl c = false := by
    obtain ⟨pattern, hpattern, rfl⟩ := List.mem_map.mp hl
    exact addsPatterns_mem hadds hpattern
  have hlines : TextLines.lines (TextLines.join (added.map String.toList)) =
      added.map String.toList := by
    refine TextLines.lines_join (fun l hl hc => ?_) (fun l hl hc => ?_) fun l hl => (hplain hl).1
    · exact absurd ((hplain hl).2 _ hc) (by decide)
    · exact absurd ((hplain hl).2 _ hc) (by decide)
  -- they are no longer than the text they were taken from
  have hshort : ¬maxSftpTransferFilterTextChars <
      (TextLines.join (added.map String.toList)).length := by
    have hle := TextLines.linesLength_lines_le text
    by_cases hnil : added.map String.toList = []
    · rw [hnil]
      exact Nat.not_lt_zero _
    · have hjoin := TextLines.length_join hnil
      omega
  rw [if_neg hshort, hlines, pushPatterns_of_adds hadds, List.nil_append]

/-! ## All settings -/

theorem Platform.Lawful.bind_icon (hp : p.Lawful) (icon : Option String) :
    (icon.bind p.systemIconId).bind p.systemIconId = icon.bind p.systemIconId := by
  cases icon with
  | none => rfl
  | some value =>
    rw [Option.bind_some]
    cases hid : p.systemIconId value with
    | none => rfl
    | some id => exact hp.icon value id hid

theorem Platform.Lawful.language_getD (hp : p.Lawful) (value : String) :
    p.uiLanguage ((p.uiLanguage value).getD "system") = p.uiLanguage value := by
  cases hlocale : p.uiLanguage value with
  | none => exact hp.system
  | some locale => exact hp.language value locale hlocale

/-- The theme that `normalize_in_place` computes. -/
def ThemeSettings.normalize (p : Platform) (theme : ThemeSettings) : ThemeSettings :=
  .normalized p.contrastRatio theme.mode.asSetting theme.palette.asSetting theme.customLight
    theme.customDark

theorem ThemeSettings.normalize_idem (theme : ThemeSettings) :
    (theme.normalize p).normalize p = theme.normalize p := by
  simp [ThemeSettings.normalize, ThemeSettings.normalized, ThemePalette.normalizeForBrightness_idem]

theorem AppearanceSettings.normalizeInPlace_idem (appearance : AppearanceSettings) :
    (appearance.normalizeInPlace p).normalizeInPlace p = appearance.normalizeInPlace p := by
  have htheme := ThemeSettings.normalize_idem (p := p) appearance.theme
  unfold ThemeSettings.normalize at htheme
  simp only [AppearanceSettings.normalizeInPlace, htheme]
  simp [AppearanceFields.normalized, TerminalSemanticColors.normalized, normalizeTerminalRefreshFps]

@[simp] theorem ShortcutSettings.trimmed_idem (s : ShortcutSettings) :
    s.trimmed.trimmed = s.trimmed := by
  simp [ShortcutSettings.trimmed]

theorem ShortcutSettings.trimmed_default (macos : Bool) :
    (ShortcutSettings.default macos).trimmed = .default macos := by
  cases macos <;> rfl

theorem ShortcutSettings.normalized_idem (macos : Bool) (s : ShortcutSettings) :
    (s.normalized macos).normalized macos = s.normalized macos := by
  unfold ShortcutSettings.normalized
  cases hvalid : s.trimmed.validate with
  | ok u => simp only [ShortcutSettings.trimmed_idem, hvalid]
  | error e =>
    simp only [ShortcutSettings.trimmed_default]
    split <;> rfl

theorem TerminalSettings.normalizeInPlace_idem (terminal : TerminalSettings) :
    terminal.normalizeInPlace.normalizeInPlace = terminal.normalizeInPlace := by
  simp [TerminalSettings.normalizeInPlace, normalizeShellSettings_idem]

theorem SettingsFields.normalizeInPlace_idem (fields : SettingsFields) :
    (fields.normalizeInPlace p).normalizeInPlace p = fields.normalizeInPlace p := by
  simp [SettingsFields.normalizeInPlace, AppearanceSettings.normalizeInPlace_idem,
    TerminalSettings.normalizeInPlace_idem, WorkspaceSettings.normalizeInPlace,
    ShortcutSettings.normalized_idem, X11Settings.normalizeInPlace,
    SftpTransferFilterSettings.normalizeInPlace, normalizePatterns_idem,
    SftpTransferSettings.normalizeInPlace]

/-- Normalized settings stay as they are. -/
theorem AppSettings.normalizeInPlace_idem (hp : p.Lawful) (settings : AppSettings SettingsFields) :
    (settings.normalizeInPlace p).normalizeInPlace p = settings.normalizeInPlace p := by
  simp [AppSettings.normalizeInPlace, hp.bind_icon, hp.language_getD,
    SettingsFields.normalizeInPlace_idem]

end AxSsh.Profiles
