import Mathlib.Algebra.Order.Field.Basic
import Mathlib.Data.Real.Basic
import Mathlib.Tactic.Positivity
import AxSsh.Spec.SettingsNormal

/-!
# Readable themes

Normalization repairs a custom palette against contrast minima.  Surfaces are repaired first and
against the reference color, so the reference color is a last resort for every role on them.  Only
the selection of the terminal has no last resort: a selection that cannot be read is replaced by the
built-in one, whatever the custom background and the custom foreground are.

## Key results
- `ensureRoleContrast_meets`: a repaired role meets its minimum
- `normalizeForBrightness_readable_iff`: one palette is readable iff one of two selections is
- `normalized_readable_iff`: both custom palettes of a theme
-/

namespace AxSsh.Profiles

section

variable {K : Type} [LinearOrder K] {ratio : String → String → Option K}

variable (ratio) in
/-- The foreground has the contrast on the background. -/
def Meets (foreground background : String) (minimum : K) : Prop :=
  ∃ contrast ∈ ratio foreground background, minimum ≤ contrast

/-- The surfaces that text, borders and states are drawn on. -/
def paneSurfaces : List ThemeRole := [.background, .panel, .panelAlt]

/-! ## Repairs -/

theorem roleMeetsContrast_iff {value : String} {surfaces : List String} {minimum : K} :
    roleMeetsContrast ratio value surfaces minimum = true ↔
      ∀ surface ∈ surfaces, Meets ratio value surface minimum := by
  simp [roleMeetsContrast, Meets, Option.any_eq_true]

/-- A role is the first of the color, its fallback and the reference that can be read. -/
theorem ensureRoleContrast_meets {value fallback reference : String} {surfaces : List String}
    {minimum : K} (hreference : ∀ surface ∈ surfaces, Meets ratio reference surface minimum) :
    ∀ surface ∈ surfaces,
      Meets ratio (ensureRoleContrast ratio value fallback surfaces minimum reference) surface
        minimum := by
  unfold ensureRoleContrast
  split
  · rename_i hvalue
    exact roleMeetsContrast_iff.mp hvalue
  · split
    · rename_i hfallback
      exact roleMeetsContrast_iff.mp hfallback
    · exact hreference

theorem Meets.mono {foreground background : String} {minimum minimum' : K}
    (h : Meets ratio foreground background minimum) (hle : minimum' ≤ minimum) :
    Meets ratio foreground background minimum' := by
  obtain ⟨contrast, hcontrast, hmin⟩ := h
  exact ⟨contrast, hcontrast, hle.trans hmin⟩

variable [Field K]

variable (ratio) in
/-- The minima of a palette. -/
structure Readable (brightness : ThemeBrightness) (palette : ThemePalette) : Prop where
  solid : ∀ surface ∈ .terminalBackground :: paneSurfaces, isOpaque (palette surface) = true
  surfaces : ∀ surface ∈ .terminalBackground :: paneSurfaces,
    Meets ratio brightness.reference (palette surface) (9 / 2)
  border : ∀ surface ∈ paneSurfaces, Meets ratio (palette .border) (palette surface) 3
  roles : ∀ role ∈ [ThemeRole.text, .muted, .accent, .success, .danger], ∀ surface ∈ paneSurfaces,
    Meets ratio (palette role) (palette surface) (9 / 2)
  foreground : Meets ratio (palette .terminalForeground) (palette .terminalBackground) (9 / 2)
  selection : Meets ratio (palette .terminalSelection) (palette .terminalBackground) (3 / 2)
  selected : Meets ratio (palette .terminalForeground) (palette .terminalSelection) (9 / 2)

/-! ## One palette -/

namespace ThemePalette

/-- The custom background of the terminal where it is a surface, else the built-in one. -/
def backgroundUsed (ratio : String → String → Option K) (brightness : ThemeBrightness)
    (palette : ThemePalette) : String :=
  let builtIn := brightness.fallback .terminalBackground
  let custom := normalizeThemeColor (palette .terminalBackground) builtIn
  if isOpaque custom ∧ roleMeetsContrast ratio brightness.reference [custom] textContrast then
    custom
  else builtIn

/-- The custom foreground where it can be read on that background, else the built-in one or, where
that cannot be read either, the reference color. -/
def foregroundUsed (ratio : String → String → Option K) (brightness : ThemeBrightness)
    (palette : ThemePalette) : String :=
  let builtIn := brightness.fallback .terminalForeground
  let custom := normalizeThemeColor (palette .terminalForeground) builtIn
  let background := palette.backgroundUsed ratio brightness
  if roleMeetsContrast ratio custom [background] textContrast then custom
  else if roleMeetsContrast ratio builtIn [background] textContrast then builtIn
  else brightness.reference

/-- The selection stands out from the background, and the foreground can be read on it. -/
def SelectionReadable (ratio : String → String → Option K) (brightness : ThemeBrightness)
    (palette : ThemePalette) (selection : String) : Prop :=
  Meets ratio selection (palette.backgroundUsed ratio brightness) selectionContrast ∧
    Meets ratio (palette.foregroundUsed ratio brightness) selection textContrast

/-- One of the custom and the built-in selection can be used. -/
def HasSelection (ratio : String → String → Option K) (brightness : ThemeBrightness)
    (palette : ThemePalette) : Prop :=
  let builtIn := brightness.fallback .terminalSelection
  palette.SelectionReadable ratio brightness
      (normalizeThemeColor (palette .terminalSelection) builtIn) ∨
    palette.SelectionReadable ratio brightness builtIn

variable {brightness : ThemeBrightness} {palette : ThemePalette}

theorem normalizeForBrightness_surface {surface : ThemeRole}
    (h : surface ∈ .terminalBackground :: paneSurfaces) :
    palette.normalizeForBrightness ratio brightness surface =
      ensureSurfaceDirection ratio
        (normalizeThemeColor (palette surface) (brightness.fallback surface))
        (brightness.fallback surface) brightness.reference := by
  simp only [paneSurfaces, List.mem_cons, List.not_mem_nil, or_false] at h
  rcases h with rfl | rfl | rfl | rfl <;> rfl

theorem normalizeForBrightness_border :
    palette.normalizeForBrightness ratio brightness .border =
      ensureRoleContrast ratio
        (normalizeThemeColor (palette .border) (brightness.fallback .border))
        (brightness.fallback .border)
        (paneSurfaces.map (palette.normalizeForBrightness ratio brightness)) 3
        brightness.reference := rfl

theorem normalizeForBrightness_terminalForeground :
    palette.normalizeForBrightness ratio brightness .terminalForeground =
      ensureRoleContrast ratio
        (normalizeThemeColor (palette .terminalForeground) (brightness.fallback .terminalForeground))
        (brightness.fallback .terminalForeground)
        [palette.normalizeForBrightness ratio brightness .terminalBackground] (9 / 2)
        brightness.reference := rfl

theorem normalizeForBrightness_role {role : ThemeRole}
    (h : role ∈ [ThemeRole.text, .muted, .accent, .success, .danger]) :
    palette.normalizeForBrightness ratio brightness role =
      ensureRoleContrast ratio
        (normalizeThemeColor (palette role) (brightness.fallback role)) (brightness.fallback role)
        (paneSurfaces.map (palette.normalizeForBrightness ratio brightness)) (9 / 2)
        brightness.reference := by
  simp only [List.mem_cons, List.not_mem_nil, or_false] at h
  rcases h with rfl | rfl | rfl | rfl | rfl <;> rfl

/-! ## Surfaces -/

variable [IsStrictOrderedRing K]

omit [IsStrictOrderedRing K] in
/-- A pair without a ratio counts as one of ratio zero, which meets no minimum. -/
theorem getD_lt_iff {foreground background : String} {minimum : K} (hpos : 0 < minimum) :
    (ratio foreground background).getD 0 < minimum ↔ ¬Meets ratio foreground background minimum := by
  cases h : ratio foreground background <;> simp [Meets, h, hpos]

variable (ratio) in
theorem ensureSurfaceDirection_eq (value fallback reference : String) :
    ensureSurfaceDirection ratio value fallback reference = value ∧ isOpaque value = true ∧
        Meets ratio reference value (9 / 2) ∨
      ensureSurfaceDirection ratio value fallback reference = fallback ∧
        ¬(isOpaque value = true ∧ Meets ratio reference value (9 / 2)) := by
  have hpos : (0 : K) < 9 / 2 := by positivity
  have hkept : (isOpaque value && !decide ((ratio reference value).getD 0 < 9 / 2)) = true ↔
      isOpaque value = true ∧ Meets ratio reference value (9 / 2) := by
    rw [Bool.and_eq_true, Bool.not_eq_true', decide_eq_false_iff_not, getD_lt_iff hpos, not_not]
  unfold ensureSurfaceDirection
  split
  · rename_i h
    exact .inl ⟨rfl, hkept.mp h⟩
  · rename_i h
    exact .inr ⟨rfl, fun h' => h (hkept.mpr h')⟩

/-- A repaired surface is a surface when the fallback is one. -/
theorem ensureSurfaceDirection_meets {value fallback reference : String}
    (hsolid : isOpaque fallback = true) (hfallback : Meets ratio reference fallback (9 / 2)) :
    isOpaque (ensureSurfaceDirection ratio value fallback reference) = true ∧
      Meets ratio reference (ensureSurfaceDirection ratio value fallback reference) (9 / 2) := by
  obtain ⟨heq, h⟩ | ⟨heq, -⟩ := ensureSurfaceDirection_eq ratio value fallback reference
  · rw [heq]
    exact h
  · rw [heq]
    exact ⟨hsolid, hfallback⟩

theorem normalizeForBrightness_background :
    palette.normalizeForBrightness ratio brightness .terminalBackground =
      palette.backgroundUsed ratio brightness := by
  rw [normalizeForBrightness_surface List.mem_cons_self, backgroundUsed]
  have hmeets (color : String) :
      roleMeetsContrast ratio brightness.reference [color] (9 / 2) = true ↔
        Meets ratio brightness.reference color (9 / 2) := by
    rw [roleMeetsContrast_iff]
    simp
  obtain ⟨heq, hsolid, hmin⟩ | ⟨heq, hnot⟩ := ensureSurfaceDirection_eq ratio _ _ _
  · rw [heq, if_pos ⟨hsolid, (hmeets _).mpr hmin⟩]
  · rw [heq, if_neg fun h => hnot ⟨h.1, (hmeets _).mp h.2⟩]

theorem normalizeForBrightness_foreground :
    palette.normalizeForBrightness ratio brightness .terminalForeground =
      palette.foregroundUsed ratio brightness := by
  rw [normalizeForBrightness_terminalForeground, normalizeForBrightness_background]
  rfl

/-- The selection is the custom one if that can be read, and else the built-in one. -/
theorem normalizeForBrightness_selection :
    palette.SelectionReadable ratio brightness
        (palette.normalizeForBrightness ratio brightness .terminalSelection) ↔
      palette.HasSelection ratio brightness := by
  have hselection : palette.normalizeForBrightness ratio brightness .terminalSelection =
      let custom := normalizeThemeColor (palette .terminalSelection)
        (brightness.fallback .terminalSelection)
      if (ratio custom (palette.backgroundUsed ratio brightness)).getD 0 < 3 / 2 ∨
          (ratio (palette.foregroundUsed ratio brightness) custom).getD 0 < 9 / 2 then
        brightness.fallback .terminalSelection
      else custom := by
    rw [← normalizeForBrightness_background, ← normalizeForBrightness_foreground]
    rfl
  rw [hselection, HasSelection]
  generalize normalizeThemeColor _ _ = custom
  have hcustom : palette.SelectionReadable ratio brightness custom ↔
      ¬((ratio custom (palette.backgroundUsed ratio brightness)).getD 0 < 3 / 2 ∨
        (ratio (palette.foregroundUsed ratio brightness) custom).getD 0 < 9 / 2) := by
    rw [getD_lt_iff (by positivity), getD_lt_iff (by positivity), SelectionReadable]
    tauto
  simp only
  split
  · rename_i hbad
    exact ⟨.inr, fun h => h.resolve_left fun h' => hcustom.mp h' hbad⟩
  · rename_i hgood
    exact iff_of_true (hcustom.mpr hgood) (.inl (hcustom.mpr hgood))

/-- With a built-in palette that meets the minima, a normalized palette meets them all but for the
selection, which is as good as the better of two. -/
theorem normalizeForBrightness_readable_iff (hbuiltIn : Readable ratio brightness
    brightness.fallback) (palette : ThemePalette) :
    Readable ratio brightness (palette.normalizeForBrightness ratio brightness) ↔
      palette.HasSelection ratio brightness := by
  have hsurface {surface : ThemeRole} (h : surface ∈ .terminalBackground :: paneSurfaces) :
      isOpaque (palette.normalizeForBrightness ratio brightness surface) = true ∧
        Meets ratio brightness.reference
          (palette.normalizeForBrightness ratio brightness surface) (9 / 2) := by
    rw [normalizeForBrightness_surface h]
    exact ensureSurfaceDirection_meets (hbuiltIn.solid surface h) (hbuiltIn.surfaces surface h)
  -- the reference color can be read on every repaired surface
  have hreference : ∀ surface ∈ paneSurfaces.map (palette.normalizeForBrightness ratio brightness),
      Meets ratio brightness.reference surface (9 / 2) := by
    intro surface h
    obtain ⟨role, hrole, rfl⟩ := List.mem_map.mp h
    exact (hsurface (List.mem_cons_of_mem _ hrole)).2
  have hforeground : Meets ratio (palette.foregroundUsed ratio brightness)
      (palette.backgroundUsed ratio brightness) (9 / 2) := by
    rw [← normalizeForBrightness_foreground, ← normalizeForBrightness_background,
      normalizeForBrightness_terminalForeground]
    exact ensureRoleContrast_meets (by simpa using (hsurface List.mem_cons_self).2) _ (by simp)
  rw [← normalizeForBrightness_selection, SelectionReadable, ← normalizeForBrightness_foreground,
    ← normalizeForBrightness_background]
  constructor
  · intro h
    exact ⟨h.selection, h.selected⟩
  · rintro ⟨hselection, hselected⟩
    exact {
      solid := fun surface h => (hsurface h).1
      surfaces := fun surface h => (hsurface h).2
      border := by
        intro surface h
        rw [normalizeForBrightness_border]
        refine ensureRoleContrast_meets (fun surface h => (hreference surface h).mono ?_) _
          (List.mem_map_of_mem h)
        norm_num
      roles := by
        intro role hrole surface h
        rw [normalizeForBrightness_role hrole]
        exact ensureRoleContrast_meets hreference _ (List.mem_map_of_mem h)
      foreground := by
        rw [normalizeForBrightness_foreground, normalizeForBrightness_background]
        exact hforeground
      selection := hselection
      selected := hselected }

end ThemePalette

end

/-! ## Themes -/

/-- Both custom palettes are readable, and normalizing the theme again changes nothing. -/
def ThemeSettings.ReadableAndStable (ratio : String → String → Option ℝ) (theme : ThemeSettings) :
    Prop :=
  Readable ratio .light theme.customLight ∧ Readable ratio .dark theme.customDark ∧
    ThemeSettings.normalized ratio theme.mode.asSetting theme.palette.asSetting theme.customLight
      theme.customDark = theme

/-- Over any ratio for which the built-in palettes are readable, the normalized theme is readable
exactly when each custom palette leaves a selection that is. -/
theorem normalized_readable_iff (ratio : String → String → Option ℝ)
    (hbuiltIn : ∀ brightness : ThemeBrightness, Readable ratio brightness brightness.fallback)
    (mode palette : String) (customLight customDark : ThemePalette) :
    (ThemeSettings.normalized ratio mode palette customLight customDark).ReadableAndStable ratio ↔
      customLight.HasSelection ratio .light ∧ customDark.HasSelection ratio .dark := by
  have hlight := ThemePalette.normalizeForBrightness_readable_iff (hbuiltIn .light) customLight
  have hdark := ThemePalette.normalizeForBrightness_readable_iff (hbuiltIn .dark) customDark
  constructor
  · rintro ⟨h, h', -⟩
    exact ⟨hlight.mp h, hdark.mp h'⟩
  · rintro ⟨h, h'⟩
    refine ⟨hlight.mpr h, hdark.mpr h', ?_⟩
    simp [ThemeSettings.normalized, ThemePalette.normalizeForBrightness_idem]

/-- A ratio that only tells whether two colors differ. -/
noncomputable def differingRatio (foreground background : String) : Option ℝ :=
  some (if foreground = background then 1 else 21)

theorem meets_differingRatio {foreground background : String} {minimum : ℝ} (hle : minimum ≤ 21)
    (hlt : 1 < minimum) :
    Meets differingRatio foreground background minimum ↔ foreground ≠ background := by
  by_cases h : foreground = background <;> simp [Meets, differingRatio, h, hle, hlt]

theorem builtIn_differingRatio (brightness : ThemeBrightness) :
    Readable differingRatio brightness brightness.fallback := by
  have hstrong {a b : String} : Meets differingRatio a b (9 / 2) ↔ a ≠ b :=
    meets_differingRatio (by norm_num) (by norm_num)
  have hborder {a b : String} : Meets differingRatio a b 3 ↔ a ≠ b :=
    meets_differingRatio (by norm_num) (by norm_num)
  have hselection {a b : String} : Meets differingRatio a b (3 / 2) ↔ a ≠ b :=
    meets_differingRatio (by norm_num) (by norm_num)
  cases brightness <;> constructor <;>
    first
    | simp only [hstrong]; decide
    | simp only [hborder]; decide
    | simp only [hselection]; decide
    | decide

/-- The built-in dark palette on another terminal background and with another selection. -/
def darkOn (background selection : String) : ThemePalette
  | .terminalBackground => background
  | .terminalSelection => selection
  | role => ThemePalette.axsshDark role

theorem roleMeetsContrast_differingRatio {foreground background : String}
    (hne : foreground ≠ background) :
    roleMeetsContrast differingRatio foreground [background] (9 / 2) = true := by
  rw [roleMeetsContrast_iff]
  simpa using (meets_differingRatio (by norm_num) (by norm_num)).mpr hne

theorem backgroundUsed_differingRatio {brightness : ThemeBrightness} {palette : ThemePalette}
    {custom : String} (hcustom : normalizeThemeColor (palette .terminalBackground)
      (brightness.fallback .terminalBackground) = custom)
    (hsolid : isOpaque custom = true) (hne : brightness.reference ≠ custom) :
    palette.backgroundUsed differingRatio brightness = custom := by
  rw [ThemePalette.backgroundUsed]
  simp only [hcustom]
  exact if_pos ⟨hsolid, roleMeetsContrast_differingRatio hne⟩

theorem foregroundUsed_differingRatio {brightness : ThemeBrightness} {palette : ThemePalette}
    {custom : String} (hcustom : normalizeThemeColor (palette .terminalForeground)
      (brightness.fallback .terminalForeground) = custom)
    (hne : custom ≠ palette.backgroundUsed differingRatio brightness) :
    palette.foregroundUsed differingRatio brightness = custom := by
  rw [ThemePalette.foregroundUsed]
  simp only [hcustom]
  exact if_pos (roleMeetsContrast_differingRatio hne)

theorem selectionReadable_differingRatio {brightness : ThemeBrightness} {palette : ThemePalette}
    {selection : String} : palette.SelectionReadable differingRatio brightness selection ↔
      selection ≠ palette.backgroundUsed differingRatio brightness ∧
        palette.foregroundUsed differingRatio brightness ≠ selection := by
  rw [ThemePalette.SelectionReadable, meets_differingRatio (by norm_num) (by norm_num),
    meets_differingRatio (by norm_num) (by norm_num)]

theorem darkOn_readable :
    (ThemeSettings.normalized differingRatio "dark" "custom" .axsshLight
      (darkOn "#264F78" "#000000")).ReadableAndStable differingRatio := by
  refine (normalized_readable_iff differingRatio builtIn_differingRatio "dark" "custom" _ _).mpr
    ⟨.inl ?_, .inl ?_⟩
  · have hbackground : ThemePalette.axsshLight.backgroundUsed differingRatio .light = "#FFFFFF" :=
      backgroundUsed_differingRatio (by decide) (by decide) (by decide)
    have hforeground : ThemePalette.axsshLight.foregroundUsed differingRatio .light = "#333333" :=
      foregroundUsed_differingRatio (by decide) (by rw [hbackground]; decide)
    rw [selectionReadable_differingRatio, hbackground, hforeground]
    decide
  · have hbackground :
        (darkOn "#264F78" "#000000").backgroundUsed differingRatio .dark = "#264F78" :=
      backgroundUsed_differingRatio (by decide) (by decide) (by decide)
    have hforeground :
        (darkOn "#264F78" "#000000").foregroundUsed differingRatio .dark = "#CCCCCC" :=
      foregroundUsed_differingRatio (by decide) (by rw [hbackground]; decide)
    rw [selectionReadable_differingRatio, hbackground, hforeground]
    decide

/-- The built-in selection comes back on a custom background of the same color. -/
theorem darkOn_unreadable : ¬∀ (ratio : String → String → Option ℝ),
    (∀ foreground background, ratio foreground background = ratio background foreground) →
    (∀ brightness : ThemeBrightness, Readable ratio brightness brightness.fallback) →
    ∀ (mode palette : String) (customLight customDark : ThemePalette),
      (ThemeSettings.normalized ratio mode palette customLight customDark).ReadableAndStable
        ratio := by
  intro hall
  have hsymm (foreground background : String) :
      differingRatio foreground background = differingRatio background foreground := by
    simp [differingRatio, eq_comm]
  obtain ⟨-, hdark, -⟩ := hall differingRatio hsymm builtIn_differingRatio "dark" "custom"
    .axsshLight (darkOn "#264F78" "#264F78")
  have hbackground :
      (darkOn "#264F78" "#264F78").backgroundUsed differingRatio .dark = "#264F78" :=
    backgroundUsed_differingRatio (by decide) (by decide) (by decide)
  obtain hselection | hselection :=
    (ThemePalette.normalizeForBrightness_readable_iff (builtIn_differingRatio .dark) _).mp hdark
  all_goals
    rw [selectionReadable_differingRatio, hbackground] at hselection
    exact hselection.1 (by decide)

end AxSsh.Profiles
