import AxSsh.Native.Shortcuts
import AxSsh.Spec.ProfileChecks

/-!
# Chords of shortcuts

The settings compare shortcuts as texts; what a menu reacts to is a chord, a set of modifiers and
the name of a key.  Two accepted texts can stand for one chord.

## Key results
- `validateShortcut_eq_ok_iff`: the texts that are accepted
- `menuChord_of_accepted`: the chord of an accepted text
- `slintMenuKeyName_eq_iff`: the keys that have one name
- `chord_eq_iff`: the accepted texts that have one chord
-/

namespace AxSsh.Shortcuts

open Profiles

/-! ## The last plus sign -/

theorem exists_last_plus {text : List Char} (h : '+' ∈ text) :
    ∃ modifiers key, text = modifiers ++ '+' :: key ∧ '+' ∉ key := by
  obtain ⟨key, modifiers, heq, hkey⟩ := List.eq_append_cons_of_mem (List.mem_reverse.mpr h)
  refine ⟨modifiers.reverse, key.reverse, ?_, by simpa using hkey⟩
  rw [← List.reverse_reverse text, heq]
  simp

theorem takeWhile_reverse_key {modifiers key : List Char} (h : '+' ∉ key) :
    ((modifiers ++ '+' :: key).reverse.takeWhile (· ≠ '+')).reverse = key := by
  have hkey : ∀ c ∈ key.reverse, decide (c ≠ '+') = true := by
    intro c hc
    simpa using fun (heq : c = '+') => h (heq ▸ List.mem_reverse.mp hc)
  rw [List.reverse_append, List.reverse_cons, List.append_assoc,
    List.takeWhile_append_of_pos hkey]
  simp

theorem dropWhile_reverse_key {modifiers key : List Char} (h : '+' ∉ key) :
    ((modifiers ++ '+' :: key).reverse.dropWhile (· ≠ '+')).tail.reverse = modifiers := by
  have hkey : ∀ c ∈ key.reverse, decide (c ≠ '+') = true := by
    intro c hc
    simpa using fun (heq : c = '+') => h (heq ▸ List.mem_reverse.mp hc)
  rw [List.reverse_append, List.reverse_cons, List.append_assoc,
    List.dropWhile_append_of_pos hkey]
  simp

theorem rsplitOncePlus_eq {text : String} {modifiers key : List Char}
    (htext : text.toList = modifiers ++ '+' :: key) (h : '+' ∉ key) :
    rsplitOncePlus text = some (String.ofList modifiers, String.ofList key) := by
  rw [rsplitOncePlus, htext, takeWhile_reverse_key h, dropWhile_reverse_key h]
  simp

/-! ## Accepted texts -/

/-- The modifiers that `validate_shortcut` knows. -/
def knownModifiers : List (List Char) := ["Cmd", "Meta", "Ctrl", "Alt", "Shift"].map String.toList

theorem bailIf_bind_eq_ok_iff {α : Type} {condition : Bool} {message : String}
    {rest : Unit → Except String α} {result : α} :
    (bailIf condition message >>= rest) = .ok result ↔
      condition = false ∧ rest () = .ok result := by
  rw [Except.bind_eq_ok_iff]
  constructor
  · rintro ⟨_, hcheck, h⟩
    exact ⟨bailIf_eq_ok_iff.mp hcheck, h⟩
  · rintro ⟨hcheck, h⟩
    exact ⟨(), bailIf_eq_ok_iff.mpr hcheck, h⟩

theorem validateModifiers_eq_ok_iff {label : String} {seen modifiers : List (List Char)} :
    validateModifiers label seen modifiers = .ok () ↔
      (∀ modifier ∈ modifiers, modifier ∈ knownModifiers ∧ modifier ∉ seen) ∧ modifiers.Nodup := by
  induction modifiers generalizing seen with
  | nil => simp [validateModifiers]
  | cons modifier modifiers ih =>
    rw [validateModifiers, bailIf_bind_eq_ok_iff, bailIf_bind_eq_ok_iff, ih]
    simp only [decide_eq_false_iff_not, not_not, List.mem_append, List.mem_singleton, not_or,
      List.forall_mem_cons, List.nodup_cons]
    constructor
    · rintro ⟨hknown, hseen, hrest, hnodup⟩
      exact ⟨⟨⟨hknown, hseen⟩, fun m hm => ⟨(hrest m hm).1, (hrest m hm).2.1⟩⟩,
        fun hmem => (hrest modifier hmem).2.2 rfl, hnodup⟩
    · rintro ⟨⟨⟨hknown, hseen⟩, hrest⟩, hmem, hnodup⟩
      exact ⟨hknown, hseen, fun m hm => ⟨(hrest m hm).1, (hrest m hm).2, fun heq =>
        hmem (heq ▸ hm)⟩, hnodup⟩

/-- The modifiers and the key of an accepted text. -/
structure Accepted (text : String) (modifiers : List (List Char)) (key : List Char) : Prop where
  split : ∃ before, (trim text).toList = before ++ '+' :: key ∧ before.splitOn '+' = modifiers
  known : ∀ modifier ∈ modifiers, modifier ∈ knownModifiers
  nodup : modifiers.Nodup
  plain : '+' ∉ key
  nonempty : key ≠ []
  solid : ∀ c ∈ key, isWhitespace c = false
  short : (trim text).length ≤ maxShortcutChars
  printable : hasControl (trim text) = false

theorem validateShortcut_of_split {label text : String} {before key : List Char}
    (htext : (trim text).toList = before ++ '+' :: key) (hplain : '+' ∉ key) :
    validateShortcut label text = .ok () ↔ Accepted text (before.splitOn '+') key := by
  have hempty : (trim text == "") = false := by
    rw [beq_eq_false_iff_ne]
    intro h
    rw [h] at htext
    simp at htext
  have hplus : (trim text).toList.contains '+' = true := by
    rw [htext]
    simp
  rw [validateShortcut]
  simp only [bailIf_bind_eq_ok_iff, hempty, hplus, Bool.not_true, true_and]
  rw [htext, takeWhile_reverse_key hplain, dropWhile_reverse_key hplain,
    validateModifiers_eq_ok_iff]
  simp only [Bool.or_eq_false_iff, decide_eq_false_iff_not, Nat.not_lt, List.isEmpty_eq_false_iff,
    List.any_eq_false, Bool.not_eq_true]
  constructor
  · rintro ⟨⟨hshort, hprintable⟩, ⟨hkey, hsolid⟩, hknown, hnodup⟩
    exact ⟨⟨before, htext, rfl⟩, fun m hm => (hknown m hm).1, hnodup, hplain, hkey, hsolid, hshort,
      hprintable⟩
  · intro h
    exact ⟨⟨h.short, h.printable⟩, ⟨h.nonempty, h.solid⟩, fun m hm => ⟨h.known m hm, nofun⟩,
      h.nodup⟩

theorem validateShortcut_eq_ok_iff {label text : String} :
    validateShortcut label text = .ok () ↔ ∃ modifiers key, Accepted text modifiers key := by
  constructor
  · intro h
    have hplus : '+' ∈ (trim text).toList := by
      rw [validateShortcut] at h
      simp only [bailIf_bind_eq_ok_iff] at h
      simpa using h.2.2.1
    obtain ⟨before, key, htext, hplain⟩ := exists_last_plus hplus
    exact ⟨_, key, (validateShortcut_of_split htext hplain).mp h⟩
  · rintro ⟨modifiers, key, h⟩
    obtain ⟨before, htext, rfl⟩ := h.split
    exact (validateShortcut_of_split htext h.plain).mpr h

/-! ## Their chords -/

/-- The part that a menu derives from a modifier. -/
def modifierPart (macos : Bool) (modifier : List Char) : String :=
  if modifier = "Cmd".toList ∨ modifier = "Meta".toList then if macos then "Control" else "Meta"
  else if modifier = "Ctrl".toList then if macos then "Meta" else "Control"
  else if modifier = "Alt".toList then "Alt"
  else "Shift"

/-- A set of modifiers and the name of a key. -/
structure Chord where
  modifiers : Finset String
  key : String
deriving DecidableEq

def menuChord (lower : String → String) (macos : Bool) (text : String) : Option Chord :=
  (menuParts lower macos text).toOption.map fun parts => ⟨parts.modifiers.toFinset, parts.key⟩

def holdModifier (held : TerminalModifiers) (modifier : List Char) : TerminalModifiers :=
  if modifier = "Cmd".toList ∨ modifier = "Meta".toList then { held with metaKey := true }
  else if modifier = "Ctrl".toList then { held with control := true }
  else if modifier = "Alt".toList then { held with alt := true }
  else { held with shift := true }

theorem pushModifier_of_known {macos : Bool} {modifier : List Char}
    (h : modifier ∈ knownModifiers) (pushed : List String × TerminalModifiers) :
    pushModifier macos pushed modifier =
      .ok (pushed.1 ++ [modifierPart macos modifier], holdModifier pushed.2 modifier) := by
  simp only [knownModifiers, List.map_cons, List.map_nil, List.mem_cons, List.not_mem_nil,
    or_false] at h
  rcases h with rfl | rfl | rfl | rfl | rfl <;> rfl

theorem foldlM_pushModifier {macos : Bool} {modifiers : List (List Char)}
    (h : ∀ modifier ∈ modifiers, modifier ∈ knownModifiers)
    (pushed : List String × TerminalModifiers) :
    modifiers.foldlM (pushModifier macos) pushed =
      .ok (pushed.1 ++ modifiers.map (modifierPart macos), modifiers.foldl holdModifier pushed.2)
    := by
  induction modifiers generalizing pushed with
  | nil => simp [pure, Except.pure]
  | cons modifier modifiers ih =>
    obtain ⟨hknown, hrest⟩ := List.forall_mem_cons.mp h
    rw [List.foldlM_cons, pushModifier_of_known hknown]
    simp only [bind, Except.bind]
    rw [ih hrest]
    simp

/-- An accepted text has parts for the menu, one for each modifier. -/
theorem menuParts_of_accepted {lower : String → String} {text : String}
    {modifiers : List (List Char)} {key : List Char} (h : Accepted text modifiers key)
    (macos : Bool) : menuParts lower macos text = .ok {
      modifiers := modifiers.map (modifierPart macos)
      key := slintMenuKeyName lower (String.ofList key)
      native := { key := String.ofList key, modifiers := modifiers.foldl holdModifier {} } } := by
  obtain ⟨before, htext, rfl⟩ := h.split
  have hkey : (String.ofList key == "") = false := by
    rw [beq_eq_false_iff_ne]
    intro heq
    exact h.nonempty (by simpa using congrArg String.toList heq)
  rw [menuParts, rsplitOncePlus_eq htext h.plain]
  simp only [hkey, String.toList_ofList, foldlM_pushModifier h.known, bailIf]
  rfl

/-! ## Aliases -/

/-- Other names of keys. -/
def keyAliases : List (String × String) :=
  [("Enter", "Return"), ("ArrowUp", "UpArrow"), ("ArrowDown", "DownArrow"),
    ("ArrowLeft", "LeftArrow"), ("ArrowRight", "RightArrow"), (",", "Comma")]

/-- One character whose case is folded: no ASCII letter and no comma. -/
def Folded (key : String) : Prop :=
  key.length = 1 ∧ key ≠ "," ∧ ∀ c ∈ key.toList, c.isAlpha = false

/-- Two keys are the same, one another name of the other, or equal up to the case of a single
character. -/
def SameKey (lower : String → String) (key key' : String) : Prop :=
  key = key' ∨ (key, key') ∈ keyAliases ∨ (key', key) ∈ keyAliases ∨
    (Folded key ∧ (Folded key' ∧ lower key = lower key' ∨
      ¬Folded key' ∧ key' ≠ "," ∧ lower key = key')) ∨
    (Folded key' ∧ ¬Folded key ∧ key ≠ "," ∧ lower key' = key)

/-- The modifiers, with `Cmd` and `Meta` as names of one. -/
def modifierGroups : List (List (List Char)) :=
  [["Cmd", "Meta"], ["Ctrl"], ["Alt"], ["Shift"]].map (List.map String.toList)

/-- Both texts name the same modifiers, in any order. -/
def SameModifiers (modifiers modifiers' : List (List Char)) : Prop :=
  ∀ group ∈ modifierGroups,
    (∃ modifier ∈ group, modifier ∈ modifiers) ↔ ∃ modifier ∈ group, modifier ∈ modifiers'

/-- The three ways in which a key gets its name. -/
theorem slintMenuKeyName_cases (lower : String → String) (key : String) :
    (key, slintMenuKeyName lower key) ∈ keyAliases ∨
      Folded key ∧ slintMenuKeyName lower key = lower key ∨
      ¬Folded key ∧ (∀ name, (key, name) ∉ keyAliases) ∧ slintMenuKeyName lower key = key := by
  by_cases halias : ∃ name, (key, name) ∈ keyAliases
  · obtain ⟨name, hname⟩ := halias
    left
    simp only [keyAliases, List.mem_cons, Prod.mk.injEq, List.not_mem_nil, or_false] at hname
    rcases hname with ⟨rfl, -⟩ | ⟨rfl, -⟩ | ⟨rfl, -⟩ | ⟨rfl, -⟩ | ⟨rfl, -⟩ | ⟨rfl, -⟩ <;>
      simp [slintMenuKeyName, keyAliases]
  · right
    simp only [not_exists] at halias
    have hfirst : key ≠ "Enter" ∧ key ≠ "ArrowUp" ∧ key ≠ "ArrowDown" ∧ key ≠ "ArrowLeft" ∧
        key ≠ "ArrowRight" ∧ key ≠ "," := by
      refine ⟨?_, ?_, ?_, ?_, ?_, ?_⟩ <;> rintro rfl <;> simp [keyAliases] at halias
    obtain ⟨h1, h2, h3, h4, h5, hcomma⟩ := hfirst
    have hname : slintMenuKeyName lower key =
        if key.length = 1 ∧ key.toList.all fun character => !character.isAlpha then lower key
        else key := by
      simp only [slintMenuKeyName, h1, h2, h3, h4, h5, hcomma, if_false]
    have hfolded : Folded key ↔ key.length = 1 ∧ key.toList.all fun character =>
        !character.isAlpha := by
      simp [Folded, hcomma]
    rw [hname]
    by_cases h : Folded key
    · exact .inl ⟨h, if_pos (hfolded.mp h)⟩
    · exact .inr ⟨h, halias, if_neg (mt hfolded.mpr h)⟩

theorem not_folded_of_alias {pair : String × String} (h : pair ∈ keyAliases) :
    ¬Folded pair.1 ∧ ¬Folded pair.2 := by
  simp only [keyAliases, List.mem_cons, List.not_mem_nil, or_false] at h
  rcases h with rfl | rfl | rfl | rfl | rfl | rfl <;> refine ⟨?_, ?_⟩ <;>
    rintro ⟨hlength, hcomma, -⟩ <;> first | exact hcomma rfl | exact absurd hlength (by decide)

theorem slintMenuKeyName_of_folded {lower : String → String} {key : String} (h : Folded key) :
    slintMenuKeyName lower key = lower key := by
  rcases slintMenuKeyName_cases lower key with halias | ⟨-, hname⟩ | ⟨hnot, -⟩
  · exact absurd h (not_folded_of_alias halias).1
  · exact hname
  · exact absurd h hnot

theorem slintMenuKeyName_of_alias {lower : String → String} {pair : String × String}
    (h : pair ∈ keyAliases) : slintMenuKeyName lower pair.1 = slintMenuKeyName lower pair.2 := by
  simp only [keyAliases, List.mem_cons, List.not_mem_nil, or_false] at h
  rcases h with rfl | rfl | rfl | rfl | rfl | rfl <;> simp [slintMenuKeyName]

section Aliases

variable {lower : String → String} (hlower : ∀ text, ∀ c ∈ (lower text).toList, c.isUpper = false)

include hlower

/-- A text in lower case is no name with a capital letter. -/
theorem lower_ne_name {text : String} {pair : String × String} (h : pair ∈ keyAliases) :
    lower text ≠ pair.2 ∧ (pair.1 ≠ "," → lower text ≠ pair.1) := by
  have hupper {name : String} (hname : name.toList.any Char.isUpper = true) :
      lower text ≠ name := by
    rintro rfl
    obtain ⟨c, hc, hup⟩ := List.any_eq_true.mp hname
    exact Bool.false_ne_true ((hlower text c hc).symm.trans hup)
  simp only [keyAliases, List.mem_cons, List.not_mem_nil, or_false] at h
  rcases h with rfl | rfl | rfl | rfl | rfl | rfl <;>
    exact ⟨hupper (by decide), fun _ => by first | exact hupper (by decide) | contradiction⟩

theorem slintMenuKeyName_lower {key key' : String} (h : ¬Folded key') (hcomma : key' ≠ ",")
    (heq : lower key = key') : slintMenuKeyName lower key' = key' := by
  rcases slintMenuKeyName_cases lower key' with halias | ⟨hfolded, -⟩ | ⟨-, -, hname⟩
  · exact absurd heq ((lower_ne_name hlower halias).2 hcomma)
  · exact absurd hfolded h
  · exact hname

/-- Two keys have one name exactly when they are the same up to aliases and case. -/
theorem slintMenuKeyName_eq_iff {key key' : String} :
    slintMenuKeyName lower key = slintMenuKeyName lower key' ↔ SameKey lower key key' := by
  constructor
  · intro h
    rcases slintMenuKeyName_cases lower key with halias | ⟨hfolded, hname⟩ | ⟨hnot, hnone, hname⟩
    · rcases slintMenuKeyName_cases lower key' with halias' | ⟨-, hname'⟩ | ⟨-, -, hname'⟩
      · -- two aliases of one name
        left
        rw [h] at halias
        simp only [keyAliases, List.mem_cons, Prod.mk.injEq, List.not_mem_nil, or_false]
          at halias halias'
        generalize slintMenuKeyName lower key' = name at halias halias'
        rcases halias with ⟨rfl, rfl⟩ | ⟨rfl, rfl⟩ | ⟨rfl, rfl⟩ | ⟨rfl, rfl⟩ | ⟨rfl, rfl⟩ |
          ⟨rfl, rfl⟩ <;> simpa [eq_comm] using halias'
      · exact absurd (hname'.symm.trans h.symm) (lower_ne_name hlower halias).1
      · rw [h, hname'] at halias
        exact .inr (.inl halias)
    · rcases slintMenuKeyName_cases lower key' with halias' | ⟨hfolded', hname'⟩ |
        ⟨hnot', hnone', hname'⟩
      · exact absurd (hname.symm.trans h) (lower_ne_name hlower halias').1
      · exact .inr (.inr (.inr (.inl ⟨hfolded, .inl ⟨hfolded', hname ▸ hname' ▸ h⟩⟩)))
      · have hcomma : key' ≠ "," := by
          rintro rfl
          exact hnone' "Comma" (by decide)
        exact .inr (.inr (.inr (.inl ⟨hfolded, .inr ⟨hnot', hcomma, by rw [← hname, h, hname']⟩⟩)))
    · have hcomma : key ≠ "," := by
        rintro rfl
        exact hnone "Comma" (by decide)
      rcases slintMenuKeyName_cases lower key' with halias' | ⟨hfolded', hname'⟩ | ⟨-, -, hname'⟩
      · rw [← h, hname] at halias'
        exact .inr (.inr (.inl halias'))
      · exact .inr (.inr (.inr (.inr ⟨hfolded', hnot, hcomma, by rw [← hname', ← h, hname]⟩)))
      · exact .inl (hname.symm.trans (h.trans hname'))
  · rintro (rfl | halias | halias | ⟨hfolded, ⟨hfolded', heq⟩ | ⟨hnot', hcomma, heq⟩⟩ |
      ⟨hfolded', hnot, hcomma, heq⟩)
    · rfl
    · exact slintMenuKeyName_of_alias halias
    · exact (slintMenuKeyName_of_alias halias).symm
    · rw [slintMenuKeyName_of_folded hfolded, slintMenuKeyName_of_folded hfolded', heq]
    · rw [slintMenuKeyName_of_folded hfolded, slintMenuKeyName_lower hlower hnot' hcomma heq, heq]
    · rw [slintMenuKeyName_of_folded hfolded', slintMenuKeyName_lower hlower hnot hcomma heq, heq]

end Aliases

/-- On either platform two modifiers are one part for the menu when they are of one group. -/
theorem modifierPart_eq_iff (macos : Bool) {modifier modifier' : List Char}
    (h : modifier ∈ knownModifiers) (h' : modifier' ∈ knownModifiers) :
    modifierPart macos modifier = modifierPart macos modifier' ↔
      ∃ group ∈ modifierGroups, modifier ∈ group ∧ modifier' ∈ group := by
  simp only [knownModifiers, List.map_cons, List.map_nil, List.mem_cons, List.not_mem_nil,
    or_false] at h h'
  rcases h with rfl | rfl | rfl | rfl | rfl <;> rcases h' with rfl | rfl | rfl | rfl | rfl <;>
    cases macos <;> decide

theorem exists_group {modifier : List Char} (h : modifier ∈ knownModifiers) :
    ∃ group ∈ modifierGroups, modifier ∈ group := by
  simp only [knownModifiers, List.map_cons, List.map_nil, List.mem_cons, List.not_mem_nil,
    or_false] at h
  rcases h with rfl | rfl | rfl | rfl | rfl <;> decide

/-- The parts of one list are among those of the other when its groups are. -/
theorem map_modifierPart_subset_iff (macos : Bool) {modifiers modifiers' : List (List Char)}
    (h : ∀ modifier ∈ modifiers, modifier ∈ knownModifiers)
    (h' : ∀ modifier ∈ modifiers', modifier ∈ knownModifiers) :
    modifiers.map (modifierPart macos) ⊆ modifiers'.map (modifierPart macos) ↔
      ∀ group ∈ modifierGroups, (∃ modifier ∈ group, modifier ∈ modifiers) →
        ∃ modifier ∈ group, modifier ∈ modifiers' := by
  have hgroups : ∀ group ∈ modifierGroups, ∀ group' ∈ modifierGroups, ∀ modifier ∈ group,
      modifier ∈ group' → group = group' := by decide
  constructor
  · rintro hsubset group hgroup ⟨modifier, hmem, hmodifier⟩
    obtain ⟨modifier', hmodifier', heq⟩ :=
      List.mem_map.mp (hsubset (List.mem_map_of_mem hmodifier))
    obtain ⟨group', hgroup', hmem', hmem''⟩ :=
      (modifierPart_eq_iff macos (h' _ hmodifier') (h _ hmodifier)).mp heq
    obtain rfl := hgroups group hgroup group' hgroup' modifier hmem hmem''
    exact ⟨modifier', hmem', hmodifier'⟩
  · intro hall name hname
    obtain ⟨modifier, hmodifier, rfl⟩ := List.mem_map.mp hname
    obtain ⟨group, hgroup, hmem⟩ := exists_group (h modifier hmodifier)
    obtain ⟨modifier', hmem', hmodifier'⟩ := hall group hgroup ⟨modifier, hmem, hmodifier⟩
    exact List.mem_map.mpr ⟨modifier', hmodifier',
      (modifierPart_eq_iff macos (h' _ hmodifier') (h _ hmodifier)).mpr
        ⟨group, hgroup, hmem', hmem⟩⟩

theorem toFinset_modifierPart_eq_iff (macos : Bool) {modifiers modifiers' : List (List Char)}
    (h : ∀ modifier ∈ modifiers, modifier ∈ knownModifiers)
    (h' : ∀ modifier ∈ modifiers', modifier ∈ knownModifiers) :
    (modifiers.map (modifierPart macos)).toFinset = (modifiers'.map (modifierPart macos)).toFinset ↔
      SameModifiers modifiers modifiers' := by
  have hsubset {names names' : List String} : names.toFinset ⊆ names'.toFinset ↔ names ⊆ names' := by
    simp [Finset.subset_iff, List.subset_def]
  rw [Finset.Subset.antisymm_iff, hsubset, hsubset, map_modifierPart_subset_iff macos h h',
    map_modifierPart_subset_iff macos h' h]
  exact ⟨fun ⟨hle, hge⟩ group hgroup => ⟨hle group hgroup, hge group hgroup⟩,
    fun heq => ⟨fun group hgroup => (heq group hgroup).mp, fun group hgroup => (heq group hgroup).mpr⟩⟩

/-! ## Ambiguous texts -/

/-- Two texts, blanks around them aside, that name the same modifiers and the same key. -/
def SameShortcut (lower : String → String) (text text' : String) : Prop :=
  ∃ modifiers key modifiers' key', Accepted text modifiers key ∧ Accepted text' modifiers' key' ∧
    SameModifiers modifiers modifiers' ∧
      SameKey lower (String.ofList key) (String.ofList key')

theorem menuChord_of_accepted {lower : String → String} {text : String}
    {modifiers : List (List Char)} {key : List Char} (h : Accepted text modifiers key)
    (macos : Bool) : menuChord lower macos text =
      some ⟨(modifiers.map (modifierPart macos)).toFinset,
        slintMenuKeyName lower (String.ofList key)⟩ := by
  rw [menuChord, menuParts_of_accepted h]
  rfl

/-- Two accepted texts have one chord when they name the same modifiers and the same key. -/
theorem menuChord_eq_iff {lower : String → String}
    (hlower : ∀ text, ∀ c ∈ (lower text).toList, c.isUpper = false) (macos : Bool)
    {label label' text text' : String} (h : validateShortcut label text = .ok ())
    (h' : validateShortcut label' text' = .ok ()) :
    menuChord lower macos text = menuChord lower macos text' ↔ SameShortcut lower text text' := by
  obtain ⟨modifiers, key, haccepted⟩ := validateShortcut_eq_ok_iff.mp h
  obtain ⟨modifiers', key', haccepted'⟩ := validateShortcut_eq_ok_iff.mp h'
  have heq {modifiers key modifiers' key'} (ha : Accepted text modifiers key)
      (ha' : Accepted text' modifiers' key') :
      menuChord lower macos text = menuChord lower macos text' ↔
        SameModifiers modifiers modifiers' ∧
          SameKey lower (String.ofList key) (String.ofList key') := by
    rw [menuChord_of_accepted ha, menuChord_of_accepted ha', Option.some.injEq, Chord.mk.injEq,
      toFinset_modifierPart_eq_iff macos ha.known ha'.known, slintMenuKeyName_eq_iff hlower]
  constructor
  · intro hchord
    obtain ⟨hmodifiers, hkey⟩ := (heq haccepted haccepted').mp hchord
    exact ⟨_, _, _, _, haccepted, haccepted', hmodifiers, hkey⟩
  · rintro ⟨_, _, _, _, ha, ha', hsame⟩
    exact (heq ha ha').mpr hsame

end AxSsh.Shortcuts
