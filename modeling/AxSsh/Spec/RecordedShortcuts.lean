import AxSsh.Spec.ShortcutChords

/-!
# Recorded shortcuts

A recorded shortcut is the names of the held modifiers and the name of the key, joined by plus
signs.  It is read back from the split of its text at these signs, so a name must not have one.

## Key results
- `toList_recorded`, `splitOn_recorded`: the recorded text and its parts
- `shortcutKeyName_cases`: the names of keys
- `recorded_accepted_iff`: the key events whose shortcut is accepted and read back
-/

namespace AxSsh.Shortcuts

open Profiles

/-! ## The recorded text -/

/-- The names of held modifiers, each with its plus sign. -/
def heldText (names : List String) : List Char := names.flatMap fun name => name.toList ++ ['+']

theorem toList_recorded (names : List String) (key : String) :
    ("+".intercalate (names ++ [key])).toList = heldText names ++ key.toList := by
  rw [String.toList_intercalate]
  induction names with
  | nil => simp [heldText]
  | cons name names ih =>
    have hne : (names ++ [key]).map String.toList ≠ [] := by simp
    rw [List.cons_append, List.map_cons, List.intercalate_cons_of_ne_nil hne, ih]
    simp [heldText]

theorem splitOn_recorded {names : List String} (h : ∀ name ∈ names, '+' ∉ name.toList)
    (rest : List Char) :
    (heldText names ++ rest).splitOn '+' = names.map String.toList ++ rest.splitOn '+' := by
  induction names with
  | nil => rfl
  | cons name names ih =>
    obtain ⟨hname, hrest⟩ := List.forall_mem_cons.mp h
    have hcons : heldText (name :: names) ++ rest =
        name.toList ++ '+' :: (heldText names ++ rest) := by
      simp [heldText]
    rw [hcons, List.splitOn_append_cons_self, List.splitOn_eq_singleton hname, ih hrest]
    rfl

theorem length_heldText (names : List String) :
    (heldText names).length = (names.map fun name => name.length + 1).sum := by
  simp [heldText, List.length_flatMap, String.length_toList]

/-- A text that splits into modifiers and a key is accepted under the conditions on the parts. -/
theorem accepted_of_splitOn {text : String} {modifiers : List (List Char)} {key : List Char}
    (hsplit : (trim text).toList.splitOn '+' = modifiers ++ [key]) (hne : modifiers ≠ [])
    (hknown : ∀ modifier ∈ modifiers, modifier ∈ knownModifiers) (hnodup : modifiers.Nodup)
    (hkey : key ≠ []) (hsolid : ∀ c ∈ key, isWhitespace c = false)
    (hshort : (trim text).length ≤ maxShortcutChars) (hprintable : hasControl (trim text) = false) :
    Accepted text modifiers key := by
  have hplus : '+' ∈ (trim text).toList := by
    by_contra hnot
    rw [List.splitOn_eq_singleton hnot] at hsplit
    have hlength := congrArg List.length hsplit
    exact hne (List.length_eq_zero_iff.mp (by simpa using hlength))
  obtain ⟨before, key', htext, hplain⟩ := exists_last_plus hplus
  rw [htext, List.splitOn_append_cons_self, List.splitOn_eq_singleton hplain] at hsplit
  obtain ⟨hbefore, hkeys⟩ := List.append_inj' hsplit rfl
  obtain rfl := List.singleton_inj.mp hkeys
  exact ⟨⟨before, htext, hbefore⟩, hknown, hnodup, hplain, hkey, hsolid, hshort, hprintable⟩

theorem splitOn_of_accepted {text : String} {modifiers : List (List Char)} {key : List Char}
    (h : Accepted text modifiers key) :
    (trim text).toList.splitOn '+' = modifiers ++ [key] := by
  obtain ⟨before, htext, rfl⟩ := h.split
  rw [htext, List.splitOn_append_cons_self, List.splitOn_eq_singleton h.plain]

/-! ## Held modifiers -/

theorem modifierNames_known (macos : Bool) (modifiers : TerminalModifiers) :
    (∀ name ∈ (modifierNames macos modifiers).map String.toList, name ∈ knownModifiers) ∧
      ((modifierNames macos modifiers).map String.toList).Nodup := by
  obtain ⟨alt, control, metaKey, shift⟩ := modifiers
  cases macos <;> cases alt <;> cases control <;> cases metaKey <;> cases shift <;> decide

theorem holdModifier_modifierNames (macos : Bool) (modifiers : TerminalModifiers) :
    ((modifierNames macos modifiers).map String.toList).foldl holdModifier {} = modifiers := by
  obtain ⟨alt, control, metaKey, shift⟩ := modifiers
  cases macos <;> cases alt <;> cases control <;> cases metaKey <;> cases shift <;> decide

theorem length_heldText_le (macos : Bool) (modifiers : TerminalModifiers) :
    (heldText (modifierNames macos modifiers)).length ≤ 20 := by
  obtain ⟨alt, control, metaKey, shift⟩ := modifiers
  cases macos <;> cases alt <;> cases control <;> cases metaKey <;> cases shift <;> decide

theorem knownModifiers_plain {modifier : List Char} (h : modifier ∈ knownModifiers) :
    ∀ c ∈ modifier, c ≠ '+' ∧ isWhitespace c = false ∧ isControl c = false := by
  have hall : knownModifiers.all (·.all fun c => c ≠ '+' && !isWhitespace c && !isControl c) := by
    decide
  intro c hc
  simpa [and_assoc] using List.all_eq_true.mp (List.all_eq_true.mp hall modifier h) c hc

/-- Modifiers that `validate_shortcut` takes. -/
structure Held (names : List String) : Prop where
  known : ∀ name ∈ names.map String.toList, name ∈ knownModifiers
  nodup : (names.map String.toList).Nodup
  nonempty : names ≠ []

section Trimming

variable {names : List String} (h : Held names)

include h

theorem Held.plain : ∀ name ∈ names, '+' ∉ name.toList := fun _ hname hplus =>
  (knownModifiers_plain (h.known _ (List.mem_map_of_mem hname)) '+' hplus).1 rfl

/-- The held modifiers begin with a letter. -/
theorem Held.head : ∃ c rest, heldText names = c :: rest ∧ isWhitespace c = false := by
  obtain ⟨name, others, rfl⟩ := List.exists_cons_of_ne_nil h.nonempty
  have hknown := h.known name.toList (by simp)
  have hne : ∀ modifier ∈ knownModifiers, modifier ≠ [] := by decide
  obtain ⟨c, rest, hname⟩ := List.exists_cons_of_ne_nil (hne _ hknown)
  refine ⟨c, rest ++ '+' :: heldText others, ?_,
    (knownModifiers_plain hknown c (hname ▸ List.mem_cons_self)).2.1⟩
  simp [heldText, hname]

/-- They end with a plus sign. -/
theorem Held.last : ∃ before, heldText names = before ++ ['+'] := by
  obtain ⟨others, last, rfl⟩ := (List.eq_nil_or_concat names).resolve_left h.nonempty
  exact ⟨heldText others ++ last.toList, by simp [heldText]⟩

theorem Held.trim_recorded {key : String} (hne : key.toList ≠ [])
    (hsolid : ∀ c ∈ key.toList, isWhitespace c = false) :
    trim ("+".intercalate (names ++ [key])) = "+".intercalate (names ++ [key]) := by
  obtain ⟨c, rest, hhead, hc⟩ := h.head
  obtain ⟨front, d, hkey⟩ := (List.eq_nil_or_concat key.toList).resolve_left hne
  rw [List.concat_eq_append] at hkey
  refine trim_eq_self_of_ends (c := c) (d := d) (l := rest ++ key.toList)
    (m := heldText names ++ front) ?_ ?_ hc (hsolid d (by simp [hkey]))
  · rw [toList_recorded, hhead, List.cons_append]
  · rw [toList_recorded, hkey, List.append_assoc]

/-- A blank key is cut off, which leaves the plus sign before it. -/
theorem Held.trim_blank {key : String} {c : Char} (hkey : key.toList = [c])
    (hblank : isWhitespace c = true) :
    (trim ("+".intercalate (names ++ [key]))).toList = heldText names := by
  obtain ⟨d, rest, hhead, hd⟩ := h.head
  obtain ⟨before, hlast⟩ := h.last
  rw [toList_trim, toList_recorded, hkey, hhead, List.cons_append,
    List.dropWhile_cons_of_neg (by simp [hd]), ← List.cons_append, ← hhead,
    List.rdropWhile_concat_pos _ _ _ hblank, hlast, List.rdropWhile_concat_neg _ _ _ (by decide)]

theorem Held.accepted {key : String} (hplain : '+' ∉ key.toList) (hne : key.toList ≠ [])
    (hsolid : ∀ c ∈ key.toList, isWhitespace c = false)
    (hprintable : ∀ c ∈ key.toList, isControl c = false)
    (hshort : (heldText names).length + key.length ≤ maxShortcutChars) :
    Accepted ("+".intercalate (names ++ [key])) (names.map String.toList) key.toList := by
  have htrim := h.trim_recorded hne hsolid
  refine accepted_of_splitOn ?_ (by simpa using h.nonempty) h.known h.nodup hne hsolid ?_ ?_
  · rw [htrim, toList_recorded, splitOn_recorded h.plain, List.splitOn_eq_singleton hplain]
  · rw [htrim, ← String.length_toList, toList_recorded, List.length_append, String.length_toList]
    exact hshort
  · rw [htrim, hasControl, toList_recorded, List.any_eq_false]
    intro c hc
    rcases List.mem_append.mp hc with hc | hc
    · obtain ⟨name, hname, hc⟩ := List.mem_flatMap.mp hc
      rcases List.mem_append.mp hc with hc | hc
      · simp [(knownModifiers_plain (h.known _ (List.mem_map_of_mem hname)) c hc).2.2]
      · rw [List.mem_singleton.mp hc]
        decide
    · simp [hprintable c hc]

end Trimming

/-! ## Names of keys -/

/-- The name of a key that is not a character of its own. -/
structure NamedKey (key : String) : Prop where
  plain : '+' ∉ key.toList
  nonempty : key.toList ≠ []
  solid : ∀ c ∈ key.toList, isWhitespace c = false
  printable : ∀ c ∈ key.toList, isControl c = false
  short : key.length ≤ 10

instance (key : String) : Decidable (NamedKey key) :=
  decidable_of_iff ('+' ∉ key.toList ∧ key.toList ≠ [] ∧ key.toList.all (!isWhitespace ·) ∧
      key.toList.all (!isControl ·) ∧ key.length ≤ 10)
    ⟨fun ⟨h1, h2, h3, h4, h5⟩ => ⟨h1, h2, by simpa using h3, by simpa using h4, h5⟩,
      fun ⟨h1, h2, h3, h4, h5⟩ => ⟨h1, h2, by simpa using h3, by simpa using h4, h5⟩⟩

theorem namedKey_special : ∀ special ∈ specialKeys, NamedKey special.2 := by decide

/-- The letter of a control character. -/
theorem namedKey_control {n : Nat} (h : 1 ≤ n ∧ n ≤ 15) :
    NamedKey (String.singleton (Char.ofNat (n + 64))) := by
  have hall : ∀ n < 16, 1 ≤ n → NamedKey (String.singleton (Char.ofNat (n + 64))) := by decide
  exact hall n (by omega) h.1

theorem isAlpha_lt {c : Char} (h : c.isAlpha = true) : c.toNat < 128 := by
  change (decide (65 ≤ c.val ∧ c.val ≤ 90) || (decide (97 ≤ c.val) && decide (c.val ≤ 122))) =
    true at h
  simp only [Bool.or_eq_true, Bool.and_eq_true, decide_eq_true_eq, UInt32.le_iff_toNat_le] at h
  simp only [Char.toNat]
  rcases h with ⟨-, h⟩ | ⟨-, h⟩
  · exact h.trans_lt (by decide)
  · exact h.trans_lt (by decide)

theorem isAlpha_not_blank {c : Char} (h : c.isAlpha = true) : isWhitespace c = false := by
  have hall : ∀ n < 128, (Char.ofNat n).isAlpha = true → isWhitespace (Char.ofNat n) = false := by
    decide
  have hblank := hall c.toNat (isAlpha_lt h)
  rw [Char.ofNat_toNat] at hblank
  exact hblank h

theorem namedKey_upper {c : Char} (h : c.isAlpha = true) :
    NamedKey (String.singleton c.toUpper) := by
  have hall : ∀ n < 128, (Char.ofNat n).isAlpha = true →
      NamedKey (String.singleton (Char.ofNat n).toUpper) := by decide
  have hnamed := hall c.toNat (isAlpha_lt h)
  rw [Char.ofNat_toNat] at hnamed
  exact hnamed h

section Names

variable {keyChar : Key → Char} {text : String} {control : Bool} {key : String}

/-- Blanks that are not typed as a named key, which a shortcut has no name for. -/
def UnnamedBlank (keyChar : Key → Char) (text : String) : Prop :=
  ∃ c, text.toList = [c] ∧ isWhitespace c = true ∧ isControl c = false ∧
    ∀ special ∈ specialKeys, c ≠ keyChar special.1

/-- A key has the text of a function key, a name, or is a character of its own. -/
theorem shortcutKeyName_cases (h : shortcutKeyName keyChar text control = some key) :
    (extendedFunctionKeyNumber text).isSome = true ∧ key = text ∨
      extendedFunctionKeyNumber text = none ∧ NamedKey key ∧ ¬UnnamedBlank keyChar text ∨
      extendedFunctionKeyNumber text = none ∧ ∃ c, text.toList = [c] ∧ key = String.singleton c ∧
        c ≠ '+' ∧ isControl c = false ∧ ∀ special ∈ specialKeys, c ≠ keyChar special.1 := by
  rw [shortcutKeyName] at h
  split at h
  -- the branches of the source in order: function keys, named keys, control letters, blank, plus,
  -- letters, the rest
  · cases h
  · split at h
    · rename_i hfunction
      exact .inl ⟨hfunction, (Option.some.inj h).symm⟩
    · rename_i hfunction
      rw [Option.not_isSome_iff_eq_none] at hfunction
      right
      split at h
      · rename_i special label hfind
        obtain rfl := Option.some.inj h
        have hmem := List.mem_of_find?_eq_some hfind
        have hmatch := List.find?_some hfind
        refine .inl ⟨hfunction, namedKey_special _ hmem, ?_⟩
        rintro ⟨c, htext, -, -, hnot⟩
        refine hnot _ hmem ?_
        simpa [matchesSlintKey, htext] using hmatch
      · rename_i hfind
        split at h
        · rename_i c htext
          have hspecial : ∀ special ∈ specialKeys, c ≠ keyChar special.1 := by
            intro special hmem heq
            have hnot := List.find?_eq_none.mp hfind special hmem
            simp [matchesSlintKey, htext, heq] at hnot
          have hblank {c' : Char} (h : text.toList = [c']) : c' = c :=
            (List.singleton_inj.mp (h.symm.trans htext))
          split at h
          · rename_i hcontrol
            simp only [Bool.and_eq_true, decide_eq_true_eq] at hcontrol
            obtain rfl := Option.some.inj h
            refine .inl ⟨hfunction, namedKey_control ⟨hcontrol.1.2, hcontrol.2⟩, ?_⟩
            rintro ⟨c', htext', -, hprintable, -⟩
            rw [hblank htext'] at hprintable
            -- what is below the blank is a control character, so it has no printable name
            have hlow : c.val < 0x20 :=
              UInt32.lt_iff_toNat_lt.mpr (hcontrol.2.trans_lt (by decide))
            simp [isControl, hlow] at hprintable
          · split at h
            · cases h
            · rename_i hprintable
              split at h
              · rename_i hplus
                obtain rfl := Option.some.inj h
                refine .inl ⟨hfunction, by decide, ?_⟩
                rintro ⟨c', htext', hblank', -⟩
                rw [hblank htext', hplus] at hblank'
                exact absurd hblank' (by decide)
              · rename_i hplus
                split at h
                · rename_i halpha
                  obtain rfl := Option.some.inj h
                  refine .inl ⟨hfunction, namedKey_upper halpha, ?_⟩
                  rintro ⟨c', htext', hblank', -⟩
                  rw [hblank htext', isAlpha_not_blank halpha] at hblank'
                  exact absurd hblank' (by decide)
                · exact .inr ⟨hfunction, c, htext, (Option.some.inj h).symm, hplus,
                    by simpa using hprintable, hspecial⟩
        · cases h

end Names

theorem parseU8_text {number : List Char} {value : Nat} (h : parseU8 number = some value) :
    ∃ digits, digits ≠ [] ∧ (∀ c ∈ digits, c.isDigit = true) ∧
      (number = digits ∨ number = '+' :: digits) := by
  simp only [parseU8, Option.ite_none_right_eq_some] at h
  obtain ⟨⟨hne, hdigits, -⟩, -⟩ := h
  refine ⟨_, hne, List.all_eq_true.mp hdigits, ?_⟩
  split
  · rename_i hplus
    right
    cases number with
    | nil => cases hplus
    | cons c rest => rw [Option.some.inj hplus, List.tail_cons]
  · exact .inl rfl

/-- A function key from 13 to 24 is the letter, perhaps a plus sign, and digits. -/
theorem extendedFunctionKey_text {text : String}
    (h : (extendedFunctionKeyNumber text).isSome = true) :
    ∃ digits, digits ≠ [] ∧ (∀ c ∈ digits, c.isDigit = true) ∧
      (text.toList = 'F' :: digits ∨ text.toList = 'F' :: '+' :: digits) := by
  unfold extendedFunctionKeyNumber at h
  split at h
  · rename_i number htext
    cases hparse : parseU8 number with
    | none => simp [hparse] at h
    | some value =>
      obtain ⟨digits, hne, hdigits, hnumber | hnumber⟩ := parseU8_text hparse
      · exact ⟨digits, hne, hdigits, .inl (hnumber ▸ htext)⟩
      · exact ⟨digits, hne, hdigits, .inr (hnumber ▸ htext)⟩
  · cases h

theorem isDigit_plain {c : Char} (h : c.isDigit = true) :
    c ≠ '+' ∧ isWhitespace c = false ∧ isControl c = false := by
  have hall : ∀ n < 58, (Char.ofNat n).isDigit = true → Char.ofNat n ≠ '+' ∧
      isWhitespace (Char.ofNat n) = false ∧ isControl (Char.ofNat n) = false := by decide
  have hlt : c.toNat < 58 := by
    simp only [Char.isDigit, Bool.and_eq_true, decide_eq_true_eq, UInt32.le_iff_toNat_le] at h
    exact h.2.trans_lt (by decide)
  have hplain := hall c.toNat hlt
  rw [Char.ofNat_toNat] at hplain
  exact hplain h

/-! ## Reading back -/

/-- The parts of the menu for held modifiers. -/
def slintModifiers (macos : Bool) (modifiers : TerminalModifiers) : Finset String :=
  ((if modifiers.metaKey then [if macos then "Control" else "Meta"] else [])
    ++ (if modifiers.control then [if macos then "Meta" else "Control"] else [])
    ++ (if modifiers.alt then ["Alt"] else [])
    ++ (if modifiers.shift then ["Shift"] else [])).toFinset

theorem toFinset_modifierNames (macos : Bool) (modifiers : TerminalModifiers) :
    ((((modifierNames macos modifiers).map String.toList).map (modifierPart macos)).toFinset) =
      slintModifiers macos modifiers := by
  obtain ⟨alt, control, metaKey, shift⟩ := modifiers
  cases macos <;> cases alt <;> cases control <;> cases metaKey <;> cases shift <;> decide

/-- The text is accepted, and the menu reads the modifiers and the name of the key off it. -/
def ReadBack (lower : String → String) (macos : Bool) (label text : String)
    (modifiers : TerminalModifiers) (key : String) : Prop :=
  validateShortcut label text = .ok () ∧ ∃ parts, menuParts lower macos text = .ok parts ∧
    parts.modifiers.toFinset = slintModifiers macos modifiers ∧
    parts.key = slintMenuKeyName lower key ∧ parts.native = ⟨key, modifiers⟩

/-- The text of a function key has no plus sign and leaves room for the modifiers, and the key is no
blank without a name. -/
def Recordable (keyChar : Key → Char) (macos : Bool) (text : String)
    (modifiers : TerminalModifiers) : Prop :=
  ((extendedFunctionKeyNumber text).isSome = true → '+' ∉ text.toList ∧
      ((modifierNames macos modifiers).map fun name => name.length + 1).sum + text.length ≤
        maxShortcutChars) ∧
    ¬UnnamedBlank keyChar text

theorem readBack_of_accepted {lower : String → String} {macos : Bool} {label : String}
    {modifiers : TerminalModifiers} {key : String}
    (h : Accepted ("+".intercalate (modifierNames macos modifiers ++ [key]))
      ((modifierNames macos modifiers).map String.toList) key.toList) :
    ReadBack lower macos label ("+".intercalate (modifierNames macos modifiers ++ [key])) modifiers
      key := by
  refine ⟨validateShortcut_eq_ok_iff.mpr ⟨_, _, h⟩, _, menuParts_of_accepted h macos,
    toFinset_modifierNames macos modifiers, ?_, ?_⟩
  · rw [String.ofList_toList]
  · rw [String.ofList_toList, holdModifier_modifierNames]

theorem held_modifierNames {macos : Bool} {modifiers : TerminalModifiers} (hne : modifiers ≠ {}) :
    Held (modifierNames macos modifiers) := by
  obtain ⟨hknown, hnodup⟩ := modifierNames_known macos modifiers
  refine ⟨hknown, hnodup, fun hnil => hne ?_⟩
  have hheld := holdModifier_modifierNames macos modifiers
  rw [hnil] at hheld
  exact hheld.symm

section Events

variable {lower : String → String} {macos : Bool} {label : String} {modifiers : TerminalModifiers}

/-- The text of a function key is read back when it has no sign and is short enough. -/
theorem readBack_function_iff {keyChar : Key → Char} {text : String}
    (hheld : Held (modifierNames macos modifiers))
    (h : (extendedFunctionKeyNumber text).isSome = true) :
    ReadBack lower macos label ("+".intercalate (modifierNames macos modifiers ++ [text])) modifiers
      text ↔ Recordable keyChar macos text modifiers := by
  obtain ⟨digits, hdigitsNe, hdigits, htext⟩ := extendedFunctionKey_text h
  have hchars : ∀ c ∈ text.toList, c ∈ ['F', '+'] ∨ c ∈ digits := by
    intro c hc
    rcases htext with htext | htext <;> rw [htext] at hc <;> simp at hc ⊢ <;> tauto
  have hplain : ∀ c ∈ text.toList, isWhitespace c = false ∧ isControl c = false := by
    intro c hc
    have hsigns : ['F', '+'].all fun c => !isWhitespace c && !isControl c := by decide
    refine (hchars c hc).elim (fun hc => ?_) fun hc => (isDigit_plain (hdigits c hc)).2
    simpa using List.all_eq_true.mp hsigns c hc
  have hne : text.toList ≠ [] := by rcases htext with htext | htext <;> simp [htext]
  have hblank : ¬UnnamedBlank keyChar text := by
    rintro ⟨c, hsingle, -⟩
    rcases htext with htext | htext <;> rw [htext] at hsingle <;> simp_all
  constructor
  · rintro ⟨haccepted, -⟩
    obtain ⟨names, key, haccepted⟩ := validateShortcut_eq_ok_iff.mp haccepted
    have htrim := hheld.trim_recorded hne fun c hc => (hplain c hc).1
    refine ⟨fun _ => ⟨fun hplus => ?_, ?_⟩, hblank⟩
    · -- the letter before the sign would have to be a modifier
      have hdigitsPlain : '+' ∉ digits := fun hmem => (isDigit_plain (hdigits _ hmem)).1 rfl
      obtain htext | htext := htext
      · simp [htext, hdigitsPlain] at hplus
      · have hsplit := splitOn_of_accepted haccepted
        have hparts : ('F' :: '+' :: digits).splitOn '+' = [['F']] ++ [digits] := by
          rw [← List.singleton_append, List.splitOn_append_cons_self,
            List.splitOn_eq_singleton hdigitsPlain, List.splitOn_eq_singleton (by decide)]
        rw [htrim, toList_recorded, splitOn_recorded hheld.plain, htext, hparts,
          ← List.append_assoc] at hsplit
        obtain ⟨hnames, -⟩ := List.append_inj' hsplit rfl
        have hknown := haccepted.known ['F'] (by rw [← hnames]; simp)
        revert hknown
        decide
    · have hshort := haccepted.short
      rwa [htrim, ← String.length_toList, toList_recorded, List.length_append, length_heldText,
        String.length_toList] at hshort
  · rintro ⟨hfunction, -⟩
    obtain ⟨hplus, hshort⟩ := hfunction h
    refine readBack_of_accepted (hheld.accepted hplus hne (fun c hc => (hplain c hc).1)
      (fun c hc => (hplain c hc).2) ?_)
    rwa [length_heldText]

/-- A recorded shortcut is accepted and read back exactly when the key event is recordable. -/
theorem readBack_iff {keyChar : Key → Char} {text key : String}
    (hkey : shortcutKeyName keyChar text modifiers.control = some key) (hne : modifiers ≠ {}) :
    ReadBack lower macos label ("+".intercalate (modifierNames macos modifiers ++ [key])) modifiers
      key ↔ Recordable keyChar macos text modifiers := by
  have hheld : Held (modifierNames macos modifiers) := held_modifierNames hne
  rcases shortcutKeyName_cases hkey with ⟨hfunction, rfl⟩ | ⟨hfunction, hnamed, hblank⟩ |
    ⟨hfunction, c, htext, rfl, hplus, hprintable, hspecial⟩
  · exact readBack_function_iff hheld hfunction
  · refine iff_of_true (readBack_of_accepted (hheld.accepted hnamed.plain hnamed.nonempty
      hnamed.solid hnamed.printable ?_)) ⟨fun h => ?_, hblank⟩
    · have hheldShort := length_heldText_le macos modifiers
      have hnameShort := hnamed.short
      simp only [maxShortcutChars]
      omega
    · simp [hfunction] at h
  · have hcanonical : Recordable keyChar macos text modifiers ↔ isWhitespace c = false := by
      constructor
      · rintro ⟨-, hblank⟩
        by_contra hspace
        exact hblank ⟨c, htext, by simpa using hspace, hprintable, hspecial⟩
      · intro hsolid
        refine ⟨fun h => by simp [hfunction] at h, ?_⟩
        rintro ⟨c', htext', hspace, -⟩
        obtain rfl := List.singleton_inj.mp (htext.symm.trans htext')
        exact Bool.false_ne_true (hsolid.symm.trans hspace)
    rw [hcanonical]
    constructor
    · rintro ⟨haccepted, -⟩
      by_contra hspace
      -- a blank is trimmed away, and the text ends with the plus sign
      have htrim := hheld.trim_blank (String.toList_singleton (c := c)) (by simpa using hspace)
      obtain ⟨before, hlast⟩ := hheld.last
      rw [hlast] at htrim
      exact ((validateShortcut_of_split htrim (by simp)).mp haccepted).nonempty rfl
    · intro hsolid
      refine readBack_of_accepted (hheld.accepted ?_ ?_ ?_ ?_ ?_)
      · simpa [eq_comm] using hplus
      · simp
      · simpa using hsolid
      · simpa using hprintable
      · have hheldShort := length_heldText_le macos modifiers
        simp only [maxShortcutChars, String.length_singleton]
        omega

end Events

/-! ## Settings and events -/

/-- The texts of the eight actions. -/
def texts (s : ShortcutSettings) : List String := s.labelled.map (·.2)

theorem validateShortcut_of_validate {s : ShortcutSettings} (h : s.validate = .ok ()) :
    ∀ text ∈ texts s, ∃ label, validateShortcut label text = .ok () := by
  intro text htext
  obtain ⟨⟨label, _⟩, hmem, rfl⟩ := List.mem_map.mp htext
  obtain ⟨_, hall, -⟩ := Except.bind_eq_ok_iff.mp h
  exact ⟨label, Except.forM_eq_ok_iff.mp hall _ hmem⟩

/-- A nonempty recorded text is made of the held modifiers and a key. -/
theorem formatShortcut_ne_empty {keyChar : Key → Char} {macos : Bool} {text : String}
    {modifiers : TerminalModifiers}
    (h : formatShortcutEventWithModifiers keyChar macos text modifiers ≠ "") :
    modifiers ≠ {} ∧ ∃ key, shortcutKeyName keyChar text modifiers.control = some key ∧
      formatShortcutEventWithModifiers keyChar macos text modifiers =
        "+".intercalate (modifierNames macos modifiers ++ [key]) := by
  unfold formatShortcutEventWithModifiers at h ⊢
  split at h
  · exact absurd rfl h
  · rename_i hheld
    refine ⟨?_, ?_⟩
    · rintro rfl
      exact hheld rfl
    · split at h
      · exact absurd rfl h
      · rename_i key hkey
        exact ⟨key, hkey, by rw [if_neg hheld]⟩

/-- The chords of accepted settings are distinct exactly when no two of their texts name the same
modifiers and the same key, and a recorded shortcut is read back exactly when its key event is
recordable. -/
theorem shortcuts_distinct_and_readBack_iff (keyChar : Key → Char) (lower : String → String)
    (hlower : ∀ text, ∀ c ∈ (lower text).toList, c.isUpper = false) (macos : Bool)
    (s : ShortcutSettings) (hs : s.validate = .ok ()) (label text : String)
    (modifiers : TerminalModifiers)
    (hrecorded : formatShortcutEventWithModifiers keyChar macos text modifiers ≠ "") :
    ((texts s).Pairwise (fun text text' => menuChord lower macos text ≠ menuChord lower macos text') ↔
      (texts s).Pairwise (fun text text' => ¬SameShortcut lower text text')) ∧
    ((∃ key, shortcutKeyName keyChar text modifiers.control = some key ∧
        ReadBack lower macos label (formatShortcutEventWithModifiers keyChar macos text modifiers)
          modifiers key) ↔
      Recordable keyChar macos text modifiers) := by
  constructor
  · refine List.Pairwise.iff_of_mem fun {text text'} htext htext' => ?_
    obtain ⟨label, h⟩ := validateShortcut_of_validate hs text htext
    obtain ⟨label', h'⟩ := validateShortcut_of_validate hs text' htext'
    exact (menuChord_eq_iff hlower macos h h').not
  · obtain ⟨hne, key, hkey, heq⟩ := formatShortcut_ne_empty hrecorded
    rw [heq]
    constructor
    · rintro ⟨key', hkey', hback⟩
      obtain rfl := Option.some.inj (hkey.symm.trans hkey')
      exact (readBack_iff hkey hne).mp hback
    · intro hrecordable
      exact ⟨key, hkey, (readBack_iff hkey hne).mpr hrecordable⟩

/-- The characters of the UI library for its named keys. -/
def slintKeyChar : Key → Char
  | .alt => '\x12'
  | .altGr => '\x13'
  | .control => '\x11'
  | .controlR => '\x16'
  | .metaKey => '\x17'
  | .metaR => '\x18'
  | .shift => '\x10'
  | .shiftR => '\x15'
  | .backspace => '\x08'
  | .tab => '\x09'
  | .backtab => '\x19'
  | .returnKey => '\x0a'
  | .escape => '\x1b'
  | .delete => '\x7f'
  | .space => ' '
  | .upArrow => '\uf700'
  | .downArrow => '\uf701'
  | .leftArrow => '\uf702'
  | .rightArrow => '\uf703'
  | .insert => '\uf727'
  | .home => '\uf729'
  | .endKey => '\uf72b'
  | .pageUp => '\uf72c'
  | .pageDown => '\uf72d'
  | .f1 => '\uf704'
  | .f2 => '\uf705'
  | .f3 => '\uf706'
  | .f4 => '\uf707'
  | .f5 => '\uf708'
  | .f6 => '\uf709'
  | .f7 => '\uf70a'
  | .f8 => '\uf70b'
  | .f9 => '\uf70c'
  | .f10 => '\uf70d'
  | .f11 => '\uf70e'
  | .f12 => '\uf70f'

/-- Lower case of ASCII letters. -/
def asciiLower (text : String) : String := String.ofList (text.toList.map Char.toLower)

theorem asciiLower_no_upper (text : String) :
    ∀ c ∈ (asciiLower text).toList, c.isUpper = false := by
  intro c hc
  rw [asciiLower, String.toList_ofList] at hc
  obtain ⟨d, -, rfl⟩ := List.mem_map.mp hc
  cases hupper : d.isUpper with
  | true =>
    have hall : ∀ n < 128, (Char.ofNat n).toLower.isUpper = false := by decide
    have hlower := hall d.toNat (isAlpha_lt (Bool.or_eq_true_iff.mpr (.inl hupper)))
    rwa [Char.ofNat_toNat] at hlower
  | false =>
    have hsame : d.toLower = d := by
      exact dif_neg (of_decide_eq_false hupper)
    rw [hsame, hupper]

theorem default_shortcuts_distinct :
    (texts (.default false)).Pairwise (fun text text' => ¬SameShortcut asciiLower text text') ∧
      ∃ key, shortcutKeyName slintKeyChar "a" true = some key ∧
        ReadBack asciiLower false "paste"
          (formatShortcutEventWithModifiers slintKeyChar false "a" { control := true })
          { control := true } key := by
  have hiff := shortcuts_distinct_and_readBack_iff slintKeyChar asciiLower asciiLower_no_upper
    false (.default false) (by decide) "paste" "a" { control := true } (by decide)
  refine ⟨hiff.1.mp (by decide), hiff.2.mpr ⟨by decide, ?_⟩⟩
  rintro ⟨c, htext, hblank, -⟩
  obtain rfl := List.singleton_inj.mp (htext.symm.trans (show "a".toList = ['a'] by decide))
  exact absurd hblank (by decide)

/-- Settings that name one chord in two orders. -/
def reorderedShortcuts : ShortcutSettings :=
  { ShortcutSettings.default false with
    openSettings := "Ctrl+Shift+A", newSession := "Shift+Ctrl+A" }

/-- Reordered modifiers make one chord of two accepted texts, and a recorded no-break space is
rejected. -/
theorem shortcuts_ambiguous_and_rejected :
    (¬∀ s : ShortcutSettings, s.validate = .ok () → (texts s).Pairwise fun text text' =>
        menuChord asciiLower false text ≠ menuChord asciiLower false text') ∧
      ¬∀ (label text : String) (modifiers : TerminalModifiers),
        formatShortcutEventWithModifiers slintKeyChar false text modifiers ≠ "" →
        ∃ key, shortcutKeyName slintKeyChar text modifiers.control = some key ∧
          ReadBack asciiLower false label
            (formatShortcutEventWithModifiers slintKeyChar false text modifiers) modifiers key := by
  constructor
  -- two texts with their modifiers in another order are one chord
  · intro hall
    have hpair := List.rel_of_pairwise_cons (hall reorderedShortcuts (by decide))
      (List.mem_cons_self (a := "Shift+Ctrl+A"))
    have hfirst : (menuParts asciiLower false "Ctrl+Shift+A").toOption.map
        (fun parts => (parts.modifiers, parts.key)) = some (["Control", "Shift"], "A") := by decide
    have hsecond : (menuParts asciiLower false "Shift+Ctrl+A").toOption.map
        (fun parts => (parts.modifiers, parts.key)) = some (["Shift", "Control"], "A") := by decide
    have hchord {text : String} {names : List String} {key : String}
        (h : (menuParts asciiLower false text).toOption.map
          (fun parts => (parts.modifiers, parts.key)) = some (names, key)) :
        menuChord asciiLower false text = some ⟨names.toFinset, key⟩ := by
      obtain ⟨parts, hparts, heq⟩ := Option.map_eq_some_iff.mp h
      obtain ⟨rfl, rfl⟩ := Prod.mk.inj heq
      rw [menuChord, hparts, Option.map_some]
    have hswap : ["Control", "Shift"].toFinset = ["Shift", "Control"].toFinset :=
      List.toFinset_eq_of_perm _ _ (List.Perm.swap ..)
    exact hpair ((hchord hfirst).trans (hswap ▸ (hchord hsecond).symm))
  -- a non-breaking blank is recorded and not read back
  · intro hall
    obtain ⟨_, -, haccepted, -⟩ := hall "paste" "\u00a0" { control := true } (by decide)
    revert haccepted
    decide

end AxSsh.Shortcuts
