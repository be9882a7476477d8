import AxSsh.ForStd.NumberedNames
import AxSsh.Spec.SessionFiles

/-!
# Names of copies

Copies are named by ` Copy`, ` Copy 2` and so on behind the name.  The suffix can be read off the
end of a name, so the copies of different names are different, and so are two copies of one name: a
loop finds a free name after as many tries as there are names, at most.  The names of groups and of
imported profiles are cut to make room for the suffix; those of duplicated profiles are not, so
there must be a free copy within the limit for each of them.

## Key results
- `append_copySuffix_inj`: a suffix and what it is behind are determined
- `uniqueImportedSessionName_spec`, `duplicateGroupName_spec`: names that are cut are always valid
- `duplicateProfiles_eq_ok_iff`: when profiles are duplicated
- `copy_names_valid`: when duplicates and imports get valid names that are new
-/

namespace AxSsh.Profiles

open NumberedNames SessionStore

/-! ## Suffixes -/

/-- What `copyName` puts behind a name. -/
def copySuffix (n : Nat) : String := if n = 1 then " Copy" else s!" Copy {n}"

/-- The name of copy `n`, as `duplicate_session_name` has it. -/
def copiedName (name : String) (n : Nat) : String := name ++ copySuffix n

/-- The last word of a suffix. -/
def copyWord (n : Nat) : List Char := if n = 1 then ['C', 'o', 'p', 'y'] else Nat.toDigits 10 n

def copyStem (n : Nat) : List Char := if n = 1 then [] else [' ', 'C', 'o', 'p', 'y']

theorem toList_copySuffix (n : Nat) : (copySuffix n).toList = copyStem n ++ ' ' :: copyWord n := by
  unfold copySuffix copyStem copyWord
  by_cases h : n = 1
  · rw [if_pos h, if_pos h, if_pos h]
    decide
  · rw [if_neg h, if_neg h, if_neg h]
    have hsuffix : s!" Copy {n}" = " Copy " ++ Nat.repr n := rfl
    rw [hsuffix, String.toList_append, Nat.toList_repr,
      (by decide : " Copy ".toList = [' ', 'C', 'o', 'p', 'y', ' '])]
    rfl

theorem mem_copyWord {n : Nat} {c : Char} (hc : c ∈ copyWord n) : c.isAlphanum := by
  unfold copyWord at hc
  split at hc
  · exact TextLines.forall_mem_of_all (p := fun c : Char => c.isAlphanum) (by decide) c hc
  · have hdigit := Nat.isDigit_of_mem_toDigits (by decide) (by decide) hc
    show (c.isAlpha || c.isDigit) = true
    rw [hdigit, Bool.or_true]

theorem copyWord_ne_nil (n : Nat) : copyWord n ≠ [] := by
  unfold copyWord
  split
  · exact List.cons_ne_nil _ _
  · exact List.length_pos_iff.mp Nat.length_toDigits_pos

theorem copyWord_inj {n m : Nat} (h : copyWord n = copyWord m) : n = m := by
  have hletter : ∀ k, ['C', 'o', 'p', 'y'] ≠ Nat.toDigits 10 k := fun k heq => by
    have hdigit := Nat.isDigit_of_mem_toDigits (b := 10) (by decide) (by decide)
      (heq ▸ List.mem_cons_self : 'C' ∈ Nat.toDigits 10 k)
    exact absurd hdigit (by decide)
  unfold copyWord at h
  split at h <;> split at h
  · omega
  · exact absurd h (hletter m)
  · exact absurd h.symm (hletter n)
  · have hvalue := congrArg (Nat.ofDigitChars 10 · 0) h
    simpa [Nat.ofDigitChars_toDigits] using hvalue

theorem append_copySuffix_inj {x y : List Char} {n m : Nat}
    (h : x ++ (copySuffix n).toList = y ++ (copySuffix m).toList) : x = y ∧ n = m := by
  have hspace : ∀ k, ' ' ∉ copyWord k := fun k hmem => absurd (mem_copyWord hmem) (by decide)
  rw [toList_copySuffix, toList_copySuffix, ← List.append_assoc, ← List.append_assoc] at h
  obtain ⟨hstem, hword⟩ := TextLines.append_sep_inj h (hspace n) (hspace m)
  obtain rfl := copyWord_inj hword
  exact ⟨List.append_cancel_right hstem, rfl⟩

theorem copiedName_inj {name name' : String} {n m : Nat}
    (h : copiedName name n = copiedName name' m) : name = name' ∧ n = m := by
  have hchars := congrArg String.toList h
  rw [copiedName, copiedName, String.toList_append, String.toList_append] at hchars
  obtain ⟨hname, hnumber⟩ := append_copySuffix_inj hchars
  exact ⟨String.toList_inj.mp hname, hnumber⟩

theorem copiedName_injective (name : String) : (copiedName name).Injective :=
  fun _ _ h => (copiedName_inj h).2

theorem length_copySuffix {n : Nat} (hn : n ≠ 1) :
    (copySuffix n).length = 6 + (Nat.repr n).length := by
  rw [← String.length_toList, toList_copySuffix, copyStem, copyWord, if_neg hn, if_neg hn,
    ← Nat.toList_repr, ← String.length_toList]
  simp
  omega

theorem length_copySuffix_le {n m : Nat} (hn : 1 ≤ n) (h : n ≤ m) :
    (copySuffix n).length ≤ (copySuffix m).length := by
  have hone : (copySuffix 1).length = 5 := by decide
  by_cases hm : m = 1
  · rw [hm, (by omega : n = 1)]
  · rw [length_copySuffix hm]
    by_cases hn' : n = 1
    · rw [hn', hone]
      omega
    · have hdigits : (Nat.repr n).length ≤ (Nat.repr m).length := by
        rw [Nat.length_repr_le_iff Nat.length_repr_pos]
        exact Nat.lt_of_le_of_lt h ((Nat.length_repr_le_iff Nat.length_repr_pos).mp (Nat.le_refl _))
      rw [length_copySuffix hn']
      omega

/-- The suffixes of all copies up to the last `u32` leave room for a name. -/
theorem length_copySuffix_lt {n : Nat} (h : n ≤ maxCopies) : (copySuffix n).length < 64 := by
  by_cases hn : n = 1
  · rw [hn]
    decide
  · have hdigits : (Nat.repr n).length ≤ 10 := by
      rw [Nat.length_repr_le_iff (by decide)]
      unfold maxCopies at h
      omega
    rw [length_copySuffix hn]
    omega

/-! ## Texts -/

theorem validateRequiredText_eq_ok_iff {label value : String} {maxChars : Nat} :
    validateRequiredText label value maxChars = .ok () ↔
      trim value ≠ "" ∧ value.length ≤ maxChars ∧ value.toList.any isControl = false := by
  unfold validateRequiredText validateOptionalText
  simp only [Except.bind_eq_ok_iff, bailIf_eq_ok_iff, beq_eq_false_iff_ne, exists_const,
    decide_eq_false_iff_not, Nat.not_lt]

theorem validateGroupName_eq_ok_iff {value : String} :
    validateGroupName value false = .ok () ↔
      normalizeGroupName value ≠ "" ∧ (normalizeGroupName value).length ≤ maxGroupNameChars ∧
        (normalizeGroupName value).toList.any isControl = false := by
  unfold validateGroupName
  simp only [Except.bind_eq_ok_iff, bailIf_eq_ok_iff, Bool.not_false, Bool.true_and,
    beq_eq_false_iff_ne, exists_const, decide_eq_false_iff_not, Nat.not_lt]

/-- A text with a letter is not empty when it is trimmed. -/
theorem trim_ne_empty {text : String} {c : Char} (hc : c ∈ text.toList)
    (hword : isWhitespace c = false) : trim text ≠ "" := by
  intro heq
  have hchars := congrArg String.toList heq
  rw [toList_trim, String.toList_empty, List.rdropWhile_eq_nil_iff] at hchars
  have hall : ∀ a ∈ text.toList, isWhitespace a = true := by
    intro a ha
    rw [← List.takeWhile_append_dropWhile (p := isWhitespace) (l := text.toList)] at ha
    rcases List.mem_append.mp ha with ha | ha
    · exact List.mem_takeWhile_imp ha
    · exact hchars a ha
  rw [hall c hc] at hword
  exact nomatch hword

theorem isWhitespace_of_isAlphanum {c : Char} (h : c.isAlphanum) :
    isWhitespace c = false ∧ isControl c = false := by
  have hrange : 48 ≤ c.toNat ∧ c.toNat ≤ 122 := by
    change (decide (65 ≤ c.val ∧ c.val ≤ 90) || (decide (97 ≤ c.val) && decide (c.val ≤ 122)) ||
      c.isDigit) = true at h
    simp only [Char.isDigit, Bool.or_eq_true, Bool.and_eq_true, decide_eq_true_eq, ge_iff_le,
      UInt32.le_iff_toNat_le] at h
    have hval : c.val.toNat = c.toNat := rfl
    rw [hval] at h
    simp at h
    omega
  have hval : c.val.toNat = c.toNat := rfl
  constructor
  · simp only [isWhitespace]
    simp
    omega
  · simp only [isControl, UInt32.lt_iff_toNat_lt, UInt32.le_iff_toNat_le, hval]
    simp
    omega

theorem trim_copied_ne_empty (stem : String) (n : Nat) : trim (stem ++ copySuffix n) ≠ "" := by
  obtain ⟨c, hc⟩ := List.exists_mem_of_ne_nil _ (copyWord_ne_nil n)
  refine trim_ne_empty (c := c) ?_ (isWhitespace_of_isAlphanum (mem_copyWord hc)).1
  rw [String.toList_append, toList_copySuffix]
  simp [hc]

theorem isControl_copySuffix (n : Nat) : (copySuffix n).toList.any isControl = false := by
  rw [toList_copySuffix, List.any_append, List.any_cons]
  have hword : (copyWord n).any isControl = false := by
    rw [List.any_eq_false]
    intro c hc
    simp [(isWhitespace_of_isAlphanum (mem_copyWord hc)).2]
  have hstem : (copyStem n).any isControl = false := by
    unfold copyStem
    split <;> decide
  rw [hword, hstem]
  decide

/-! ## Names that are cut -/

/-- What is left of a name in front of its suffix. -/
def cutStem (name : String) (maxChars n : Nat) : String :=
  trimEnd (String.ofList (name.toList.take (maxChars - (copySuffix n).length)))

theorem copyName_eq (name : String) (maxChars n : Nat) :
    copyName name maxChars n = cutStem name maxChars n ++ copySuffix n :=
  rfl

theorem toList_cutStem (name : String) (maxChars n : Nat) : (cutStem name maxChars n).toList =
    (name.toList.take (maxChars - (copySuffix n).length)).rdropWhile isWhitespace := by
  rw [cutStem, trimEnd, String.toList_ofList, String.toList_ofList]
  rfl

theorem length_copyName_le (name : String) {maxChars n : Nat}
    (h : (copySuffix n).length ≤ maxChars) : (copyName name maxChars n).length ≤ maxChars := by
  have hstem : (cutStem name maxChars n).length ≤ maxChars - (copySuffix n).length := by
    rw [← String.length_toList, toList_cutStem]
    exact (List.rdropWhile_prefix isWhitespace _).length_le.trans (List.length_take_le _ _)
  rw [copyName_eq, String.length_append]
  omega

theorem isControl_copyName {name : String} (maxChars n : Nat)
    (h : name.toList.any isControl = false) :
    (copyName name maxChars n).toList.any isControl = false := by
  rw [List.any_eq_false] at h
  rw [copyName_eq, String.toList_append, List.any_append, isControl_copySuffix, Bool.or_false,
    List.any_eq_false, toList_cutStem]
  exact fun c hc => h c (List.mem_of_mem_take ((List.rdropWhile_prefix isWhitespace _).mem hc))

theorem copyName_injective (name : String) (maxChars : Nat) :
    (copyName name maxChars).Injective := by
  intro n m h
  have hchars := congrArg String.toList h
  rw [copyName_eq, copyName_eq, String.toList_append, String.toList_append] at hchars
  exact (append_copySuffix_inj hchars).2

theorem copyName_valid {name : String} {n : Nat} (hn : n ≤ maxCopies)
    (h : validateRequiredText "session name" name maxSessionNameChars = .ok ()) :
    validateRequiredText "session name" (copyName name maxSessionNameChars n)
      maxSessionNameChars = .ok () := by
  rw [validateRequiredText_eq_ok_iff] at h ⊢
  refine ⟨trim_copied_ne_empty _ n, length_copyName_le name ?_, isControl_copyName _ n h.2.2⟩
  exact (length_copySuffix_lt hn).le.trans (by decide)

/-- A normalized name begins with a character that is not white space. -/
theorem head_of_normalized {name : String} (h : normalizeGroupName name = name) (hne : name ≠ "") :
    ∃ c l, name.toList = c :: l ∧ isWhitespace c = false := by
  have htrim : trim name = name := by
    unfold normalizeGroupName at h
    dsimp only at h
    split at h
    · exact absurd h.symm hne
    · exact h
  have hchars := congrArg String.toList htrim
  rw [toList_trim] at hchars
  have hkept : (name.toList.dropWhile isWhitespace).rdropWhile isWhitespace <+:
      name.toList.dropWhile isWhitespace := List.rdropWhile_prefix isWhitespace _
  rw [hchars] at hkept
  cases hname : name.toList with
  | nil => exact absurd (String.toList_eq_nil_iff.mp hname) hne
  | cons c l =>
    refine ⟨c, l, rfl, ?_⟩
    by_contra hspace
    rw [Bool.not_eq_false] at hspace
    rw [hname, List.dropWhile_cons_of_pos hspace] at hkept
    have hlen := hkept.length_le.trans (List.dropWhile_suffix isWhitespace).length_le
    rw [List.length_cons] at hlen
    omega

theorem normalizeGroupName_copyName {name : String} {n : Nat} (hn : n ≤ maxCopies)
    (h : normalizeGroupName name = name) (hne : name ≠ "") :
    normalizeGroupName (copyName name maxGroupNameChars n) = copyName name maxGroupNameChars n := by
  obtain ⟨c, l, hname, hc⟩ := head_of_normalized h hne
  have htrim : trim (copyName name maxGroupNameChars n) = copyName name maxGroupNameChars n := by
    obtain ⟨k, hk⟩ : ∃ k, maxGroupNameChars - (copySuffix n).length = k + 1 :=
      ⟨63 - (copySuffix n).length, by
        have hsuffix := length_copySuffix_lt hn
        unfold maxGroupNameChars
        omega⟩
    -- The first character of the name stays, and the last one of the suffix is a letter or a digit.
    obtain ⟨l', hstem⟩ : ∃ l', (cutStem name maxGroupNameChars n).toList = c :: l' := by
      rw [toList_cutStem, hname, hk, List.take_succ_cons]
      have hkept := List.rdropWhile_prefix isWhitespace (c :: l.take k)
      cases hcut : (c :: l.take k).rdropWhile isWhitespace with
      | nil =>
        have hall := List.rdropWhile_eq_nil_iff.mp hcut c List.mem_cons_self
        rw [hc] at hall
        exact nomatch hall
      | cons d l' =>
        rw [hcut] at hkept
        obtain ⟨rfl, -⟩ := List.cons_prefix_cons.mp hkept
        exact ⟨l', rfl⟩
    obtain ⟨word, d, hword⟩ := (copyWord n).eq_nil_or_concat.resolve_left (copyWord_ne_nil n)
    have hd : d ∈ copyWord n := by
      rw [hword]
      simp
    refine trim_eq_self_of_ends (c := c) (d := d) (l := l' ++ (copySuffix n).toList)
      (m := (cutStem name maxGroupNameChars n).toList ++ (copyStem n ++ ' ' :: word)) ?_ ?_ hc
      (isWhitespace_of_isAlphanum (mem_copyWord hd)).1
    · rw [copyName_eq, String.toList_append, hstem, List.cons_append]
    · rw [copyName_eq, String.toList_append, toList_copySuffix, hword]
      simp
  -- It has a space, so it is not the name of the group for what has no group.
  have hspace : ' ' ∈ (copyName name maxGroupNameChars n).toList := by
    rw [copyName_eq, String.toList_append, toList_copySuffix]
    simp
  unfold normalizeGroupName
  dsimp only
  rw [htrim, if_neg]
  intro heq
  have hlower : Char.toLower ' ' ∈ "ungrouped".toList := heq ▸ List.mem_map_of_mem hspace
  exact absurd hlower (by decide)

theorem copyName_group_valid {name : String} {n : Nat} (hn : n ≤ maxCopies)
    (h : normalizeGroupName name = name) (hvalid : validateGroupName name false = .ok ()) :
    validateGroupName (copyName name maxGroupNameChars n) false = .ok () := by
  rw [validateGroupName_eq_ok_iff, h] at hvalid
  rw [validateGroupName_eq_ok_iff, normalizeGroupName_copyName hn h hvalid.1]
  refine ⟨fun hempty => ?_, length_copyName_le name ?_, isControl_copyName _ n hvalid.2.2⟩
  · have htrim := trim_copied_ne_empty (cutStem name maxGroupNameChars n) n
    rw [← copyName_eq, hempty] at htrim
    exact htrim (by decide)
  · exact (length_copySuffix_lt hn).le

/-! ## Loops -/

def SessionStore.names (store : Store) : List String := store.sessions.map (·.name)

theorem hasName_iff {store : Store} {name : String} :
    store.hasName name = true ↔ name ∈ store.names := by
  simp [hasName, SessionStore.names]

/-- The loop ends with the first free candidate, if it may go so far. -/
theorem firstFree_eq {taken : String → Bool} {names : List String} {candidate : Nat → String}
    {fuel n k : Nat} (htaken : ∀ name, taken name = true ↔ name ∈ names)
    (h : FirstFree (· ∈ names) candidate n k) (hk : k < n + fuel) :
    firstFree taken candidate fuel n = some (candidate k) := by
  induction fuel generalizing n with
  | zero =>
    have hle := h.le
    omega
  | succ fuel ih =>
    have hle := h.le
    rw [firstFree]
    split
    · rename_i hmem
      have hne : n ≠ k := fun heq => h.free (heq ▸ (htaken _).mp hmem)
      refine ih ⟨by omega, h.free, fun j hj => h.before j (by omega)⟩ (by omega)
    · rename_i hfree
      have heq : n = k := by
        by_contra hne
        exact hfree ((htaken _).mpr (h.before n (Nat.le_refl n) (by omega)))
      rw [heq]

theorem firstFree_of_some {taken : String → Bool} {names : List String} {candidate : Nat → String}
    {fuel n : Nat} {name : String} (htaken : ∀ name, taken name = true ↔ name ∈ names)
    (h : firstFree taken candidate fuel n = some name) :
    ∃ k, FirstFree (· ∈ names) candidate n k ∧ name = candidate k := by
  induction fuel generalizing n with
  | zero => exact nomatch h
  | succ fuel ih =>
    rw [firstFree] at h
    split at h
    · rename_i hmem
      obtain ⟨k, hfirst, hname⟩ := ih h
      have hle := hfirst.le
      refine ⟨k, ⟨by omega, hfirst.free, fun j hj hlt => ?_⟩, hname⟩
      by_cases heq : j = n
      · exact heq ▸ (htaken _).mp hmem
      · exact hfirst.before j (by omega) hlt
    · rename_i hfree
      refine ⟨n, ⟨Nat.le_refl n, fun hmem => hfree ((htaken _).mpr hmem), fun j hj hlt => ?_⟩,
        (Option.some.inj h).symm⟩
      omega

section Names

variable {store : Store} {name : String}

theorem duplicateSessionName_eq {k : Nat} (h : FirstFree (· ∈ store.names) (copiedName name) 1 k)
    (hk : k ≤ maxCopies) : store.duplicateSessionName name = .ok (copiedName name k) := by
  have hle := h.le
  have hone : s!"{name} Copy" = copiedName name 1 := by
    rw [copiedName, copySuffix, if_pos rfl]
    rfl
  unfold duplicateSessionName
  rw [hone]
  by_cases hfirst : k = 1
  · subst hfirst
    rw [if_neg fun hmem => h.free (hasName_iff.mp hmem)]
  · have hcandidate : ∀ n, n ≠ 1 → s!"{name} Copy {n}" = copiedName name n := fun n hn => by
      apply String.toList_inj.mp
      rw [copiedName, copySuffix, if_neg hn]
      show (name ++ " Copy " ++ Nat.repr n).toList = (name ++ (" Copy " ++ Nat.repr n)).toList
      rw [String.append_assoc]
    have hrest : FirstFree (· ∈ store.names) (fun n => s!"{name} Copy {n}") 2 k := by
      refine ⟨by omega, ?_, fun j hj hlt => ?_⟩
      · rw [hcandidate k hfirst]
        exact h.free
      · rw [hcandidate j (by omega)]
        exact h.before j (by omega) hlt
    rw [if_pos (hasName_iff.mpr (h.before 1 (Nat.le_refl 1) (by omega))),
      firstFree_eq (fun _ => hasName_iff) hrest (by omega)]
    dsimp only
    rw [hcandidate k hfirst]

/-- A store within its limit has a free copy before the numbers run out. -/
theorem exists_firstCopy {candidate : Nat → String} (hinj : candidate.Injective)
    {names : List String} (hlen : names.length < maxCopies) :
    ∃ k ≤ maxCopies, FirstFree (· ∈ names) candidate 1 k := by
  obtain ⟨k, h⟩ := exists_firstFree hinj names 1
  have hle := h.le_length hinj
  exact ⟨k, by omega, h⟩

theorem uniqueImportedSessionName_spec (hlen : store.sessions.length < maxCopies)
    (hvalid : validateRequiredText "session name" name maxSessionNameChars = .ok ()) :
    ∃ name', store.uniqueImportedSessionName name = .ok name' ∧ name' ∉ store.names ∧
      validateRequiredText "session name" name' maxSessionNameChars = .ok () := by
  unfold uniqueImportedSessionName
  split
  · have hnames : store.names.length < maxCopies := by rwa [SessionStore.names, List.length_map]
    obtain ⟨k, hk, h⟩ := exists_firstCopy (copyName_injective name maxSessionNameChars) hnames
    have hle := h.le
    rw [firstFree_eq (fun _ => hasName_iff) h (by omega)]
    exact ⟨_, rfl, h.free, copyName_valid hk hvalid⟩
  · rename_i hnew
    exact ⟨name, rfl, fun hmem => hnew (hasName_iff.mpr hmem), hvalid⟩

theorem normalizedTransferGroupName_eq (hvalid : validateGroupName name false = .ok ()) :
    normalizedTransferGroupName name = .ok (normalizeGroupName name) := by
  refine Except.bind_eq_ok_iff.mpr ⟨(), ?_, rfl⟩
  rw [validateGroupName_normalize, hvalid]

/-- The check of every candidate passes, so the loop is the one for profiles. -/
theorem freeGroup_eq {fuel n k : Nat}
    (hvalid : ∀ j ≤ k, validateGroupName (copyName name maxGroupNameChars j) false = .ok ())
    (h : FirstFree (· ∈ store.groups) (copyName name maxGroupNameChars) n k) (hk : k < n + fuel) :
    store.freeGroup name fuel n = .ok (copyName name maxGroupNameChars k) := by
  induction fuel generalizing n with
  | zero =>
    have hle := h.le
    omega
  | succ fuel ih =>
    have hle := h.le
    have hcandidate := normalizedTransferGroupName_eq (hvalid n hle)
    rw [freeGroup]
    show (normalizedTransferGroupName (copyName name maxGroupNameChars n)).bind _ = _
    rw [hcandidate, Except.bind]
    split
    · rename_i hmem
      have hne : n ≠ k := fun heq => h.free (heq ▸ hmem)
      exact ih ⟨by omega, h.free, fun j hj => h.before j (by omega)⟩ (by omega)
    · rename_i hfree
      have heq : n = k := by
        by_contra hne
        exact hfree (h.before n (Nat.le_refl n) (by omega))
      rw [heq]
      rfl

theorem duplicateGroupName_spec (hlen : store.groups.length < maxCopies)
    (hvalid : validateGroupName name false = .ok ()) :
    ∃ group, store.duplicateGroupName name = .ok group ∧ group ∉ store.groups ∧
      normalizeGroupName group = group ∧ validateGroupName group false = .ok () := by
  have hnormal : validateGroupName (normalizeGroupName name) false = .ok () := by
    rwa [validateGroupName_normalize]
  have hne := normalizeGroupName_ne_empty hvalid
  obtain ⟨k, hk, h⟩ := exists_firstCopy
    (copyName_injective (normalizeGroupName name) maxGroupNameChars) hlen
  have hle := h.le
  have hfound : store.freeGroup (normalizeGroupName name) maxCopies 1 =
      .ok (copyName (normalizeGroupName name) maxGroupNameChars k) :=
    freeGroup_eq (fun j hj => copyName_group_valid (hj.trans hk) (normalizeGroupName_idem name)
      hnormal) h (by omega)
  refine ⟨_, Except.bind_eq_ok_iff.mpr ⟨_, normalizedTransferGroupName_eq hvalid, hfound⟩, h.free,
    normalizeGroupName_copyName hk (normalizeGroupName_idem name) hne, ?_⟩
  exact copyName_group_valid hk (normalizeGroupName_idem name) hnormal

theorem uniqueImportedGroupName_eq (hvalid : validateGroupName name false = .ok ()) :
    store.uniqueImportedGroupName name =
      if normalizeGroupName name ∈ store.groups then
        store.duplicateGroupName (normalizeGroupName name)
      else .ok (normalizeGroupName name) := by
  unfold uniqueImportedGroupName
  rw [normalizedTransferGroupName_eq hvalid]
  rfl

theorem uniqueImportedGroupName_spec (hlen : store.groups.length < maxCopies)
    (hvalid : validateGroupName name false = .ok ()) :
    ∃ group, store.uniqueImportedGroupName name = .ok group ∧ group ∉ store.groups ∧
      normalizeGroupName group = group ∧ validateGroupName group false = .ok () := by
  have hnormal : validateGroupName (normalizeGroupName name) false = .ok () := by
    rwa [validateGroupName_normalize]
  rw [uniqueImportedGroupName_eq hvalid]
  split
  · exact duplicateGroupName_spec hlen hnormal
  · rename_i hnew
    exact ⟨_, rfl, hnew, normalizeGroupName_idem name, hnormal⟩

end Names

/-! ## Copies of profiles -/

/-- A profile as it is duplicated: without credentials. -/
def copyOf (newId : Uuid) (name groupName : String) (source : Profile) : Profile :=
  { source with id := newId, name, groupName }.modifySsh fun ssh =>
    { ssh with credentialStorage := none, credentialVaultKeySaved := false }

section Copies

variable {newId : Uuid} {name groupName : String} {source : Profile} {store store' : Store}

theorem copyOf_fields (newId : Uuid) (name groupName : String) (source : Profile) :
    (copyOf newId name groupName source).id = newId ∧
      (copyOf newId name groupName source).name = name ∧
      (copyOf newId name groupName source).groupName = groupName := by
  unfold copyOf SessionProfile.modifySsh
  split
  · exact ⟨rfl, rfl, rfl⟩
  · exact ⟨rfl, rfl, rfl⟩

/-- Profiles without credentials are valid whatever way of authentication they have. -/
theorem validate_clear {config : SshConfig ConnectionFields} (h : config.validate = .ok ()) :
    ({ config with credentialStorage := none, credentialVaultKeySaved := false } :
      SshConfig ConnectionFields).validate = .ok () := by
  unfold SshConfig.validate at h ⊢
  obtain ⟨_, hhost, h⟩ := Except.bind_eq_ok_iff.mp h
  obtain ⟨_, huser, h⟩ := Except.bind_eq_ok_iff.mp h
  obtain ⟨_, hfingerprint, h⟩ := Except.bind_eq_ok_iff.mp h
  obtain ⟨_, -, h⟩ := Except.bind_eq_ok_iff.mp h
  refine Except.bind_eq_ok_iff.mpr ⟨(), hhost, ?_⟩
  refine Except.bind_eq_ok_iff.mpr ⟨(), huser, ?_⟩
  refine Except.bind_eq_ok_iff.mpr ⟨(), hfingerprint, ?_⟩
  refine Except.bind_eq_ok_iff.mpr ⟨(), ?_, h⟩
  unfold SshConfig.validateCredentials
  simp only [Option.isSome_none, Bool.or_self, Bool.and_false, Bool.false_and]
  rfl

theorem validate_copyOf_iff (hsource : source.validate = .ok ())
    (hgroup : validateGroupName groupName true = .ok ()) :
    (copyOf newId name groupName source).validate = .ok () ↔
      validateRequiredText "session name" name maxSessionNameChars = .ok () := by
  obtain ⟨-, hname, hcopyGroup⟩ := copyOf_fields newId name groupName source
  rw [validate_profile_eq_ok_iff, hname, hcopyGroup]
  refine ⟨fun h => h.1, fun h => ⟨h, hgroup, ?_⟩⟩
  have hconnection := (validate_profile_eq_ok_iff.mp hsource).2.2
  unfold copyOf SessionProfile.modifySsh
  split
  · rename_i config hssh
    rw [show source.connection = .ssh config from hssh] at hconnection
    exact validate_clear hconnection
  · exact hconnection

/-- A copied name is valid if it is not too long. -/
theorem copiedName_valid_iff {n : Nat}
    (h : validateRequiredText "session name" name maxSessionNameChars = .ok ()) :
    validateRequiredText "session name" (copiedName name n) maxSessionNameChars = .ok () ↔
      (copiedName name n).length ≤ maxSessionNameChars := by
  rw [validateRequiredText_eq_ok_iff] at h ⊢
  refine ⟨fun hcopy => hcopy.2.1, fun hlen => ⟨trim_copied_ne_empty name n, hlen, ?_⟩⟩
  rw [copiedName, String.toList_append, List.any_append, h.2.2, isControl_copySuffix]
  rfl

theorem duplicateProfile_eq_ok_iff {group : String → String} {k : Nat}
    (hsource : source.validate = .ok ())
    (hgroup : validateGroupName (group source.groupName) true = .ok ())
    (hfirst : FirstFree (· ∈ store.names) (copiedName source.name) 1 k) (hk : k ≤ maxCopies) :
    store.duplicateProfile newId group source = .ok store' ↔
      (copiedName source.name k).length ≤ maxSessionNameChars ∧
        store.upsert (copyOf newId (copiedName source.name k) (group source.groupName) source) =
          store' := by
  have hname := (validate_profile_eq_ok_iff.mp hsource).1
  unfold duplicateProfile
  constructor
  · intro h
    obtain ⟨copied, hcopied, h⟩ := Except.bind_eq_ok_iff.mp h
    rw [duplicateSessionName_eq hfirst hk] at hcopied
    obtain rfl := Except.ok.inj hcopied
    obtain ⟨_, hvalid, h⟩ := Except.bind_eq_ok_iff.mp h
    exact ⟨(copiedName_valid_iff hname).mp ((validate_copyOf_iff hsource hgroup).mp hvalid),
      Except.ok.inj h⟩
  · rintro ⟨hlen, rfl⟩
    refine Except.bind_eq_ok_iff.mpr ⟨_, duplicateSessionName_eq hfirst hk, ?_⟩
    refine Except.bind_eq_ok_iff.mpr ⟨(), ?_, rfl⟩
    exact (validate_copyOf_iff hsource hgroup).mpr ((copiedName_valid_iff hname).mpr hlen)

/-- A profile with a new identifier comes last. -/
theorem upsert_sessions_of_new {profile : Profile}
    (hnew : profile.id ∉ store.sessions.map (·.id)) :
    (store.upsert profile).sessions =
      store.sessions ++ [{ profile with groupName := normalizeGroupName profile.groupName }] := by
  have hnone : ¬(store.find profile.id).isSome := fun hsome =>
    hnew (List.findKey_isSome.mp hsome)
  simp only [upsert]
  rw [if_neg hnone]

/-- A store with some profiles more. -/
def withCopies (store : Store) (copies : List Profile) : Store :=
  { store with sessions := store.sessions ++ copies }

theorem withCopies_withCopies (store : Store) (copy : Profile) (copies : List Profile) :
    withCopies (withCopies store [copy]) copies = withCopies store (copy :: copies) := by
  unfold withCopies
  rw [List.append_assoc, List.singleton_append]

theorem upsert_of_listed {profile : Profile} (hnew : profile.id ∉ store.sessions.map (·.id))
    (hnormal : normalizeGroupName profile.groupName = profile.groupName)
    (hlisted : profile.groupName ∈ store.groups) :
    store.upsert profile = withCopies store [profile] := by
  have hnone : ¬(store.find profile.id).isSome := fun hsome =>
    hnew (List.findKey_isSome.mp hsome)
  simp only [upsert, withCopies]
  rw [hnormal, if_neg hnone, if_neg fun h => h.2 hlisted]

/-- What is made of some profiles and as many names, the `i`-th identifier for the first. -/
def addedWith (make : Uuid → String → Profile → Profile) (newId : Nat → Uuid) (i : Nat)
    (sources : List Profile) (names : List String) : List Profile :=
  ((sources.zip names).zipIdx i).map fun x => make (newId x.2) x.1.2 x.1.1

section AddedWith

variable {make : Uuid → String → Profile → Profile} {newId : Nat → Uuid} {sources : List Profile}
  {names : List String} {i : Nat}

@[simp] theorem addedWith_cons (make : Uuid → String → Profile → Profile) (newId : Nat → Uuid)
    (i : Nat) (source : Profile) (sources : List Profile) (name : String) (names : List String) :
    addedWith make newId i (source :: sources) (name :: names) =
      make (newId i) name source :: addedWith make newId (i + 1) sources names :=
  rfl

theorem names_addedWith (hmake : ∀ id name source, (make id name source).name = name)
    (h : names.length = sources.length) :
    (addedWith make newId i sources names).map (·.name) = names := by
  induction sources generalizing names i with
  | nil =>
    rw [List.length_eq_zero_iff.mp h]
    rfl
  | cons source sources ih =>
    cases names with
    | nil => exact nomatch h
    | cons name names => rw [addedWith_cons, List.map_cons, ih (Nat.succ.inj h), hmake]

theorem mem_addedWith {profile : Profile} (h : profile ∈ addedWith make newId i sources names) :
    ∃ j, ∃ source ∈ sources, ∃ name ∈ names, profile = make (newId j) name source := by
  obtain ⟨⟨⟨source, name⟩, j⟩, hmem, rfl⟩ := List.mem_map.mp h
  obtain ⟨hsource, hname⟩ := List.of_mem_zip (List.fst_mem_of_mem_zipIdx hmem)
  exact ⟨j, source, hsource, name, hname, rfl⟩

theorem ids_addedWith (hmake : ∀ id name source, (make id name source).id = id)
    (h : names.length = sources.length) :
    (addedWith make newId i sources names).map (·.id) =
      (List.range' i sources.length).map newId := by
  have hids : (addedWith make newId i sources names).map (·.id) =
      ((sources.zip names).zipIdx i).map fun x => newId x.2 := by
    unfold addedWith
    rw [List.map_map]
    exact List.map_congr_left fun x _ => hmake _ _ _
  have hlen : (sources.zip names).length = sources.length := by
    rw [List.length_zip, h, Nat.min_self]
  rw [hids, ← hlen, ← List.zipIdx_map_snd, List.map_map]
  rfl

theorem forall₂_addedWith {R : Profile → Profile → Prop}
    (hmake : ∀ j name, ∀ source ∈ sources, R source (make (newId j) name source))
    (h : names.length = sources.length) :
    List.Forall₂ R sources (addedWith make newId i sources names) := by
  induction sources generalizing names i with
  | nil =>
    rw [List.length_eq_zero_iff.mp h]
    exact .nil
  | cons source sources ih =>
    cases names with
    | nil => exact nomatch h
    | cons name names =>
      exact .cons (hmake i name source List.mem_cons_self)
        (ih (fun j name other hother => hmake j name other (List.mem_cons_of_mem source hother))
          (Nat.succ.inj h))

end AddedWith

/-- The copies of some profiles. -/
def copiesOf (newId : Nat → Uuid) (groupName : String) (i : Nat) (sources : List Profile)
    (names : List String) : List Profile :=
  addedWith (fun id name source => copyOf id name groupName source) newId i sources names

theorem names_copiesOf {newId : Nat → Uuid} {sources : List Profile} {names : List String} {i : Nat}
    (h : names.length = sources.length) :
    (copiesOf newId groupName i sources names).map (·.name) = names :=
  names_addedWith (fun _ _ _ => (copyOf_fields _ _ _ _).2.1) h

theorem copiesOf_valid {newId : Nat → Uuid} {sources : List Profile} {names : List String} {i : Nat}
    (hgroup : validateGroupName groupName true = .ok ())
    (hsources : ∀ source ∈ sources, source.validate = .ok ())
    (hnames : ∀ name ∈ names,
      validateRequiredText "session name" name maxSessionNameChars = .ok ()) :
    ∀ copy ∈ copiesOf newId groupName i sources names, copy.validate = .ok () := by
  intro copy hcopy
  obtain ⟨j, source, hsource, name, hname, rfl⟩ := mem_addedWith hcopy
  exact (validate_copyOf_iff (hsources source hsource) hgroup).mpr (hnames name hname)

/-- Profiles are duplicated if all the names that are drawn for them are short enough. -/
theorem duplicateProfiles_eq_ok_iff {newId : Nat → Uuid} {sources : List Profile}
    {names : List String} {i : Nat} (hnormal : normalizeGroupName groupName = groupName)
    (hgroup : validateGroupName groupName true = .ok ()) (hlisted : groupName ∈ store.groups)
    (hsources : ∀ source ∈ sources, source.validate = .ok ())
    (hids : i + sources.length ≤ maxSessionTransferProfiles)
    (hinj : ∀ i < maxSessionTransferProfiles, ∀ j < maxSessionTransferProfiles,
      newId i = newId j → i = j)
    (hnew : ∀ j, i ≤ j → j < maxSessionTransferProfiles → newId j ∉ store.sessions.map (·.id))
    (hlen : store.sessions.length + sources.length < maxCopies)
    (h : Draws copiedName store.names (sources.map (·.name)) names) :
    duplicateProfiles newId groupName i sources store = .ok store' ↔
      (∀ name ∈ names, name.length ≤ maxSessionNameChars) ∧
        withCopies store (copiesOf newId groupName i sources names) = store' := by
  induction sources generalizing store names i with
  | nil =>
    cases h
    have hcopies : withCopies store (copiesOf newId groupName i [] []) = store := by
      show { store with sessions := store.sessions ++ [] } = store
      rw [List.append_nil]
    rw [duplicateProfiles, hcopies]
    exact ⟨fun h => ⟨nofun, Except.ok.inj h⟩, fun h => congrArg Except.ok h.2⟩
  | cons source sources ih =>
    rw [List.map_cons] at h
    cases h with
    | @cons _ names _ _ k hfirst hrest =>
    rw [List.forall_mem_cons] at hsources
    rw [List.length_cons] at hids hlen
    -- at most as many candidates are taken as there are names in the store
    have hk : k ≤ maxCopies := by
      have hle := hfirst.le_length (copiedName_injective source.name)
      rw [SessionStore.names, List.length_map] at hle
      omega
    obtain ⟨hid, hname, hcopyGroup⟩ :=
      copyOf_fields (newId i) (copiedName source.name k) groupName source
    have hupsert : store.upsert (copyOf (newId i) (copiedName source.name k) groupName source) =
        withCopies store [copyOf (newId i) (copiedName source.name k) groupName source] := by
      refine upsert_of_listed ?_ ?_ ?_
      · rw [hid]
        exact hnew i (Nat.le_refl i) (by omega)
      · rw [hcopyGroup, hnormal]
      · rw [hcopyGroup]
        exact hlisted
    have hprofile (next : Store) : store.duplicateProfile (newId i) (fun _ => groupName) source =
        .ok next ↔ (copiedName source.name k).length ≤ maxSessionNameChars ∧
          withCopies store [copyOf (newId i) (copiedName source.name k) groupName source] =
            next := by
      rw [← hupsert]
      exact duplicateProfile_eq_ok_iff hsources.1 hgroup hfirst hk
    have hcopies : copiesOf newId groupName i (source :: sources)
        (copiedName source.name k :: names) =
      copyOf (newId i) (copiedName source.name k) groupName source ::
        copiesOf newId groupName (i + 1) sources names := rfl
    rw [hcopies]
    generalize copyOf (newId i) (copiedName source.name k) groupName source = copy at *
    -- the rest is copied into a store that already has the first copy
    have hsources' : duplicateProfiles newId groupName (i + 1) sources (withCopies store [copy]) =
        .ok store' ↔ (∀ name ∈ names, name.length ≤ maxSessionNameChars) ∧
          withCopies (withCopies store [copy])
            (copiesOf newId groupName (i + 1) sources names) = store' := by
      refine ih hlisted hsources.2 (by omega) (fun j hj hlt => ?_) ?_ ?_
      · unfold withCopies
        rw [List.map_append, List.mem_append, not_or, List.map_singleton, List.mem_singleton, hid]
        refine ⟨hnew j (by omega) hlt, fun heq => ?_⟩
        have hij := hinj j hlt i (by omega) heq
        omega
      · unfold withCopies
        rw [List.length_append, List.length_singleton]
        omega
      · unfold withCopies SessionStore.names
        rw [List.map_append, List.map_singleton, hname]
        exact hrest
    rw [withCopies_withCopies] at hsources'
    rw [List.forall_mem_cons, and_assoc, ← hsources']
    constructor
    · intro h
      obtain ⟨next, hnext, h⟩ := Except.bind_eq_ok_iff.mp h
      obtain ⟨hshort, rfl⟩ := (hprofile next).mp hnext
      exact ⟨hshort, h⟩
    · rintro ⟨hshort, h⟩
      exact Except.bind_eq_ok_iff.mpr ⟨_, (hprofile _).mpr ⟨hshort, rfl⟩, h⟩

end Copies

/-! ## Duplicates -/

/-- Some profiles more, each valid and under a name of its own that no profile had. -/
structure Copies (store store' : Store) (copies : List Profile) : Prop where
  sessions : store'.sessions = store.sessions ++ copies
  valid : ∀ copy ∈ copies, copy.validate = .ok ()
  fresh : ∀ copy ∈ copies, copy.name ∉ store.names
  distinct : (copies.map (·.name)).Nodup

/-- The profiles that are duplicated with a group. -/
def SessionStore.members (store : Store) (group : String) : List Profile :=
  store.sessions.filter fun profile =>
    normalizeGroupName profile.groupName = normalizeGroupName group

section Duplicates

variable {store store' : Store} {newId : Nat → Uuid} {group : String}

theorem upsert_groups_cases (store : Store) (profile : Profile) :
    (store.upsert profile).groups = store.groups ∨ normalizeGroupName profile.groupName ≠ "" ∧
      (store.upsert profile).groups = store.groups ++ [normalizeGroupName profile.groupName] := by
  simp only [upsert]
  split
  · rename_i hadd
    exact .inr ⟨hadd.1, rfl⟩
  · exact .inl rfl

theorem upsert_rest (store : Store) (profile : Profile) :
    (store.upsert profile).recentWorkspaces = store.recentWorkspaces := by
  simp only [upsert]

/-- The copy of a profile may bring its group along, which is valid too. -/
theorem validate_upsert {profile : Profile} (hvalid : store.validate = .ok ())
    (hgroups : store.groups.length < maxGroups)
    (hsessions : store.sessions.length < maxSessionProfiles)
    (hnew : profile.id ∉ store.sessions.map (·.id)) (hprofile : profile.validate = .ok ()) :
    (store.upsert profile).validate = .ok () := by
  obtain ⟨hlen, hchecked⟩ := validate_eq_ok_iff.mp hvalid
  have hsessionsAfter := upsert_sessions_of_new hnew
  have hgroupsAfter := upsert_groups_cases store profile
  have hrecent := upsert_rest store profile
  have hoptional := (validate_profile_eq_ok_iff.mp hprofile).2.1
  have hnormal := validate_normalized hprofile
  generalize store.upsert profile = after at *
  refine validate_eq_ok_iff.mpr ⟨?_, ?_, hrecent ▸ hchecked.recent, hrecent ▸ hchecked.paths,
    hrecent ▸ hchecked.distinct, ?_, ?_⟩
  · rcases hgroupsAfter with heq | ⟨-, heq⟩
    · rw [heq]
      exact hlen
    · rw [heq, List.length_append, List.length_singleton]
      exact hgroups
  · rw [hsessionsAfter, List.length_append, List.length_singleton]
    exact hsessions
  -- the only new group is the profile's own, in its normal form
  · intro name hname
    rcases hgroupsAfter with heq | ⟨hne, heq⟩
    · exact hchecked.groupNames name (heq ▸ hname)
    · rw [heq] at hname
      rcases List.mem_append.mp hname with hold | hlast
      · exact hchecked.groupNames name hold
      · rw [List.mem_singleton.mp hlast, validateGroupName_normalize]
        exact validateGroupName_required hoptional hne
  · intro other hother
    rw [hsessionsAfter] at hother
    rcases List.mem_append.mp hother with hold | hlast
    · exact hchecked.profiles other hold
    · rw [List.mem_singleton.mp hlast]
      exact hnormal

theorem duplicateSession_copies_iff {id : Uuid} {source : Profile}
    (hvalid : store.validate = .ok ()) (hgroups : store.groups.length < maxGroups)
    (hsessions : store.sessions.length < maxSessionProfiles) (hnew : NewIds newId store)
    (hfind : store.find id = some source) :
    (∃ store' copy, store.duplicateSession newId id = .ok store' ∧ Copies store store' [copy] ∧
        store'.validate = .ok ()) ↔
      ∃ k, 1 ≤ k ∧ copiedName source.name k ∉ store.names ∧
        (copiedName source.name k).length ≤ maxSessionNameChars := by
  have hsource := (validate_eq_ok_iff.mp hvalid).2.profiles source (List.mem_of_findKey hfind)
  obtain ⟨hname, hgroup, -⟩ := validate_profile_eq_ok_iff.mp hsource
  have hnames : store.names.length < maxCopies := by
    rw [SessionStore.names, List.length_map]
    exact hsessions.trans (by decide)
  obtain ⟨k, hk, hfirst⟩ := exists_firstCopy (copiedName_injective source.name) hnames
  have hduplicate {after : Store} : store.duplicateSession newId id = .ok after ↔
      (copiedName source.name k).length ≤ maxSessionNameChars ∧
        store.upsert (copyOf (newId 0) (copiedName source.name k) source.groupName source) =
          after := by
    unfold duplicateSession
    rw [hfind]
    exact duplicateProfile_eq_ok_iff hsource hgroup hfirst hk
  constructor
  · rintro ⟨after, copy, hafter, -, -⟩
    exact ⟨k, hfirst.le, hfirst.free, (hduplicate.mp hafter).1⟩
  · rintro ⟨j, hj, hfree, hlen⟩
    -- The first free copy has the shortest name.
    have hle : k ≤ j := by
      by_contra hlt
      exact hfree (hfirst.before j hj (by omega))
    have hshort : (copiedName source.name k).length ≤ maxSessionNameChars := by
      have hsuffix := length_copySuffix_le hfirst.le hle
      rw [copiedName, String.length_append] at hlen ⊢
      omega
    have hcopy : (copyOf (newId 0) (copiedName source.name k) source.groupName source).validate =
        .ok () :=
      (validate_copyOf_iff hsource hgroup).mpr ((copiedName_valid_iff hname).mpr hshort)
    obtain ⟨hid, hcopyName, -⟩ :=
      copyOf_fields (newId 0) (copiedName source.name k) source.groupName source
    have hnewId : (copyOf (newId 0) (copiedName source.name k) source.groupName source).id ∉
        store.sessions.map (·.id) := by
      rw [hid]
      exact hnew.2 0 (by decide)
    refine ⟨_, _, hduplicate.mpr ⟨hshort, rfl⟩, ⟨upsert_sessions_of_new hnewId, ?_, ?_, ?_⟩,
      validate_upsert hvalid hgroups hsessions hnewId hcopy⟩
    · rw [List.forall_mem_singleton]
      exact validate_normalized hcopy
    · rw [List.forall_mem_singleton, hcopyName]
      exact hfirst.free
    · exact List.nodup_singleton _

/-- A group more, under a new name, with one copy for each profile of the group; the store can be
    saved if it has room for them. -/
structure CopiesGroup (store store' : Store) (group duplicate : String) (copies : List Profile) :
    Prop where
  added : Copies store store' copies
  length : copies.length = (store.members group).length
  groups : store'.groups = store.groups ++ [duplicate]
  fresh : duplicate ∉ store.groups
  valid : validateGroupName duplicate false = .ok ()
  moved : ∀ copy ∈ copies, copy.groupName = duplicate
  saved : store.sessions.length + (store.members group).length ≤ maxSessionProfiles →
    store'.validate = .ok ()

theorem addGroup_of_new {name : String} (hvalid : validateGroupName name false = .ok ())
    (hnormal : normalizeGroupName name = name) (hnew : name ∉ store.groups) :
    store.addGroup name = .ok ({ store with groups := store.groups ++ [name] }, true) := by
  unfold addGroup
  refine Except.bind_eq_ok_iff.mpr ⟨(), hvalid, ?_⟩
  dsimp only
  rw [hnormal, if_neg hnew]

theorem duplicateGroup_eq_ok_iff {names : List String} {duplicate : String}
    (hvalid : store.validate = .ok ()) (hnew : NewIds newId store)
    (hlen : (store.members group).length ≤ maxSessionTransferProfiles)
    (hgroup : validateGroupName group false = .ok ())
    (hduplicate : store.duplicateGroupName (normalizeGroupName group) = .ok duplicate)
    (hfresh : duplicate ∉ store.groups) (hnormal : normalizeGroupName duplicate = duplicate)
    (hduplicateValid : validateGroupName duplicate false = .ok ())
    (h : Draws copiedName store.names ((store.members group).map (·.name)) names) :
    store.duplicateGroup newId group = .ok store' ↔
      normalizeGroupName group ∈ store.groups ∧
        (∀ name ∈ names, name.length ≤ maxSessionNameChars) ∧
        withCopies { store with groups := store.groups ++ [duplicate] }
          (copiesOf newId duplicate 0 (store.members group) names) = store' := by
  obtain ⟨-, hchecked⟩ := validate_eq_ok_iff.mp hvalid
  have hsources : ∀ source ∈ store.members group, source.validate = .ok () := fun source hmem =>
    hchecked.profiles source (List.mem_filter.mp hmem).1
  -- the profiles are copied into a store that already lists the new group
  have hprofiles : duplicateProfiles newId duplicate 0 (store.members group)
      { store with groups := store.groups ++ [duplicate] } = .ok store' ↔ _ :=
    duplicateProfiles_eq_ok_iff hnormal (validateGroupName_optional hduplicateValid)
      (List.mem_append_right _ (List.mem_singleton_self duplicate)) hsources
      (by rwa [Nat.zero_add]) hnew.1 (fun j _ hj => hnew.2 j hj)
      (by
        have hsessions := hchecked.sessions
        unfold maxSessionProfiles at hsessions
        unfold maxSessionTransferProfiles at hlen
        unfold maxCopies
        dsimp only
        omega) h
  rw [← hprofiles]
  unfold duplicateGroup
  constructor
  -- the checks of the source in their order
  · intro hrun
    obtain ⟨source, hsource, hrun⟩ := Except.bind_eq_ok_iff.mp hrun
    rw [normalizedTransferGroupName_eq hgroup] at hsource
    obtain rfl := Except.ok.inj hsource
    obtain ⟨_, hmem, hrun⟩ := Except.bind_eq_ok_iff.mp hrun
    obtain ⟨_, -, hrun⟩ := Except.bind_eq_ok_iff.mp hrun
    obtain ⟨other, hother, hrun⟩ := Except.bind_eq_ok_iff.mp hrun
    rw [hduplicate] at hother
    obtain rfl := Except.ok.inj hother
    obtain ⟨⟨next, changed⟩, hadd, hrun⟩ := Except.bind_eq_ok_iff.mp hrun
    rw [addGroup_of_new hduplicateValid hnormal hfresh] at hadd
    obtain ⟨rfl, -⟩ := Prod.mk.inj (Except.ok.inj hadd)
    rw [bailIf_eq_ok_iff, decide_eq_false_iff_not, not_not] at hmem
    exact ⟨hmem, hrun⟩
  · rintro ⟨hmem, hrun⟩
    refine Except.bind_eq_ok_iff.mpr ⟨_, normalizedTransferGroupName_eq hgroup, ?_⟩
    refine Except.bind_eq_ok_iff.mpr ⟨(), bailIf_eq_ok_iff.mpr (by simpa using hmem), ?_⟩
    refine Except.bind_eq_ok_iff.mpr ⟨(), bailIf_eq_ok_iff.mpr ?_, ?_⟩
    · rw [decide_eq_false_iff_not, Nat.not_lt]
      exact hlen
    refine Except.bind_eq_ok_iff.mpr ⟨_, hduplicate, ?_⟩
    exact Except.bind_eq_ok_iff.mpr ⟨_, addGroup_of_new hduplicateValid hnormal hfresh, hrun⟩

/-- The copies under names that were drawn, where all of them are short enough. -/
theorem copies_of_draws {names : List String} {sources : List Profile} {groupName : String}
    (hgroup : validateGroupName groupName true = .ok ())
    (hsources : ∀ source ∈ sources, source.validate = .ok ())
    (hshort : ∀ name ∈ names, name.length ≤ maxSessionNameChars)
    (h : Draws copiedName store.names (sources.map (·.name)) names)
    (hsessions : store'.sessions = store.sessions ++ copiesOf newId groupName 0 sources names) :
    Copies store store' (copiesOf newId groupName 0 sources names) := by
  have hlen : names.length = sources.length := by
    rw [h.length, List.length_map]
  have hvalid : ∀ name ∈ names,
      validateRequiredText "session name" name maxSessionNameChars = .ok () := by
    intro name hname
    obtain ⟨base, hbase, k, rfl⟩ := h.exists_base name hname
    obtain ⟨source, hsource, rfl⟩ := List.mem_map.mp hbase
    have hsourceName := (validate_profile_eq_ok_iff.mp (hsources source hsource)).1
    exact (copiedName_valid_iff hsourceName).mpr (hshort _ hname)
  have hnames : (copiesOf newId groupName 0 sources names).map (·.name) = names :=
    names_copiesOf hlen
  refine ⟨hsessions, copiesOf_valid hgroup hsources hvalid,
    fun copy hcopy => h.fresh.disjoint _ ?_, ?_⟩
  · rw [← hnames]
    exact List.mem_map_of_mem hcopy
  · rw [hnames]
    exact h.fresh.nodup

/-- With the copies of valid profiles in a new group, the store is valid if it has room for them. -/
theorem validate_withCopies {copies : List Profile} {duplicate : String}
    (hvalid : store.validate = .ok ()) (hgroups : store.groups.length < maxGroups)
    (hduplicate : validateGroupName duplicate false = .ok ())
    (hcopies : ∀ copy ∈ copies, copy.validate = .ok ())
    (hroom : store.sessions.length + copies.length ≤ maxSessionProfiles) :
    (withCopies { store with groups := store.groups ++ [duplicate] } copies).validate = .ok () := by
  obtain ⟨-, hchecked⟩ := validate_eq_ok_iff.mp hvalid
  refine validate_eq_ok_iff.mpr ⟨?_, ?_, hchecked.recent, hchecked.paths, hchecked.distinct, ?_, ?_⟩
  · show (store.groups ++ [duplicate]).length ≤ maxGroups
    rw [List.length_append, List.length_singleton]
    exact hgroups
  · show (store.sessions ++ copies).length ≤ maxSessionProfiles
    rwa [List.length_append]
  · intro name hname
    rcases List.mem_append.mp hname with hold | hlast
    · exact hchecked.groupNames name hold
    · rw [List.mem_singleton.mp hlast]
      exact hduplicate
  · intro profile hprofile
    rcases List.mem_append.mp hprofile with hold | hcopy
    · exact hchecked.profiles profile hold
    · exact hcopies profile hcopy

/-- A group is duplicated with valid names that are new if it is listed under its normalized name
    and there are enough short names for its profiles. -/
theorem duplicateGroup_copies_iff (hvalid : store.validate = .ok ())
    (hgroups : store.groups.length < maxGroups) (hnew : NewIds newId store)
    (hlen : (store.members group).length ≤ maxSessionTransferProfiles)
    (hmem : group ∈ store.groups) :
    (∃ store' copies duplicate, store.duplicateGroup newId group = .ok store' ∧
        CopiesGroup store store' group duplicate copies) ↔
      normalizeGroupName group ∈ store.groups ∧
        ∀ name, Room copiedName store.names (·.length ≤ maxSessionNameChars) name
          (((store.members group).map (·.name)).count name) := by
  obtain ⟨-, hchecked⟩ := validate_eq_ok_iff.mp hvalid
  have hgroup := hchecked.groupNames group hmem
  have hsources : ∀ source ∈ store.members group, source.validate = .ok () := fun source hmem =>
    hchecked.profiles source (List.mem_filter.mp hmem).1
  obtain ⟨duplicate, hduplicate, hfresh, hnormal, hduplicateValid⟩ :
      ∃ duplicate, store.duplicateGroupName (normalizeGroupName group) = .ok duplicate ∧
        duplicate ∉ store.groups ∧ normalizeGroupName duplicate = duplicate ∧
        validateGroupName duplicate false = .ok () :=
    duplicateGroupName_spec (hgroups.trans (by decide)) (by rwa [validateGroupName_normalize])
  obtain ⟨names, h⟩ := exists_draws copiedName_injective store.names
    ((store.members group).map (·.name))
  -- a shorter suffix makes a shorter name
  have hshorter : ∀ (name : String) (j k : Nat), 1 ≤ j → j ≤ k →
      (copiedName name k).length ≤ maxSessionNameChars →
      (copiedName name j).length ≤ maxSessionNameChars := by
    intro name j k hj hjk hk
    have hsuffix := length_copySuffix_le hj hjk
    rw [copiedName, String.length_append] at hk ⊢
    omega
  rw [← h.all_iff (fun _ _ _ _ => copiedName_inj) hshorter]
  constructor
  -- with every name short enough the copies are those of the draws, and no others
  · rintro ⟨after, copies, other, hafter, -⟩
    obtain ⟨hlisted, hall, -⟩ := (duplicateGroup_eq_ok_iff hvalid hnew hlen hgroup hduplicate
      hfresh hnormal hduplicateValid h).mp hafter
    exact ⟨hlisted, hall⟩
  · rintro ⟨hlisted, hall⟩
    have hoptional := validateGroupName_optional hduplicateValid
    have hadded : Copies store (withCopies { store with groups := store.groups ++ [duplicate] }
        (copiesOf newId duplicate 0 (store.members group) names)) _ :=
      copies_of_draws hoptional hsources hall h rfl
    have hnames : (copiesOf newId duplicate 0 (store.members group) names).map (·.name) = names :=
      names_copiesOf (h.length.trans (List.length_map _))
    have hlength : (copiesOf newId duplicate 0 (store.members group) names).length =
        (store.members group).length := by
      rw [← List.length_map (·.name), hnames, h.length, List.length_map]
    refine ⟨_, _, duplicate, (duplicateGroup_eq_ok_iff hvalid hnew hlen hgroup hduplicate hfresh
      hnormal hduplicateValid h).mpr ⟨hlisted, hall, rfl⟩,
      hadded, hlength, rfl, hfresh, hduplicateValid, fun copy hcopy => ?_, fun hroom => ?_⟩
    · obtain ⟨j, source, -, name, -, rfl⟩ := mem_addedWith hcopy
      exact (copyOf_fields _ _ _ _).2.2
    · exact validate_withCopies hvalid hgroups hduplicateValid hadded.valid (hlength ▸ hroom)

end Duplicates

/-- What duplicates and imports make of the names of a valid store with room for more.  An import
    always finds a valid name that is new.  A duplicate does so if there are as many free copies
    of each name as are needed that are not too long, and the group is listed as it is looked up. -/
theorem copy_names_valid {store : Store} {newId : Nat → Uuid} (hvalid : store.validate = .ok ())
    (hgroups : store.groups.length < maxGroups)
    (hsessions : store.sessions.length < maxSessionProfiles) (hnew : NewIds newId store) :
    (∀ id source, store.find id = some source →
      ((∃ store' copy, store.duplicateSession newId id = .ok store' ∧
          Copies store store' [copy] ∧ store'.validate = .ok ()) ↔
        ∃ k, 1 ≤ k ∧ copiedName source.name k ∉ store.names ∧
          (copiedName source.name k).length ≤ maxSessionNameChars)) ∧
    (∀ group ∈ store.groups, (store.members group).length ≤ maxSessionTransferProfiles →
      ((∃ store' copies duplicate, store.duplicateGroup newId group = .ok store' ∧
          CopiesGroup store store' group duplicate copies) ↔
        normalizeGroupName group ∈ store.groups ∧
          ∀ name, Room copiedName store.names (·.length ≤ maxSessionNameChars) name
            (((store.members group).map (·.name)).count name))) ∧
    (∀ name, validateRequiredText "session name" name maxSessionNameChars = .ok () →
      ∃ name', store.uniqueImportedSessionName name = .ok name' ∧ name' ∉ store.names ∧
        validateRequiredText "session name" name' maxSessionNameChars = .ok ()) ∧
    ∀ group, validateGroupName group false = .ok () →
      ∃ group', store.uniqueImportedGroupName group = .ok group' ∧ group' ∉ store.groups ∧
        normalizeGroupName group' = group' ∧ validateGroupName group' false = .ok () := by
  refine ⟨fun id source hfind => ?_, fun group hmem hlen => ?_, fun name hname => ?_,
    fun group hgroup => ?_⟩
  · exact duplicateSession_copies_iff hvalid hgroups hsessions hnew hfind
  · exact duplicateGroup_copies_iff hvalid hgroups hnew hlen hmem
  · exact uniqueImportedSessionName_spec (hsessions.trans (by decide)) hname
  · exact uniqueImportedGroupName_spec (hgroups.trans (by decide)) hgroup

/-- Identifiers from 2 on. -/
def laterIds (i : Nat) : Uuid := ⟨BitVec.ofNat 128 (i + 2)⟩

theorem laterIds_new {store : Store} (h : ∀ id ∈ store.sessions.map (·.id), id = 1) :
    NewIds laterIds store := by
  refine ⟨fun i hi j hj heq => ?_, fun i hi hmem => ?_⟩
  · have hbits := congrArg (fun id : Uuid => id.bits.toNat) heq
    simp only [laterIds, BitVec.toNat_ofNat] at hbits
    unfold maxSessionTransferProfiles at hi hj
    omega
  · have heq : laterIds i = 1 := h _ hmem
    have hbits := congrArg (fun id : Uuid => id.bits.toNat) heq
    simp only [laterIds, BitVec.toNat_ofNat] at hbits
    unfold maxSessionTransferProfiles at hi
    have hone : (1 : Uuid).bits.toNat = 1 := by decide
    omega

theorem server_is_duplicated :
    ∃ store' copy, (oneServer ["Team"] "Team").duplicateSession laterIds 1 = .ok store' ∧
      Copies (oneServer ["Team"] "Team") store' [copy] ∧ store'.validate = .ok () := by
  have hvalid : (oneServer ["Team"] "Team").validate = .ok () := by decide
  refine ((copy_names_valid hvalid (by decide) (by decide) (laterIds_new (by decide))).1 1 _ rfl).mpr
    ⟨1, Nat.le_refl 1, ?_, ?_⟩
  · decide
  · decide

/-- A server whose name has as many characters as there are in a valid name, less four. -/
def longName : Store :=
  { oneServer [] "" with
    sessions := (oneServer [] "").sessions.map fun profile =>
      { profile with name := String.ofList (List.replicate 124 'a') } }

/-- The only server of a valid store is not duplicated. -/
theorem long_name_is_not_duplicated :
    longName.validate = .ok () ∧ longName.groups.length < maxGroups ∧
      longName.sessions.length < maxSessionProfiles ∧ (longName.find 1).isSome ∧
      longName.duplicateSession laterIds 1 =
        .error "session name cannot exceed 128 characters" := by
  decide +kernel

end AxSsh.Profiles
