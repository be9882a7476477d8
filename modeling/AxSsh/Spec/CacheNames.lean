import AxSsh.Native.TransferCache
import AxSsh.Spec.TargetTrimming

/-!
# Names of cache files

The name that a remote file gets in the cache is portable, and it is its own such name, unless the
cut to length comes after a space or a dot: the ends are trimmed before the cut, not after it.  The
names of a cache file are read back as those of a finished and of a partial file.

## Key results
- `IsPortable.sanitizeBasename`: a portable name of the length allowed is left alone
- `sanitizeBasename_canonical_iff`: when a name comes out portable
- `managedCacheName_cacheTarget`: both names of a cache file are read back
-/

namespace AxSsh

open TextLines

/-! ## Trimming -/

/-- Not empty, of characters that a file name can hold, and with neither a space nor a dot at
    either end. -/
structure IsPortable (name : List Char) : Prop where
  ne : name ≠ []
  safe : ∀ c ∈ name, isSafeInName c = true
  first : ∀ c, name.head? = some c → isSpaceOrDot c = false
  last : ∀ c, name.getLast? = some c → isSpaceOrDot c = false

theorem head?_trimMatches {p : Char → Bool} {text : List Char} {c : Char}
    (h : (trimMatches p text).head? = some c) : p c = false := by
  have hstart := List.rdropWhile_prefix p (text.dropWhile p)
  obtain ⟨tail, htail⟩ := hstart
  have hhead := List.head?_dropWhile_not p text
  rw [trimMatches] at h
  rw [← htail, List.head?_append, h] at hhead
  exact hhead

theorem getLast?_trimMatches {p : Char → Bool} {text : List Char} {c : Char}
    (h : (trimMatches p text).getLast? = some c) : p c = false := by
  rw [trimMatches] at h
  obtain ⟨hne, rfl⟩ := List.mem_getLast?_eq_getLast h
  simpa using List.rdropWhile_last_not p (text.dropWhile p) hne

theorem mem_of_mem_trimMatches {p : Char → Bool} {text : List Char} {c : Char}
    (h : c ∈ trimMatches p text) : c ∈ text := by
  have hstart := List.rdropWhile_prefix p (text.dropWhile p)
  exact List.dropWhile_subset p (hstart.subset h)

theorem trimMatches_eq_self {p : Char → Bool} {text : List Char}
    (hfirst : ∀ c, text.head? = some c → p c = false)
    (hlast : ∀ c, text.getLast? = some c → p c = false) : trimMatches p text = text := by
  have hdrop : text.dropWhile p = text := by
    cases text with
    | nil => rfl
    | cons c rest => exact List.dropWhile_cons_of_neg (by simp [hfirst c rfl])
  have hkeep := (List.rdropWhile_eq_self_iff (p := p) (l := text)).mpr fun hne => by
    simp [hlast _ (List.getLast?_eq_some_getLast hne)]
  rw [trimMatches, hdrop, hkeep]

theorem isPortable_portableName (name : List Char) : IsPortable (portableName name) := by
  rw [portableName]
  split
  · refine ⟨by decide, TextLines.forall_mem_of_all (by decide), ?_, ?_⟩
    all_goals
      intro c hc
      cases hc
      rfl
  · rename_i hne
    refine ⟨hne, fun c hc => ?_, fun c => head?_trimMatches, fun c => getLast?_trimMatches⟩
    obtain ⟨d, -, rfl⟩ := List.mem_map.mp (mem_of_mem_trimMatches hc)
    split
    · rename_i hsafe
      exact hsafe
    · decide

theorem IsPortable.portableName {name : List Char} (h : IsPortable name) :
    portableName name = name := by
  have hmap : name.map (fun c => if isSafeInName c then c else '_') = name := by
    refine List.map_congr_left (fun c hc => ?_) |>.trans (List.map_id name)
    exact if_pos (h.safe c hc)
  rw [AxSsh.portableName, hmap, trimMatches_eq_self h.first h.last, if_neg h.ne]

/-! ## The cut to length -/

theorem truncateUtf8_isPrefix (value : List Char) (maxBytes : Nat) :
    truncateUtf8 value maxBytes <+: value := by
  induction value generalizing maxBytes with
  | nil => exact List.prefix_rfl
  | cons c value ih =>
    rw [truncateUtf8]
    split
    · exact List.prefix_cons_inj c |>.mpr (ih _)
    · exact List.nil_prefix

theorem byteSize_truncateUtf8_le (value : List Char) (maxBytes : Nat) :
    byteSize (truncateUtf8 value maxBytes) ≤ maxBytes := by
  induction value generalizing maxBytes with
  | nil => exact Nat.zero_le _
  | cons c value ih =>
    rw [truncateUtf8]
    split
    · have htail := ih (maxBytes - c.utf8Size)
      rw [byteSize_cons]
      omega
    · exact Nat.zero_le _

/-- The character after the cut did not fit. -/
theorem lt_byteSize_of_truncateUtf8 {value rest : List Char} {maxBytes : Nat} {d : Char}
    (h : value = truncateUtf8 value maxBytes ++ d :: rest) :
    maxBytes < byteSize (truncateUtf8 value maxBytes ++ [d]) := by
  induction value generalizing maxBytes with
  | nil => cases h
  | cons c value ih =>
    rw [truncateUtf8] at h ⊢
    split
    · rename_i hfits
      rw [if_pos hfits, List.cons_append, List.cons.injEq] at h
      have htail := ih h.2
      rw [List.cons_append, byteSize_cons]
      omega
    · rename_i hfits
      rw [if_neg hfits] at h
      obtain ⟨rfl, -⟩ := List.cons.inj h
      simpa using hfits

theorem truncateUtf8_ne_nil {value : List Char} {maxBytes : Nat} (hvalue : value ≠ [])
    (hmax : 4 ≤ maxBytes) : truncateUtf8 value maxBytes ≠ [] := by
  cases value with
  | nil => exact absurd rfl hvalue
  | cons c value =>
    have hsize := Char.utf8Size_le_four c
    rw [truncateUtf8, if_pos (hsize.trans hmax)]
    exact List.cons_ne_nil _ _

theorem truncateUtf8_append {before rest : List Char} {d : Char} {maxBytes : Nat}
    (hfits : byteSize before ≤ maxBytes) (hover : maxBytes < byteSize (before ++ [d])) :
    truncateUtf8 (before ++ d :: rest) maxBytes = before := by
  induction before generalizing maxBytes with
  | nil =>
    rw [List.nil_append, byteSize_cons, byteSize_nil] at hover
    rw [List.nil_append, truncateUtf8, if_neg (by omega)]
  | cons c before ih =>
    rw [List.cons_append, byteSize_cons] at hover
    rw [byteSize_cons] at hfits
    rw [List.cons_append, truncateUtf8, if_pos (by omega), ih (by omega) (by omega)]

/-! ## The name in the cache -/

/-- A portable name of the length allowed is its own name in the cache. -/
theorem IsPortable.sanitizeBasename {name : List Char} (h : IsPortable name)
    (hsize : byteSize name ≤ maxCacheBasenameBytes) : sanitizeBasename name = name := by
  rw [AxSsh.sanitizeBasename, h.portableName, truncateBasename, if_pos hsize]

/-- A cut that keeps the first characters keeps a name portable, but for its last one. -/
theorem IsPortable.of_isPrefix {name cut : List Char} (h : IsPortable name) (hcut : cut <+: name)
    (hne : cut ≠ []) (hlast : ∀ c, cut.getLast? = some c → isSpaceOrDot c = false) :
    IsPortable cut := by
  refine ⟨hne, fun c hc => h.safe c (hcut.subset hc), fun c hc => ?_, hlast⟩
  obtain ⟨rest, rfl⟩ := hcut
  refine h.first c ?_
  rw [List.head?_append, hc]
  rfl

theorem splitExtension_eq_some {name stem extension : List Char}
    (h : splitExtension name = some (stem, extension)) :
    name = stem ++ '.' :: extension ∧ stem ≠ [] ∧ extension ≠ [] ∧ byteSize extension ≤ 32 := by
  obtain ⟨hsplit, hkeep⟩ := Option.filter_eq_some_iff.mp h
  exact ⟨(rsplitOnce_spec hsplit).1, of_decide_eq_true hkeep⟩

/-- A long name keeps its extension, and with it its last character. -/
theorem IsPortable.truncateBasename_extension {name stem extension : List Char} (h : IsPortable name)
    (hlong : maxCacheBasenameBytes < byteSize name)
    (hsplit : splitExtension name = some (stem, extension)) :
    IsPortable (truncateBasename name maxCacheBasenameBytes) ∧
      byteSize (truncateBasename name maxCacheBasenameBytes) ≤ maxCacheBasenameBytes := by
  obtain ⟨hname, hstem, hextension, hsize⟩ := splitExtension_eq_some hsplit
  have hmax : maxCacheBasenameBytes = 160 := rfl
  generalize hcut : truncateUtf8 stem (maxCacheBasenameBytes - (byteSize extension + 1)) = cut
  -- the extension is short enough to leave room for a character of the stem
  have hne : cut ≠ [] := by
    rw [← hcut]
    exact truncateUtf8_ne_nil hstem (by omega)
  have hbound : byteSize cut ≤ maxCacheBasenameBytes - (byteSize extension + 1) := by
    rw [← hcut]
    exact byteSize_truncateUtf8_le _ _
  have hstart : cut <+: stem := by
    rw [← hcut]
    exact truncateUtf8_isPrefix _ _
  -- the stem is cut, and the extension is kept
  have heq : truncateBasename name maxCacheBasenameBytes = cut ++ '.' :: extension := by
    rw [truncateBasename, if_neg (Nat.not_le.mpr hlong), hsplit]
    simp only [Option.map_some, Option.getD_some, hcut]
    exact if_pos hne
  rw [heq]
  refine ⟨⟨by simp, fun c hc => h.safe c ?_, fun c hc => h.first c ?_, fun c hc => h.last c ?_⟩, ?_⟩
  · rw [hname]
    obtain hc | hc := List.mem_append.mp hc
    · exact List.mem_append_left _ (hstart.subset hc)
    · exact List.mem_append_right _ hc
  · obtain ⟨rest, rfl⟩ := hstart
    cases cut with
    | nil => exact absurd rfl hne
    | cons d cut =>
      rw [hname]
      exact hc
  · rw [List.getLast?_append_of_ne_nil _ (List.cons_ne_nil _ _)] at hc
    rw [hname, List.getLast?_append_of_ne_nil _ (List.cons_ne_nil _ _), hc]
  · rw [byteSize_append, byteSize_cons]
    have hdot : Char.utf8Size '.' = 1 := rfl
    omega

/-- A long name without an extension to keep is cut after a space or a dot. -/
def CutAtSpaceOrDot (name : List Char) : Prop :=
  splitExtension name = none ∧ ∃ before c d after, name = before ++ c :: d :: after ∧
    byteSize (before ++ [c]) ≤ maxCacheBasenameBytes ∧
    maxCacheBasenameBytes < byteSize (before ++ [c, d]) ∧ isSpaceOrDot c = true

theorem truncateBasename_of_none {name : List Char} (hlong : maxCacheBasenameBytes < byteSize name)
    (hsplit : splitExtension name = none) :
    truncateBasename name maxCacheBasenameBytes = truncateUtf8 name maxCacheBasenameBytes := by
  rw [truncateBasename, if_neg (Nat.not_le.mpr hlong), hsplit]
  rfl

theorem CutAtSpaceOrDot.not_isPortable {name : List Char} (h : CutAtSpaceOrDot name) :
    ¬IsPortable (truncateBasename name maxCacheBasenameBytes) := by
  obtain ⟨hsplit, before, c, d, after, rfl, hfits, hover, hc⟩ := h
  have happ : before ++ c :: d :: after = (before ++ [c]) ++ d :: after := by simp
  have hover' : maxCacheBasenameBytes < byteSize ((before ++ [c]) ++ [d]) := by
    rwa [List.append_assoc]
  have hlong : maxCacheBasenameBytes < byteSize (before ++ c :: d :: after) := by
    rw [byteSize_append] at hover ⊢
    simp only [byteSize_cons, byteSize_nil] at hover ⊢
    omega
  intro hportable
  rw [truncateBasename_of_none hlong hsplit, happ, truncateUtf8_append hfits hover'] at hportable
  have hlast := hportable.last c (by simp)
  rw [hc] at hlast
  cases hlast

theorem IsPortable.truncateBasename {name : List Char} (h : IsPortable name)
    (hcut : ¬CutAtSpaceOrDot name) :
    IsPortable (truncateBasename name maxCacheBasenameBytes) ∧
      byteSize (truncateBasename name maxCacheBasenameBytes) ≤ maxCacheBasenameBytes := by
  by_cases hlong : maxCacheBasenameBytes < byteSize name
  · cases hsplit : splitExtension name with
    | some split => exact h.truncateBasename_extension hlong hsplit
    | none =>
      rw [truncateBasename_of_none hlong hsplit]
      have hstart := truncateUtf8_isPrefix name maxCacheBasenameBytes
      refine ⟨h.of_isPrefix hstart (truncateUtf8_ne_nil h.ne (by decide)) fun c hc => ?_,
        byteSize_truncateUtf8_le _ _⟩
      -- the cut comes before a character that did not fit
      obtain ⟨before, hbefore⟩ := List.getLast?_eq_some_iff.mp hc
      obtain ⟨rest, hrest⟩ := hstart
      have hfits := byteSize_truncateUtf8_le name maxCacheBasenameBytes
      cases rest with
      | nil =>
        rw [List.append_nil] at hrest
        rw [hrest] at hfits
        omega
      | cons d after =>
        have hover := lt_byteSize_of_truncateUtf8 hrest.symm
        rw [hbefore] at hfits hover hrest
        by_contra hspace
        refine hcut ⟨hsplit, before, c, d, after, ?_, hfits, ?_, by simpa using hspace⟩
        · rw [← hrest, List.append_assoc]
          rfl
        · rwa [List.append_assoc] at hover
  · rw [AxSsh.truncateBasename, if_pos (Nat.not_lt.mp hlong)]
    exact ⟨h, Nat.not_lt.mp hlong⟩

/-- The name in the cache is portable, of the length allowed and its own name in the cache exactly
    when the cut to length does not come after a space or a dot. -/
theorem sanitizeBasename_canonical_iff (name : List Char) :
    (IsPortable (sanitizeBasename name) ∧
        byteSize (sanitizeBasename name) ≤ maxCacheBasenameBytes ∧
        sanitizeBasename (sanitizeBasename name) = sanitizeBasename name) ↔
      ¬CutAtSpaceOrDot (portableName name) := by
  constructor
  · rintro ⟨hportable, -, -⟩ hcut
    exact hcut.not_isPortable hportable
  · intro hcut
    obtain ⟨hportable, hsize⟩ := (isPortable_portableName name).truncateBasename hcut
    exact ⟨hportable, hsize, hportable.sanitizeBasename hsize⟩

/-- A name that is cut after its space. -/
def spaceAtCut : List Char := List.replicate 159 'a' ++ [' ', 'b']

theorem sanitizeBasename_spaceAtCut :
    ¬∀ name, IsPortable (sanitizeBasename name) ∧
      byteSize (sanitizeBasename name) ≤ maxCacheBasenameBytes ∧
      sanitizeBasename (sanitizeBasename name) = sanitizeBasename name := by
  intro h
  have hlast := (h spaceAtCut).1.last ' ' (by decide +kernel)
  exact absurd hlast (by decide)

/-! ## Reading the names back -/

theorem truncateBasename_ne_nil {name : List Char} (h : name ≠ []) :
    truncateBasename name maxCacheBasenameBytes ≠ [] := by
  have hcut : truncateUtf8 name maxCacheBasenameBytes ≠ [] := truncateUtf8_ne_nil h (by decide)
  rw [truncateBasename]
  split
  · exact h
  · cases splitExtension name with
    | none => exact hcut
    | some split =>
      simp only [Option.map_some]
      split
      · exact List.append_ne_nil_of_right_ne_nil _ (List.cons_ne_nil _ _)
      · exact hcut

theorem sanitizeBasename_ne_nil (name : List Char) : sanitizeBasename name ≠ [] :=
  truncateBasename_ne_nil (isPortable_portableName name).ne

/-- What is documented of `Uuid`: it is written with 36 hexadecimal digits and hyphens, and what
    is written can be read. -/
structure UuidText.Documented (U : UuidText) : Prop where
  length_format : ∀ id, (U.format id).length = 36
  format_mem : ∀ id, ∀ c ∈ U.format id, c ∈ "0123456789abcdef-".toList
  parses_format : ∀ id, U.parses (U.format id) = true

variable {U : UuidText}

theorem UuidText.Documented.byteSize_format (h : U.Documented) (id : Uuid) :
    byteSize (U.format id) = 36 := by
  have hone : ∀ c ∈ "0123456789abcdef-".toList, c.utf8Size = 1 :=
    TextLines.forall_mem_of_all (by decide)
  have hsizes : (U.format id).map Char.utf8Size = List.replicate 36 1 := by
    rw [← h.length_format id, ← List.map_const']
    exact List.map_congr_left fun c hc => hone c (h.format_mem id c hc)
  rw [byteSize, hsizes]
  rfl

theorem UuidText.Documented.splitAtChecked_format (h : U.Documented) (id : Uuid)
    (rest : List Char) :
    splitAtChecked 36 (U.format id ++ '-' :: rest) = some (U.format id, '-' :: rest) := by
  have hsize := h.byteSize_format id
  have hover : 36 < byteSize (U.format id ++ ['-']) := by
    rw [byteSize_append, hsize]
    decide
  have hcut : truncateUtf8 (U.format id ++ '-' :: rest) 36 = U.format id :=
    truncateUtf8_append hsize.le hover
  rw [splitAtChecked, hcut, if_pos hsize, List.drop_left]

theorem UuidText.Documented.stripPart_format (h : U.Documented) (id : Uuid) (rest : List Char) :
    stripPart (U.format id ++ rest) = none := by
  have hdot : '.' ∉ "0123456789abcdef-".toList := by decide
  cases hformat : U.format id with
  | nil =>
    have hlen := h.length_format id
    rw [hformat] at hlen
    cases hlen
  | cons c format =>
    have hc : c ≠ '.' := by
      rintro rfl
      exact hdot (h.format_mem id _ (hformat ▸ List.mem_cons_self))
    rw [List.cons_append, stripPart]
    rintro name heq
    exact hc (List.cons.inj heq).1

theorem stripPart_part (name : List Char) :
    stripPart ('.' :: name ++ ".part".toList) = some name := by
  have hsuffix : ".part".toList.isSuffixOf (name ++ ".part".toList) = true :=
    List.isSuffixOf_iff_suffix.mpr (List.suffix_append _ _)
  have hlen : (name ++ ".part".toList).length - ".part".toList.length = name.length := by simp
  show stripSuffix _ (name ++ ".part".toList) = _
  rw [stripSuffix, if_pos hsuffix, hlen, List.take_left]

/-- The scanner reads the final name of a cache file as that of a finished one, and its part name
    as that of a partial one. -/
theorem managedCacheName_cacheTarget (U : UuidText) (hU : U.Documented) (cacheId : Uuid)
    (remoteName : List Char) :
    managedCacheName U (CacheTarget.new U cacheId remoteName).finalName = some false ∧
      managedCacheName U (CacheTarget.new U cacheId remoteName).partName = some true := by
  have hread : ¬(sanitizeBasename remoteName = [] ∨ U.parses (U.format cacheId) = false) := by
    rintro (hnil | hparse)
    · exact sanitizeBasename_ne_nil remoteName hnil
    · rw [hU.parses_format] at hparse
      cases hparse
  constructor
  · rw [managedCacheName, CacheTarget.new, hU.stripPart_format]
    dsimp only
    rw [hU.splitAtChecked_format]
    exact if_neg hread
  · rw [managedCacheName, CacheTarget.new, stripPart_part]
    dsimp only
    rw [hU.splitAtChecked_format]
    exact if_neg hread

/-- The digits of an id from the place `first`. -/
def hexDigits (id : Uuid) (first count : Nat) : List Char :=
  (List.range' first count).map fun n => Nat.digitChar (id.bits.toNat / 16 ^ (31 - n) % 16)

/-- The hyphenated form of an id, and whether a text has it. -/
def hyphenated : UuidText where
  format id := ['-'].intercalate
    [hexDigits id 0 8, hexDigits id 8 4, hexDigits id 12 4, hexDigits id 16 4, hexDigits id 20 12]
  parses text :=
    (text.splitOn '-').map List.length == [8, 4, 4, 4, 12] &&
      text.all fun c => "0123456789abcdefABCDEF-".toList.contains c

example : hyphenated.format 0x12345678123442348234123456789abc =
    "12345678-1234-4234-8234-123456789abc".toList := by decide

theorem mem_hexDigits {id : Uuid} {first count : Nat} {c : Char}
    (h : c ∈ hexDigits id first count) : c ∈ "0123456789abcdef".toList := by
  obtain ⟨n, -, rfl⟩ := List.mem_map.mp h
  have hdigit : ∀ d < 16, Nat.digitChar d ∈ "0123456789abcdef".toList := by decide
  exact hdigit _ (Nat.mod_lt _ (by decide))

theorem hyphenated_format_mem (id : Uuid) :
    ∀ c ∈ hyphenated.format id, c ∈ "0123456789abcdef-".toList := by
  have hhex : ∀ c ∈ "0123456789abcdef".toList, c ∈ "0123456789abcdef-".toList :=
    TextLines.forall_mem_of_all (by decide)
  have hdash : '-' ∈ "0123456789abcdef-".toList := by decide
  intro c hc
  simp only [hyphenated, List.intercalate_cons_cons, List.intercalate_singleton, List.mem_append,
    List.mem_singleton] at hc
  rcases hc with ((h | rfl) | (h | rfl) | (h | rfl) | (h | rfl) | h)
  all_goals first
    | exact hhex _ (mem_hexDigits h)
    | exact hdash

theorem hyphenated_documented : hyphenated.Documented where
  length_format id := by
    simp [hyphenated, hexDigits, List.intercalate_cons_cons]
  format_mem := hyphenated_format_mem
  parses_format id := by
    have hmore : ∀ c ∈ "0123456789abcdef-".toList, c ∈ "0123456789abcdefABCDEF-".toList :=
      TextLines.forall_mem_of_all (by decide)
    have hdash : '-' ∉ "0123456789abcdef".toList := by decide
    refine Bool.and_eq_true_iff.mpr ⟨beq_iff_eq.mpr ?_, List.all_eq_true.mpr fun c hc =>
      List.contains_iff_mem.mpr (hmore c (hyphenated_format_mem id c hc))⟩
    rw [hyphenated, List.splitOn_intercalate '-' ?_ (List.cons_ne_nil _ _)]
    · simp [hexDigits]
    · intro digits hdigits hmem
      simp only [List.mem_cons, List.not_mem_nil, or_false] at hdigits
      obtain rfl | rfl | rfl | rfl | rfl := hdigits <;> exact hdash (mem_hexDigits hmem)

theorem managedCacheName_hyphenated :
    managedCacheName hyphenated
        (CacheTarget.new hyphenated 7 ".a-b.part".toList).finalName = some false ∧
      managedCacheName hyphenated
        (CacheTarget.new hyphenated 7 ".a-b.part".toList).partName = some true :=
  managedCacheName_cacheTarget hyphenated hyphenated_documented 7 ".a-b.part".toList

end AxSsh
