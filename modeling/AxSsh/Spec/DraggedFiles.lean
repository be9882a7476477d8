import AxSsh.ForStd.Utf8
import AxSsh.Native.DragPayloads
import AxSsh.Spec.ProfileChecks

/-!
# Dragged files are named exactly

A payload of local paths is read back as the paths without the white space around them, each
once.  So a drag names the files it was made of when no path ends in white space; a carriage
return or a line feed at the end of a path can be among what is lost, since the lines that the
encoder checks do not show them.

A payload of a remote path and a percent-encoded `file` URI are always read back.

## Key results
- `localFileDragData_eq_some_iff`: when there is a payload
- `parse_localPayload`: what a payload of local paths is read back as
- `Escaped.percentDecodePath`: percent-encoded bytes are read back
-/

namespace AxSsh.DragPayloads

open TextLines (stripReturn unended lines join)

/-! ## Absolute paths -/

/-- `Path::is_absolute` on a Unix host. -/
def Absolute (path : PathBuf) : Prop := path.toList.head? = some '/'

theorem Absolute.eq_cons {path : PathBuf} (h : Absolute path) :
    ∃ body, path.toList = '/' :: body := List.head?_eq_some_iff.mp h

theorem Absolute.toList_ne_nil {path : PathBuf} (h : Absolute path) : path.toList ≠ [] := by
  obtain ⟨body, hbody⟩ := h.eq_cons
  rw [hbody]
  exact List.cons_ne_nil '/' body

theorem Absolute.ne_empty {path : PathBuf} (h : Absolute path) : path ≠ "" := by
  rintro rfl
  exact h.toList_ne_nil rfl

/-- Trimming an absolute path takes white space from its end. -/
theorem Absolute.toList_trim {path : PathBuf} (h : Absolute path) :
    (trim path).toList = path.toList.rdropWhile isWhitespace := by
  obtain ⟨body, hbody⟩ := h.eq_cons
  rw [AxSsh.toList_trim, hbody, List.dropWhile_cons_of_neg (by decide)]

theorem Absolute.trim {path : PathBuf} (h : Absolute path) : Absolute (AxSsh.trim path) := by
  obtain ⟨body, hbody⟩ := h.eq_cons
  -- the slash itself is not trimmed
  have hne : path.toList.rdropWhile isWhitespace ≠ [] := fun hnil => by
    have hall := List.rdropWhile_eq_nil_iff.mp hnil '/'
    exact absurd (hall (by rw [hbody]; exact List.mem_cons_self)) (by decide)
  obtain ⟨c, rest, hcut⟩ := List.exists_cons_of_ne_nil hne
  have hkept := List.rdropWhile_prefix isWhitespace path.toList
  rw [hcut, hbody, List.cons_prefix_cons] at hkept
  rw [Absolute, h.toList_trim, hcut, hkept.1]
  rfl

/-- The path does not end in white space. -/
def EndsPlain (path : PathBuf) : Prop := ∀ c ∈ path.toList.getLast?, isWhitespace c = false

theorem Absolute.trim_eq_self_iff {path : PathBuf} (h : Absolute path) :
    AxSsh.trim path = path ↔ EndsPlain path := by
  rw [← String.toList_inj, h.toList_trim, List.rdropWhile_eq_self_iff, EndsPlain,
    List.getLast?_eq_some_getLast h.toList_ne_nil]
  simp [h.toList_ne_nil]

/-! ## What the parser makes of a text -/

theorem stripPrefix_append (start text : String) :
    stripPrefix start (start ++ text) = some text := by
  rw [stripPrefix, String.toList_append,
    if_pos (List.isPrefixOf_iff_prefix.mpr (List.prefix_append _ _)), List.drop_left,
    String.ofList_toList]

/-- A payload of local paths is taken for what it is. -/
theorem parseSftpDragPayload_local (text : String) :
    parseSftpDragPayload (localDragPrefix ++ text) =
      (parseDroppedLocalPaths text).map .local := by
  have hremote : stripPrefix remoteDragPrefix (localDragPrefix ++ text) = none := by
    rw [stripPrefix, String.toList_append]
    rfl
  rw [parseSftpDragPayload, hremote, stripPrefix_append, Option.getD_some]
  cases parseDroppedLocalPaths text <;> rfl

/-- An absolute path is no URI. -/
theorem parseSingleDroppedPath_absolute {path : PathBuf} (habs : Absolute path)
    (hplain : path.toList.any isControl = false) : parseSingleDroppedPath path = .ok path := by
  obtain ⟨body, hbody⟩ := habs.eq_cons
  have huri : stripPrefix "file://" path = none := by
    rw [stripPrefix, hbody]
    rfl
  rw [parseSingleDroppedPath, hplain, huri]
  simp [habs.ne_empty]
  rfl

theorem collectPaths_blank (raws : List String) (kept : List PathBuf) :
    collectPaths ("" :: raws) kept = collectPaths raws kept := by
  rw [collectPaths, if_pos (by decide)]

theorem collectPaths_blanks {blanks : List (List Char)} (h : ∀ blank ∈ blanks, blank = [])
    (raws : List String) (kept : List PathBuf) :
    collectPaths (blanks.map String.ofList ++ raws) kept = collectPaths raws kept := by
  induction blanks with
  | nil => rfl
  | cons blank blanks ih =>
    obtain ⟨rfl, hrest⟩ := List.forall_mem_cons.mp h
    rw [List.map_cons, List.cons_append]
    exact (collectPaths_blank _ kept).trans (ih hrest)

/-! ## Paths that are lines of the payload -/

/-- The path is a line without control characters and what ends the line. -/
structure Framed (path : PathBuf) (line : List Char) : Prop where
  ended : ∃ tail, path.toList = line ++ tail ∧ ∀ c ∈ tail, isBreak c = true
  plain : line.any isControl = false

theorem isControl_of_isBreak {c : Char} (h : isBreak c = true) : isControl c = true := by
  simp only [isBreak, Bool.or_eq_true, beq_iff_eq] at h
  rcases h with rfl | rfl <;> decide

theorem isWhitespace_of_isBreak {c : Char} (h : isBreak c = true) : isWhitespace c = true := by
  simp only [isBreak, Bool.or_eq_true, beq_iff_eq] at h
  rcases h with rfl | rfl <;> decide

theorem splitOnP_breaks {tail : List Char} (h : ∀ c ∈ tail, isBreak c = true) :
    ∀ blank ∈ tail.splitOnP isBreak, blank = [] := by
  induction tail with
  | nil => simp [List.splitOnP_nil]
  | cons c tail ih =>
    obtain ⟨hc, hrest⟩ := List.forall_mem_cons.mp h
    -- nothing stands before the first break
    rw [List.splitOnP_cons_eq_if_modifyHead, if_pos hc]
    exact List.forall_mem_cons.mpr ⟨rfl, ih hrest⟩

/-- The parser cuts the path into the line and blank lines. -/
theorem Framed.splitOnP {path : PathBuf} {line : List Char} (h : Framed path line) :
    ∃ blanks, path.toList.splitOnP isBreak = line :: blanks ∧ ∀ blank ∈ blanks, blank = [] := by
  obtain ⟨tail, htail, hbreaks⟩ := h.ended
  -- a line feed or a carriage return in the line would be a control character
  have hline : line.splitOnP isBreak = [line] :=
    List.splitOnP_eq_singleton fun c hc => by
      by_contra hbreak
      have hcontrol := isControl_of_isBreak (Bool.eq_true_of_not_eq_false hbreak)
      have hany := List.any_eq_true.mpr ⟨c, hc, hcontrol⟩
      rw [h.plain] at hany
      cases hany
  cases tail with
  | nil => exact ⟨[], by rw [htail, List.append_nil, hline], nofun⟩
  | cons c tail =>
    obtain ⟨hc, hrest⟩ := List.forall_mem_cons.mp hbreaks
    refine ⟨tail.splitOnP isBreak, ?_, splitOnP_breaks hrest⟩
    rw [htail, List.splitOnP_append_cons line tail hc, hline, List.singleton_append]

theorem rdropWhile_append_of_all {p : Char → Bool} {tail : List Char} (h : ∀ c ∈ tail, p c = true)
    (text : List Char) : (text ++ tail).rdropWhile p = text.rdropWhile p := by
  induction tail using List.reverseRecOn with
  | nil => rw [List.append_nil]
  | append_singleton tail c ih =>
    rw [← List.append_assoc, List.rdropWhile_concat_pos _ _ _ (h c (by simp))]
    exact ih fun d hd => h d (List.mem_append_left [c] hd)

section

variable {path : PathBuf} {line : List Char}

theorem Framed.absolute (h : Framed path line) (habs : Absolute path) :
    Absolute (String.ofList line) := by
  obtain ⟨tail, htail, hbreaks⟩ := h.ended
  rw [Absolute, htail] at habs
  rw [Absolute, String.toList_ofList]
  cases line with
  | nil =>
    rw [List.nil_append] at habs
    exact absurd (hbreaks '/' (List.mem_of_head? habs)) (by decide)
  | cons c line => exact habs

/-- What ends the line is white space. -/
theorem Framed.trim_eq (h : Framed path line) (habs : Absolute path) :
    trim (String.ofList line) = trim path := by
  obtain ⟨tail, htail, hbreaks⟩ := h.ended
  rw [← String.toList_inj, (h.absolute habs).toList_trim, habs.toList_trim, htail,
    rdropWhile_append_of_all fun c hc => isWhitespace_of_isBreak (hbreaks c hc),
    String.toList_ofList]

theorem any_isControl_trim {text : String} (h : text.toList.any isControl = false) :
    (trim text).toList.any isControl = false := by
  rw [List.any_eq_false] at h ⊢
  intro c hc
  rw [toList_trim] at hc
  exact h c ((List.dropWhile_suffix _).subset ((List.rdropWhile_prefix _ _).subset hc))

/-- The parser reads the trimmed path. -/
theorem Framed.collectPaths (h : Framed path line) (habs : Absolute path) (raws : List String)
    (kept : List PathBuf) :
    DragPayloads.collectPaths ((path.toList.splitOnP isBreak).map String.ofList ++ raws) kept =
      DragPayloads.collectPaths raws (FirstSeen.push pathComponents kept (trim path)) := by
  obtain ⟨blanks, hsplit, hblanks⟩ := h.splitOnP
  have htrim := h.trim_eq habs
  have hplain : (trim path).toList.any isControl = false := by
    rw [← htrim]
    exact any_isControl_trim (by rw [String.toList_ofList]; exact h.plain)
  rw [hsplit, List.map_cons, List.cons_append, DragPayloads.collectPaths, htrim,
    if_neg habs.trim.ne_empty, parseSingleDroppedPath_absolute habs.trim hplain]
  -- the blank lines after the path are skipped
  exact collectPaths_blanks hblanks raws _

end

theorem collectPaths_framed {paths : List PathBuf} (habs : ∀ path ∈ paths, Absolute path)
    (hframed : ∀ path ∈ paths, ∃ line, Framed path line) (kept : List PathBuf) :
    collectPaths
        ((paths.flatMap fun path => path.toList.splitOnP isBreak).map String.ofList) kept =
      .ok ((paths.map trim).foldl (FirstSeen.push pathComponents) kept) := by
  induction paths generalizing kept with
  | nil => rfl
  | cons path paths ih =>
    obtain ⟨hpath, hrest⟩ := List.forall_mem_cons.mp habs
    obtain ⟨⟨line, hline⟩, hlines⟩ := List.forall_mem_cons.mp hframed
    rw [List.flatMap_cons, List.map_append, hline.collectPaths hpath, ih hrest hlines]
    rfl

/-- Joined paths that are lines are read back as the trimmed paths, each once. -/
theorem parseDroppedLocalPaths_framed {paths : List PathBuf} (hne : paths ≠ [])
    (habs : ∀ path ∈ paths, Absolute path)
    (hframed : ∀ path ∈ paths, ∃ line, Framed path line) :
    parseDroppedLocalPaths (String.ofList (joinPaths paths)) =
      .ok (FirstSeen.collect pathComponents (paths.map trim)) := by
  have hsplit : (joinPaths paths).splitOnP isBreak =
      paths.flatMap fun path => path.toList.splitOnP isBreak := by
    rw [joinPaths, TextLines.splitOnP_join (by decide) (by simpa using hne), List.flatMap_map]
  have hcollect : collectPaths
      ((paths.flatMap fun path => path.toList.splitOnP isBreak).map String.ofList) [] =
      .ok (FirstSeen.collect pathComponents (paths.map trim)) := collectPaths_framed habs hframed []
  -- the error for an empty drop does not come up
  have hkept : FirstSeen.collect pathComponents (paths.map trim) ≠ [] :=
    FirstSeen.collect_ne_nil (by simpa using hne)
  obtain ⟨path, kept, hkept⟩ := List.exists_cons_of_ne_nil hkept
  rw [parseDroppedLocalPaths, String.toList_ofList, hsplit, hcollect, hkept]

/-! ## The payload of local paths -/

/-- The lines that `str::lines` finds in the payload are the paths, and they show no control
    character; a carriage return before the line feed and the end of the last line are not
    shown. -/
def LinesPlain (paths : List PathBuf) : Prop :=
  (∀ path ∈ paths.dropLast, (stripReturn path.toList).any isControl = false) ∧
    ∀ path ∈ paths.getLast?, (unended path.toList).any isControl = false

theorem linesPlain_concat {init : List PathBuf} {last : PathBuf} :
    LinesPlain (init ++ [last]) ↔
      (∀ path ∈ init, (stripReturn path.toList).any isControl = false) ∧
        (unended last.toList).any isControl = false := by
  simp [LinesPlain]

theorem framed_stripReturn {path : PathBuf}
    (h : (stripReturn path.toList).any isControl = false) :
    Framed path (stripReturn path.toList) := by
  refine ⟨?_, h⟩
  rcases TextLines.stripReturn_cases path.toList with heq | heq
  · exact ⟨[], by rw [heq, List.append_nil], nofun⟩
  · exact ⟨['\r'], heq, by simp [isBreak]⟩

theorem framed_unended {path : PathBuf} (h : (unended path.toList).any isControl = false) :
    Framed path (unended path.toList) := by
  refine ⟨?_, h⟩
  -- `str::lines` drops the last line feed, and a carriage return before it
  by_cases hend : path.toList.getLast? = some '\n'
  · obtain ⟨line, hline⟩ := List.getLast?_eq_some_iff.mp hend
    rw [hline, TextLines.unended_concat_feed]
    rcases TextLines.stripReturn_cases line with heq | heq
    · exact ⟨['\n'], by rw [heq], by simp [isBreak]⟩
    · refine ⟨['\r', '\n'], ?_, by simp [isBreak]⟩
      conv_lhs => rw [heq]
      rw [List.append_assoc]
      rfl
  · rw [unended, if_neg hend]
    exact ⟨[], by rw [List.append_nil], by simp⟩

theorem LinesPlain.framed {paths : List PathBuf} (h : LinesPlain paths) :
    ∀ path ∈ paths, ∃ line, Framed path line := by
  intro path hpath
  obtain rfl | ⟨init, last, rfl⟩ := List.eq_nil_or_concat' paths
  · cases hpath
  · rw [linesPlain_concat] at h
    rcases List.mem_append.mp hpath with hmem | hmem
    · exact ⟨_, framed_stripReturn (h.1 path hmem)⟩
    · obtain rfl := List.mem_singleton.mp hmem
      exact ⟨_, framed_unended h.2⟩

theorem no_feed_of_plain {line : List Char} (h : line.any isControl = false) : '\n' ∉ line :=
  fun hfeed => by
    have hany : line.any isControl = true := List.any_eq_true.mpr ⟨'\n', hfeed, by decide⟩
    rw [h] at hany
    cases hany

theorem no_feed_of_stripReturn {text : List Char} (h : '\n' ∉ stripReturn text) : '\n' ∉ text := by
  obtain heq | heq := TextLines.stripReturn_cases text
  · rwa [heq] at h
  · rw [heq]
    exact fun hfeed => h ((List.mem_append.mp hfeed).resolve_right (by decide))

/-- There is a payload exactly when the lines of the joined paths show no control character. -/
theorem localFileDragData_eq_some_iff {paths : List PathBuf} (hne : paths ≠ [])
    (habs : ∀ path ∈ paths, Absolute path) {payload : String} :
    localFileDragData paths = some payload ↔
      LinesPlain paths ∧ payload = localDragPrefix ++ String.ofList (joinPaths paths) := by
  obtain rfl | ⟨init, last, rfl⟩ := List.eq_nil_or_concat' paths
  · exact absurd rfl hne
  have hlast : last.toList ≠ [] := (habs last (by simp)).toList_ne_nil
  have hjoin : joinPaths (init ++ [last]) = join (init.map String.toList ++ [last.toList]) := by
    rw [joinPaths, List.map_append, List.map_singleton]
  have hempty : (init ++ [last]).isEmpty = false := by simp
  rw [localFileDragData, hempty, if_neg nofun]
  dsimp only
  constructor
  · intro h
    split at h
    · rename_i hlines
      rw [Bool.and_eq_true, beq_iff_eq, hjoin] at hlines
      obtain ⟨hlen, hall⟩ := hlines
      rw [List.length_append, List.length_singleton, ← List.length_map String.toList] at hlen
      obtain ⟨hinit, hend⟩ := TextLines.no_feed_of_length_lines_join hlast hlen
      rw [TextLines.lines_join_eq_unended hlast hinit hend, List.all_eq_true] at hall
      refine ⟨linesPlain_concat.mpr ⟨fun path hpath => ?_, ?_⟩, (Option.some.inj h).symm⟩
      · have hline := hall (stripReturn path.toList)
          (List.mem_append_left _ (List.mem_map_of_mem (List.mem_map_of_mem hpath)))
        simpa using (Bool.and_eq_true_iff.mp hline).2
      · have hline := hall (unended last.toList) (by simp)
        simpa using (Bool.and_eq_true_iff.mp hline).2
    · cases h
  · rintro ⟨hplain, rfl⟩
    have hframed := hplain.framed
    rw [linesPlain_concat] at hplain
    have hinit : ∀ l ∈ init.map String.toList, '\n' ∉ l := by
      intro l hl
      obtain ⟨path, hpath, rfl⟩ := List.mem_map.mp hl
      exact no_feed_of_stripReturn (no_feed_of_plain (hplain.1 path hpath))
    have hlines := TextLines.lines_join_eq_unended hlast hinit (no_feed_of_plain hplain.2)
    rw [if_pos]
    rw [hjoin, hlines, Bool.and_eq_true, beq_iff_eq, List.all_eq_true]
    refine ⟨by simp, fun line hline => ?_⟩
    -- every line is one that a path is made of
    obtain ⟨path, hpath, hframe⟩ : ∃ path ∈ init ++ [last], Framed path line := by
      rcases List.mem_append.mp hline with hmem | hmem
      · rw [List.map_map] at hmem
        obtain ⟨path, hpath, rfl⟩ := List.mem_map.mp hmem
        exact ⟨path, List.mem_append_left _ hpath, framed_stripReturn (hplain.1 path hpath)⟩
      · obtain rfl := List.mem_singleton.mp hmem
        exact ⟨last, by simp, framed_unended hplain.2⟩
    have hne := (hframe.absolute (habs path hpath)).toList_ne_nil
    rw [String.toList_ofList] at hne
    simp [hne, hframe.plain]

/-- What a payload of local paths is read back as: the trimmed paths, each once. -/
theorem parse_localPayload {paths : List PathBuf} (hne : paths ≠ [])
    (habs : ∀ path ∈ paths, Absolute path) {payload : String}
    (h : localFileDragData paths = some payload) :
    parseSftpDragPayload payload =
      .ok (.local (FirstSeen.collect pathComponents (paths.map trim))) := by
  obtain ⟨hplain, rfl⟩ := (localFileDragData_eq_some_iff hne habs).mp h
  rw [parseSftpDragPayload_local, parseDroppedLocalPaths_framed hne habs hplain.framed]
  rfl

theorem collect_trim_eq_self_iff {paths : List PathBuf} (habs : ∀ path ∈ paths, Absolute path) :
    FirstSeen.collect pathComponents (paths.map trim) = paths ↔
      (∀ path ∈ paths, EndsPlain path) ∧ (paths.map pathComponents).Nodup := by
  constructor
  · intro h
    refine ⟨fun path hpath => ?_, ?_⟩
    · rw [← h] at hpath
      obtain ⟨path', -, rfl⟩ := List.mem_map.mp (FirstSeen.mem_of_mem_collect hpath)
      rw [h] at hpath
      exact (habs _ hpath).trim_eq_self_iff.mp (trim_trim path')
    · rw [← h]
      exact FirstSeen.nodup_collect _
  · rintro ⟨hends, hnodup⟩
    have htrim : paths.map trim = paths := by
      refine (List.map_congr_left fun path hpath => ?_).trans (List.map_id' paths)
      exact (habs path hpath).trim_eq_self_iff.mpr (hends path hpath)
    rw [htrim]
    exact FirstSeen.collect_eq_self_iff.mpr hnodup

/-! ## Percent-encoded URIs -/

/-- Bytes with every one but a slash percent-encoded, with digits of either case. -/
inductive Escaped : List UInt8 → List Char → Prop where
  | nil : Escaped [] []
  | slash {bytes : List UInt8} {text : List Char} (rest : Escaped bytes text) :
      Escaped (0x2f :: bytes) ('/' :: text)
  | escape {byte : UInt8} {high low : Char} {bytes : List UInt8} {text : List Char}
      (hbyte : byte ≠ 0x2f) (hhigh : toDigit high = some (byte.toNat / 16))
      (hlow : toDigit low = some (byte.toNat % 16)) (rest : Escaped bytes text) :
      Escaped (byte :: bytes) ('%' :: high :: low :: text)

/-- The line `file://` with the percent-encoded path. -/
def FileUri (path : PathBuf) (line : String) : Prop :=
  ∃ text, Escaped path.toByteArray.data.toList text ∧ line = "file://" ++ String.ofList text

/-- A character that no line ends with and that is no control character. -/
def Visible (c : Char) : Prop := 33 ≤ c.toNat ∧ c.toNat < 127

theorem visible_of_toDigit {c : Char} {n : Nat} (h : toDigit c = some n) : Visible c := by
  unfold toDigit at h
  dsimp only at h
  unfold Visible
  split at h
  · omega
  · split at h
    · omega
    · split at h
      · omega
      · cases h

section

variable {c : Char}

theorem Visible.isWhitespace (h : Visible c) : AxSsh.isWhitespace c = false := by
  unfold Visible at h
  simp only [AxSsh.isWhitespace, Bool.or_eq_false_iff, Bool.and_eq_false_iff,
    decide_eq_false_iff_not, beq_eq_false_iff_ne]
  omega

theorem Visible.isControl (h : Visible c) : AxSsh.isControl c = false := by
  unfold Visible at h
  have hval : c.val.toNat = c.toNat := rfl
  simp only [AxSsh.isControl, Bool.or_eq_false_iff, Bool.and_eq_false_iff, decide_eq_false_iff_not,
    UInt32.lt_iff_toNat_lt, UInt32.le_iff_toNat_le, hval]
  simp
  omega

theorem Visible.isBreak (h : Visible c) : DragPayloads.isBreak c = false := by
  by_contra hbreak
  have hcontrol := isControl_of_isBreak (Bool.eq_true_of_not_eq_false hbreak)
  rw [h.isControl] at hcontrol
  cases hcontrol

theorem Visible.utf8EncodeChar (h : Visible c) :
    String.utf8EncodeChar c = [UInt8.ofNat c.toNat] := by
  unfold Visible at h
  have hval : c.val.toNat = c.toNat := rfl
  rw [String.utf8EncodeChar]
  simp only [hval]
  rw [if_pos (by omega)]

theorem Visible.ofNat_byte (h : Visible c) : Char.ofNat (UInt8.ofNat c.toNat).toNat = c := by
  unfold Visible at h
  rw [UInt8.toNat_ofNat_of_lt' (by rw [UInt8.size]; omega), Char.ofNat_toNat]

end

theorem Escaped.visible {bytes : List UInt8} {text : List Char} (h : Escaped bytes text) :
    ∀ c ∈ text, Visible c := by
  induction h with
  | nil => exact nofun
  | slash _ ih => exact List.forall_mem_cons.mpr ⟨by unfold Visible; decide, ih⟩
  | escape _ hhigh hlow _ ih =>
    simp only [List.forall_mem_cons]
    exact ⟨by unfold Visible; decide, visible_of_toDigit hhigh, visible_of_toDigit hlow, ih⟩

theorem byte_of_digits (byte : UInt8) :
    UInt8.ofNat ((byte.toNat / 16) <<< 4 ||| byte.toNat % 16) = byte := by
  have hlow : byte.toNat % 16 < 2 ^ 4 := Nat.mod_lt _ (by decide)
  rw [← Nat.shiftLeft_add_eq_or_of_lt hlow, Nat.shiftLeft_eq, Nat.div_add_mod', UInt8.ofNat_toNat]

theorem percentDecodeBytes_cons {byte : UInt8} (h : byte ≠ 0x25) (rest : List UInt8) :
    percentDecodeBytes (byte :: rest) = (percentDecodeBytes rest).map (byte :: ·) := by
  rcases rest with _ | ⟨high, _ | ⟨low, rest⟩⟩ <;> simp [percentDecodeBytes, h]

/-- Percent-encoded bytes are read back. -/
theorem Escaped.percentDecodeBytes {bytes : List UInt8} {text : List Char}
    (h : Escaped bytes text) :
    DragPayloads.percentDecodeBytes (text.flatMap String.utf8EncodeChar) = .ok bytes := by
  induction h with
  | nil => rfl
  | slash rest ih =>
    have hslash : String.utf8EncodeChar '/' = [0x2f] := by decide
    rw [List.flatMap_cons, hslash, List.singleton_append, percentDecodeBytes_cons (by decide), ih]
    rfl
  | @escape byte high low bytes text hbyte hhigh hlow rest ih =>
    have hpercent : String.utf8EncodeChar '%' = [0x25] := by decide
    -- the two digits are ASCII, so each is one byte that reads back as its character
    have hvhigh := visible_of_toDigit hhigh
    have hvlow := visible_of_toDigit hlow
    rw [List.flatMap_cons, List.flatMap_cons, List.flatMap_cons, hpercent, hvhigh.utf8EncodeChar,
      hvlow.utf8EncodeChar, List.singleton_append, List.singleton_append, List.singleton_append,
      DragPayloads.percentDecodeBytes, if_pos rfl]
    simp only [hvhigh.ofNat_byte, hvlow.ofNat_byte, hhigh, hlow, ih, byte_of_digits]
    rfl

theorem Escaped.percentDecodePath {path : String} {text : List Char}
    (h : Escaped path.toByteArray.data.toList text) :
    DragPayloads.percentDecodePath (String.ofList text) = .ok path := by
  have hbytes : (String.ofList text).toByteArray.data.toList =
      text.flatMap String.utf8EncodeChar := by
    rw [String.toByteArray_ofList, List.utf8Encode, List.toList_data_toByteArray]
  have hback : path.toByteArray.data.toList.toByteArray = path.toByteArray := by
    apply ByteArray.ext
    rw [List.data_toByteArray]
  rw [DragPayloads.percentDecodePath, hbytes, h.percentDecodeBytes]
  dsimp only
  rw [hback, String.fromUTF8?, dif_pos path.isValidUTF8]
  rfl

/-- The encoding of an absolute path begins with the slash itself. -/
theorem Escaped.eq_cons {path : PathBuf} {text : List Char} (habs : Absolute path)
    (h : Escaped path.toByteArray.data.toList text) : ∃ rest, text = '/' :: rest := by
  obtain ⟨body, hbody⟩ := habs.eq_cons
  have hbytes : path.toByteArray.data.toList = 0x2f :: body.flatMap String.utf8EncodeChar := by
    rw [← String.ofList_toList (s := path), hbody, String.toByteArray_ofList, List.utf8Encode,
      List.toList_data_toByteArray]
    rfl
  rw [hbytes] at h
  cases h with
  | slash rest => exact ⟨_, rfl⟩
  | escape hbyte => exact absurd rfl hbyte

section

variable {path : PathBuf} {line : String}

theorem FileUri.visible (h : FileUri path line) : ∀ c ∈ line.toList, Visible c := by
  obtain ⟨text, htext, rfl⟩ := h
  intro c hc
  rw [String.toList_append] at hc
  rcases List.mem_append.mp hc with hmem | hmem
  · have hall : ("file://".toList.all fun c => decide (33 ≤ c.toNat ∧ c.toNat < 127)) = true := by
      decide
    unfold Visible
    exact of_decide_eq_true (List.all_eq_true.mp hall c hmem)
  · exact htext.visible c (by simpa using hmem)

theorem FileUri.parseSingleDroppedPath (h : FileUri path line) (habs : Absolute path) :
    DragPayloads.parseSingleDroppedPath line = .ok path := by
  have hplain : line.toList.any isControl = false :=
    List.any_eq_false.mpr fun c hc => by simp [(h.visible c hc).isControl]
  obtain ⟨text, htext, rfl⟩ := h
  obtain ⟨rest, hrest⟩ := htext.eq_cons habs
  -- the authority is empty: the path begins with the slash that ends it
  have hauthority : splitAuthority (String.ofList text) = ("", String.ofList rest) := by
    rw [splitAuthority, String.toList_ofList, hrest]
    rfl
  have hpath : "/" ++ String.ofList rest = String.ofList text := by
    have hcons : String.ofList (['/'] ++ rest) = "/" ++ String.ofList rest := String.ofList_append
    rw [hrest, ← hcons, List.singleton_append]
  rw [DragPayloads.parseSingleDroppedPath, hplain, stripPrefix_append]
  simp only [hauthority, hpath, htext.percentDecodePath]
  change (if path = "" then _ else Except.ok path) = Except.ok path
  exact if_neg habs.ne_empty

theorem FileUri.trim_eq (h : FileUri path line) : trim line = line := by
  have hvisible := h.visible
  obtain ⟨text, -, rfl⟩ := h
  have hne : ("file://" ++ String.ofList text).toList ≠ [] := by simp
  have hlast := List.getLast_mem hne
  exact trim_eq_self_of_ends (String.toList_append) (List.dropLast_append_getLast hne).symm
    (by decide) (hvisible _ hlast).isWhitespace

/-- A dropped URI is read as the path it stands for. -/
theorem FileUri.parseSftpDragPayload (h : FileUri path line) (habs : Absolute path) :
    DragPayloads.parseSftpDragPayload line = .ok (.local [path]) := by
  -- a visible text is one line
  have hsplit : line.toList.splitOnP isBreak = [line.toList] :=
    List.splitOnP_eq_singleton fun c hc => (h.visible c hc).isBreak
  have hsingle := h.parseSingleDroppedPath habs
  have htrim := h.trim_eq
  obtain ⟨text, htext, rfl⟩ := h
  have hremote : stripPrefix remoteDragPrefix ("file://" ++ String.ofList text) = none := by
    rw [stripPrefix, String.toList_append]
    rfl
  have hlocal : stripPrefix localDragPrefix ("file://" ++ String.ofList text) = none := by
    rw [stripPrefix, String.toList_append]
    rfl
  have hne : "file://" ++ String.ofList text ≠ "" := by
    rw [ne_eq, ← String.toList_inj]
    simp
  rw [DragPayloads.parseSftpDragPayload, hremote, hlocal, Option.getD_none]
  dsimp only
  rw [parseDroppedLocalPaths, hsplit, List.map_singleton, String.ofList_toList, collectPaths, htrim,
    if_neg hne, hsingle]
  rfl

end

/-! ## Drags -/

/-- The payload of a remote path is read back as the path. -/
theorem parse_remotePayload {path payload : String} (h : remoteFileDragData path = some payload) :
    parseSftpDragPayload payload = .ok (.remote path) := by
  unfold remoteFileDragData at h
  split at h
  · rename_i hpath
    obtain rfl := Option.some.inj h
    rw [parseSftpDragPayload, stripPrefix_append]
    simp [hpath.1, hpath.2]
  · cases h

/-- When dragged files are named exactly: a payload of absolute local paths is read back as these
    paths if and only if no path ends in white space and no two are equal, or the lines of the
    payload show a control character, so that there is none; remote paths and `file` URIs are
    always read back. -/
theorem drag_names_files {paths : List PathBuf} (hne : paths ≠ [])
    (habs : ∀ path ∈ paths, Absolute path) :
    ((∀ payload, localFileDragData paths = some payload →
        parseSftpDragPayload payload = .ok (.local paths)) ↔
      (LinesPlain paths → (∀ path ∈ paths, EndsPlain path) ∧
        (paths.map pathComponents).Nodup)) ∧
    (∀ path payload, remoteFileDragData path = some payload →
      parseSftpDragPayload payload = .ok (.remote path)) ∧
    ∀ path line, Absolute path → FileUri path line →
      parseSingleDroppedPath line = .ok path ∧
        parseSftpDragPayload line = .ok (.local [path]) := by
  refine ⟨⟨fun h hplain => ?_, fun h payload hpayload => ?_⟩,
    fun path payload h => parse_remotePayload h,
    fun path line hpath hline =>
      ⟨hline.parseSingleDroppedPath hpath, hline.parseSftpDragPayload hpath⟩⟩
  -- what is read back is the trimmed paths, each once
  · have hpayload := (localFileDragData_eq_some_iff hne habs).mpr ⟨hplain, rfl⟩
    have hread := h _ hpayload
    rw [parse_localPayload hne habs hpayload] at hread
    exact (collect_trim_eq_self_iff habs).mp
      (SftpDragPayload.local.inj (Except.ok.inj hread))
  · have hplain := ((localFileDragData_eq_some_iff hne habs).mp hpayload).1
    rw [parse_localPayload hne habs hpayload, (collect_trim_eq_self_iff habs).mpr (h hplain)]

theorem drag_names_two_files :
    localFileDragData ["/tmp/one.txt", "/tmp/folder"] =
        some "axssh-local-path:/tmp/one.txt\n/tmp/folder" ∧
      parseSftpDragPayload "axssh-local-path:/tmp/one.txt\n/tmp/folder" =
        .ok (.local ["/tmp/one.txt", "/tmp/folder"]) ∧
      parseSftpDragPayload "file:///%61" = .ok (.local ["/a"]) := by
  have hpaths : ∀ path ∈ ["/tmp/one.txt", "/tmp/folder"], Absolute path ∧ EndsPlain path := by
    simp [Absolute, EndsPlain]
    decide
  have hdata : localFileDragData ["/tmp/one.txt", "/tmp/folder"] =
      some "axssh-local-path:/tmp/one.txt\n/tmp/folder" := by decide
  have hnamed := drag_names_files (List.cons_ne_nil "/tmp/one.txt" ["/tmp/folder"])
    fun path hpath => (hpaths path hpath).1
  have huri : FileUri "/a" "file:///%61" := by
    have hbytes : "/a".toByteArray.data.toList = [0x2f, 0x61] := by decide
    refine ⟨['/', '%', '6', '1'], ?_, by decide⟩
    rw [hbytes]
    exact .slash (.escape (by decide) (by decide) (by decide) .nil)
  have habs : Absolute "/a" := by simp [Absolute]
  exact ⟨hdata,
    hnamed.1.mpr (fun _ => ⟨fun path hpath => (hpaths path hpath).2, by decide⟩) _ hdata,
    (hnamed.2.2 "/a" "file:///%61" habs huri).2⟩

/-- A file whose name ends in a blank: the file without the blank is dropped. -/
theorem drag_names_another_file :
    ¬∀ paths : List PathBuf, paths ≠ [] → (∀ path ∈ paths, Absolute path) →
      (paths.map pathComponents).Nodup → ∀ payload, localFileDragData paths = some payload →
        parseSftpDragPayload payload = .ok (.local paths) := by
  intro h
  have hread := h ["/tmp/a "] (List.cons_ne_nil _ _) (by simp [Absolute]) (by decide)
    "axssh-local-path:/tmp/a " (by decide)
  have hfile : parseSftpDragPayload "axssh-local-path:/tmp/a " = .ok (.local ["/tmp/a"]) := by
    decide
  rw [hfile] at hread
  have heq := Except.ok.inj hread
  revert heq
  decide

end AxSsh.DragPayloads
