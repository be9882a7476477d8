import AxSsh.Native.KnownHosts

/-!
# Edits of the text and of its entries

The loader makes at most one entry of a line, and only from the words of the line.  So the entries
of a text are those of the parts between its line feeds, and an edit that keeps, drops and adds
lines keeps, drops and adds entries: `entriesOf_apply` says which.

## Key results
- `parseLine_eq`, `parseLine_some`: what the loader reads from a line
- `entriesOf_apply`: the entries after an edit
- `loadFromPath_apply_iff`: when the loader accepts the edited text
-/

namespace AxSsh

open TextLines

variable {Key : Type} {F : KeyFormat Key}

/-! ## One line -/

theorem trim_eq_nil_iff (line : List Char) : TextLines.trim line = [] ↔ words line = [] := by
  constructor
  · intro h
    rw [← words_trim, h, words_nil]
  · intro h
    have hhead := head?_trim line
    rw [h] at hhead
    exact List.head?_eq_none_iff.mp hhead

/-- Only the words of a line matter to the loader. -/
theorem parseLine_eq (F : KeyFormat Key) (line : List Char) :
    parseLine F line =
      if words line = [] ∨ (words line).head?.bind List.head? = some '#' then none
      else parseFields F (words line) := by
  unfold parseLine
  simp only [trim_eq_nil_iff, head?_trim, words_trim]

theorem parseLine_nil : parseLine F [] = none := by
  rw [parseLine_eq, words_nil]
  rfl

theorem parseLine_stripReturn (line : List Char) :
    parseLine F (stripReturn line) = parseLine F line := by
  rw [parseLine_eq, parseLine_eq, words_stripReturn]

/-- What a line says that the loader makes an entry of. -/
structure Reads (F : KeyFormat Key) (fields : List (List Char)) (e : Entry Key) : Prop where
  /-- Marked entries are the revoked ones. -/
  marker : fields.head?.any (fun field => field.head? = some '@') = e.revoked
  length : (if e.revoked then 1 else 0) + 3 ≤ fields.length
  hosts : fields.getD (if e.revoked then 1 else 0) [] = e.hosts
  key : F.parsePublicKeyBase64 (fields.getD ((if e.revoked then 1 else 0) + 2) []) = some e.key

theorem parseFields_some {fields : List (List Char)} {e : Entry Key}
    (h : parseFields F fields = some e) : Reads F fields e := by
  unfold parseFields at h
  cases hmarker : fields.head?.filter (fun field => field.head? = some '@') with
  | none =>
    simp only [hmarker, Option.any_none, Bool.false_eq_true, ↓reduceIte, Option.isSome_none] at h
    -- the first field is no marker
    have hunmarked : fields.head?.any (fun field => field.head? = some '@') = false := by
      cases hhead : fields.head? with
      | none => rfl
      | some field =>
        rw [hhead, Option.filter_some] at hmarker
        split at hmarker
        · cases hmarker
        · next hat => simpa using hat
    split at h
    · cases h
    next hlen =>
    split at h
    · cases h
    next key hkey =>
    obtain rfl := Option.some.inj h
    exact ⟨hunmarked, Nat.le_of_not_lt hlen, rfl, hkey⟩
  | some marker =>
    obtain ⟨hhead, hat⟩ := Option.filter_eq_some_iff.mp hmarker
    simp only [hmarker, Option.any_some, Option.isSome_some, ↓reduceIte] at h
    split at h
    · cases h
    -- the only marker that is read is that of a revoked key
    next hrevoked =>
    have hrevoked : marker = revokedMarker := by simpa using hrevoked
    split at h
    · cases h
    next hlen =>
    split at h
    · cases h
    next key hkey =>
    obtain rfl := Option.some.inj h
    have hmarked : decide (some marker = some revokedMarker) = true := by simp [hrevoked]
    refine ⟨?_, ?_, ?_, ?_⟩
    · rw [hhead, Option.any_some, hat, hmarked]
    · simp only [hmarked, ↓reduceIte]
      exact Nat.le_of_not_lt hlen
    · simp only [hmarked, ↓reduceIte]
    · simp only [hmarked, ↓reduceIte]
      exact hkey

theorem parseLine_some {line : List Char} {e : Entry Key} (h : parseLine F line = some e) :
    Reads F (words line) e := by
  rw [parseLine_eq] at h
  split at h
  · cases h
  · exact parseFields_some h

/-! ## Entries of a text -/

theorem entriesOf_eq (F : KeyFormat Key) (text : List Char) :
    entriesOf F text = (parts text).filterMap (parseLine F) :=
  filterMap_lines (parseLine F) parseLine_nil parseLine_stripReturn text

@[simp] theorem entriesOf_nil : entriesOf F [] = [] := by
  rw [entriesOf_eq, parts_nil, List.filterMap_cons, parseLine_nil]
  rfl

theorem entriesOf_append_feed (xs ys : List Char) :
    entriesOf F (xs ++ '\n' :: ys) = entriesOf F xs ++ entriesOf F ys := by
  rw [entriesOf_eq, entriesOf_eq, entriesOf_eq, parts_append_feed, List.filterMap_append]

/-- Joined lines read as the lines. -/
theorem entriesOf_join {ls : List (List Char)} (h : ∀ l ∈ ls, '\n' ∉ l) :
    entriesOf F (join ls) = ls.filterMap (parseLine F) := by
  cases ls with
  | nil => exact entriesOf_nil
  | cons l ls => rw [entriesOf_eq, parts_join h (List.cons_ne_nil l ls)]

theorem filterMap_filter_comm {α β : Type} {f : α → Option β} {p : α → Bool} {q : β → Bool}
    {ls : List α} (h : ∀ a ∈ ls, ∀ b, f a = some b → p a = q b) :
    (ls.filter p).filterMap f = (ls.filterMap f).filter q := by
  induction ls with
  | nil => rfl
  | cons a ls ih =>
    have hrest := ih fun a' ha' => h a' (List.mem_cons_of_mem a ha')
    cases hf : f a with
    | none =>
      rw [List.filterMap_cons_none hf, ← hrest]
      cases hp : p a with
      | true => rw [List.filter_cons_of_pos hp, List.filterMap_cons_none hf]
      | false => rw [List.filter_cons_of_neg (by simp [hp])]
    | some b =>
      have hpq := h a List.mem_cons_self b hf
      rw [List.filterMap_cons_some hf]
      cases hp : p a with
      | true =>
        rw [List.filter_cons_of_pos hp, List.filterMap_cons_some hf, hrest,
          List.filter_cons_of_pos (hpq ▸ hp)]
      | false =>
        rw [List.filter_cons_of_neg (by simp [hp]), hrest,
          List.filter_cons_of_neg (by simp [← hpq, hp])]

/-! ## What the edits keep -/

/-- The entries that an edit keeps. -/
def KnownHostsEdit.keeps (F : KeyFormat Key) : KnownHostsEdit Key → Entry Key → Bool
  | .append _ _ _, _ => true
  | .replace host port _, e => e.revoked || !hostPatternsMatch F e.hosts (hostCandidates host port)
  | .remove host port fingerprint, e =>
    !(hostPatternsMatch F e.hosts (hostCandidates host port) && F.fingerprint e.key = fingerprint)

/-- The text that an edit adds. -/
def KnownHostsEdit.addition (F : KeyFormat Key) : KnownHostsEdit Key → List Char
  | .append host port key | .replace host port key => confirmedLine F host port key
  | .remove _ _ _ => []

/-- The entries that the loader reads from it. -/
def KnownHostsEdit.written (F : KeyFormat Key) (edit : KnownHostsEdit Key) : List (Entry Key) :=
  entriesOf F (edit.addition F)

theorem replaceKeeps_eq {host : List Char} {port : Nat} {key : Key} {line : List Char}
    {e : Entry Key} (h : parseLine F line = some e) :
    replaceKeeps F host port line = (KnownHostsEdit.replace host port key).keeps F e := by
  obtain ⟨hmarker, hlen, hhosts, -⟩ := parseLine_some h
  unfold replaceKeeps KnownHostsEdit.keeps
  cases hwords : words line with
  | nil =>
    rw [hwords] at hlen
    simp at hlen
  | cons first fields =>
    rw [hwords] at hmarker hlen hhosts
    simp only [List.head?_cons, Option.any_some] at hmarker
    cases hrevoked : e.revoked with
    | true =>
      rw [hrevoked] at hmarker
      have hat : first.head? = some '@' := by simpa using hmarker
      simp [hat, hrevoked]
    | false =>
      rw [hrevoked] at hmarker hlen hhosts
      have hat : first.head? ≠ some '@' := by simpa using hmarker
      have hlen' : ¬((first :: fields).length < 3) := by
        simp only [Bool.false_eq_true, ↓reduceIte] at hlen
        omega
      have hfirst : first = e.hosts := by simpa using hhosts
      simp only [hat, decide_false, ↓reduceIte, Bool.false_or, Nat.zero_add,
        decide_eq_false hlen', List.getD_cons_zero]
      rw [hfirst, hrevoked, Bool.false_or]

theorem removeDrops_eq {host : List Char} {port : Nat} {fingerprint line : List Char}
    {e : Entry Key} (h : parseLine F line = some e) :
    (!removeDrops F host port fingerprint line) =
      (KnownHostsEdit.remove host port fingerprint).keeps F e := by
  obtain ⟨hmarker, hlen, hhosts, hkey⟩ := parseLine_some h
  unfold removeDrops KnownHostsEdit.keeps
  simp only [hmarker, hhosts, hkey, Option.any_some, decide_eq_true hlen, Bool.true_and]

/-- An edit drops the entries that it does not keep, and adds those of its line. -/
theorem entriesOf_apply (F : KeyFormat Key) (edit : KnownHostsEdit Key) (text : List Char) :
    entriesOf F (edit.apply F text) =
      (entriesOf F text).filter (edit.keeps F) ++ edit.written F := by
  have hfeed : ∀ p, ∀ l ∈ (lines text).filter p, '\n' ∉ l :=
    fun p l hl => mem_lines_no_feed (List.mem_of_mem_filter hl)
  cases edit with
  | append host port key =>
    have hall : (entriesOf F text).filter ((KnownHostsEdit.append host port key).keeps F) =
        entriesOf F text := List.filter_eq_self.mpr fun _ _ => rfl
    rw [hall]
    show entriesOf F (appendConfirmed F host port key text) =
      entriesOf F text ++ entriesOf F (confirmedLine F host port key)
    unfold appendConfirmed
    split
    · next hend =>
      -- without a line feed at the end one is put before the new line
      rcases hend with hempty | hlast
      · rw [hempty, entriesOf_nil]
        rfl
      · obtain ⟨front, rfl⟩ := List.getLast?_eq_some_iff.mp hlast
        show entriesOf F (front ++ ['\n'] ++ [] ++ confirmedLine F host port key) = _
        rw [entriesOf_append_feed, entriesOf_nil, List.append_nil, List.append_nil,
          List.append_assoc, List.singleton_append, entriesOf_append_feed]
    · show entriesOf F (text ++ ['\n'] ++ confirmedLine F host port key) = _
      rw [List.append_assoc, List.singleton_append, entriesOf_append_feed]
  | replace host port key =>
    -- dropping lines and then reading them is reading them and then dropping entries
    have hkept : ((lines text).filter (replaceKeeps F host port)).filterMap (parseLine F) =
        (entriesOf F text).filter ((KnownHostsEdit.replace host port key).keeps F) :=
      filterMap_filter_comm fun line _ e he => replaceKeeps_eq he
    rw [← hkept]
    show entriesOf F (replaceConfirmed F host port key text) =
      _ ++ entriesOf F (confirmedLine F host port key)
    unfold replaceConfirmed
    simp only
    split
    · next hnone => rw [hnone]; rfl
    · rw [List.append_assoc, List.singleton_append, entriesOf_append_feed,
        entriesOf_join (hfeed _)]
  | remove host port fingerprint =>
    have hkept : ((lines text).filter fun line =>
        !removeDrops F host port fingerprint line).filterMap (parseLine F) =
        (entriesOf F text).filter ((KnownHostsEdit.remove host port fingerprint).keeps F) :=
      filterMap_filter_comm fun line _ e he => removeDrops_eq he
    have hwritten : (KnownHostsEdit.remove host port fingerprint).written F = [] := entriesOf_nil
    rw [← hkept, hwritten, List.append_nil]
    show entriesOf F (removeKey F host port fingerprint text).1 = _
    unfold removeKey
    split
    · exact (entriesOf_append_feed _ _).trans (by
        rw [entriesOf_join (hfeed _), entriesOf_nil, List.append_nil])
    · next hnone =>
      have hself : (lines text).filter (fun line => !removeDrops F host port fingerprint line) =
          lines text := by
        refine List.filter_eq_self.mpr fun line hline => ?_
        have hkeep := List.any_eq_false.mp (Bool.not_eq_true _ ▸ hnone) line hline
        simpa using hkeep
      rw [hself]
      rfl

/-! ## Limits -/

theorem loadFromPath_isOk_iff (F : KeyFormat Key) (text : List Char) :
    (loadFromPath F text).isOk = true ↔
      byteSize text ≤ maxFileBytes ∧ (lines text).length ≤ maxLines := by
  unfold loadFromPath
  split
  · simp only [Except.isOk, Except.toBool, Bool.false_eq_true, false_iff]
    omega
  · split
    · simp only [Except.isOk, Except.toBool, Bool.false_eq_true, false_iff]
      omega
    · simp only [Except.isOk, Except.toBool, true_iff]
      omega

/-- The room that an edit needs, counted on the text before it. -/
def KnownHostsEdit.WithinLimits (F : KeyFormat Key) (edit : KnownHostsEdit Key)
    (text : List Char) : Prop :=
  let line := edit.addition F
  match edit with
  | .append _ _ _ =>
    byteSize text + (if text = [] ∨ text.getLast? = some '\n' then 0 else 1) + byteSize line ≤
        maxFileBytes ∧
      (lines text).length + (lines line).length ≤ maxLines
  | .replace host port _ =>
    let kept := (lines text).filter (replaceKeeps F host port)
    linesSize kept + byteSize line ≤ maxFileBytes ∧
      kept.length + (lines line).length ≤ maxLines
  | .remove _ _ _ => True

theorem append_within_iff (host : List Char) (port : Nat) (key : Key) (text : List Char) :
    (loadFromPath F (appendConfirmed F host port key text)).isOk = true ↔
      (KnownHostsEdit.append host port key).WithinLimits F text := by
  rw [loadFromPath_isOk_iff]
  show _ ↔ byteSize text + _ + byteSize (confirmedLine F host port key) ≤ maxFileBytes ∧
    (lines text).length + (lines (confirmedLine F host port key)).length ≤ maxLines
  by_cases hend : text = [] ∨ text.getLast? = some '\n'
  · have hline : appendConfirmed F host port key text = text ++ confirmedLine F host port key := by
      simp only [appendConfirmed, if_pos hend, List.append_nil]
    rw [hline, if_pos hend, byteSize_append, length_lines_append_of_end hend,
      Nat.add_zero]
  · have hline : appendConfirmed F host port key text =
        text ++ '\n' :: confirmedLine F host port key := by
      simp only [appendConfirmed, if_neg hend, List.append_assoc, List.singleton_append]
    have hfeed : Char.utf8Size '\n' = 1 := rfl
    rw [hline, if_neg hend, length_lines_append, ← length_lines_of_open hend, byteSize_append,
      byteSize_cons, hfeed, Nat.add_assoc]

theorem replace_within_iff (host : List Char) (port : Nat) (key : Key) (text : List Char) :
    (loadFromPath F (replaceConfirmed F host port key text)).isOk = true ↔
      (KnownHostsEdit.replace host port key).WithinLimits F text := by
  rw [loadFromPath_isOk_iff]
  unfold replaceConfirmed
  show _ ↔ linesSize ((lines text).filter (replaceKeeps F host port)) +
      byteSize (confirmedLine F host port key) ≤ maxFileBytes ∧
    ((lines text).filter (replaceKeeps F host port)).length +
      (lines (confirmedLine F host port key)).length ≤ maxLines
  have hfeed : ∀ l ∈ (lines text).filter (replaceKeeps F host port), '\n' ∉ l :=
    fun l hl => mem_lines_no_feed (List.mem_of_mem_filter hl)
  simp only
  by_cases hkept : (lines text).filter (replaceKeeps F host port) = []
  · rw [if_pos hkept, hkept]
    simp [linesSize]
  · rw [if_neg hkept, List.append_assoc, List.singleton_append, length_lines_append,
      parts_join hfeed hkept, byteSize_append]
    have hjoin := byteSize_join hkept
    have hsize : Char.utf8Size '\n' = 1 := rfl
    rw [byteSize_cons, hsize]
    omega

/-- A removal keeps the text within the limits. -/
theorem remove_within (host : List Char) (port : Nat) (fingerprint : List Char) {text : List Char}
    (h : (loadFromPath F text).isOk = true) :
    (loadFromPath F (removeKey F host port fingerprint text).1).isOk = true := by
  rw [loadFromPath_isOk_iff] at h ⊢
  unfold removeKey
  simp only
  split
  · next hany =>
    obtain ⟨line, hline, hdrops⟩ := List.any_eq_true.mp hany
    have hne : line ≠ [] := by
      rintro rfl
      simp [removeDrops] at hdrops
    -- a line that is dropped makes room for the line feed at the end
    have hsize := byteSize_join_filter_le
      (p := fun line => !removeDrops F host port fingerprint line) hline (by simp [hdrops]) hne
    have hfeed : ∀ l ∈ (lines text).filter (fun line => !removeDrops F host port fingerprint line),
        '\n' ∉ l := fun l hl => mem_lines_no_feed (List.mem_of_mem_filter hl)
    have hcount := List.length_filter_le
      (fun line => !removeDrops F host port fingerprint line) (lines text)
    have hpos := List.length_pos_of_mem hline
    refine ⟨Nat.le_trans hsize h.1, ?_⟩
    rw [length_lines_append]
    by_cases hkept : (lines text).filter
        (fun line => !removeDrops F host port fingerprint line) = []
    · rw [hkept]
      show 1 + 0 ≤ maxLines
      omega
    · rw [parts_join hfeed hkept]
      show _ + 0 ≤ maxLines
      omega
  · exact h

/-- The loader accepts the text after an edit exactly when the room was there. -/
theorem loadFromPath_apply_iff (edit : KnownHostsEdit Key) {text : List Char}
    (h : (loadFromPath F text).isOk = true) :
    (loadFromPath F (edit.apply F text)).isOk = true ↔ edit.WithinLimits F text := by
  cases edit with
  | append host port key => exact append_within_iff host port key text
  | replace host port key => exact replace_within_iff host port key text
  | remove host port fingerprint =>
    exact iff_of_true (remove_within host port fingerprint h) trivial

end AxSsh
