import Mathlib.Algebra.Ring.Nat
import Mathlib.Data.List.Basic

/-!
# Lines and words of a text

Texts as lists of characters, cut into lines and words the way Rust's `str` does it: a line ends
at a line feed, with or without a carriage return before it, and a word is a longest part without
white space.

A reader that goes through a text line by line and ignores the white space at the end of a line can
work on the parts between the line feeds instead, and those add up when texts do.

## Key results
- `TextLines.words_append_space`, `TextLines.words_trim`: words add up over white space
- `TextLines.filterMap_lines`: reading lines is reading the parts between line feeds
- `TextLines.parts_join_append`: the parts of lines that were joined are the lines
- `TextLines.lines_join`: lines that were joined are read back
- `TextLines.length_lines_append`: how many lines a text has after one is added
- `TextLines.lines_join_eq_unended`, `TextLines.no_feed_of_length_lines_join`: when joined lines are
  read back one by one
- `TextLines.byteSize_join_filter_le`: a text of some of its own lines is no longer
-/

namespace TextLines

/-- A check of every character of a fixed text, one by one. -/
theorem forall_mem_of_all {α : Type} {p : α → Prop} [DecidablePred p] {l : List α}
    (h : (l.all fun a => decide (p a)) = true) : ∀ a ∈ l, p a :=
  fun a ha => of_decide_eq_true (List.all_eq_true.mp h a ha)

/-- Where a text is cut at its last separator, both parts are determined. -/
theorem append_sep_inj {α : Type} {sep : α} {a b c d : List α} (h : a ++ sep :: b = c ++ sep :: d)
    (hb : sep ∉ b) (hd : sep ∉ d) : a = c ∧ b = d := by
  obtain ⟨e, rfl, he⟩ | ⟨e, rfl, he⟩ := List.append_eq_append_iff.mp h
  · cases e with
    | nil => exact ⟨(List.append_nil a).symm, (List.cons.inj he).2⟩
    | cons x e =>
      rw [(List.cons.inj he).2] at hb
      exact absurd (by simp) hb
  · cases e with
    | nil => exact ⟨List.append_nil c, (List.cons.inj he).2.symm⟩
    | cons x e =>
      rw [(List.cons.inj he).2] at hd
      exact absurd (by simp) hd

/-! ## Words -/

/-- `char::is_whitespace`: the characters with the Unicode property `White_Space`. -/
def isWhitespace (c : Char) : Bool :=
  let n := c.toNat
  (9 ≤ n && n ≤ 13) || n == 32 || n == 133 || n == 160 || n == 5760 || (8192 ≤ n && n ≤ 8202) ||
    n == 8232 || n == 8233 || n == 8239 || n == 8287 || n == 12288

/-- `str::split_whitespace`. -/
def words (text : List Char) : List (List Char) :=
  (text.splitOnP isWhitespace).filter (· ≠ [])

/-- `str::trim`. -/
def trim (text : List Char) : List Char :=
  ((text.dropWhile isWhitespace).reverse.dropWhile isWhitespace).reverse

@[simp] theorem words_nil : words [] = [] := by simp [words, List.splitOnP_nil]

/-- Everything about words follows from this equation. -/
theorem words_append_space {c : Char} (hc : isWhitespace c = true) (xs ys : List Char) :
    words (xs ++ c :: ys) = words xs ++ words ys := by
  rw [words, List.splitOnP_append_cons xs ys hc, List.filter_append]
  rfl

theorem words_cons_space {c : Char} (hc : isWhitespace c = true) (xs : List Char) :
    words (c :: xs) = words xs := by
  simpa using words_append_space hc [] xs

/-- A text without white space is one word. -/
theorem words_word {word : List Char} (hne : word ≠ []) (h : ∀ c ∈ word, isWhitespace c = false) :
    words word = [word] := by
  rw [words, List.splitOnP_eq_singleton h]
  simp [hne]

theorem words_dropWhile (text : List Char) : words (text.dropWhile isWhitespace) = words text := by
  induction text with
  | nil => rfl
  | cons c text ih =>
    cases hc : isWhitespace c with
    | true => rw [List.dropWhile_cons_of_pos hc, ih, words_cons_space hc]
    | false => rw [List.dropWhile_cons_of_neg (by simp [hc])]

/-- White space at the end makes no words. -/
theorem words_append_spaces {spaces : List Char} (h : ∀ c ∈ spaces, isWhitespace c = true)
    (xs : List Char) : words (xs ++ spaces) = words xs := by
  induction spaces generalizing xs with
  | nil => rw [List.append_nil]
  | cons c spaces ih =>
    rw [words_append_space (h c List.mem_cons_self)]
    have hrest := ih (fun d hd => h d (List.mem_cons_of_mem c hd)) []
    rw [List.nil_append, words_nil] at hrest
    rw [hrest, List.append_nil]

theorem words_trimEnd (text : List Char) :
    words (text.reverse.dropWhile isWhitespace).reverse = words text := by
  have hsplit : (text.reverse.dropWhile isWhitespace).reverse ++
      (text.reverse.takeWhile isWhitespace).reverse = text := by
    rw [← List.reverse_append, List.takeWhile_append_dropWhile, List.reverse_reverse]
  have hspaces : ∀ c ∈ (text.reverse.takeWhile isWhitespace).reverse, isWhitespace c = true :=
    fun c hc =>
      List.all_eq_true.mp List.all_takeWhile c (List.mem_reverse.mp hc)
  rw [← words_append_spaces hspaces (text.reverse.dropWhile isWhitespace).reverse, hsplit]

theorem words_trim (text : List Char) : words (trim text) = words text := by
  rw [trim, words_trimEnd, words_dropWhile]

/-- The first character of a trimmed text is the first one of its first word. -/
theorem head?_trim (text : List Char) : (trim text).head? = (words text).head?.bind List.head? := by
  rw [← words_trim]
  cases htrim : trim text with
  | nil => rfl
  | cons c rest =>
    have hc : isWhitespace c = false := by
      -- the trimmed text is a prefix of one that does not begin with white space
      by_contra hspace
      have hprefix : trim text <+: text.dropWhile isWhitespace := by
        refine ⟨((text.dropWhile isWhitespace).reverse.takeWhile isWhitespace).reverse, ?_⟩
        rw [trim, ← List.reverse_append, List.takeWhile_append_dropWhile, List.reverse_reverse]
      obtain ⟨tail, htail⟩ := hprefix
      have hhead := List.head?_dropWhile_not isWhitespace text
      rw [← htail, htrim] at hhead
      exact hspace hhead
    obtain ⟨part, parts, hparts⟩ :=
      List.exists_cons_of_ne_nil (List.splitOnP_ne_nil isWhitespace rest)
    rw [words, List.splitOnP_cons_eq_if_modifyHead, hc, hparts]
    simp

/-! ## Lines -/

/-- The parts of a text between its line feeds. -/
def parts (text : List Char) : List (List Char) := text.splitOn '\n'

/-- A terminated line without its carriage return. -/
def stripReturn (line : List Char) : List Char :=
  if line.getLast? = some '\r' then line.dropLast else line

/-- `str::lines`. -/
def lines (text : List Char) : List (List Char) :=
  (parts text).dropLast.map stripReturn ++
    if (parts text).getLastD [] = [] then [] else [(parts text).getLastD []]

/-- `lines.join("\n")`. -/
def join (ls : List (List Char)) : List Char := ['\n'].intercalate ls

theorem parts_ne_nil (text : List Char) : parts text ≠ [] := List.splitOn_ne_nil '\n' text

@[simp] theorem parts_nil : parts [] = [[]] := rfl

theorem parts_append_feed (xs ys : List Char) :
    parts (xs ++ '\n' :: ys) = parts xs ++ parts ys :=
  List.splitOn_append_cons_self xs ys

theorem parts_dropLast_append (text : List Char) :
    (parts text).dropLast ++ [(parts text).getLastD []] = parts text := by
  rw [List.getLastD_eq_getLast?, List.getLast?_eq_some_getLast (parts_ne_nil text)]
  exact List.dropLast_append_getLast (parts_ne_nil text)

theorem stripReturn_cases (line : List Char) :
    stripReturn line = line ∨ line = stripReturn line ++ ['\r'] := by
  unfold stripReturn
  split
  · next h =>
    obtain ⟨front, hfront⟩ := List.getLast?_eq_some_iff.mp h
    rw [hfront, List.dropLast_concat]
    exact .inr rfl
  · exact .inl rfl

theorem words_stripReturn (line : List Char) : words (stripReturn line) = words line := by
  obtain h | h := stripReturn_cases line
  · rw [h]
  · conv_rhs => rw [h]
    rw [words_append_space (by decide), words_nil, List.append_nil]

/-- A reader that depends on the words of a line reads the parts between the line feeds. -/
theorem filterMap_lines {α : Type} (f : List Char → Option α) (hempty : f [] = none)
    (hstrip : ∀ line, f (stripReturn line) = f line) (text : List Char) :
    (lines text).filterMap f = (parts text).filterMap f := by
  rw [← parts_dropLast_append text]
  unfold lines
  rw [List.filterMap_append, List.filterMap_append, List.filterMap_map,
    show f ∘ stripReturn = f from funext hstrip]
  congr 1
  split
  · next h => rw [h, List.filterMap_cons, hempty]
  · rfl

theorem length_lines (text : List Char) :
    (lines text).length = (parts text).length - if (parts text).getLastD [] = [] then 1 else 0 := by
  have hlen := congrArg List.length (parts_dropLast_append text)
  rw [List.length_append, List.length_singleton] at hlen
  unfold lines
  rw [List.length_append, List.length_map]
  split
  · simp only [List.length_nil]
    omega
  · simp only [List.length_singleton]
    omega

theorem getLastD_append {α : Type} (xs : List α) {ys : List α} (h : ys ≠ []) (d : α) :
    (xs ++ ys).getLastD d = ys.getLastD d := by
  rw [List.getLastD_eq_getLast?, List.getLastD_eq_getLast?, List.getLast?_append_of_ne_nil xs h]

/-- What follows a line feed begins a line. -/
theorem length_lines_append (xs ys : List Char) :
    (lines (xs ++ '\n' :: ys)).length = (parts xs).length + (lines ys).length := by
  have hpos := List.length_pos_of_ne_nil (parts_ne_nil ys)
  rw [length_lines, length_lines, parts_append_feed, getLastD_append _ (parts_ne_nil ys),
    List.length_append]
  split <;> omega

/-! ## Joined lines -/

theorem mem_parts_no_feed {text part : List Char} (h : part ∈ parts text) : '\n' ∉ part := by
  intro hfeed
  induction text generalizing part with
  | nil =>
    rw [parts_nil, List.mem_singleton] at h
    rw [h] at hfeed
    cases hfeed
  | cons c text ih =>
    unfold parts at h ih
    rw [List.splitOn_cons_eq_if_modifyHead] at h
    obtain ⟨first, rest, hrest⟩ := List.exists_cons_of_ne_nil (parts_ne_nil text)
    unfold parts at hrest
    split at h
    · rcases List.mem_cons.mp h with rfl | hmem
      · cases hfeed
      · exact ih hmem hfeed
    · next hc =>
      rw [hrest, List.modifyHead_cons] at h
      rcases List.mem_cons.mp h with rfl | hmem
      · rcases List.mem_cons.mp hfeed with hcf | hmem'
        · exact hc (by simp [← hcf])
        · exact ih (hrest ▸ List.mem_cons_self) hmem'
      · exact ih (hrest ▸ List.mem_cons_of_mem first hmem) hfeed

theorem mem_stripReturn {line : List Char} {c : Char} (h : c ∈ stripReturn line) : c ∈ line := by
  obtain heq | heq := stripReturn_cases line
  · rwa [heq] at h
  · rw [heq]
    exact List.mem_append_left _ h

theorem mem_lines_no_feed {text line : List Char} (h : line ∈ lines text) : '\n' ∉ line := by
  rcases List.mem_append.mp h with hmem | hmem
  · obtain ⟨part, hpart, rfl⟩ := List.mem_map.mp hmem
    exact fun hfeed =>
      mem_parts_no_feed (List.dropLast_subset _ hpart) (mem_stripReturn hfeed)
  · split at hmem
    · cases hmem
    · obtain rfl := List.mem_singleton.mp hmem
      have hlast := List.mem_append_right (parts text).dropLast
        (List.mem_singleton_self ((parts text).getLastD []))
      rw [parts_dropLast_append] at hlast
      exact mem_parts_no_feed hlast

theorem parts_join {ls : List (List Char)} (h : ∀ l ∈ ls, '\n' ∉ l) (hne : ls ≠ []) :
    parts (join ls) = ls := List.splitOn_intercalate '\n' h hne

theorem join_append_singleton (init : List (List Char)) (last : List Char) (h : init ≠ []) :
    join (init ++ [last]) = join init ++ '\n' :: last := by
  induction init with
  | nil => exact absurd rfl h
  | cons l init ih =>
    cases init with
    | nil => simp [join]
    | cons l' init =>
      have hrest := ih (List.cons_ne_nil l' init)
      simp only [join, List.cons_append, List.intercalate_cons_cons] at hrest ⊢
      rw [hrest]
      simp

/-- What cuts at line feeds cuts joined lines each on its own. -/
theorem splitOnP_join {p : Char → Bool} (hp : p '\n' = true) {ls : List (List Char)}
    (hne : ls ≠ []) : (join ls).splitOnP p = ls.flatMap fun l => l.splitOnP p := by
  induction ls with
  | nil => exact absurd rfl hne
  | cons l ls ih =>
    cases ls with
    | nil => simp [join]
    | cons l' ls =>
      have hjoin : join (l :: l' :: ls) = l ++ '\n' :: join (l' :: ls) := by
        simp [join, List.intercalate_cons_cons]
      rw [hjoin, List.splitOnP_append_cons _ _ hp, ih (List.cons_ne_nil l' ls)]
      rfl

theorem lines_append_feed (xs ys : List Char) :
    lines (xs ++ '\n' :: ys) = (parts xs).map stripReturn ++ lines ys := by
  unfold lines
  rw [parts_append_feed, List.dropLast_append_of_ne_nil (parts_ne_nil ys), List.map_append,
    getLastD_append _ (parts_ne_nil ys), List.append_assoc]

theorem lines_join_concat (init : List (List Char)) (last : List Char) :
    lines (join (init ++ [last])) = (init.flatMap parts).map stripReturn ++ lines last := by
  by_cases hinit : init = []
  · rw [hinit]
    simp [join]
  · have hparts : parts (join init) = init.flatMap parts := splitOnP_join (by decide) hinit
    rw [join_append_singleton init last hinit, lines_append_feed, hparts]

/-- A text ends its last line when it is empty or ends with a line feed. -/
theorem getLastD_parts_iff (text : List Char) :
    (parts text).getLastD [] = [] ↔ text = [] ∨ text.getLast? = some '\n' := by
  have hparts := parts_dropLast_append text
  have htext : join (parts text) = text := List.intercalate_splitOn '\n'
  constructor
  · intro hlast
    rw [hlast] at hparts
    rw [← htext, ← hparts]
    by_cases hinit : (parts text).dropLast = []
    · rw [hinit]
      exact .inl rfl
    · rw [join_append_singleton _ _ hinit, List.getLast?_concat]
      exact .inr rfl
  · rintro (rfl | hend)
    · rfl
    · obtain ⟨front, rfl⟩ := List.getLast?_eq_some_iff.mp hend
      rw [parts_append_feed, getLastD_append _ (parts_ne_nil [])]
      rfl

theorem lines_nil : lines [] = [] := rfl

/-- After a text that ends its last line, another text begins a line. -/
theorem length_lines_append_of_end {xs : List Char} (h : xs = [] ∨ xs.getLast? = some '\n')
    (ys : List Char) : (lines (xs ++ ys)).length = (lines xs).length + (lines ys).length := by
  rcases h with rfl | hend
  · simp [lines_nil]
  · obtain ⟨front, rfl⟩ := List.getLast?_eq_some_iff.mp hend
    rw [List.append_assoc, List.singleton_append, length_lines_append, length_lines_append,
      lines_nil, List.length_nil, Nat.add_zero]

theorem length_lines_of_open {text : List Char} (h : ¬(text = [] ∨ text.getLast? = some '\n')) :
    (lines text).length = (parts text).length := by
  rw [length_lines, if_neg (mt (getLastD_parts_iff text).mp h), Nat.sub_zero]

/-- Lines that were joined are read back: none is cut, and the last one is there. -/
theorem lines_join {ls : List (List Char)} (hfeed : ∀ l ∈ ls, '\n' ∉ l)
    (hreturn : ∀ l ∈ ls, '\r' ∉ l) (hne : ∀ l ∈ ls, l ≠ []) : lines (join ls) = ls := by
  by_cases hnil : ls = []
  · rw [hnil]
    rfl
  have hstrip : ls.dropLast.map stripReturn = ls.dropLast := by
    refine (List.map_congr_left fun l hl => ?_).trans (List.map_id' _)
    unfold stripReturn
    refine if_neg fun hlast => hreturn l (List.dropLast_subset _ hl) ?_
    exact List.mem_of_getLast? hlast
  have hlast := hne _ (List.getLast_mem hnil)
  unfold lines
  rw [parts_join hfeed hnil, hstrip, List.getLastD_eq_getLast?, List.getLast?_eq_some_getLast hnil,
    Option.getD_some, if_neg hlast]
  exact List.dropLast_append_getLast hnil

/-! ## How many lines are read back -/

/-- A text that is one line, without its end. -/
def unended (text : List Char) : List Char :=
  if text.getLast? = some '\n' then stripReturn text.dropLast else text

theorem unended_concat_feed (line : List Char) : unended (line ++ ['\n']) = stripReturn line := by
  rw [unended, if_pos List.getLast?_concat, List.dropLast_concat]

theorem parts_of_no_feed {text : List Char} (h : '\n' ∉ text) : parts text = [text] := by
  have hjoin : join [text] = text := by simp [join]
  have hparts := parts_join (by simpa using h) (List.cons_ne_nil text [])
  rwa [hjoin] at hparts

theorem two_le_length_parts {text : List Char} (h : '\n' ∈ text) : 2 ≤ (parts text).length := by
  obtain ⟨before, after, rfl⟩ := List.append_of_mem h
  have hbefore := List.length_pos_of_ne_nil (parts_ne_nil before)
  have hafter := List.length_pos_of_ne_nil (parts_ne_nil after)
  rw [parts_append_feed, List.length_append]
  omega

theorem length_le_flatMap_parts (ls : List (List Char)) : ls.length ≤ (ls.flatMap parts).length := by
  induction ls with
  | nil => exact Nat.zero_le _
  | cons l ls ih =>
    have hpos := List.length_pos_of_ne_nil (parts_ne_nil l)
    rw [List.flatMap_cons, List.length_append, List.length_cons]
    omega

theorem no_feed_of_length_flatMap_parts {ls : List (List Char)}
    (h : (ls.flatMap parts).length ≤ ls.length) : ∀ l ∈ ls, '\n' ∉ l := by
  induction ls with
  | nil => exact nofun
  | cons l ls ih =>
    have hpos := List.length_pos_of_ne_nil (parts_ne_nil l)
    have hrest := length_le_flatMap_parts ls
    rw [List.flatMap_cons, List.length_append, List.length_cons] at h
    have hl : '\n' ∉ l := fun hfeed => by
      have htwo := two_le_length_parts hfeed
      omega
    exact List.forall_mem_cons.mpr ⟨hl, ih (by omega)⟩

/-- A text that is one line with or without its end. -/
theorem lines_eq_unended {text : List Char} (hne : text ≠ []) (h : '\n' ∉ unended text) :
    lines text = [unended text] := by
  by_cases hend : text.getLast? = some '\n'
  · obtain ⟨line, rfl⟩ := List.getLast?_eq_some_iff.mp hend
    rw [unended_concat_feed] at h ⊢
    have hline : '\n' ∉ line := fun hfeed => by
      obtain heq | heq := stripReturn_cases line
      · rw [← heq] at hfeed
        exact h hfeed
      · rw [heq] at hfeed
        exact h ((List.mem_append.mp hfeed).resolve_right (by decide))
    rw [lines_append_feed, parts_of_no_feed hline, lines_nil]
    rfl
  · rw [unended, if_neg hend] at h ⊢
    rw [lines, parts_of_no_feed h]
    simp [hne]

theorem no_feed_of_length_lines {text : List Char} (h : (lines text).length ≤ 1) :
    '\n' ∉ unended text := by
  by_cases hend : text.getLast? = some '\n'
  · obtain ⟨line, rfl⟩ := List.getLast?_eq_some_iff.mp hend
    rw [lines_append_feed, List.length_append, List.length_map] at h
    rw [unended_concat_feed]
    intro hfeed
    have htwo := two_le_length_parts (mem_stripReturn hfeed)
    omega
  · rw [unended, if_neg hend]
    intro hfeed
    have htwo := two_le_length_parts hfeed
    have hopen : ¬(text = [] ∨ text.getLast? = some '\n') :=
      not_or.mpr ⟨fun hnil => by simp [hnil] at hfeed, hend⟩
    rw [length_lines_of_open hopen] at h
    omega

/-- Joined lines are read back as they are, but for the line ends that belong to them. -/
theorem lines_join_eq_unended {init : List (List Char)} {last : List Char} (hne : last ≠ [])
    (hinit : ∀ l ∈ init, '\n' ∉ l) (hlast : '\n' ∉ unended last) :
    lines (join (init ++ [last])) = init.map stripReturn ++ [unended last] := by
  have hparts : init.flatMap parts = init := by
    rw [List.flatMap_congr fun l hl => parts_of_no_feed (hinit l hl)]
    exact List.flatMap_singleton' init
  rw [lines_join_concat, hparts, lines_eq_unended hne hlast]

/-- Where as many lines are read back as were joined, none was cut. -/
theorem no_feed_of_length_lines_join {init : List (List Char)} {last : List Char} (hne : last ≠ [])
    (h : (lines (join (init ++ [last]))).length = init.length + 1) :
    (∀ l ∈ init, '\n' ∉ l) ∧ '\n' ∉ unended last := by
  rw [lines_join_concat, List.length_append, List.length_map] at h
  have hinit := length_le_flatMap_parts init
  have hlast : 0 < (lines last).length := by
    by_contra hzero
    -- a text that is not empty has a line
    have hone := (no_feed_of_length_lines (by omega) : '\n' ∉ unended last)
    rw [lines_eq_unended hne hone] at hzero
    exact hzero Nat.one_pos
  exact ⟨no_feed_of_length_flatMap_parts (by omega), no_feed_of_length_lines (by omega)⟩

/-! ## Lengths -/

/-- The length of lines that are each ended by a line feed. -/
def linesLength (ls : List (List Char)) : Nat := (ls.map fun l => l.length + 1).sum

theorem length_join {ls : List (List Char)} (h : ls ≠ []) :
    (join ls).length + 1 = linesLength ls := by
  induction ls with
  | nil => exact absurd rfl h
  | cons l ls ih =>
    cases ls with
    | nil => simp [join, linesLength]
    | cons l' ls =>
      have hrest := ih (List.cons_ne_nil l' ls)
      have hjoin : join (l :: l' :: ls) = l ++ '\n' :: join (l' :: ls) := by
        simp [join, List.intercalate, List.intersperse]
      rw [hjoin, List.length_append, List.length_cons]
      show l.length + ((join (l' :: ls)).length + 1) + 1 = l.length + 1 + linesLength (l' :: ls)
      omega

theorem length_stripReturn_le (line : List Char) : (stripReturn line).length ≤ line.length := by
  unfold stripReturn
  split
  · rw [List.length_dropLast]
    omega
  · exact Nat.le_refl _

theorem linesLength_map_stripReturn_le (ls : List (List Char)) :
    linesLength (ls.map stripReturn) ≤ linesLength ls := by
  induction ls with
  | nil => exact Nat.le_refl 0
  | cons l ls ih =>
    have hl := length_stripReturn_le l
    show (stripReturn l).length + 1 + linesLength (ls.map stripReturn) ≤
      l.length + 1 + linesLength ls
    omega

/-- The lines of a text are no longer than the text, but for the end of the last one. -/
theorem linesLength_lines_le (text : List Char) : linesLength (lines text) ≤ text.length + 1 := by
  have htext : text.length + 1 = linesLength (parts text) := by
    rw [← length_join (parts_ne_nil text), join, parts, List.intercalate_splitOn]
  have hsplit (ls ls' : List (List Char)) :
      linesLength (ls ++ ls') = linesLength ls + linesLength ls' := by
    simp [linesLength]
  have hfront := linesLength_map_stripReturn_le (parts text).dropLast
  rw [htext, ← parts_dropLast_append text, lines, hsplit, hsplit]
  split
  · show linesLength ((parts text).dropLast.map stripReturn) + 0 ≤ _
    omega
  · omega

/-! ## Sizes -/

/-- The length of the UTF-8 encoding. -/
def byteSize (text : List Char) : Nat := (text.map Char.utf8Size).sum

@[simp] theorem byteSize_nil : byteSize [] = 0 := rfl

@[simp] theorem byteSize_append (xs ys : List Char) :
    byteSize (xs ++ ys) = byteSize xs + byteSize ys := by
  simp [byteSize]

@[simp] theorem byteSize_cons (c : Char) (xs : List Char) :
    byteSize (c :: xs) = c.utf8Size + byteSize xs := by
  simp [byteSize]

theorem byteSize_pos {text : List Char} (h : text ≠ []) : 0 < byteSize text := by
  obtain ⟨c, rest, rfl⟩ := List.exists_cons_of_ne_nil h
  have hc := Char.utf8Size_pos c
  rw [byteSize_cons]
  omega

/-- The size of lines that are each ended by a line feed. -/
def linesSize (ls : List (List Char)) : Nat := (ls.map fun l => byteSize l + 1).sum

theorem byteSize_join {ls : List (List Char)} (h : ls ≠ []) :
    byteSize (join ls) + 1 = linesSize ls := by
  induction ls with
  | nil => exact absurd rfl h
  | cons l ls ih =>
    cases ls with
    | nil => simp [join, linesSize]
    | cons l' ls =>
      have hrest := ih (List.cons_ne_nil l' ls)
      have hjoin : join (l :: l' :: ls) = l ++ '\n' :: join (l' :: ls) := by
        simp [join, List.intercalate, List.intersperse]
      have hfeed : Char.utf8Size '\n' = 1 := rfl
      rw [hjoin, byteSize_append, byteSize_cons, hfeed]
      show byteSize l + (1 + byteSize (join (l' :: ls))) + 1 = byteSize l + 1 + linesSize (l' :: ls)
      omega

theorem byteSize_stripReturn_le (line : List Char) : byteSize (stripReturn line) ≤ byteSize line := by
  obtain h | h := stripReturn_cases line
  · exact Nat.le_of_eq (congrArg byteSize h)
  · have hsize := congrArg byteSize h
    rw [byteSize_append] at hsize
    omega

theorem linesSize_append (ls ls' : List (List Char)) :
    linesSize (ls ++ ls') = linesSize ls + linesSize ls' := by
  simp [linesSize]

theorem linesSize_map_stripReturn_le (ls : List (List Char)) :
    linesSize (ls.map stripReturn) ≤ linesSize ls := by
  induction ls with
  | nil => exact Nat.le_refl 0
  | cons l ls ih =>
    have hl := byteSize_stripReturn_le l
    show byteSize (stripReturn l) + 1 + linesSize (ls.map stripReturn) ≤
      byteSize l + 1 + linesSize ls
    omega

/-- The lines of a text are no longer than the text, but for the end of the last one. -/
theorem linesSize_lines_le (text : List Char) : linesSize (lines text) ≤ byteSize text + 1 := by
  have htext : byteSize text + 1 = linesSize (parts text) := by
    rw [← byteSize_join (parts_ne_nil text), join, parts, List.intercalate_splitOn]
  rw [htext, ← parts_dropLast_append text, lines, linesSize_append, linesSize_append]
  have hfront := linesSize_map_stripReturn_le (parts text).dropLast
  split
  · simp only [linesSize, List.map_nil, List.sum_nil] at hfront ⊢
    omega
  · omega

theorem linesSize_filter_le (p : List Char → Bool) (ls : List (List Char)) :
    linesSize (ls.filter p) ≤ linesSize ls := by
  induction ls with
  | nil => exact Nat.le_refl 0
  | cons l ls ih =>
    cases hp : p l with
    | true =>
      rw [List.filter_cons_of_pos hp]
      show byteSize l + 1 + linesSize (ls.filter p) ≤ byteSize l + 1 + linesSize ls
      omega
    | false =>
      rw [List.filter_cons_of_neg (by simp [hp])]
      show linesSize (ls.filter p) ≤ byteSize l + 1 + linesSize ls
      omega

/-- Dropping a line that is not empty saves at least two bytes. -/
theorem linesSize_filter_add_two_le {p : List Char → Bool} {ls : List (List Char)} {l : List Char}
    (hl : l ∈ ls) (hp : p l = false) (hne : l ≠ []) :
    linesSize (ls.filter p) + 2 ≤ linesSize ls := by
  induction ls with
  | nil => cases hl
  | cons l' ls ih =>
    have hrest := linesSize_filter_le p ls
    rcases List.mem_cons.mp hl with rfl | hmem
    · have hpos := byteSize_pos hne
      rw [List.filter_cons_of_neg (by simp [hp])]
      show linesSize (ls.filter p) + 2 ≤ byteSize l + 1 + linesSize ls
      omega
    · have hrec := ih hmem
      cases hp' : p l' with
      | true =>
        rw [List.filter_cons_of_pos hp']
        show byteSize l' + 1 + linesSize (ls.filter p) + 2 ≤ byteSize l' + 1 + linesSize ls
        omega
      | false =>
        rw [List.filter_cons_of_neg (by simp [hp'])]
        show linesSize (ls.filter p) + 2 ≤ byteSize l' + 1 + linesSize ls
        omega

/-- A text of some of its own lines is no longer than the text. -/
theorem byteSize_join_filter_le {p : List Char → Bool} {text l : List Char}
    (hl : l ∈ lines text) (hp : p l = false) (hne : l ≠ []) :
    byteSize (join ((lines text).filter p) ++ ['\n']) ≤ byteSize text := by
  have hsaved := linesSize_filter_add_two_le hl hp hne
  have htext := linesSize_lines_le text
  have hfeed : byteSize ['\n'] = 1 := rfl
  rw [byteSize_append, hfeed]
  by_cases hkept : (lines text).filter p = []
  · rw [hkept] at hsaved ⊢
    show 0 + 1 ≤ byteSize text
    omega
  · rw [byteSize_join hkept]
    omega

end TextLines
