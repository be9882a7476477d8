import AxSsh.Native.TerminalTargets
import AxSsh.Spec.UploadTargets
import Mathlib.Data.List.DropRight
import Mathlib.Tactic.Common

/-!
# Trimming of terminal targets

What trimming does to a candidate that goes on.  A path token holds no opening bracket, so every
closing one at its end goes; in a URL the bracket scan has stopped before the first closing bracket
that nothing opened, so only sentence punctuation goes.

## Key results
- `trimUrlCandidate_append_iff`: when a URL that goes on is trimmed to the same text
- `length_le_trimUrlCandidate`: a URL that starts earlier is not trimmed to a shorter text
- `trimLocationSuffix_eq_iff`: what a location suffix is
- `trimPath_append_iff`: when a path that goes on is trimmed to the same text
-/

namespace AxSsh

/-! ## Removal at the end -/

section RDropWhile

variable {α : Type} {p : α → Bool}

theorem rdropWhile_append_of_all {l t : List α} (h : ∀ a ∈ t, p a) :
    (l ++ t).rdropWhile p = l.rdropWhile p := by
  have hall : ∀ a ∈ t.reverse, p a = true := fun a ha => h a (List.mem_reverse.mp ha)
  rw [List.rdropWhile, List.reverse_append, List.dropWhile_append_of_pos hall, List.rdropWhile]

theorem rdropWhile_append_of_exists {l t : List α} (h : ∃ a ∈ t, p a = false) :
    (l ++ t).rdropWhile p = l ++ t.rdropWhile p := by
  induction t using List.reverseRecOn with
  | nil =>
    obtain ⟨a, ha, -⟩ := h
    cases ha
  | append_singleton t b ih =>
    rw [← List.append_assoc]
    by_cases hb : p b = true
    · rw [List.rdropWhile_concat_pos _ _ _ hb, List.rdropWhile_concat_pos _ _ _ hb]
      obtain ⟨a, ha, hpa⟩ := h
      obtain ha | ha := List.mem_append.mp ha
      · exact ih ⟨a, ha, hpa⟩
      · rw [List.mem_singleton.mp ha, hb] at hpa
        cases hpa
    · rw [List.rdropWhile_concat_neg _ _ _ hb, List.rdropWhile_concat_neg _ _ _ hb,
        List.append_assoc]

/-- Removal stops at an element that stays. -/
theorem length_lt_rdropWhile {l y : List α} {a : α} (h : y ++ [a] <+: l) (ha : p a = false) :
    y.length < (l.rdropWhile p).length := by
  obtain ⟨t, rfl⟩ := h
  rw [List.append_assoc, rdropWhile_append_of_exists ⟨a, by simp, ha⟩]
  have hne : ([a] ++ t).rdropWhile p ≠ [] := by
    intro hnil
    have hall := (List.rdropWhile_eq_nil_iff ..).mp hnil a (by simp)
    rw [ha] at hall
    cases hall
  have hpos := List.length_pos_iff.mpr hne
  rw [List.length_append]
  omega

theorem rdropWhile_append_eq_iff {l t : List α} :
    (l ++ t).rdropWhile p = l.rdropWhile p ↔ ∀ a ∈ t, p a := by
  refine ⟨fun heq a ha => ?_, rdropWhile_append_of_all⟩
  by_contra hpa
  have hfalse : p a = false := by simpa using hpa
  obtain ⟨t₁, t₂, rfl⟩ := List.append_of_mem ha
  have hpre : (l ++ t₁) ++ [a] <+: l ++ (t₁ ++ a :: t₂) := ⟨t₂, by simp⟩
  have hlong := length_lt_rdropWhile hpre hfalse
  have hshort : (l.rdropWhile p).length ≤ l.length :=
    List.IsPrefix.length_le <| List.rdropWhile_prefix p l
  rw [heq] at hlong
  rw [List.length_append] at hlong
  omega

end RDropWhile

/-! ## Brackets -/

section Brackets

variable {c opening closing : Char} {text rest y : List Char}
  {parentheses brackets parentheses' brackets' : Nat}

theorem countOpen_mono {count count' : Nat} (h : count ≤ count') :
    countOpen opening closing c count ≤ countOpen opening closing c count' := by
  unfold countOpen
  split
  · omega
  · split <;> omega

theorem isPrefix_balancedPrefix : balancedPrefix text parentheses brackets <+: text := by
  induction text generalizing parentheses brackets with
  | nil => exact List.prefix_rfl
  | cons c text ih =>
    rw [balancedPrefix]
    split
    · exact List.nil_prefix
    · exact (List.prefix_cons_inj c).mpr ih

/-- Brackets that are open already only let the scan go on. -/
theorem balancedPrefix_mono (hp : parentheses ≤ parentheses') (hb : brackets ≤ brackets') :
    balancedPrefix text parentheses brackets <+: balancedPrefix text parentheses' brackets' := by
  induction text generalizing parentheses brackets parentheses' brackets' with
  | nil => exact List.prefix_rfl
  | cons c text ih =>
    rw [balancedPrefix, balancedPrefix]
    split
    · exact List.nil_prefix
    · next hgo =>
      have hgo' : ¬((c = ')' ∧ parentheses' = 0) ∨ (c = ']' ∧ brackets' = 0)) := by
        rintro (⟨hc, hzero⟩ | ⟨hc, hzero⟩)
        · exact hgo (Or.inl ⟨hc, by omega⟩)
        · exact hgo (Or.inr ⟨hc, by omega⟩)
      rw [if_neg hgo']
      exact (List.prefix_cons_inj c).mpr (ih (countOpen_mono hp) (countOpen_mono hb))

/-- The scan stops in the first part of a text, or goes on in the second with what is open. -/
theorem balancedPrefix_append (text rest : List Char) (parentheses brackets : Nat) :
    (balancedPrefix (text ++ rest) parentheses brackets =
        balancedPrefix text parentheses brackets ∧
      (balancedPrefix text parentheses brackets).length < text.length) ∨
    balancedPrefix text parentheses brackets = text ∧ ∃ p b,
      balancedPrefix (text ++ rest) parentheses brackets = text ++ balancedPrefix rest p b := by
  induction text generalizing parentheses brackets with
  | nil => exact Or.inr ⟨rfl, parentheses, brackets, rfl⟩
  | cons c text ih =>
    rw [List.cons_append, balancedPrefix, balancedPrefix]
    split
    · exact Or.inl ⟨rfl, Nat.succ_pos _⟩
    · obtain ⟨heq, hlt⟩ | ⟨heq, p, b, hrest⟩ := ih _ _
      · exact Or.inl ⟨congrArg _ heq, Nat.succ_lt_succ hlt⟩
      · exact Or.inr ⟨congrArg _ heq, p, b, congrArg _ hrest⟩

theorem count_le_of_isPrefix_balancedPrefix (h : y <+: balancedPrefix text parentheses brackets) :
    y.count ')' ≤ parentheses + y.count '(' ∧ y.count ']' ≤ brackets + y.count '[' := by
  induction text generalizing parentheses brackets y with
  | nil =>
    rw [List.prefix_nil.mp h]
    simp
  | cons c text ih =>
    rw [balancedPrefix] at h
    cases y with
    | nil => simp
    | cons d y =>
      split at h
      · exact absurd (List.prefix_nil.mp h) nofun
      · next hgo =>
        obtain ⟨rfl, hy⟩ := List.cons_prefix_cons.mp h
        obtain ⟨hpar, hbra⟩ := ih hy
        simp only [List.count_cons, beq_iff_eq]
        unfold countOpen at hpar hbra
        -- one more opening or closing character shifts the balance by one
        constructor
        · by_cases ho : d = '('
          · subst ho
            simp_all
            omega
          · by_cases hc : d = ')'
            · subst hc
              simp_all
              omega
            · simp_all
        · by_cases ho : d = '['
          · subst ho
            simp_all
            omega
          · by_cases hc : d = ']'
            · subst hc
              simp_all
              omega
            · simp_all

end Brackets

/-! ## Punctuation -/

/-- What `trim_terminal_punctuation` removes where every closing bracket is unmatched. -/
def isTrailingPunctuation (c : Char) : Bool :=
  isSentencePunctuation c || [')', ']', '\x7d'].contains c

/-- The loop removes what a test on the character alone removes, if the two agree on the way. -/
theorem trimPunctuationRev_eq_dropWhile {f : Char → Bool} {candidate : List Char}
    (h : ∀ last before, (last :: before) <:+ candidate →
      removesLast (last :: before) last = f last) :
    trimPunctuationRev candidate = candidate.dropWhile f := by
  induction candidate with
  | nil => rfl
  | cons last before ih =>
    rw [trimPunctuationRev, List.dropWhile_cons, h last before List.suffix_rfl]
    split
    · exact ih fun last' before' hsuffix =>
        h last' before' (hsuffix.trans (List.suffix_cons last before))
    · rfl

theorem removesLast_reverse (candidate : List Char) (last : Char) :
    removesLast candidate.reverse last = removesLast candidate last := by
  unfold removesLast unmatchedClosing
  simp only [List.count_reverse]

theorem trimTerminalPunctuation_eq {f : Char → Bool} {candidate : List Char}
    (h : ∀ before last, (before ++ [last]) <+: candidate →
      removesLast (before ++ [last]) last = f last) :
    trimTerminalPunctuation candidate = candidate.rdropWhile f := by
  rw [trimTerminalPunctuation, List.rdropWhile, trimPunctuationRev_eq_dropWhile]
  intro last before hsuffix
  have hpre : before.reverse ++ [last] <+: candidate := by
    rw [← List.reverse_cons, ← List.reverse_reverse candidate]
    exact List.reverse_prefix.mpr hsuffix
  rw [← h before.reverse last hpre, ← removesLast_reverse, List.reverse_cons]

/-- Nothing opens a bracket in a path token, so every closing one is unmatched. -/
theorem trimTerminalPunctuation_of_token {token : List Char}
    (h : ∀ c ∈ token, isTokenBoundary c = false) :
    trimTerminalPunctuation token = token.rdropWhile isTrailingPunctuation := by
  refine trimTerminalPunctuation_eq fun before last hpre => ?_
  have hopen : ∀ c, isTokenBoundary c = true → (before ++ [last]).count c = 0 := by
    intro c hc
    rw [List.count_eq_zero]
    intro hmem
    rw [h c (hpre.subset hmem)] at hc
    cases hc
  unfold removesLast unmatchedClosing isTrailingPunctuation
  rw [hopen '(' (by decide), hopen '[' (by decide), hopen '\x7b' (by decide)]
  by_cases h₁ : last = ')'
  · subst h₁
    simp
  by_cases h₂ : last = ']'
  · subst h₂
    simp
  by_cases h₃ : last = '\x7d'
  · subst h₃
    simp
  · rw [beq_eq_false_iff_ne.mpr h₁, beq_eq_false_iff_ne.mpr h₂, beq_eq_false_iff_ne.mpr h₃]
    simp [h₁, h₂, h₃]

/-- In what the bracket scan keeps, every closing bracket has been opened. -/
theorem trimUrlCandidate_eq {text : List Char} (h : ∀ c ∈ text, isUrlChar c) :
    trimUrlCandidate text = (balancedPrefix text 0 0).rdropWhile isSentencePunctuation := by
  refine trimTerminalPunctuation_eq fun before last hpre => ?_
  obtain ⟨hpar, hbra⟩ := count_le_of_isPrefix_balancedPrefix hpre
  have hbrace : last ≠ '\x7d' := by
    rintro rfl
    have hmem : '\x7d' ∈ text := isPrefix_balancedPrefix.subset (hpre.subset (by simp))
    have hno := h _ hmem
    revert hno
    decide
  have hp : unmatchedClosing (before ++ [last]) '(' ')' = false :=
    decide_eq_false (by omega)
  have hb : unmatchedClosing (before ++ [last]) '[' ']' = false :=
    decide_eq_false (by omega)
  rw [removesLast, hp, hb, beq_eq_false_iff_ne.mpr hbrace]
  simp

/-! ## URLs -/

section Urls

variable {text rest : List Char}

/-- A URL that goes on is trimmed to the same text iff what the bracket scan keeps of the rest is
    sentence punctuation. -/
theorem trimUrlCandidate_append_iff (h : ∀ c ∈ text ++ rest, isUrlChar c) :
    trimUrlCandidate (text ++ rest) = trimUrlCandidate text ↔
      ∀ c ∈ (balancedPrefix (text ++ rest) 0 0).drop text.length, isSentencePunctuation c := by
  rw [trimUrlCandidate_eq h,
    trimUrlCandidate_eq fun c hc => h c (List.mem_append_left rest hc)]
  obtain ⟨heq, hlt⟩ | ⟨heq, p, b, hrest⟩ :=
    balancedPrefix_append text rest 0 0
  · rw [heq, List.drop_eq_nil_of_le (Nat.le_of_lt hlt)]
    simp
  · rw [heq, hrest, rdropWhile_append_eq_iff, List.drop_left' rfl]

/-- A URL that starts earlier and is kept beyond the start of another is kept to the end of it. -/
theorem length_le_trimUrlCandidate {before : List Char}
    (h : ∀ c ∈ before ++ (text ++ rest), isUrlChar c) (hne : trimUrlCandidate text ≠ [])
    (hlt : before.length < (trimUrlCandidate (before ++ (text ++ rest))).length) :
    before.length + (trimUrlCandidate text).length ≤
      (trimUrlCandidate (before ++ (text ++ rest))).length := by
  have htext : ∀ c ∈ text, isUrlChar c := fun c hc => h c (by simp [hc])
  rw [trimUrlCandidate_eq htext] at hne ⊢
  rw [trimUrlCandidate_eq h] at hlt ⊢
  -- the scan of the longer URL goes beyond the start of the other
  have hlong : ∃ p b, balancedPrefix (before ++ (text ++ rest)) 0 0 =
      before ++ balancedPrefix (text ++ rest) p b := by
    obtain ⟨heq, hshort⟩ | ⟨-, p, b, hgo⟩ := balancedPrefix_append before (text ++ rest) 0 0
    · have hle := List.IsPrefix.length_le <| List.rdropWhile_prefix isSentencePunctuation <|
        balancedPrefix (before ++ (text ++ rest)) 0 0
      rw [heq] at hle hlt
      omega
    · exact ⟨p, b, hgo⟩
  obtain ⟨p, b, hlong⟩ := hlong
  have hkept : balancedPrefix text 0 0 <+: balancedPrefix (text ++ rest) p b := by
    refine List.IsPrefix.trans ?_ (balancedPrefix_mono (Nat.zero_le p) (Nat.zero_le b))
    obtain ⟨heq, -⟩ | ⟨heq, p', b', hrest⟩ :=
      balancedPrefix_append text rest 0 0
    · rw [heq]
    · rw [heq, hrest]
      exact List.prefix_append _ _
  have hu := List.rdropWhile_prefix isSentencePunctuation <| balancedPrefix text 0 0
  have hlast := List.rdropWhile_last_not isSentencePunctuation _ hne
  have hsplit := List.dropLast_append_getLast hne
  have hpre : before ++ ((balancedPrefix text 0 0).rdropWhile isSentencePunctuation).dropLast ++
      [((balancedPrefix text 0 0).rdropWhile isSentencePunctuation).getLast hne] <+:
      balancedPrefix (before ++ (text ++ rest)) 0 0 := by
    rw [List.append_assoc, hsplit, hlong]
    exact (List.prefix_append_right_inj before).mpr (hu.trans hkept)
  have hkeep := length_lt_rdropWhile hpre (by simpa using hlast)
  have hlen := congrArg List.length hsplit
  rw [List.length_append, List.length_singleton] at hlen
  rw [List.length_append] at hkeep
  omega

end Urls

/-! ## Paths -/

theorem colon_not_mem_of_isDecimal {value : List Char} (h : isDecimal value) : ':' ∉ value := by
  intro hmem
  obtain ⟨-, hall⟩ := Bool.and_eq_true_iff.mp h
  have hcolon := List.all_eq_true.mp hall ':' hmem
  revert hcolon
  decide

/-- The end of a text is `:` and a number. -/
def EndsInNumber (text : List Char) : Prop :=
  ∃ before number, isDecimal number ∧ text = before ++ ':' :: number

/-- A line number after a path, or a line and a column. -/
def IsLocationSuffix (suffix : List Char) : Prop :=
  (∃ line, isDecimal line ∧ suffix = ':' :: line) ∨
    ∃ line column, isDecimal line ∧ isDecimal column ∧ suffix = ':' :: (line ++ ':' :: column)

theorem rsplitOnce_eq_some_iff {sep : Char} {text before after : List Char} :
    rsplitOnce sep text = some (before, after) ↔ text = before ++ sep :: after ∧ sep ∉ after := by
  refine ⟨rsplitOnce_spec, ?_⟩
  rintro ⟨rfl, hafter⟩
  obtain ⟨parts, hparts⟩ : ∃ parts, rsplitOnce sep (before ++ sep :: after) = some parts :=
    ⟨_, if_pos (by simp)⟩
  obtain ⟨heq, hno⟩ := rsplitOnce_spec hparts
  obtain ⟨hb, ha⟩ := TextLines.append_sep_inj heq hafter hno
  rw [hparts, hb, ha]

theorem trimLocationSuffix_of_not_endsInNumber {path : List Char} (h : ¬EndsInNumber path) :
    trimLocationSuffix path = path := by
  unfold trimLocationSuffix
  split
  · rfl
  · next before number hsplit =>
    rw [if_neg fun hnumber => h ⟨before, number, hnumber, (rsplitOnce_spec hsplit).1⟩]

theorem trimLocationSuffix_line {path line : List Char} (hline : isDecimal line)
    (h : ¬EndsInNumber path) : trimLocationSuffix (path ++ ':' :: line) = path := by
  have hsplit : rsplitOnce ':' (path ++ ':' :: line) = some (path, line) :=
    rsplitOnce_eq_some_iff.mpr ⟨rfl, colon_not_mem_of_isDecimal hline⟩
  unfold trimLocationSuffix
  rw [hsplit]
  dsimp only
  rw [if_pos hline]
  split
  · next before number hbefore =>
    rw [if_neg fun hnumber => h ⟨before, number, hnumber, (rsplitOnce_spec hbefore).1⟩]
  · rfl

theorem trimLocationSuffix_line_column {path line column : List Char} (hline : isDecimal line)
    (hcolumn : isDecimal column) :
    trimLocationSuffix (path ++ ':' :: (line ++ ':' :: column)) = path := by
  have hsplit : rsplitOnce ':' (path ++ ':' :: (line ++ ':' :: column)) =
      some (path ++ ':' :: line, column) :=
    rsplitOnce_eq_some_iff.mpr ⟨by simp, colon_not_mem_of_isDecimal hcolumn⟩
  have hpath : rsplitOnce ':' (path ++ ':' :: line) = some (path, line) :=
    rsplitOnce_eq_some_iff.mpr ⟨rfl, colon_not_mem_of_isDecimal hline⟩
  unfold trimLocationSuffix
  rw [hsplit]
  dsimp only
  rw [if_pos hcolumn, hpath]
  dsimp only
  rw [if_pos hline]

/-- A candidate is a path without a number at its end, such a path with a line, or any path with a
    line and a column. -/
theorem trimLocationSuffix_eq_iff {candidate path : List Char} :
    trimLocationSuffix candidate = path ↔
      (candidate = path ∧ ¬EndsInNumber path) ∨
      (∃ line, isDecimal line ∧ candidate = path ++ ':' :: line ∧ ¬EndsInNumber path) ∨
      ∃ line column, isDecimal line ∧ isDecimal column ∧
        candidate = path ++ ':' :: (line ++ ':' :: column) := by
  constructor
  · intro h
    by_cases hend : EndsInNumber candidate
    · obtain ⟨before, number, hnumber, rfl⟩ := hend
      by_cases hbefore : EndsInNumber before
      · obtain ⟨path', line, hline, rfl⟩ := hbefore
        rw [List.append_assoc, List.cons_append, trimLocationSuffix_line_column hline hnumber] at h
        exact Or.inr (Or.inr ⟨line, number, hline, hnumber, by rw [h]; simp⟩)
      · rw [trimLocationSuffix_line hnumber hbefore] at h
        exact Or.inr (Or.inl ⟨number, hnumber, by rw [h], h ▸ hbefore⟩)
    · rw [trimLocationSuffix_of_not_endsInNumber hend] at h
      exact Or.inl ⟨h, h ▸ hend⟩
  · rintro (⟨rfl, hend⟩ | ⟨line, hline, rfl, hend⟩ | ⟨line, column, hline, hcolumn, rfl⟩)
    · exact trimLocationSuffix_of_not_endsInNumber hend
    · exact trimLocationSuffix_line hline hend
    · exact trimLocationSuffix_line_column hline hcolumn

theorem isPrefix_trimLocationSuffix (candidate : List Char) :
    trimLocationSuffix candidate <+: candidate := by
  generalize hpath : trimLocationSuffix candidate = path
  obtain ⟨rfl, -⟩ | ⟨line, -, rfl, -⟩ | ⟨line, column, -, -, rfl⟩ :=
    trimLocationSuffix_eq_iff.mp hpath
  · exact List.prefix_rfl
  · exact List.prefix_append _ _
  · exact List.prefix_append _ _

/-- The path in a token. -/
def pathOf (token : List Char) : List Char := trimLocationSuffix (trimTerminalPunctuation token)

section Tokens

variable {token rest : List Char}

theorem isPrefix_trimTerminalPunctuation (h : ∀ c ∈ token, isTokenBoundary c = false) :
    trimTerminalPunctuation token <+: token := by
  rw [trimTerminalPunctuation_of_token h]
  exact List.rdropWhile_prefix _ _

theorem isPrefix_pathOf (h : ∀ c ∈ token, isTokenBoundary c = false) : pathOf token <+: token :=
  (isPrefix_trimLocationSuffix _).trans (isPrefix_trimTerminalPunctuation h)

/-- The text after a path is a location suffix, and no longer one than trimming takes. -/
theorem trimLocationSuffix_eq_iff_of_longer {candidate path suffix : List Char}
    (hpath : trimLocationSuffix candidate = path) (hpre : candidate <+: path ++ suffix)
    (hne : suffix ≠ []) :
    trimLocationSuffix (path ++ suffix) = path ↔ IsLocationSuffix suffix := by
  rw [trimLocationSuffix_eq_iff]
  constructor
  · rintro (⟨heq, -⟩ | ⟨line, hline, heq, -⟩ | ⟨line, column, hline, hcolumn, heq⟩)
    · exact absurd (List.append_right_eq_self.mp heq) hne
    · exact Or.inl ⟨line, hline, List.append_cancel_left heq⟩
    · exact Or.inr ⟨line, column, hline, hcolumn, List.append_cancel_left heq⟩
  · rintro (⟨line, hline, rfl⟩ | ⟨line, column, hline, hcolumn, rfl⟩)
    · refine Or.inr (Or.inl ⟨line, hline, rfl, ?_⟩)
      obtain ⟨-, hend⟩ | ⟨line', -, -, hend⟩ | ⟨line', column', hline', hcolumn', rfl⟩ :=
        trimLocationSuffix_eq_iff.mp hpath
      · exact hend
      · exact hend
      · -- a column cannot follow a line that is not over
        have hsuffix := (List.prefix_append_right_inj path).mp hpre
        have hmem : ':' ∈ line := (List.cons_prefix_cons.mp hsuffix).2.subset (by simp)
        exact absurd hmem (colon_not_mem_of_isDecimal hline)
    · exact Or.inr (Or.inr ⟨line, column, hline, hcolumn, rfl⟩)

/-- A path that goes on is the same path iff what goes on is punctuation at the end of the token,
    or completes a location suffix. -/
theorem pathOf_append_iff (h : ∀ c ∈ token ++ rest, isTokenBoundary c = false)
    (hshort : rest ≠ [] → (pathOf token).length < token.length) :
    pathOf (token ++ rest) = pathOf token ↔
      (∀ c ∈ rest, isTrailingPunctuation c) ∨
        IsLocationSuffix ((token ++ rest.rdropWhile isTrailingPunctuation).drop
          (pathOf token).length) := by
  have htoken : ∀ c ∈ token, isTokenBoundary c = false :=
    fun c hc => h c (List.mem_append_left rest hc)
  -- trailing punctuation is trimmed away, so it makes no difference
  by_cases hall : ∀ c ∈ rest, isTrailingPunctuation c = true
  · rw [pathOf, trimTerminalPunctuation_of_token h, rdropWhile_append_of_all hall,
      ← trimTerminalPunctuation_of_token htoken]
    exact ⟨fun _ => Or.inl hall, fun _ => rfl⟩
  rw [or_iff_right hall]
  have hexists : ∃ c ∈ rest, isTrailingPunctuation c = false := by simpa using hall
  have hne : rest ≠ [] := by
    rintro rfl
    exact hall nofun
  have hlt := hshort hne
  have hprefix := isPrefix_pathOf htoken
  generalize hpath : pathOf token = path at hlt hprefix ⊢
  -- the token is the path and what was trimmed of it
  obtain ⟨tail, rfl⟩ := hprefix
  rw [List.append_assoc path tail (rest.rdropWhile _), List.drop_left' rfl]
  have hpre : trimTerminalPunctuation (path ++ tail) <+:
      path ++ (tail ++ rest.rdropWhile isTrailingPunctuation) := by
    rw [← List.append_assoc]
    exact (isPrefix_trimTerminalPunctuation htoken).trans (List.prefix_append _ _)
  have hsuffix : tail ++ rest.rdropWhile isTrailingPunctuation ≠ [] := by
    rintro hnil
    rw [(List.append_eq_nil_iff.mp hnil).1, List.append_nil] at hlt
    exact absurd hlt (Nat.lt_irrefl _)
  have hfull : trimTerminalPunctuation (path ++ tail ++ rest) =
      path ++ (tail ++ rest.rdropWhile isTrailingPunctuation) := by
    rw [trimTerminalPunctuation_of_token h, rdropWhile_append_of_exists hexists,
      List.append_assoc]
  rw [← trimLocationSuffix_eq_iff_of_longer hpath hpre hsuffix, pathOf, hfull]

end Tokens

end AxSsh
