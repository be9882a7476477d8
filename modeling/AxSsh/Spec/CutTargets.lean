import AxSsh.Spec.TargetTrimming

/-!
# Targets of a line that is cut

A logical line is longer than what the viewport shows of it.  A target that the shown part has is
the target of the whole line exactly when the line is `CutHarmless` there: the check that the
target does not touch the cut compares the text after trimming, so it misses a target whose end
was trimmed away.

## Key results
- `findUrlTarget_eq_some_iff`: the URL at a character
- `tokenBounds_spec`, `tokenBounds_append`: the token at a character
- `cut_target_same_iff`: when the whole line has the target of the shown part
-/

namespace AxSsh

open FindIter

/-! ## The URL pattern -/

section Pattern

variable {classes : List (List Char)} {text rest : List Char}

theorem matchesClasses_append (h : classes.length ≤ text.length) :
    matchesClasses classes (text ++ rest) = matchesClasses classes text := by
  induction classes generalizing text with
  | nil => simp [matchesClasses]
  | cons cls classes ih =>
    cases text with
    | nil => cases h
    | cons c text =>
      rw [List.cons_append, matchesClasses, matchesClasses, ih (Nat.le_of_succ_le_succ h)]

theorem take_of_matchesClasses {p : Char → Bool} (hp : ∀ cls ∈ classes, ∀ c ∈ cls, p c)
    (h : matchesClasses classes text) :
    classes.length ≤ text.length ∧ ∀ c ∈ text.take classes.length, p c := by
  induction classes generalizing text with
  | nil => simp
  | cons cls classes ih =>
    cases text with
    | nil => cases h
    | cons c text =>
      obtain ⟨hc, htext⟩ := Bool.and_eq_true_iff.mp h
      obtain ⟨hlen, hall⟩ := ih (fun cls' hcls => hp cls' (List.mem_cons_of_mem cls hcls)) htext
      refine ⟨Nat.succ_le_succ hlen, fun d hd => ?_⟩
      rw [List.length_cons, List.take_succ_cons, List.mem_cons] at hd
      obtain rfl | hd := hd
      · exact hp cls List.mem_cons_self d (List.contains_iff_mem.mp hc)
      · exact hall d hd

theorem isUrlChar_of_classes {classes : List (List Char)}
    (h : (classes.all fun cls => cls.all isUrlChar) = true) :
    ∀ cls ∈ classes, ∀ c ∈ cls, isUrlChar c = true :=
  fun cls hcls => List.all_eq_true.mp (List.all_eq_true.mp h cls hcls)

theorem schemeLength_spec {scheme : Nat} (h : schemeLength text = some scheme) :
    7 ≤ scheme ∧ scheme ≤ 8 ∧ scheme ≤ text.length ∧ ∀ c ∈ text.take scheme, isUrlChar c := by
  have hclasses : ∀ cls ∈ httpClasses ++ [secureClass] ++ separatorClasses,
      ∀ c ∈ cls, isUrlChar c = true :=
    isUrlChar_of_classes (by decide)
  have hclasses' : ∀ cls ∈ httpClasses ++ separatorClasses,
      ∀ c ∈ cls, isUrlChar c = true :=
    isUrlChar_of_classes (by decide)
  unfold schemeLength at h
  split at h
  · next hmatch =>
    obtain rfl : 8 = scheme := Option.some.inj h
    obtain ⟨hlen, hall⟩ := take_of_matchesClasses hclasses hmatch
    exact ⟨by omega, by omega, hlen, hall⟩
  · split at h
    · next hmatch =>
      obtain rfl : 7 = scheme := Option.some.inj h
      obtain ⟨hlen, hall⟩ := take_of_matchesClasses hclasses' hmatch
      exact ⟨by omega, by omega, hlen, hall⟩
    · cases h

theorem schemeLength_append (h : 8 ≤ text.length) :
    schemeLength (text ++ rest) = schemeLength text := by
  have hlong : (httpClasses ++ [secureClass] ++ separatorClasses).length ≤ text.length := h
  have hshort : (httpClasses ++ separatorClasses).length ≤ text.length := Nat.le_of_succ_le h
  rw [schemeLength, schemeLength, matchesClasses_append hlong, matchesClasses_append hshort]

/-- A text starts with a URL: a scheme and a character of the class. -/
def StartsUrl (text : List Char) : Prop :=
  ∃ scheme c, schemeLength text = some scheme ∧ text[scheme]? = some c ∧ isUrlChar c

theorem StartsUrl.length_le (h : StartsUrl text) : 8 ≤ text.length := by
  obtain ⟨scheme, c, hscheme, hc, -⟩ := h
  obtain ⟨hlow, -, -, -⟩ := schemeLength_spec hscheme
  obtain ⟨hlt, -⟩ := List.getElem?_eq_some_iff.mp hc
  omega

theorem StartsUrl.append (h : StartsUrl text) : StartsUrl (text ++ rest) := by
  have hlen := h.length_le
  obtain ⟨scheme, c, hscheme, hc, hurl⟩ := h
  obtain ⟨hlt, -⟩ := List.getElem?_eq_some_iff.mp hc
  exact ⟨scheme, c, by rw [schemeLength_append hlen, hscheme],
    by rw [List.getElem?_append_left hlt, hc], hurl⟩

theorem matchUrl_eq_some (h : StartsUrl text) :
    matchUrl text = some (text.takeWhile isUrlChar).length := by
  obtain ⟨scheme, c, hscheme, hc, hurl⟩ := h
  obtain ⟨-, -, hle, hall⟩ := schemeLength_spec hscheme
  have hdrop : text.drop scheme = c :: text.drop (scheme + 1) := by
    obtain ⟨hlt, rfl⟩ := List.getElem?_eq_some_iff.mp hc
    exact List.drop_eq_getElem_cons hlt
  have hrun : text.takeWhile isUrlChar =
      text.take scheme ++ (text.drop scheme).takeWhile isUrlChar := by
    conv_lhs => rw [← List.take_append_drop scheme text]
    exact takeWhile_append_of_all hall
  have hne : (text.drop scheme).takeWhile isUrlChar ≠ [] := by
    rw [hdrop, List.takeWhile_cons_of_pos hurl]
    exact nofun
  rw [matchUrl, hscheme, Option.bind_eq_bind, Option.bind_some]
  dsimp only
  rw [if_neg hne, hrun, List.length_append, List.length_take_of_le hle]

theorem matchUrl_eq_none (h : ¬StartsUrl text) : matchUrl text = none := by
  rw [matchUrl]
  cases hscheme : schemeLength text with
  | none => rfl
  | some scheme =>
    rw [Option.bind_eq_bind, Option.bind_some]
    refine if_pos ?_
    cases hdrop : text.drop scheme with
    | nil => rfl
    | cons c rest =>
      refine List.takeWhile_cons_of_neg fun hurl => h ⟨scheme, c, hscheme, ?_, hurl⟩
      rw [← List.head?_drop, hdrop, List.head?_cons]

/-- The pattern matches the longest run of the class wherever a URL starts. -/
theorem matchesRuns_matchUrl : MatchesRuns matchUrl StartsUrl isUrlChar := by
  refine ⟨fun text => matchUrl_eq_some, fun text => matchUrl_eq_none, ?_⟩
  rintro text ⟨scheme, c, hscheme, -, -⟩
  obtain ⟨hlow, -, hle, hall⟩ := schemeLength_spec hscheme
  cases text with
  | nil =>
    rw [List.length_nil] at hle
    omega
  | cons a text =>
    refine ⟨a, text, rfl, hall a ?_⟩
    obtain ⟨scheme, rfl⟩ := Nat.exists_eq_add_of_le' (Nat.le_trans (by decide : 1 ≤ 7) hlow)
    rw [List.take_succ_cons]
    exact List.mem_cons_self

end Pattern

/-! ## The URL at a character -/

/-- The candidate of a match that starts a text. -/
def urlOf (text : List Char) : List Char := trimUrlCandidate (text.takeWhile isUrlChar)

/-- The URL of a text at a character: it starts after `l`, at the beginning of `x`. -/
structure UrlAt (parses : List Char → Bool) (text : List Char) (column : Nat)
    (l x : List Char) : Prop where
  split : text = l ++ x
  begins : Begins StartsUrl isUrlChar l x
  short : (urlOf x).length ≤ maxTargetChars
  start : l.length ≤ column
  stop : column < l.length + (urlOf x).length
  parses : parses (urlOf x)

variable {parses : List Char → Bool} {column : Nat} {text rest l x l' x' : List Char}

theorem all_takeWhile_isUrlChar : ∀ c ∈ x.takeWhile isUrlChar, isUrlChar c :=
  fun _ hc => List.mem_takeWhile_imp hc

theorem isPrefix_urlOf : urlOf x <+: x.takeWhile isUrlChar := by
  rw [urlOf, trimUrlCandidate_eq all_takeWhile_isUrlChar]
  have hkept := List.rdropWhile_prefix isSentencePunctuation <|
    balancedPrefix (x.takeWhile isUrlChar) 0 0
  exact hkept.trans isPrefix_balancedPrefix

theorem UrlAt.lt_match (h : UrlAt parses text column l x) :
    column < l.length + (x.takeWhile isUrlChar).length := by
  have hle := (isPrefix_urlOf (x := x)).length_le
  have hlt := h.stop
  omega

theorem urlSpan_eq_some_iff {start : Nat} {matched : List Char} {span : TerminalTargetSpan} :
    urlSpan parses column (start, matched) = some span ↔
      (trimUrlCandidate matched).length ≤ maxTargetChars ∧ start ≤ column ∧
        column < start + (trimUrlCandidate matched).length ∧ parses (trimUrlCandidate matched) ∧
        span = ⟨.url (trimUrlCandidate matched), start,
          start + (trimUrlCandidate matched).length⟩ := by
  unfold urlSpan
  dsimp only
  split
  · next hno =>
    refine ⟨nofun, ?_⟩
    rintro ⟨hshort, hstart, hstop, -, -⟩
    omega
  · next hyes =>
    split
    · next hparses =>
      constructor
      · intro h
        refine ⟨by omega, by omega, by omega, hparses, (Option.some.inj h).symm⟩
      · rintro ⟨-, -, -, -, rfl⟩
        rfl
    · next hparses =>
      exact ⟨nofun, fun ⟨_, _, _, h, _⟩ => absurd h hparses⟩

/-- Two URLs at one character are one. -/
theorem UrlAt.unique (h : UrlAt parses text column l x) (h' : UrlAt parses text column l' x') :
    l = l' ∧ x = x' := by
  have heq : l ++ x = l' ++ x' := by rw [← h.split, h'.split]
  have hl := h.begins.unique h'.begins heq h.start h.lt_match h'.start h'.lt_match
  exact ⟨hl, List.append_cancel_left (hl ▸ heq)⟩

theorem findUrlTarget_spec {span : TerminalTargetSpan}
    (h : findUrlTarget parses text column = some span) :
    ∃ l x, UrlAt parses text column l x ∧
      span = ⟨.url (urlOf x), l.length, l.length + (urlOf x).length⟩ := by
  obtain ⟨⟨start, matched⟩, hmem, hspan⟩ := List.exists_of_findSome?_eq_some h
  obtain ⟨hshort, hstart, hstop, hparses, rfl⟩ := urlSpan_eq_some_iff.mp hspan
  obtain ⟨l, x, rfl, rfl, rfl, hbegins⟩ := (mem_findIter_iff matchesRuns_matchUrl ..).mp hmem
  exact ⟨l, x, ⟨rfl, hbegins, hshort, hstart, hstop, hparses⟩, rfl⟩

theorem UrlAt.findUrlTarget_eq (h : UrlAt parses text column l x) :
    findUrlTarget parses text column =
      some ⟨.url (urlOf x), l.length, l.length + (urlOf x).length⟩ := by
  have hmem : (l.length, x.takeWhile isUrlChar) ∈ findIter matchUrl text :=
    (mem_findIter_iff matchesRuns_matchUrl ..).mpr ⟨l, x, h.split, rfl, rfl, h.begins⟩
  have hspan := urlSpan_eq_some_iff.mpr ⟨h.short, h.start, h.stop, h.parses, rfl⟩
  have hsome : (findUrlTarget parses text column).isSome :=
    List.findSome?_isSome_iff.mpr ⟨_, hmem, by rw [hspan]; rfl⟩
  obtain ⟨span, hfound⟩ := Option.isSome_iff_exists.mp hsome
  obtain ⟨l', x', h', rfl⟩ := findUrlTarget_spec hfound
  obtain ⟨rfl, rfl⟩ := h.unique h'
  exact hfound

/-! ## The token at a character -/

/-- The token of a text at a character. -/
structure TokenAt (text : List Char) (column : Nat) (before token after : List Char) : Prop where
  split : text = before ++ (token ++ after)
  start : before.length ≤ column
  stop : column < before.length + token.length
  token : ∀ c ∈ token, isTokenBoundary c = false
  first : ∀ c, before.getLast? = some c → isTokenBoundary c = true
  last : ∀ c, after.head? = some c → isTokenBoundary c = true

variable {before token after : List Char}

theorem takeWhile_eq_of_head {p : Char → Bool} {l r : List Char} (hl : ∀ c ∈ l, p c)
    (hr : ∀ c, r.head? = some c → p c = false) : (l ++ r).takeWhile p = l := by
  rw [takeWhile_append_of_all hl]
  cases r with
  | nil => simp
  | cons c r => rw [List.takeWhile_cons_of_neg (by simp [hr c rfl]), List.append_nil]

theorem TokenAt.tokenBounds_eq (h : TokenAt text column before token after) :
    tokenBounds text column = some (before.length, before.length + token.length) := by
  obtain ⟨i, rfl⟩ := Nat.exists_eq_add_of_le h.start
  -- the token is cut at the column
  obtain ⟨t₁, c, t₂, rfl, rfl⟩ : ∃ t₁ c t₂, token = t₁ ++ c :: t₂ ∧ t₁.length = i := by
    have hi : i < token.length := by
      have hstop := h.stop
      omega
    exact ⟨token.take i, token[i], token.drop (i + 1),
      by rw [← List.drop_eq_getElem_cons hi, List.take_append_drop],
      List.length_take_of_le (Nat.le_of_lt hi)⟩
  have htoken : ∀ d ∈ t₁ ++ c :: t₂, (!isTokenBoundary d) = true :=
    fun d hd => by rw [h.token d hd]; rfl
  have htext : text = (before ++ t₁) ++ c :: (t₂ ++ after) := by rw [h.split]; simp
  have hcolumn : before.length + t₁.length = (before ++ t₁).length := by rw [List.length_append]
  have hleft : ((before ++ t₁).reverse.takeWhile (!isTokenBoundary ·)).length = t₁.length := by
    rw [List.reverse_append, takeWhile_eq_of_head, List.length_reverse]
    · exact fun d hd => htoken d (List.mem_append_left _ (List.mem_reverse.mp hd))
    · intro d hd
      rw [List.head?_reverse] at hd
      rw [h.first d hd]
      rfl
  have hright : ((t₂ ++ after).takeWhile (!isTokenBoundary ·)).length = t₂.length := by
    rw [takeWhile_eq_of_head]
    · exact fun d hd => htoken d (List.mem_append_right _ (List.mem_cons_of_mem c hd))
    · intro d hd
      rw [h.last d hd]
      rfl
  rw [tokenBounds, htext, hcolumn, List.drop_left' rfl, List.take_left' rfl]
  dsimp only
  rw [if_neg (by rw [h.token c (by simp)]; exact nofun), hleft, hright]
  simp only [List.length_append, List.length_cons, Option.some.injEq, Prod.mk.injEq]
  omega

theorem exists_tokenAt {bounds : Nat × Nat} (h : tokenBounds text column = some bounds) :
    ∃ before token after, TokenAt text column before token after := by
  unfold tokenBounds at h
  split at h
  · cases h
  next c rest hdrop =>
  split at h
  · cases h
  next hc =>
  -- there is a character in the column
  have htake : (text.take column).length = column := by
    have hlt : column < text.length := by
      by_contra hge
      rw [List.drop_eq_nil_of_le (Nat.le_of_not_lt hge)] at hdrop
      cases hdrop
    exact List.length_take_of_le (Nat.le_of_lt hlt)
  have hsplit : (text.take column).rdropWhile (!isTokenBoundary ·) ++
      (text.take column).rtakeWhile (!isTokenBoundary ·) = text.take column :=
    List.rdropWhile_append_rtakeWhile
  have hlen := congrArg List.length hsplit
  rw [List.length_append, htake] at hlen
  -- the token is the run of characters around it
  refine ⟨(text.take column).rdropWhile (!isTokenBoundary ·),
    (text.take column).rtakeWhile (!isTokenBoundary ·) ++
      c :: rest.takeWhile (!isTokenBoundary ·), rest.dropWhile (!isTokenBoundary ·),
    ?_, by omega, ?_, ?_, ?_, ?_⟩
  · rw [List.append_assoc, List.cons_append, List.takeWhile_append_dropWhile, ← List.append_assoc,
      hsplit, ← hdrop, List.take_append_drop]
  · rw [List.length_append, List.length_cons]
    omega
  · intro d hd
    obtain hd | hd := List.mem_append.mp hd
    · simpa using List.mem_rtakeWhile_imp hd
    · obtain rfl | hd := List.mem_cons.mp hd
      · simpa using hc
      · simpa using List.mem_takeWhile_imp hd
  · intro d hd
    rw [List.rdropWhile, List.getLast?_reverse] at hd
    obtain ⟨y, hy⟩ := List.head?_eq_some_iff.mp hd
    simpa using not_run_of_dropWhile hy
  · intro d hd
    obtain ⟨y, hy⟩ := List.head?_eq_some_iff.mp hd
    simpa using not_run_of_dropWhile hy

theorem TokenAt.remotePathSpan_eq (h : TokenAt text column before token after) :
    remotePathSpan text column = findRemotePathTarget token before.length column := by
  have hdrop : text.drop before.length = token ++ after := by rw [h.split, List.drop_left' rfl]
  rw [remotePathSpan, h.tokenBounds_eq, Option.bind_eq_bind, Option.bind_some]
  dsimp only
  rw [hdrop, Nat.add_sub_cancel_left, List.take_left' rfl]

/-- The path of a token is a target at a character. -/
structure IsPathTarget (token : List Char) (tokenStart column : Nat) : Prop where
  nonempty : (pathOf token).length ≠ 0
  short : (pathOf token).length ≤ maxTargetChars
  start : tokenStart ≤ column
  stop : column < tokenStart + (pathOf token).length
  path : matchesRemotePath (pathOf token)

theorem findRemotePathTarget_eq_some_iff {start : Nat} {span : TerminalTargetSpan} :
    findRemotePathTarget token start column = some span ↔
      IsPathTarget token start column ∧
        span = ⟨.remotePath (pathOf token), start, start + (pathOf token).length⟩ := by
  unfold findRemotePathTarget
  dsimp only
  rw [show trimLocationSuffix (trimTerminalPunctuation token) = pathOf token from rfl]
  split
  · next hno =>
    refine ⟨nofun, ?_⟩
    rintro ⟨⟨hne, hshort, hstart, hstop, hpath⟩, -⟩
    obtain h | h | h | h | h := hno
    · exact absurd h hne
    · omega
    · omega
    · omega
    · exact absurd hpath h
  · next hyes =>
    simp only [not_or, Decidable.not_not] at hyes
    obtain ⟨hne, hshort, hstart, hstop, hpath⟩ := hyes
    constructor
    · intro h
      exact ⟨⟨hne, by omega, by omega, by omega, hpath⟩, (Option.some.inj h).symm⟩
    · rintro ⟨-, rfl⟩
      rfl

theorem remotePathSpan_spec {span : TerminalTargetSpan}
    (h : remotePathSpan text column = some span) :
    ∃ before token after, TokenAt text column before token after ∧
      IsPathTarget token before.length column ∧
      span = ⟨.remotePath (pathOf token), before.length,
        before.length + (pathOf token).length⟩ := by
  have hbounds : (tokenBounds text column).isSome := by
    rw [remotePathSpan] at h
    cases hb : tokenBounds text column with
    | none =>
      rw [hb] at h
      cases h
    | some bounds => rfl
  obtain ⟨bounds, hbounds⟩ := Option.isSome_iff_exists.mp hbounds
  obtain ⟨before, token, after, htoken⟩ := exists_tokenAt hbounds
  rw [htoken.remotePathSpan_eq] at h
  obtain ⟨hpath, hspan⟩ := findRemotePathTarget_eq_some_iff.mp h
  exact ⟨before, token, after, htoken, hpath, hspan⟩

/-! ## The cut -/

section Cut

variable {shown : List Char} {b t a : List Char}

/-- The whole line has the target that its shown part has at a character. -/
structure CutHarmless (parses : List Char → Bool) (before shown after : List Char)
    (column : Nat) : Prop where
  controls : ∀ c ∈ before ++ after, isControl c = false
  /-- No URL reaches into that of the shown part from before it, and all that the bracket scan
      keeps behind the cut is sentence punctuation. -/
  url : ∀ l x, UrlAt parses shown column l x →
    Begins StartsUrl isUrlChar (before ++ l) (x ++ after) ∧
      ∀ c ∈ (balancedPrefix ((x ++ after).takeWhile isUrlChar) 0 0).drop
        (x.takeWhile isUrlChar).length, isSentencePunctuation c
  /-- The path is in no URL of the line, and the token goes on with punctuation only, or with
      what completes a location suffix. -/
  path : (∀ l x, ¬UrlAt parses shown column l x) →
    (∀ l x, ¬UrlAt parses (before ++ shown ++ after) (before.length + column) l x) ∧
      ∀ b t a, TokenAt shown column b t a →
        (∀ c ∈ (a ++ after).takeWhile (!isTokenBoundary ·), isTrailingPunctuation c) ∨
          IsLocationSuffix ((t ++ ((a ++ after).takeWhile (!isTokenBoundary ·)).rdropWhile
            isTrailingPunctuation).drop (pathOf t).length)

/-- The match of a shown URL goes on behind the cut. -/
theorem exists_takeWhile_append {p : Char → Bool} (x after : List Char) :
    ∃ rest, (x ++ after).takeWhile p = x.takeWhile p ++ rest := by
  rw [List.takeWhile_append]
  split
  · next hlen =>
    have hpre : x.takeWhile p <+: x := List.takeWhile_prefix p
    rw [hpre.eq_of_length hlen]
    exact ⟨_, rfl⟩
  · exact ⟨[], (List.append_nil _).symm⟩

/-- In the whole line a URL begins where that of the shown part does, or before the cut. -/
theorem UrlAt.exists_begins (h : UrlAt parses shown column l x) (before after : List Char) :
    ∃ l' d, before ++ l = l' ++ d ∧ (∀ c ∈ d, isUrlChar c) ∧
      Begins StartsUrl isUrlChar l' (d ++ (x ++ after)) :=
  FindIter.exists_begins h.begins.here.append

theorem UrlAt.same_iff (h : UrlAt parses shown column l x) :
    (∃ l' x', UrlAt parses (before ++ shown ++ after) (before.length + column) l' x' ∧
        urlOf x' = urlOf x) ↔
      Begins StartsUrl isUrlChar (before ++ l) (x ++ after) ∧
        ∀ c ∈ (balancedPrefix ((x ++ after).takeWhile isUrlChar) 0 0).drop
          (x.takeWhile isUrlChar).length, isSentencePunctuation c := by
  have hline : before ++ shown ++ after = (before ++ l) ++ (x ++ after) := by
    rw [h.split]
    simp
  have hstart := h.start
  have hstop := h.stop
  obtain ⟨rest, hrest⟩ := exists_takeWhile_append (p := isUrlChar) x after
  have hall : ∀ c ∈ x.takeWhile isUrlChar ++ rest, isUrlChar c = true :=
    fun c hc => List.mem_takeWhile_imp (hrest ▸ hc)
  rw [hrest, ← trimUrlCandidate_append_iff hall, ← hrest]
  constructor
  · rintro ⟨l', x', h', heq⟩
    obtain ⟨m, d, hm, hd, hbegins⟩ := h.exists_begins before after
    have hrun : (d ++ (x ++ after)).takeWhile isUrlChar = d ++ (x.takeWhile isUrlChar ++ rest) := by
      rw [takeWhile_append_of_all hd, hrest]
    have hmlen := congrArg List.length hm
    rw [List.length_append, List.length_append] at hmlen
    have hmatch := h.lt_match
    -- the URL of the whole line is the one that begins there
    obtain rfl : m = l' := by
      refine hbegins.unique h'.begins ?_ (i := before.length + column) (by omega) ?_ h'.start
        h'.lt_match
      · rw [← h'.split, hline, hm, List.append_assoc]
      · rw [hrun, List.length_append, List.length_append]
        omega
    obtain rfl : d ++ (x ++ after) = x' := by
      have hsplit : m ++ (d ++ (x ++ after)) = m ++ x' := by
        rw [← h'.split, hline, hm, List.append_assoc]
      exact List.append_cancel_left hsplit
    -- it is kept to the end of the shown one, so it does not begin earlier
    have hnil : d = [] := by
      have hstop' := h'.stop
      have hne : urlOf x ≠ [] := by
        intro hnil
        rw [hnil, List.length_nil] at hstop
        omega
      have hlong : d.length + (urlOf x).length ≤ (urlOf (d ++ (x ++ after))).length := by
        rw [urlOf, urlOf, hrun]
        rw [urlOf, hrun] at hstop'
        refine length_le_trimUrlCandidate ?_ hne (by omega)
        exact fun c hc => List.mem_takeWhile_imp (hrun ▸ hc)
      rw [heq] at hlong
      exact List.length_eq_zero_iff.mp (by omega)
    subst hnil
    rw [hm, List.append_nil]
    exact ⟨hbegins, heq⟩
  · rintro ⟨hbegins, heq⟩
    have hurl : urlOf (x ++ after) = urlOf x := heq
    refine ⟨before ++ l, x ++ after, ⟨hline, hbegins, ?_, ?_, ?_, ?_⟩, hurl⟩
    · rw [hurl]
      exact h.short
    · rw [List.length_append]
      omega
    · rw [List.length_append, hurl]
      omega
    · rw [hurl]
      exact h.parses

theorem TokenAt.extend (h : TokenAt shown column b t a) (after : List Char)
    (hb : b = [] → before = []) :
    TokenAt (before ++ shown ++ after) (before.length + column) (before ++ b)
      (t ++ (a ++ after).takeWhile (!isTokenBoundary ·))
      ((a ++ after).dropWhile (!isTokenBoundary ·)) := by
  have hstart := h.start
  have hstop := h.stop
  refine ⟨?_, ?_, ?_, ?_, ?_, ?_⟩
  · rw [List.append_assoc t, List.takeWhile_append_dropWhile, h.split]
    simp
  · rw [List.length_append]
    omega
  · rw [List.length_append, List.length_append]
    omega
  · intro c hc
    obtain hc | hc := List.mem_append.mp hc
    · exact h.token c hc
    · simpa using List.mem_takeWhile_imp hc
  · intro c hc
    by_cases hnil : b = []
    · rw [hnil, hb hnil] at hc
      cases hc
    · rw [List.getLast?_append_of_ne_nil _ hnil] at hc
      exact h.first c hc
  · intro c hc
    obtain ⟨y, hy⟩ := List.head?_eq_some_iff.mp hc
    simpa using not_run_of_dropWhile hy

/-- Two tokens at one character are one. -/
theorem TokenAt.unique (h : TokenAt text column before token after)
    (h' : TokenAt text column b t a) : before = b ∧ token = t ∧ after = a := by
  have hbounds := h.tokenBounds_eq
  rw [h'.tokenBounds_eq] at hbounds
  obtain ⟨hb, ht⟩ := Prod.mk.inj (Option.some.inj hbounds)
  have heq : before ++ (token ++ after) = b ++ (t ++ a) := by rw [← h.split, h'.split]
  obtain ⟨hbefore, hrest⟩ := List.append_inj heq hb.symm
  exact ⟨hbefore, List.append_inj hrest (by omega)⟩

theorem TokenAt.same_iff (h : TokenAt shown column b t a) (hpath : IsPathTarget t b.length column)
    (hb : b = [] → before = []) (ha : (pathOf t).length = t.length → a = [] → after = []) :
    (∃ span, remotePathSpan (before ++ shown ++ after) (before.length + column) = some span ∧
        span.target = .remotePath (pathOf t)) ↔
      (∀ c ∈ (a ++ after).takeWhile (!isTokenBoundary ·), isTrailingPunctuation c) ∨
        IsLocationSuffix ((t ++ ((a ++ after).takeWhile (!isTokenBoundary ·)).rdropWhile
          isTrailingPunctuation).drop (pathOf t).length) := by
  have hfull := h.extend after hb
  -- the token goes on behind what is shown only when its end was trimmed
  have hshort : (a ++ after).takeWhile (!isTokenBoundary ·) ≠ [] →
      (pathOf t).length < t.length := by
    intro hne
    refine Nat.lt_of_le_of_ne (isPrefix_pathOf h.token).length_le fun heq => hne ?_
    cases a with
    | nil => rw [ha heq rfl, List.append_nil, List.takeWhile_nil]
    | cons c a =>
      rw [List.cons_append, List.takeWhile_cons_of_neg]
      rw [h.last c rfl]
      exact nofun
  rw [← pathOf_append_iff hfull.token hshort, hfull.remotePathSpan_eq]
  constructor
  · rintro ⟨span, hspan, htarget⟩
    obtain ⟨-, rfl⟩ := findRemotePathTarget_eq_some_iff.mp hspan
    exact TerminalTarget.remotePath.inj htarget
  · intro heq
    obtain ⟨hne, hshort, hstart, hstop, hmatch⟩ := hpath
    -- the same path with a longer token behind it is still found there
    refine ⟨_, findRemotePathTarget_eq_some_iff.mpr ⟨⟨?_, ?_, ?_, ?_, ?_⟩, rfl⟩, ?_⟩
    · rwa [heq]
    · rwa [heq]
    · rw [List.length_append]
      omega
    · rw [List.length_append, heq]
      omega
    · rwa [heq]
    · exact congrArg TerminalTarget.remotePath heq

theorem terminalTargetSpanAtCell_eq (h : text.any isControl = false)
    (hlen : text.length ≤ maxTargetLineChars) (hcolumn : column < text.length) :
    terminalTargetSpanAtCell parses text column =
      (findUrlTarget parses text column).or (remotePathSpan text column) := by
  rw [terminalTargetSpanAtCell, if_neg (by rw [h]; exact nofun), if_neg (by omega)]

theorem terminalTargetSpanAtCell_spec {span : TerminalTargetSpan}
    (h : terminalTargetSpanAtCell parses text column = some span) :
    text.any isControl = false ∧ column < text.length ∧
      (findUrlTarget parses text column).or (remotePathSpan text column) = some span := by
  unfold terminalTargetSpanAtCell at h
  split at h
  · cases h
  next hcontrol =>
  split at h
  · cases h
  next hbounds => exact ⟨by simpa using hcontrol, by omega, h⟩

theorem url_target_iff {url : List Char} :
    (∃ span, (findUrlTarget parses text column).or (remotePathSpan text column) = some span ∧
        span.target = .url url) ↔
      ∃ l x, UrlAt parses text column l x ∧ urlOf x = url := by
  constructor
  · rintro ⟨span, hspan, htarget⟩
    obtain hfound | ⟨-, hpath⟩ := Option.or_eq_some_iff.mp hspan
    · obtain ⟨l, x, hurl, rfl⟩ := findUrlTarget_spec hfound
      exact ⟨l, x, hurl, TerminalTarget.url.inj htarget⟩
    · obtain ⟨b, t, a, -, -, rfl⟩ := remotePathSpan_spec hpath
      cases htarget
  · rintro ⟨l, x, hurl, rfl⟩
    exact ⟨_, by rw [hurl.findUrlTarget_eq, Option.some_or], rfl⟩

theorem path_target_iff {path : List Char} :
    (∃ span, (findUrlTarget parses text column).or (remotePathSpan text column) = some span ∧
        span.target = .remotePath path) ↔
      (∀ l x, ¬UrlAt parses text column l x) ∧
        ∃ span, remotePathSpan text column = some span ∧ span.target = .remotePath path := by
  constructor
  · rintro ⟨span, hspan, htarget⟩
    obtain hfound | ⟨hnone, hpath⟩ := Option.or_eq_some_iff.mp hspan
    · obtain ⟨l, x, -, rfl⟩ := findUrlTarget_spec hfound
      cases htarget
    · refine ⟨fun l x hurl => ?_, span, hpath, htarget⟩
      rw [hurl.findUrlTarget_eq] at hnone
      cases hnone
  · rintro ⟨hno, span, hpath, htarget⟩
    refine ⟨span, ?_, htarget⟩
    cases hfound : findUrlTarget parses text column with
    | none => exact hpath
    | some found =>
      obtain ⟨l, x, hurl, -⟩ := findUrlTarget_spec hfound
      exact absurd hurl (hno l x)

/-- The whole line has the target of the shown part iff the cut is harmless there. -/
theorem span_same_iff {span : TerminalTargetSpan}
    (h : terminalTargetSpanAtCell parses shown column = some span)
    (hlen : (before ++ shown ++ after).length ≤ maxTargetLineChars)
    (hstart : span.start = 0 → before = []) (hend : span.end = shown.length → after = []) :
    (∃ span', terminalTargetSpanAtCell parses (before ++ shown ++ after)
        (before.length + column) = some span' ∧ span'.target = span.target) ↔
      CutHarmless parses before shown after column := by
  obtain ⟨hshown, hcolumn, hspan⟩ := terminalTargetSpanAtCell_spec h
  by_cases hcontrols : ∀ c ∈ before ++ after, isControl c = false
  case neg =>
    -- a control character anywhere in the line leaves it without targets
    constructor
    · rintro ⟨span', h', -⟩
      obtain ⟨hline, -, -⟩ := terminalTargetSpanAtCell_spec h'
      refine absurd (fun c hc => ?_) hcontrols
      have hc' : c ∈ before ++ shown ++ after := by
        obtain hc | hc := List.mem_append.mp hc <;> simp [hc]
      exact Bool.eq_false_iff.mpr fun hcontrol =>
        Bool.false_ne_true (hline ▸ List.any_eq_true.mpr ⟨c, hc', hcontrol⟩)
    · exact fun hharmless => absurd hharmless.controls hcontrols
  have hline : (before ++ shown ++ after).any isControl = false := by
    simp only [List.mem_append, or_imp, forall_and] at hcontrols
    rw [List.any_append, List.any_append, hshown]
    simpa using hcontrols
  have hcolumn' : before.length + column < (before ++ shown ++ after).length := by
    simp only [List.length_append]
    omega
  rw [terminalTargetSpanAtCell_eq hline hlen hcolumn']
  by_cases hurl : ∃ l x, UrlAt parses shown column l x
  · obtain ⟨l, x, hurl⟩ := hurl
    rw [hurl.findUrlTarget_eq, Option.some_or] at hspan
    obtain rfl := Option.some.inj hspan
    rw [url_target_iff, hurl.same_iff]
    constructor
    · intro hsame
      refine ⟨hcontrols, fun l' x' hurl' => ?_, fun hno => absurd hurl (hno l x)⟩
      obtain ⟨rfl, rfl⟩ := hurl.unique hurl'
      exact hsame
    · exact fun hharmless => hharmless.url l x hurl
  · have hno : ∀ l x, ¬UrlAt parses shown column l x := fun l x h => hurl ⟨l, x, h⟩
    have hnone : findUrlTarget parses shown column = none := by
      refine Option.eq_none_iff_forall_ne_some.mpr fun found hfound => ?_
      obtain ⟨l, x, h, -⟩ := findUrlTarget_spec hfound
      exact hno l x h
    rw [hnone, Option.none_or] at hspan
    obtain ⟨b, t, a, htoken, hpath, rfl⟩ := remotePathSpan_spec hspan
    have hb : b = [] → before = [] := fun hnil => hstart (by rw [hnil]; rfl)
    have ha : (pathOf t).length = t.length → a = [] → after = [] := by
      rintro heq rfl
      refine hend ?_
      rw [htoken.split, List.append_nil, List.length_append, heq]
    rw [path_target_iff, htoken.same_iff hpath hb ha]
    constructor
    · rintro ⟨hline', hsame⟩
      refine ⟨hcontrols, fun l x h => absurd h (hno l x), fun _ => ⟨hline', ?_⟩⟩
      intro b' t' a' htoken'
      obtain ⟨rfl, rfl, rfl⟩ := htoken.unique htoken'
      exact hsame
    · intro hharmless
      obtain ⟨hline', hsame⟩ := hharmless.path hno
      exact ⟨hline', hsame b t a htoken⟩

end Cut

/-! ## Rows -/

section Rows

variable {rows : List TerminalTargetRow}

/-- Every character stands in a row. -/
theorem exists_rowOffsets {offset i : Nat} (hle : offset ≤ i)
    (hlt : i < offset + (rowsText rows).length) :
    ∃ row start stop, (row, start, stop) ∈ rowOffsets rows offset ∧ start ≤ i ∧ i < stop := by
  induction rows generalizing offset with
  | nil =>
    rw [rowsText, List.flatMap_nil, List.length_nil] at hlt
    omega
  | cons row rows ih =>
    rw [rowsText, List.flatMap_cons, List.length_append] at hlt
    by_cases hrow : i < offset + row.text.length
    · exact ⟨row.row, offset, _, List.mem_cons_self, hle, hrow⟩
    · obtain ⟨row', start, stop, hmem, hstart, hstop⟩ :=
        ih (Nat.le_of_not_lt hrow) (by rw [rowsText]; omega)
      exact ⟨row', start, stop, List.mem_cons_of_mem _ hmem, hstart, hstop⟩

/-- A span of some length has a segment. -/
theorem segments_ne_nil {span : TerminalTargetSpan} (hspan : span.start < span.end)
    (hstart : span.start < (rowsText rows).length) :
    (rowOffsets rows 0).filterMap (rowSegment span) ≠ [] := by
  obtain ⟨row, start, stop, hmem, hle, hlt⟩ :=
    exists_rowOffsets (Nat.zero_le span.start) (by rwa [Nat.zero_add])
  have hsegment : rowSegment span (row, start, stop) =
      some ⟨row, max span.start start - start, min span.end stop - start⟩ :=
    if_pos (by omega)
  exact List.ne_nil_of_mem (List.mem_filterMap.mpr ⟨_, hmem, hsegment⟩)

end Rows

theorem span_bounds {span : TerminalTargetSpan}
    (h : terminalTargetSpanAtCell parses text column = some span) :
    span.start ≤ column ∧ column < span.end := by
  obtain ⟨-, -, hspan⟩ := terminalTargetSpanAtCell_spec h
  obtain hfound | ⟨-, hpath⟩ := Option.or_eq_some_iff.mp hspan
  · obtain ⟨l, x, hurl, rfl⟩ := findUrlTarget_spec hfound
    exact ⟨hurl.start, hurl.stop⟩
  · obtain ⟨b, t, a, -, htarget, rfl⟩ := remotePathSpan_spec hpath
    exact ⟨htarget.start, htarget.stop⟩

theorem spanMatch_eq_some {context : TerminalTargetContext} {span : TerminalTargetSpan}
    {found : TerminalTargetMatch} (h : spanMatch context span = some found) :
    found.target = span.target ∧ ¬(context.startsMidLogicalLine = true ∧ span.start = 0) ∧
      ¬(context.endsMidLogicalLine = true ∧ span.end = (rowsText context.rows).length) := by
  unfold spanMatch at h
  dsimp only at h
  split at h
  · cases h
  next hcut =>
  split at h
  · cases h
  · rw [← Option.some.inj h]
    exact ⟨rfl, not_or.mp hcut⟩

/-- A whole line has a match where it has a span. -/
theorem spanMatch_isSome (context : TerminalTargetContext) {span : TerminalTargetSpan}
    (hwhole : context.startsMidLogicalLine = false ∧ context.endsMidLogicalLine = false)
    (h : terminalTargetSpanAtCell parses (rowsText context.rows) column = some span) :
    ∃ found, spanMatch context span = some found := by
  obtain ⟨-, hcolumn, -⟩ := terminalTargetSpanAtCell_spec h
  obtain ⟨hstart, hstop⟩ := span_bounds h
  have hsegments : (rowOffsets context.rows 0).filterMap (rowSegment span) ≠ [] :=
    segments_ne_nil (by omega) (by omega)
  unfold spanMatch
  dsimp only
  rw [hwhole.1, hwhole.2, if_neg (by simp), if_neg hsegments]
  exact ⟨_, rfl⟩

theorem terminalTargetMatchAtContext_spec {context : TerminalTargetContext}
    {found : TerminalTargetMatch}
    (h : terminalTargetMatchAtContext parses context = some found) :
    context.rows.any (·.row == context.clickedRow) = true ∧
      ∃ span, terminalTargetSpanAtCell parses (rowsText context.rows) context.clickedCharacter =
        some span ∧ spanMatch context span = some found := by
  unfold terminalTargetMatchAtContext at h
  dsimp only at h
  split at h
  · cases h
  split at h
  · cases h
  next hrow =>
  obtain ⟨span, hspan, hfound⟩ := Option.bind_eq_some_iff.mp h
  exact ⟨by simpa using (not_or.mp hrow).1, span, hspan, hfound⟩

/-! ## The whole line and its shown part -/

/-- A shown part of a logical line has a target at a character: the whole line has the same target
    there iff the cut is harmless. -/
theorem cut_target_same_iff (parses : List Char → Bool)
    (before shown after : List TerminalTargetRow) (clickedRow column : Nat)
    (found : TerminalTargetMatch)
    (hlen : (rowsText (before ++ shown ++ after)).length ≤ maxTargetLineChars)
    (h : terminalTargetMatchAtContext parses
      ⟨shown, clickedRow, column, before ≠ [], after ≠ []⟩ = some found) :
    (∃ found', terminalTargetMatchAtContext parses ⟨before ++ shown ++ after, clickedRow,
        (rowsText before).length + column, false, false⟩ = some found' ∧
        found'.target = found.target) ↔
      CutHarmless parses (rowsText before) (rowsText shown) (rowsText after) column := by
  obtain ⟨hrow, span, hspan, hmatch⟩ := terminalTargetMatchAtContext_spec h
  obtain ⟨htarget, hfirst, hlast⟩ := spanMatch_eq_some hmatch
  -- a match at the edge of what is shown means that nothing was cut there
  have hstart : span.start = 0 → rowsText before = [] := by
    intro hzero
    by_cases hbefore : before = []
    · rw [hbefore]
      rfl
    · exact absurd ⟨decide_eq_true hbefore, hzero⟩ hfirst
  have hend : span.end = (rowsText shown).length → rowsText after = [] := by
    intro htotal
    by_cases hafter : after = []
    · rw [hafter]
      rfl
    · exact absurd ⟨decide_eq_true hafter, htotal⟩ hlast
  have htext : rowsText (before ++ shown ++ after) =
      rowsText before ++ rowsText shown ++ rowsText after := by
    simp only [rowsText, List.flatMap_append]
  rw [← span_same_iff hspan (by rwa [← htext]) hstart hend, htarget, ← htext]
  constructor
  · rintro ⟨found', hfound', hsame⟩
    obtain ⟨-, span', hspan', hmatch'⟩ := terminalTargetMatchAtContext_spec hfound'
    obtain ⟨htarget', -, -⟩ := spanMatch_eq_some hmatch'
    exact ⟨span', hspan', by rw [← htarget', hsame]⟩
  · rintro ⟨span', hspan', hsame⟩
    obtain ⟨found', hfound'⟩ := spanMatch_isSome ⟨before ++ shown ++ after, clickedRow,
      (rowsText before).length + column, false, false⟩ ⟨rfl, rfl⟩ hspan'
    obtain ⟨htarget', -, -⟩ := spanMatch_eq_some hfound'
    refine ⟨found', ?_, by rw [htarget', hsame]⟩
    obtain ⟨-, hcolumn, -⟩ := terminalTargetSpanAtCell_spec hspan'
    have hrows : before ++ shown ++ after ≠ [] := by
      rintro hnil
      rw [hnil] at hcolumn
      cases hcolumn
    have hclicked : (before ++ shown ++ after).any (·.row == clickedRow) = true := by
      rw [List.any_append, List.any_append, hrow]
      simp
    unfold terminalTargetMatchAtContext
    dsimp only
    rw [if_neg hrows, if_neg (by rw [hclicked]; simpa using hcolumn), hspan', Option.bind_some,
      hfound']

/-- A path that ends before the cut is the path of the whole line. -/
theorem path_before_cut : CutHarmless (fun _ => false) [] "see /srv/app for".toList
    " more".toList 6 :=
  (cut_target_same_iff (fun _ => false) [] [⟨0, "see /srv/app for".toList⟩]
    [⟨1, " more".toList⟩] 0 6 ⟨.remotePath "/srv/app".toList, [⟨0, 4, 12⟩]⟩ (by decide)
    (by decide)).mp ⟨⟨.remotePath "/srv/app".toList, [⟨0, 4, 12⟩]⟩, by decide, rfl⟩

/-- A dot at the cut is trimmed, so the host that goes on behind it is opened as a shorter one. -/
theorem host_cut_at_dot :
    ¬∀ (before shown after : List TerminalTargetRow) (clickedRow column : Nat)
      (found : TerminalTargetMatch),
      (rowsText (before ++ shown ++ after)).length ≤ maxTargetLineChars →
      terminalTargetMatchAtContext (fun _ => true)
        ⟨shown, clickedRow, column, before ≠ [], after ≠ []⟩ = some found →
      ∃ found', terminalTargetMatchAtContext (fun _ => true) ⟨before ++ shown ++ after, clickedRow,
        (rowsText before).length + column, false, false⟩ = some found' ∧
        found'.target = found.target := by
  intro h
  obtain ⟨found', hfound', htarget⟩ := h [] [⟨0, "https://example.test.".toList⟩]
    [⟨1, "com/x".toList⟩] 0 10 ⟨.url "https://example.test".toList, [⟨0, 0, 20⟩]⟩
    (by decide +kernel) (by decide +kernel)
  have hfull : terminalTargetMatchAtContext (fun _ => true)
      ⟨[⟨0, "https://example.test.".toList⟩, ⟨1, "com/x".toList⟩], 0, 10, false, false⟩ =
      some ⟨.url "https://example.test.com/x".toList, [⟨0, 0, 21⟩, ⟨1, 0, 5⟩]⟩ := by
    decide +kernel
  obtain rfl := Option.some.inj (hfull.symm.trans hfound')
  revert htarget
  decide

end AxSsh
