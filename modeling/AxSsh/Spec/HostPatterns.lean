import AxSsh.ForStd.Glob
import AxSsh.ForStd.Utf8
import AxSsh.ForStd.Wildcard
import AxSsh.Native.KnownHosts

/-!
# What a host pattern matches

`glob_match` compares two bytes before it looks for a star, so a `*` of the pattern that meets a
`*` of the host stands for that one byte.  It remembers the last star only.  `GlobTrack` is what it
keeps: since that star it has taken one byte of the host for each byte of the pattern.

A host field matches where some element of it does and no negated one does.

## Key results
- `globMatchFrom_iff`: the loop from any of its states
- `globMatch_iff_eager`: what `glob_match` finds
- `hostPatternsMatch_iff`: the elements of a host field
- `host_matching_iff`: where both are what they should be
-/

namespace AxSsh

open Glob

private theorem question_ne_star : '?'.toUInt8 ≠ '*'.toUInt8 := by decide

/-! ## The loop over bytes -/

def GlobTrack (pattern value : List UInt8) (star : Option StarPoint) : Prop :=
  ∀ afterStar starValue, star = some (afterStar, starValue) →
    ∃ literal taken, Taken '?'.toUInt8 literal taken ∧ afterStar = literal ++ pattern ∧
      starValue = taken ++ value

/-- What is left to find: a match of the rest, or one after the last star. -/
def GlobFindable (pattern value : List UInt8) : Option StarPoint → Prop
  | none => Eager '*'.toUInt8 '?'.toUInt8 pattern value
  | some (afterStar, starValue) =>
    ∃ rest, rest <:+ starValue ∧ Eager '*'.toUInt8 '?'.toUInt8 afterStar rest

theorem GlobTrack.refl (pattern value : List UInt8) :
    GlobTrack pattern value (some (pattern, value)) := by
  intro afterStar starValue h
  cases h
  exact ⟨[], [], .nil, rfl, rfl⟩

theorem GlobTrack.step {a b : UInt8} {pattern value : List UInt8} {star : Option StarPoint}
    (h : GlobTrack (a :: pattern) (b :: value) star) (hab : a = b ∨ a = '?'.toUInt8) :
    GlobTrack pattern value star := by
  intro afterStar starValue hstar
  obtain ⟨literal, taken, htaken, rfl, rfl⟩ := h _ _ hstar
  refine ⟨literal ++ [a], taken ++ [b], ?_, by simp, by simp⟩
  exact List.rel_append htaken (.cons hab .nil)

theorem GlobFindable.step_iff {a b : UInt8} {pattern value : List UInt8} {star : Option StarPoint}
    (hab : a = b ∨ a = '?'.toUInt8) :
    GlobFindable pattern value star ↔ GlobFindable (a :: pattern) (b :: value) star := by
  cases star with
  | none => exact (eager_take_iff question_ne_star hab).symm
  | some s => exact Iff.rfl

/-- A star that meets no star takes the place of the one remembered. -/
theorem GlobFindable.star_iff {pattern value : List UInt8} {star : Option StarPoint}
    (h : GlobTrack ('*'.toUInt8 :: pattern) value star) (hhead : value.head? ≠ some '*'.toUInt8) :
    GlobFindable pattern value (some (pattern, value)) ↔
      GlobFindable ('*'.toUInt8 :: pattern) value star := by
  cases star with
  | none => exact (eager_star_iff hhead question_ne_star).symm
  | some s =>
    obtain ⟨literal, taken, htaken, hs, hs'⟩ := h s.1 s.2 rfl
    rw [show s = (literal ++ '*'.toUInt8 :: pattern, taken ++ value) from Prod.ext hs hs']
    exact (exists_suffix_star_iff question_ne_star htaken hhead).symm

theorem GlobFindable.nil_iff {pattern : List UInt8} {star : Option StarPoint}
    (h : GlobTrack pattern [] star) :
    pattern.all (· == '*'.toUInt8) = true ↔ GlobFindable pattern [] star := by
  have hall : pattern.all (· == '*'.toUInt8) = true ↔
      Eager '*'.toUInt8 '?'.toUInt8 pattern [] := by
    simp [eager_empty_iff]
  rw [hall]
  cases star with
  | none => exact Iff.rfl
  | some s =>
    obtain ⟨literal, taken, htaken, hs, hs'⟩ := h s.1 s.2 rfl
    rw [show s = (literal ++ pattern, taken ++ []) from Prod.ext hs hs']
    exact (exists_suffix_empty_iff question_ne_star htaken).symm

/-- Where the rest does not match, what is left is to give the remembered star one more byte. -/
theorem GlobFindable.retry_iff {pattern value : List UInt8} {star : Option StarPoint}
    (h : GlobTrack pattern value star) (hno : ¬Eager '*'.toUInt8 '?'.toUInt8 pattern value)
    (hvalue : value ≠ []) :
    GlobFindable pattern value star ↔
      ∃ afterStar b backtrack, star = some (afterStar, b :: backtrack) ∧
        GlobFindable afterStar backtrack (some (afterStar, backtrack)) := by
  cases star with
  | none =>
    constructor
    · intro hfind
      exact absurd hfind hno
    · rintro ⟨afterStar, b, backtrack, hs, -⟩
      cases hs
  | some s =>
    obtain ⟨afterStar, starValue⟩ := s
    obtain ⟨literal, taken, htaken, rfl, rfl⟩ := h _ _ rfl
    -- what the star has taken so far leads nowhere
    have hnot : ¬Eager '*'.toUInt8 '?'.toUInt8 (literal ++ pattern) (taken ++ value) := by
      rwa [eager_append_iff question_ne_star htaken]
    cases hv : taken ++ value with
    | nil => exact absurd (List.append_eq_nil_iff.mp hv).2 hvalue
    | cons b backtrack =>
      rw [hv] at hnot
      -- so a match begins one byte later, if anywhere
      have hiff := Wildcard.exists_suffix_cons_iff
        (P := Eager '*'.toUInt8 '?'.toUInt8 (literal ++ pattern)) hnot
      constructor
      · intro hfind
        exact ⟨_, b, backtrack, rfl, hiff.mp hfind⟩
      · rintro ⟨afterStar, b', backtrack', hs, hfind⟩
        cases hs
        exact hiff.mpr hfind

/-! ## One turn of the loop -/

theorem globMatchFrom_nil {pattern : List UInt8} {star : Option StarPoint} {hstar} :
    globMatchFrom pattern [] star hstar = pattern.all (· == '*'.toUInt8) := by
  unfold globMatchFrom
  rfl

theorem globMatchFrom_take {a b : UInt8} {pattern value : List UInt8} {star : Option StarPoint}
    {hstar} (hab : a = b ∨ a = '?'.toUInt8) :
    ∃ hstar', globMatchFrom (a :: pattern) (b :: value) star hstar =
      globMatchFrom pattern value star hstar' := by
  rw [globMatchFrom.eq_def]
  dsimp only
  rw [if_pos hab]
  exact ⟨_, rfl⟩

theorem globMatchFrom_star {b : UInt8} {pattern value : List UInt8} {star : Option StarPoint}
    {hstar} (hb : b ≠ '*'.toUInt8) :
    globMatchFrom ('*'.toUInt8 :: pattern) (b :: value) star hstar =
      globMatchFrom pattern (b :: value) (some (pattern, b :: value)) (starPoint_le _ _) := by
  rw [globMatchFrom.eq_def]
  dsimp only
  rw [if_neg (fun h => h.elim (fun heq => hb heq.symm) (fun heq => question_ne_star heq.symm)),
    if_pos rfl]

theorem globMatchFrom_retry {b : UInt8} {pattern value : List UInt8} {star : Option StarPoint}
    {hstar} (hno : ∀ a ∈ pattern.head?, ¬(a = b ∨ a = '?'.toUInt8) ∧ a ≠ '*'.toUInt8) :
    globMatchFrom pattern (b :: value) star hstar = true ↔
      ∃ afterStar c backtrack, star = some (afterStar, c :: backtrack) ∧
        globMatchFrom afterStar backtrack (some (afterStar, backtrack)) (starPoint_le _ _) =
          true := by
  rw [globMatchFrom.eq_def]
  dsimp only
  cases pattern with
  | nil => rcases star with _ | ⟨afterStar, _ | ⟨c, backtrack⟩⟩ <;> simp
  | cons a pattern' =>
    obtain ⟨hab, ha⟩ := hno a rfl
    dsimp only
    rw [if_neg hab, if_neg ha]
    rcases star with _ | ⟨afterStar, _ | ⟨c, backtrack⟩⟩ <;> simp

/-- The loop finds what there is to find.  The recursion is the loop's own: along the pattern after
    the last star, then along the value where that star ends. -/
theorem globMatchFrom_iff : ∀ (pattern value : List UInt8) (star : Option StarPoint) (hstar),
    GlobTrack pattern value star →
      (globMatchFrom pattern value star hstar = true ↔ GlobFindable pattern value star)
  | pattern, [], star, hstar, htrack => by
    rw [globMatchFrom_nil]
    exact GlobFindable.nil_iff htrack
  | [], b :: value, star, hstar, htrack => by
    rw [globMatchFrom_retry (by simp),
      GlobFindable.retry_iff htrack (by simp [eager_nil_iff]) (List.cons_ne_nil b value)]
    refine exists_congr fun afterStar => exists_congr fun c => exists_congr fun backtrack =>
      and_congr_right fun hs => ?_
    exact globMatchFrom_iff afterStar backtrack _ _ (.refl _ _)
  | a :: pattern, b :: value, star, hstar, htrack => by
    -- the value advances with a literal or a question mark, else a star is opened, else the last
    -- star takes one more
    by_cases hab : a = b ∨ a = '?'.toUInt8
    · obtain ⟨hstar', heq⟩ : ∃ hstar', globMatchFrom (a :: pattern) (b :: value) star hstar =
          globMatchFrom pattern value star hstar' := globMatchFrom_take hab
      rw [heq, globMatchFrom_iff pattern value star hstar' (htrack.step hab)]
      exact GlobFindable.step_iff hab
    · by_cases ha : a = '*'.toUInt8
      · subst ha
        have hb : b ≠ '*'.toUInt8 := fun heq => hab (.inl heq.symm)
        rw [globMatchFrom_star hb, globMatchFrom_iff pattern (b :: value) _ _ (.refl _ _)]
        exact GlobFindable.star_iff htrack fun hhead => hb (Option.some.inj hhead)
      · have hno : ∀ c ∈ (a :: pattern).head?, ¬(c = b ∨ c = '?'.toUInt8) ∧ c ≠ '*'.toUInt8 := by
          intro c hc
          cases hc
          exact ⟨hab, ha⟩
        rw [globMatchFrom_retry hno,
          GlobFindable.retry_iff htrack (not_eager_cons hab ha) (List.cons_ne_nil b value)]
        refine exists_congr fun afterStar => exists_congr fun c => exists_congr fun backtrack =>
          and_congr_right fun hs => ?_
        exact globMatchFrom_iff afterStar backtrack _ _ (.refl _ _)
termination_by pattern value star =>
  ((star.map fun s => s.1.length).getD (pattern.length + 1),
    (star.map fun s => s.2.length).getD 0, value.length)
decreasing_by
  · subst hs
    simp only [Option.map_some, Option.getD_some]
    refine Prod.Lex.right _ (Prod.Lex.left _ _ ?_)
    simp
  · cases star with
    | none => exact Prod.Lex.left _ _ (by simp)
    | some s => exact Prod.Lex.right _ (Prod.Lex.right _ (by simp))
  · refine Prod.Lex.left _ _ ?_
    cases star with
    | none =>
      simp only [Option.map_some, Option.map_none, Option.getD_some, Option.getD_none,
        List.length_cons]
      omega
    | some s =>
      have hs := (hstar s rfl).1
      simp only [List.length_cons] at hs
      simp only [Option.map_some, Option.getD_some]
      omega
  · subst hs
    simp only [Option.map_some, Option.getD_some]
    refine Prod.Lex.right _ (Prod.Lex.left _ _ ?_)
    simp

/-- What `glob_match` finds. -/
theorem globMatch_iff_eager (pattern value : List Char) :
    globMatch pattern value = true ↔
      Eager '*'.toUInt8 '?'.toUInt8 (bytes pattern) (bytes value) :=
  globMatchFrom_iff _ _ none _ nofun

/-! ## Host fields -/

section

variable {Key : Type} (F : KeyFormat Key)

/-- An element of a host field without its negation matches a host, where `M` says what a pattern
    matches. -/
def ElementMatches (M : List UInt8 → List UInt8 → Prop) (pattern candidate : List Char) : Prop :=
  if "|1|".toList.isPrefixOf pattern then patternMatches F pattern candidate = true
  else M (bytes pattern) (bytes candidate)

/-- Some element of a host field matches a candidate, and no negated one does. -/
def FieldMatches (M : List UInt8 → List UInt8 → Prop) (patterns : List Char)
    (candidates : List (List Char)) : Prop :=
  (∃ element ∈ patterns.splitOn ',', element ≠ [] ∧ element.head? ≠ some '!' ∧
    ∃ candidate ∈ candidates, candidate ≠ [] ∧ ElementMatches F M element candidate) ∧
  ∀ element ∈ patterns.splitOn ',', element.head? = some '!' →
    ∀ candidate ∈ candidates, candidate ≠ [] → ¬ElementMatches F M element.tail candidate

variable {F}

theorem patternMatches_iff {pattern candidate : List Char} :
    patternMatches F pattern candidate = true ↔
      ElementMatches F (Eager '*'.toUInt8 '?'.toUInt8) pattern candidate := by
  unfold ElementMatches
  split
  · rfl
  · next hhashed =>
    rw [patternMatches, if_neg hhashed]
    exact globMatch_iff_eager pattern candidate

/-- Whether a pattern matches some candidate. -/
def matchesSome (F : KeyFormat Key) (candidates : List (List Char)) (pattern : List Char) : Bool :=
  (candidates.filter (· ≠ [])).any (patternMatches F pattern)

theorem matchesSome_iff {candidates : List (List Char)} {pattern : List Char} :
    matchesSome F candidates pattern = true ↔ ∃ candidate ∈ candidates, candidate ≠ [] ∧
      ElementMatches F (Eager '*'.toUInt8 '?'.toUInt8) pattern candidate := by
  simp only [matchesSome, List.any_eq_true, List.mem_filter, decide_eq_true_eq, and_assoc,
    patternMatches_iff]

theorem hostPatternsMatchFrom_cons (candidates elements : List (List Char)) (element : List Char)
    (matched : Bool) :
    hostPatternsMatchFrom F candidates (element :: elements) matched =
      if element = [] then hostPatternsMatchFrom F candidates elements matched
      else if element.head? = some '!' then
        !matchesSome F candidates element.tail &&
          hostPatternsMatchFrom F candidates elements matched
      else
        hostPatternsMatchFrom F candidates elements
          (matched || matchesSome F candidates element) := by
  rw [hostPatternsMatchFrom]
  split
  · rfl
  · by_cases hneg : element.head? = some '!'
    · simp only [hneg, ↓reduceIte, true_and]
      change (if matchesSome F candidates element.tail = true then false else
        hostPatternsMatchFrom F candidates elements
          (matched || matchesSome F candidates element.tail)) = _
      cases matchesSome F candidates element.tail with
      | true => rfl
      | false => rw [Bool.or_false]; rfl
    · simp only [hneg, ↓reduceIte, false_and]
      rfl

/-- The loop over the elements that are left. -/
theorem hostPatternsMatchFrom_iff {candidates elements : List (List Char)} {matched : Bool} :
    hostPatternsMatchFrom F candidates elements matched = true ↔
      (matched = true ∨ ∃ element ∈ elements, element ≠ [] ∧ element.head? ≠ some '!' ∧
        matchesSome F candidates element = true) ∧
      ∀ element ∈ elements, element.head? = some '!' →
        matchesSome F candidates element.tail = false := by
  induction elements generalizing matched with
  | nil => simp [hostPatternsMatchFrom]
  | cons element elements ih =>
    rw [hostPatternsMatchFrom_cons, List.forall_mem_cons, List.exists_mem_cons_iff]
    by_cases hnil : element = []
    · simp [hnil, ih]
    · by_cases hneg : element.head? = some '!'
      · simp only [hnil, hneg, ↓reduceIte, Bool.and_eq_true, Bool.not_eq_true', ih]
        simp only [ne_eq, not_true_eq_false, false_and, and_false, false_or, true_imp_iff]
        exact and_left_comm
      · have hfound : (matched || matchesSome F candidates element) = true ↔
            matched = true ∨ matchesSome F candidates element = true := Bool.or_eq_true_iff
        simp only [hnil, hneg, ↓reduceIte, ih, hfound, ne_eq, not_false_eq_true, true_and,
          false_imp_iff, or_assoc]

/-- A host field, element by element. -/
theorem hostPatternsMatch_iff {patterns : List Char} {candidates : List (List Char)} :
    hostPatternsMatch F patterns candidates = true ↔
      FieldMatches F (Eager '*'.toUInt8 '?'.toUInt8) patterns candidates := by
  rw [hostPatternsMatch, hostPatternsMatchFrom_iff, FieldMatches]
  simp only [Bool.false_eq_true, false_or, matchesSome_iff, ← Bool.not_eq_true]
  push Not
  rfl

/-- A star of the pattern that meets one of the host and could stand for more is the only thing
    that is missed. -/
theorem host_matching_iff (F : KeyFormat Key) :
    (∀ pattern value : List Char,
      (globMatch pattern value = true ↔
        Splits '*'.toUInt8 '?'.toUInt8 (bytes pattern) (bytes value)) ↔
      (Splits '*'.toUInt8 '?'.toUInt8 (bytes pattern) (bytes value) →
        Eager '*'.toUInt8 '?'.toUInt8 (bytes pattern) (bytes value))) ∧
    ∀ (patterns : List Char) (candidates : List (List Char)),
      (hostPatternsMatch F patterns candidates = true ↔
        FieldMatches F (Splits '*'.toUInt8 '?'.toUInt8) patterns candidates) ↔
      (FieldMatches F (Splits '*'.toUInt8 '?'.toUInt8) patterns candidates ↔
        FieldMatches F (Eager '*'.toUInt8 '?'.toUInt8) patterns candidates) := by
  constructor
  · intro pattern value
    rw [globMatch_iff_eager]
    exact ⟨fun h => h.mpr, fun h => ⟨Eager.splits, h⟩⟩
  · intro patterns candidates
    rw [hostPatternsMatch_iff]
    exact ⟨Iff.symm, Iff.symm⟩

theorem globMatch_misses_split :
    globMatch ['*', 'a'] ['*', 'x', 'a'] = false ∧
    Splits '*'.toUInt8 '?'.toUInt8 (bytes ['*', 'a']) (bytes ['*', 'x', 'a']) := by
  have hpattern : bytes ['*', 'a'] = ['*'.toUInt8, 'a'.toUInt8] := by decide
  have hvalue : bytes ['*', 'x', 'a'] = ['*'.toUInt8, 'x'.toUInt8, 'a'.toUInt8] := by decide
  constructor
  · rw [← Bool.not_eq_true, globMatch_iff_eager, hpattern, hvalue,
      eager_take_iff question_ne_star (.inl rfl)]
    exact not_eager_cons (by decide) (by decide)
  · rw [hpattern, hvalue]
    exact ⟨[['*'.toUInt8, 'x'.toUInt8], ['a'.toUInt8]],
      .cons (.inl rfl) (.cons (.inr (.inr rfl)) .nil), rfl⟩

/-! ## Hosts without stars -/

end

end AxSsh
