import AxSsh.ForStd.Utf8
import AxSsh.ForStd.Wildcard
import AxSsh.Native.DownloadDiscovery

/-!
# What a transfer filter matches

The matcher goes over the bytes of a pattern and of a name and remembers only the last wildcard.
`OnTrack` is what it keeps: since that wildcard it has read the same bytes of both.

## Key results
- `wildcardFrom_iff`: the loop from any of its states
- `matches_bytes_iff`: matching bytes is matching characters
- `wildcardMatches_iff`: the matcher equals its specification
-/

namespace AxSsh

open Wildcard

/-! ## The loop over bytes -/

def OnTrack (pattern value : List UInt8) (star : Option StarPoint) : Prop :=
  ∀ afterStar starValue, star = some (afterStar, starValue) →
    ∃ literal, '*'.toUInt8 ∉ literal ∧ afterStar = literal ++ pattern ∧
      starValue = literal ++ value

/-- What is left to find: a match of the rest, or one after the last wildcard. -/
def Findable (pattern value : List UInt8) : Option StarPoint → Prop
  | none => Matches '*'.toUInt8 pattern value
  | some (afterStar, starValue) =>
    ∃ rest, rest <:+ starValue ∧ Matches '*'.toUInt8 afterStar rest

theorem OnTrack.refl (pattern value : List UInt8) :
    OnTrack pattern value (some (pattern, value)) := by
  intro afterStar starValue h
  cases h
  exact ⟨[], List.not_mem_nil, rfl, rfl⟩

theorem OnTrack.step {a : UInt8} {pattern value : List UInt8} {star : Option StarPoint}
    (h : OnTrack (a :: pattern) (a :: value) star) (ha : a ≠ '*'.toUInt8) :
    OnTrack pattern value star := by
  intro afterStar starValue hstar
  obtain ⟨literal, hmem, rfl, rfl⟩ := h _ _ hstar
  refine ⟨literal ++ [a], ?_, by simp, by simp⟩
  rw [List.mem_append, List.mem_singleton, not_or]
  exact ⟨hmem, Ne.symm ha⟩

theorem Findable.step_iff {a : UInt8} {pattern value : List UInt8} {star : Option StarPoint}
    (ha : a ≠ '*'.toUInt8) :
    Findable pattern value star ↔ Findable (a :: pattern) (a :: value) star := by
  cases star with
  | none => simp [Findable, matches_cons_iff ha]
  | some s => exact Iff.rfl

/-- A wildcard takes the place of the one remembered. -/
theorem Findable.star_iff {pattern value : List UInt8} {star : Option StarPoint}
    (h : OnTrack ('*'.toUInt8 :: pattern) value star) :
    Findable pattern value (some (pattern, value)) ↔
      Findable ('*'.toUInt8 :: pattern) value star := by
  cases star with
  | none => exact matches_star_iff.symm
  | some s =>
    obtain ⟨literal, hmem, hs, hs'⟩ := h s.1 s.2 rfl
    rw [show s = (literal ++ '*'.toUInt8 :: pattern, literal ++ value) from Prod.ext hs hs']
    exact (exists_suffix_matches_iff hmem).symm

theorem Findable.nil_iff {pattern : List UInt8} {star : Option StarPoint}
    (h : OnTrack pattern [] star) :
    pattern.all (· == '*'.toUInt8) = true ↔ Findable pattern [] star := by
  have hall : pattern.all (· == '*'.toUInt8) = true ↔ Matches '*'.toUInt8 pattern [] := by
    simp [matches_empty_iff]
  rw [hall]
  cases star with
  | none => exact Iff.rfl
  | some s =>
    obtain ⟨literal, hmem, hs, hs'⟩ := h s.1 s.2 rfl
    rw [show s = (literal ++ pattern, literal ++ []) from Prod.ext hs hs']
    exact (exists_suffix_append_nil_iff hmem).symm

/-- Where the rest does not match, what is left is to give the remembered wildcard one more
    byte. -/
theorem Findable.retry_iff {pattern value : List UInt8} {star : Option StarPoint}
    (h : OnTrack pattern value star) (hno : ¬Matches '*'.toUInt8 pattern value)
    (hvalue : value ≠ []) :
    Findable pattern value star ↔
      ∃ afterStar b backtrack, star = some (afterStar, b :: backtrack) ∧
        Findable afterStar backtrack (some (afterStar, backtrack)) := by
  cases star with
  | none =>
    constructor
    · intro hfind
      exact absurd hfind hno
    · rintro ⟨afterStar, b, backtrack, hs, -⟩
      cases hs
  | some s =>
    obtain ⟨afterStar, starValue⟩ := s
    obtain ⟨literal, hmem, rfl, rfl⟩ := h _ _ rfl
    -- what the star has taken so far leads nowhere
    have hnot : ¬Matches '*'.toUInt8 (literal ++ pattern) (literal ++ value) := by
      rw [matches_append_iff hmem]
      rintro ⟨rest, hrest, hmatch⟩
      exact hno (List.append_cancel_left hrest ▸ hmatch)
    cases hv : literal ++ value with
    | nil => exact absurd (List.append_eq_nil_iff.mp hv).2 hvalue
    | cons b backtrack =>
      rw [hv] at hnot
      -- so a match begins one byte later, if anywhere
      have hiff := exists_suffix_cons_iff (P := Matches '*'.toUInt8 (literal ++ pattern)) hnot
      constructor
      · intro hfind
        exact ⟨_, b, backtrack, rfl, hiff.mp hfind⟩
      · rintro ⟨afterStar, b', backtrack', hs, hfind⟩
        cases hs
        exact hiff.mpr hfind

/-! ## One turn of the loop -/

theorem wildcardFrom_nil {pattern : List UInt8} {star : Option StarPoint} {hstar} :
    wildcardFrom pattern [] star hstar = pattern.all (· == '*'.toUInt8) := by
  unfold wildcardFrom
  rfl

theorem wildcardFrom_step {a : UInt8} {pattern value : List UInt8} {star : Option StarPoint}
    {hstar} (ha : a ≠ '*'.toUInt8) :
    ∃ hstar', wildcardFrom (a :: pattern) (a :: value) star hstar =
      wildcardFrom pattern value star hstar' := by
  rw [wildcardFrom.eq_def]
  dsimp only
  rw [if_pos ⟨ha, rfl⟩]
  exact ⟨_, rfl⟩

theorem wildcardFrom_star {v : UInt8} {pattern value : List UInt8} {star : Option StarPoint}
    {hstar} :
    wildcardFrom ('*'.toUInt8 :: pattern) (v :: value) star hstar =
      wildcardFrom pattern (v :: value) (some (pattern, v :: value)) (starPoint_le _ _) := by
  rw [wildcardFrom.eq_def]
  dsimp only
  rw [if_neg (fun h => h.1 rfl), if_pos rfl]

theorem wildcardFrom_retry {v : UInt8} {pattern value : List UInt8} {star : Option StarPoint}
    {hstar} (hno : pattern.head? ≠ some v) (hstar' : pattern.head? ≠ some '*'.toUInt8) :
    wildcardFrom pattern (v :: value) star hstar = true ↔
      ∃ afterStar b backtrack, star = some (afterStar, b :: backtrack) ∧
        wildcardFrom afterStar backtrack (some (afterStar, backtrack)) (starPoint_le _ _) =
          true := by
  rw [wildcardFrom.eq_def]
  dsimp only
  cases pattern with
  | nil => rcases star with _ | ⟨afterStar, _ | ⟨b, backtrack⟩⟩ <;> simp
  | cons p pattern' =>
    dsimp only
    rw [if_neg (fun h => hno (congrArg some h.2)), if_neg (fun h => hstar' (congrArg some h))]
    rcases star with _ | ⟨afterStar, _ | ⟨b, backtrack⟩⟩ <;> simp

/-- The loop finds what there is to find.  The recursion is the loop's own: along the pattern after
    the last wildcard, then along the value where that wildcard ends. -/
theorem wildcardFrom_iff : ∀ (pattern value : List UInt8) (star : Option StarPoint) (hstar),
    OnTrack pattern value star →
      (wildcardFrom pattern value star hstar = true ↔ Findable pattern value star)
  | pattern, [], star, hstar, htrack => by
    rw [wildcardFrom_nil]
    exact Findable.nil_iff htrack
  | [], v :: value, star, hstar, htrack => by
    rw [wildcardFrom_retry (by simp) (by simp),
      Findable.retry_iff htrack (by simp [matches_nil_iff]) (List.cons_ne_nil v value)]
    refine exists_congr fun afterStar => exists_congr fun b => exists_congr fun backtrack =>
      and_congr_right fun hs => ?_
    exact wildcardFrom_iff afterStar backtrack _ _ (.refl _ _)
  | p :: pattern, v :: value, star, hstar, htrack => by
    -- a star is opened, else the value advances, else the last star takes one more
    by_cases hp : p = '*'.toUInt8
    · subst hp
      rw [wildcardFrom_star, wildcardFrom_iff pattern (v :: value) _ _ (.refl _ _)]
      exact Findable.star_iff htrack
    · by_cases hv : p = v
      · subst hv
        obtain ⟨hstar', heq⟩ := wildcardFrom_step hp
        rw [heq, wildcardFrom_iff pattern value star hstar' (htrack.step hp)]
        exact Findable.step_iff hp
      · have hno : ¬Matches '*'.toUInt8 (p :: pattern) (v :: value) := by
          rw [matches_cons_iff hp]
          rintro ⟨rest, heq, -⟩
          exact hv (List.cons.inj heq).1.symm
        rw [wildcardFrom_retry (by simpa using hv) (by simpa using hp),
          Findable.retry_iff htrack hno (List.cons_ne_nil v value)]
        refine exists_congr fun afterStar => exists_congr fun b => exists_congr fun backtrack =>
          and_congr_right fun hs => ?_
        exact wildcardFrom_iff afterStar backtrack _ _ (.refl _ _)
termination_by pattern value star =>
  ((star.map fun s => s.1.length).getD (pattern.length + 1),
    (star.map fun s => s.2.length).getD 0, value.length)
decreasing_by
  · subst hs
    simp only [Option.map_some, Option.getD_some]
    refine Prod.Lex.right _ (Prod.Lex.left _ _ ?_)
    simp
  · refine Prod.Lex.left _ _ ?_
    cases star with
    | none =>
      simp only [Option.map_some, Option.map_none, Option.getD_some, Option.getD_none,
        List.length_cons]
      omega
    | some s =>
      have hs := (hstar s rfl).1
      simp only [List.length_cons] at hs
      simp only [Option.map_some, Option.getD_some]
      omega
  · cases star with
    | none => exact Prod.Lex.left _ _ (by simp)
    | some s => exact Prod.Lex.right _ (Prod.Lex.right _ (by simp))
  · subst hs
    simp only [Option.map_some, Option.getD_some]
    refine Prod.Lex.right _ (Prod.Lex.left _ _ ?_)
    simp

/-! ## Bytes and characters -/

theorem utf8_star : String.utf8EncodeChar '*' = ['*'.toUInt8] := by decide

theorem star_notMem {c : Char} (hc : c ≠ '*') : '*'.toUInt8 ∉ String.utf8EncodeChar c := by
  intro hmem
  have hnat := (Utf8.toNat_eq_of_mem hmem (by decide)).2
  exact hc (Char.toNat_inj.mp hnat)

theorem bytes_cons (c : Char) (text : List Char) :
    bytes (c :: text) = String.utf8EncodeChar c ++ bytes text :=
  List.flatMap_cons

theorem matches_bytes {pattern value : List Char} (h : Matches '*' pattern value) :
    Matches '*'.toUInt8 (bytes pattern) (bytes value) := by
  induction h with
  | nil => exact .nil
  | @cons c pattern value hc _ ih =>
    rw [bytes_cons, bytes_cons, matches_append_iff (star_notMem hc)]
    exact ⟨_, rfl, ih⟩
  | @star pattern part value _ ih =>
    have hpart : bytes (part ++ value) = bytes part ++ bytes value := List.flatMap_append
    rw [bytes_cons, utf8_star, hpart]
    exact .star ih

/-- What follows a wildcard and does not begin with another begins at the boundary of a
    character. -/
theorem exists_suffix_of_bytes {c : Char} {pattern value : List Char} {rest : List UInt8}
    (hc : c ≠ '*') (hrest : rest <:+ bytes value)
    (h : Matches '*'.toUInt8 (bytes (c :: pattern)) rest) :
    ∃ tail, tail <:+ value ∧ bytes tail = rest := by
  obtain ⟨before, hbefore⟩ := hrest
  rw [bytes_cons, matches_append_iff (star_notMem hc)] at h
  obtain ⟨after, rfl, -⟩ := h
  obtain ⟨b, tail, hb, hfirst⟩ := Utf8.utf8EncodeChar_eq_cons c
  rw [hb, List.cons_append] at hbefore ⊢
  exact Utf8.exists_boundary hbefore.symm hfirst

theorem matches_of_bytes {pattern value : List Char}
    (h : Matches '*'.toUInt8 (bytes pattern) (bytes value)) : Matches '*' pattern value := by
  induction pattern generalizing value with
  | nil =>
    rw [bytes, List.flatMap_nil, matches_nil_iff] at h
    cases value with
    | nil => exact .nil
    | cons c value =>
      rw [bytes_cons, List.append_eq_nil_iff] at h
      exact absurd h.1 String.utf8EncodeChar_ne_nil
  | cons c pattern ih =>
    by_cases hc : c = '*'
    · subst hc
      rw [bytes_cons, utf8_star, List.singleton_append, matches_star_iff] at h
      obtain ⟨rest, hrest, hmatch⟩ := h
      cases pattern with
      | nil =>
        have hall : Matches '*' ['*'] (value ++ []) := .star .nil
        rwa [List.append_nil] at hall
      | cons d pattern =>
        by_cases hd : d = '*'
        · subst hd
          -- the second wildcard takes what the first one took
          rw [bytes_cons, utf8_star, List.singleton_append, matches_star_iff] at hmatch
          obtain ⟨rest', hrest', hmatch'⟩ := hmatch
          have hone : Matches '*' ('*' :: pattern) value := by
            refine ih ?_
            rw [bytes_cons, utf8_star, List.singleton_append, matches_star_iff]
            exact ⟨rest', hrest'.trans hrest, hmatch'⟩
          exact matches_star_iff.mpr ⟨value, List.suffix_rfl, hone⟩
        · obtain ⟨tail, ⟨part, rfl⟩, rfl⟩ := exists_suffix_of_bytes hd hrest hmatch
          exact .star (ih hmatch)
    · rw [bytes_cons, matches_append_iff (star_notMem hc)] at h
      obtain ⟨rest, heq, hmatch⟩ := h
      obtain ⟨value', rfl, rfl⟩ := Utf8.flatMap_utf8_eq_append heq
      exact .cons hc (ih hmatch)

theorem matches_bytes_iff {pattern value : List Char} :
    Matches '*'.toUInt8 (bytes pattern) (bytes value) ↔ Matches '*' pattern value :=
  ⟨matches_of_bytes, matches_bytes⟩

theorem wildcardMatches_iff_matches {pattern value : List Char} :
    wildcardMatches pattern value = true ↔ Matches '*' pattern value := by
  rw [← matches_bytes_iff]
  exact wildcardFrom_iff _ _ none _ (by intro _ _ h; cases h)

/-! ## The specification -/

/-- The matcher says whether the name can be split so that each `*` stands for any part and each
    other character for itself. -/
theorem wildcardMatches_iff (pattern value : List Char) :
    wildcardMatches pattern value = true ↔ Splits '*' pattern value := by
  rw [splits_iff_matches, wildcardMatches_iff_matches]

/-- As `Splits`, with `?` for any one character. -/
def SplitsWithAny (pattern value : List Char) : Prop :=
  ∃ parts, List.Forall₂ (fun c part => c = '*' ∨ (c = '?' ∧ part.length = 1) ∨ part = [c])
    pattern parts ∧ value = parts.flatten

/-- A question mark is an ordinary character. -/
theorem question_mark_literal :
    ¬∀ pattern value, wildcardMatches pattern value = true ↔ SplitsWithAny pattern value := by
  intro h
  have hsplit : SplitsWithAny ['?'] ['a'] :=
    ⟨[['a']], .cons (.inr (.inl ⟨rfl, rfl⟩)) .nil, rfl⟩
  have hmatch := (h ['?'] ['a']).mpr hsplit
  rw [wildcardMatches_iff_matches, matches_cons_iff (by decide)] at hmatch
  obtain ⟨rest, heq, -⟩ := hmatch
  exact absurd (List.cons.inj heq).1 (by decide)

end AxSsh
