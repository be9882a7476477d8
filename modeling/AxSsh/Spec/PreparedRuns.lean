import AxSsh.Native.TerminalRender

/-!
# Splitting and preparing runs

What a rendered run shows is read in two ways: its characters, and its cells with all that a reader
sees in a cell but the letter and its color.  Splitting a run at its highlights and preparing the
runs for their fonts cut runs into pieces and join others, and change neither.

## Key results
- `flatMap_splitSemanticRun_places`: the pieces of a run have its cells
- `PrepareKeeps.prepare`: what the preparation keeps
- `followOn_prepare`: prepared runs follow one another as they did before
-/

namespace AxSsh

open Coalesce

/-! ## Cells -/

/-- What is seen in a cell. -/
structure CellLook where
  background : RgbColor
  decorationForeground : RgbColor
  bold : Bool
  italic : Bool
  underline : Bool
  underlineStyle : TerminalUnderlineStyle
  strikethrough : Bool
  hyperlink : Option String
deriving DecidableEq, Repr

namespace RenderedTerminalRun

def characters (run : RenderedTerminalRun) : List Char := run.text.toList

def look (run : RenderedTerminalRun) : CellLook where
  background := run.background
  decorationForeground := run.decorationForeground
  bold := run.bold
  italic := run.italic
  underline := run.underline
  underlineStyle := run.underlineStyle
  strikethrough := run.strikethrough
  hyperlink := run.hyperlink

def cellLooks (run : RenderedTerminalRun) : List (Nat × CellLook) :=
  places run.column run.cells run.look

/-- The runs follow one another from one column to another. -/
abbrev FollowOn (a : Nat) (runs : List RenderedTerminalRun) (n : Nat) : Prop :=
  Abutting RenderedTerminalRun.column RenderedTerminalRun.cells a runs n

end RenderedTerminalRun

open RenderedTerminalRun

/-! ## Highlights -/

/-- Spans in order that do not overlap, from one place of a text to another. -/
def OrderedSpans : Nat → List HighlightSpan → Nat → Prop
  | a, [], n => a ≤ n
  | a, span :: spans, n => a ≤ span.start ∧ span.start ≤ span.stop ∧ OrderedSpans span.stop spans n

theorem OrderedSpans.le {a n : Nat} {spans : List HighlightSpan} (h : OrderedSpans a spans n) :
    a ≤ n := by
  induction spans generalizing a with
  | nil => exact h
  | cons span spans ih =>
    have hrest := ih h.2.2
    have hspan := h.2.1
    have hstart := h.1
    omega

theorem utf8ByteSize_eq_length {text : String} (h : isAsciiText text = true) :
    text.utf8ByteSize = text.length := by
  have hchars : ∀ l : List Char, l.all (·.toNat < 128) = true →
      (String.ofList l).utf8ByteSize = l.length := by
    intro l hl
    induction l with
    | nil => rfl
    | cons c l ih =>
      obtain ⟨hc, hl⟩ := Bool.and_eq_true_iff.mp hl
      have hsize : c.utf8Size = 1 := by
        have hval : c.val.toNat < 128 := by simpa using hc
        unfold Char.utf8Size
        rw [if_pos]
        rw [UInt32.le_iff_toNat_le]
        exact Nat.le_of_lt_succ hval
      rw [← List.singleton_append, String.ofList_append, String.utf8ByteSize_append, ih hl]
      simp [hsize, Nat.add_comm]
  have hall := hchars text.toList h
  rwa [String.ofList_toList, String.length_toList] at hall

section Split

variable {run : RenderedTerminalRun} {palette : SemanticPalette} {highlights : List HighlightSpan}
  {start stop : Nat} {highlight : Option SemanticHighlight}

/-- A loop over ordered spans, for a reading of which each slice takes its part. -/
theorem flatMap_splitFrom {γ : Type} {read : RenderedTerminalRun → List γ}
    (rest : Nat → List γ)
    (hslice : ∀ start stop highlight, start ≤ stop → stop ≤ run.text.utf8ByteSize →
      read (sliceRun run palette start stop highlight) ++ rest stop = rest start)
    (hend : rest run.text.utf8ByteSize = [])
    (h : OrderedSpans start highlights run.text.utf8ByteSize) :
    (splitFrom run palette start highlights).flatMap read = rest start := by
  induction highlights generalizing start with
  | nil =>
    have hle : start ≤ run.text.utf8ByteSize := h
    unfold splitFrom
    split
    · have hlast := hslice start _ none hle (Nat.le_refl _)
      rw [hend] at hlast
      simpa using hlast
    · obtain rfl : start = run.text.utf8ByteSize := by omega
      simp [hend]
  | cons span highlights ih =>
    obtain ⟨hstart, hspan, hrest⟩ := h
    have hstop := hrest.le
    have hmatch : read (sliceRun run palette span.start span.stop (some span.highlight)) ++
        rest span.stop = rest span.start := hslice _ _ _ hspan hstop
    unfold splitFrom
    rw [List.flatMap_append, List.flatMap_cons, ih hrest, hmatch]
    split
    · -- the text before the span is a slice of its own
      simpa using hslice start span.start none hstart (by omega)
    · obtain rfl : start = span.start := by omega
      rfl

theorem flatMap_splitSemanticRun_characters (hascii : isAsciiText run.text = true)
    (h : OrderedSpans 0 highlights run.text.utf8ByteSize) :
    (splitSemanticRun run highlights palette).flatMap characters = run.characters := by
  have hsize := utf8ByteSize_eq_length hascii
  refine flatMap_splitFrom (fun start => run.text.toList.drop start) ?_ ?_ h
  · intro start stop highlight hle _
    have hdrop : run.text.toList.drop stop = (run.text.toList.drop start).drop (stop - start) := by
      rw [List.drop_drop]
      congr 1
      omega
    show (asciiSlice run.text start stop).toList ++ _ = _
    rw [asciiSlice, String.toList_ofList, hdrop, List.take_append_drop]
  · exact List.drop_eq_nil_of_le (by rw [hsize, String.length_toList])

/-- Pieces that all look the same have the cells of the run. -/
theorem flatMap_splitSemanticRun_places {γ : Type} {look : RenderedTerminalRun → γ} {label : γ}
    (hlook : ∀ start stop highlight, look (sliceRun run palette start stop highlight) = label)
    (hcells : run.cells = run.text.utf8ByteSize)
    (h : OrderedSpans 0 highlights run.text.utf8ByteSize) :
    ((splitSemanticRun run highlights palette).flatMap fun piece =>
      places piece.column piece.cells (look piece)) = places run.column run.cells label := by
  refine flatMap_splitFrom
    (fun start => places (run.column + start) (run.cells - start) label) ?_ ?_ h
  · intro start stop highlight hle hstop
    have hwidth : run.cells - start = stop - start + (run.cells - stop) := by omega
    have hcolumn : run.column + start + (stop - start) = run.column + stop := by omega
    show places (run.column + start) (stop - start) _ ++ _ = _
    rw [hlook, hwidth, places_add, hcolumn]
  · simp [hcells]

/-- The pieces of a run follow one another. -/
theorem followOn_splitFrom (h : OrderedSpans start highlights run.text.utf8ByteSize) :
    FollowOn (run.column + start) (splitFrom run palette start highlights)
      (run.column + run.text.utf8ByteSize) := by
  -- a slice goes from its start to its stop
  have hslice (start stop : Nat) (highlight : Option SemanticHighlight) (hle : start ≤ stop) :
      FollowOn (run.column + start) [sliceRun run palette start stop highlight]
        (run.column + stop) := by
    refine ⟨rfl, ?_⟩
    show run.column + start + (stop - start) = run.column + stop
    omega
  induction highlights generalizing start with
  | nil =>
    have hle : start ≤ run.text.utf8ByteSize := h
    unfold splitFrom
    split
    · exact hslice _ _ _ hle
    · obtain rfl : start = run.text.utf8ByteSize := by omega
      rfl
  | cons span highlights ih =>
    obtain ⟨hstart, hspan, hrest⟩ := h
    have hwidth : run.column + span.start + (span.stop - span.start) = run.column + span.stop := by
      omega
    unfold splitFrom
    -- what is before the span, if anything, then the span, then the rest
    refine abutting_append.mpr ⟨run.column + span.start, ?_, rfl, ?_⟩
    · split
      · exact hslice _ _ _ hstart
      · obtain rfl : start = span.start := by omega
        rfl
    · show FollowOn (run.column + span.start + (span.stop - span.start)) _ _
      rw [hwidth]
      exact ih hrest

end Split

/-! ## Joining and cutting for the fonts -/

section Join

variable {left right previous run cell joined : RenderedTerminalRun} {character : Char} {index : Nat}

theorem sameStyle_look (h : sameStyle left right = true) :
    left.column + left.cells = right.column ∧ left.look = right.look := by
  simp only [sameStyle, Bool.and_eq_true, decide_eq_true_eq] at h
  simp [look, h]

theorem joinEmoji_eq_some (h : joinEmoji previous run = some joined) :
    sameStyle previous run = true ∧
      joined = { previous with
        text := previous.text ++ run.text, cells := previous.cells + run.cells } := by
  unfold joinEmoji at h
  split at h
  · rename_i hcontinues
    simp only [continuesEmoji, Bool.and_eq_true] at hcontinues
    exact ⟨hcontinues.1.2, (Option.some.inj h).symm⟩
  · cases h

theorem joinSymbol_eq_some (h : joinSymbol character previous cell = some joined) :
    sameStyle previous cell = true ∧ ∃ geometry, joined = { previous with
      text := previous.text.push character, cells := previous.cells + 1, geometry } := by
  unfold joinSymbol at h
  split at h
  · rename_i hcan
    simp only [canAppend, Bool.and_eq_true] at hcan
    exact ⟨hcan.2, _, (Option.some.inj h).symm⟩
  · cases h

/-- A run that goes on with the look of another one has the cells of both. -/
theorem cellLooks_append (hsame : sameStyle left right = true) :
    places left.column (left.cells + right.cells) left.look = left.cellLooks ++ right.cellLooks := by
  obtain ⟨hcolumn, hlook⟩ := sameStyle_look hsame
  rw [places_add, hcolumn, hlook]
  simp [cellLooks, hlook]

/-- A cell for every item of a list. -/
theorem flatMap_zipIdx_places {β γ : Type} (l : List β) (a k : Nat) (label : γ) :
    ((l.zipIdx k).flatMap fun p => places (a + p.2) 1 label) = places (a + k) l.length label := by
  induction l generalizing k with
  | nil => rfl
  | cons x l ih =>
    rw [List.zipIdx_cons, List.flatMap_cons, ih, List.length_cons, Nat.add_comm l.length 1,
      places_add, Nat.add_assoc]

/-- What the preparation of the runs keeps of them. -/
structure PrepareKeeps {γ : Type} (read : RenderedTerminalRun → List γ) : Prop where
  role : ∀ run role, read { run with fontRole := role } = read run
  emoji : ∀ run, Appends joinEmoji read run
  symbol : ∀ (run : RenderedTerminalRun) character index,
    Appends (joinSymbol character) read (run.symbolCell character index)
  cut : ∀ run : RenderedTerminalRun, run.cells = run.text.length →
    (run.text.toList.zipIdx.flatMap fun p => read (run.symbolCell p.1 p.2)) = read run

theorem PrepareKeeps.prepareRun {γ : Type} {read : RenderedTerminalRun → List γ}
    (h : PrepareKeeps read) (result : List RenderedTerminalRun) (source : RenderedTerminalRun) :
    (prepareRun result source).flatMap read = result.flatMap read ++ read source := by
  have hrole := h.role source (fontRole source.text)
  unfold AxSsh.prepareRun
  dsimp only
  split
  · rw [flatMap_push (h.emoji _), hrole]
  · -- only a run with a cell for every character is cut
    rename_i hcut
    have hcells : source.cells = source.text.length := by
      simp only [simple, Bool.or_eq_true, not_or, Bool.not_eq_true, Bool.not_eq_false',
        Bool.and_eq_true, decide_eq_true_eq] at hcut
      exact hcut.1.1.1
    have hcut := h.cut { source with fontRole := fontRole source.text } hcells
    rw [flatMap_foldl (fun result p => flatMap_push (h.symbol _ p.1 p.2) result), hcut, hrole]

theorem PrepareKeeps.prepare {γ : Type} {read : RenderedTerminalRun → List γ}
    (h : PrepareKeeps read) (runs : List RenderedTerminalRun) :
    (prepare runs).flatMap read = runs.flatMap read := by
  simpa [AxSsh.prepare] using flatMap_foldl h.prepareRun runs []

theorem prepareKeeps_characters : PrepareKeeps characters where
  role _ _ := rfl
  emoji run previous joined hjoin := by
    obtain ⟨-, rfl⟩ := joinEmoji_eq_some hjoin
    simp [characters]
  symbol run character index previous joined hjoin := by
    obtain ⟨-, _, rfl⟩ := joinSymbol_eq_some hjoin
    simp [characters, symbolCell]
  cut run _ := by
    simp only [characters, symbolCell, String.toList_singleton, ← List.map_eq_flatMap]
    exact List.zipIdx_map_fst 0 _

theorem prepareKeeps_cellLooks : PrepareKeeps cellLooks where
  role _ _ := rfl
  emoji run previous joined hjoin := by
    obtain ⟨hsame, rfl⟩ := joinEmoji_eq_some hjoin
    exact cellLooks_append hsame
  symbol run character index previous joined hjoin := by
    obtain ⟨hsame, _, rfl⟩ := joinSymbol_eq_some hjoin
    exact cellLooks_append hsame
  cut run hcells := by
    have hcut := flatMap_zipIdx_places run.text.toList run.column 0 run.look
    rw [String.length_toList, ← hcells] at hcut
    exact hcut

/-! ## Columns -/

variable {a n : Nat} {result runs : List RenderedTerminalRun} {source : RenderedTerminalRun}

theorem widens_joinEmoji (run : RenderedTerminalRun) :
    Widens joinEmoji RenderedTerminalRun.column RenderedTerminalRun.cells run := by
  intro previous joined hjoin
  obtain ⟨-, rfl⟩ := joinEmoji_eq_some hjoin
  exact ⟨rfl, rfl⟩

theorem widens_joinSymbol (run : RenderedTerminalRun) (character : Char) (index : Nat) :
    Widens (joinSymbol character) RenderedTerminalRun.column RenderedTerminalRun.cells
      (run.symbolCell character index) := by
  intro previous joined hjoin
  obtain ⟨-, _, rfl⟩ := joinSymbol_eq_some hjoin
  exact ⟨rfl, rfl⟩

theorem abutting_zipIdx {β : Type} (l : List β) (a k : Nat) :
    Abutting (fun p : β × Nat => a + p.2) (fun _ => 1) (a + k) (l.zipIdx k) (a + k + l.length) := by
  induction l generalizing k with
  | nil => rfl
  | cons x l ih =>
    refine ⟨rfl, ?_⟩
    have hrest := ih (k + 1)
    rwa [List.length_cons, Nat.add_comm l.length 1, ← Nat.add_assoc, Nat.add_assoc a k 1]

theorem followOn_prepareRun (h : FollowOn a result n) (hcolumn : source.column = n) :
    FollowOn a (prepareRun result source) (n + source.cells) := by
  subst hcolumn
  unfold prepareRun
  dsimp only
  split
  · exact h.push (widens_joinEmoji _) rfl
  · rename_i hcut
    have hcells : source.cells = source.text.toList.length := by
      simp only [simple, Bool.or_eq_true, not_or, Bool.not_eq_true, Bool.not_eq_false',
        Bool.and_eq_true, decide_eq_true_eq] at hcut
      exact hcut.1.1.1.trans String.length_toList.symm
    rw [hcells]
    refine Abutting.foldl ?_ (abutting_zipIdx source.text.toList source.column 0) h
    intro result n p hp hresult
    exact hresult.push (widens_joinSymbol _ p.1 p.2) hp

/-- Prepared runs follow one another from where the runs begin to where they end. -/
theorem followOn_prepare (h : FollowOn a runs n) : FollowOn a (prepare runs) n := by
  have hnone : FollowOn a [] a := rfl
  refine Abutting.foldl ?_ h hnone
  intro result n source hsource hresult
  exact followOn_prepareRun hresult hsource

end Join

end AxSsh
