import AxSsh.Native.TerminalGrid
import AxSsh.Spec.PreparedRuns

/-!
# Rendered lines

What a rendered line shows of a styled one.  Its runs have the characters and the cells of the
styled runs, each cell with what its style and link resolve to; the backgrounds are the cells that
differ from the palette's, and the decorations the cells with an underline style and then the
struck ones.

A link without an underline of its own is shown with a single one, so the underline of a cell is
not always that of its style.

## Key results
- `renderRun_spec`: the runs of a styled run
- `mergedBackgroundRuns_spec`, `compactDecorationRuns_spec`: the cells they cover, and that they
  are merged
- `renderLine_shows`: a rendered line
- `linked_underlined`: a cell whose underline is not that of its style
-/

namespace AxSsh

open Coalesce RenderedTerminalRun

/-! ## Runs of a style -/

/-- A link that its style does not underline. -/
def TerminalStyledRun.plainLink (run : TerminalStyledRun) : Prop :=
  run.hyperlink.isSome ∧ run.style.underline = false ∧ run.style.underlineStyle = .none

instance (run : TerminalStyledRun) : Decidable run.plainLink := by
  unfold TerminalStyledRun.plainLink
  infer_instance

def TerminalStyledRun.characters (run : TerminalStyledRun) : List Char := run.text.toList

/-- The runs of a styled line follow one another from one column to another. -/
abbrev TerminalStyledLine.FollowsOn (line : TerminalStyledLine) (a n : Nat) : Prop :=
  Abutting TerminalStyledRun.column TerminalStyledRun.cells a line.runs n

namespace TerminalRenderer

/-- The color that a run is underlined and struck with. -/
def decorationColor (r : TerminalRenderer) (style : TerminalStyle) : RgbColor :=
  let (foreground, background) := resolveStyleColors style r.palette r.brightBoldText
  let color := match style.underlineColor with
    | some color => resolveColor color foreground r.palette
    | none => foreground
  if style.hidden then background else r.adjustTextForeground color style.dim

/-- What the cells of a styled run look like. -/
def look (r : TerminalRenderer) (run : TerminalStyledRun) : CellLook where
  background := (resolveStyleColors run.style r.palette r.brightBoldText).2
  decorationForeground := r.decorationColor run.style
  bold := run.style.bold
  italic := run.style.italic
  underline := run.style.underline || decide run.plainLink
  underlineStyle := if run.plainLink then .single else run.style.underlineStyle
  strikethrough := run.style.strikethrough
  hyperlink := run.hyperlink

/-- The cells of a styled line. -/
def cellLooks (r : TerminalRenderer) (line : TerminalStyledLine) : List (Nat × CellLook) :=
  line.runs.flatMap fun run => places run.column run.cells (r.look run)

variable {r : TerminalRenderer} {run : TerminalStyledRun} {line : TerminalStyledLine}

theorem adjusted_look (style : TerminalStyle) (out : RenderedTerminalRun) :
    (r.adjusted style out).look = { out.look with
      decorationForeground :=
        if style.hidden then out.background
        else r.adjustTextForeground out.decorationForeground style.dim } := by
  unfold adjusted
  split <;> rfl

theorem rendered_look : (r.adjusted run.style (r.rendered run)).look = r.look run := by
  rw [adjusted_look]
  cases hlink : run.hyperlink <;> cases hunder : run.style.underline <;>
    by_cases hstyle : run.style.underlineStyle = .none <;>
    cases hcolor : run.style.underlineColor <;>
    simp [rendered, RenderedTerminalRun.look, look, decorationColor,
      TerminalStyledRun.plainLink, hlink, hunder, hstyle, hcolor]

/-! ## Splitting at highlights -/

/-- The spans of every text are in order, do not overlap and lie in the text. -/
def SpansOrdered (r : TerminalRenderer) : Prop :=
  ∀ text, OrderedSpans 0 (r.spans text) text.utf8ByteSize

theorem semanticHighlightSpans_cases (spans : String → List HighlightSpan) (text : String)
    (cells : Nat) (style : TerminalStyle) :
    semanticHighlightSpans spans text cells style = [] ∨
      isAsciiText text = true ∧ cells = text.utf8ByteSize ∧
        semanticHighlightSpans spans text cells style = spans text := by
  unfold semanticHighlightSpans
  split
  · exact .inl rfl
  · rename_i hcheck
    simp only [Bool.or_eq_true, not_or, Bool.not_eq_true, Bool.not_eq_false', decide_eq_true_eq,
      not_not] at hcheck
    exact .inr ⟨hcheck.1.1.1.1.1.1.1.1, hcheck.1.1.1.1.1.2, rfl⟩

/-- A styled run gives one run, or the pieces of one with a cell for every byte. -/
theorem renderRun_cases (r : TerminalRenderer) (run : TerminalStyledRun) :
    r.renderRun run = [r.adjusted run.style (r.rendered run)] ∨
      ∃ palette, isAsciiText run.text = true ∧ run.cells = run.text.utf8ByteSize ∧
        r.renderRun run =
          (splitSemanticRun (r.rendered run) (r.spans run.text) palette).map
            (r.adjusted run.style) := by
  unfold renderRun
  cases hpalette : r.semanticPalette with
  | none => exact .inl rfl
  | some palette =>
    rcases semanticHighlightSpans_cases r.spans run.text run.cells run.style with
      hnone | ⟨hascii, hcells, hspans⟩
    · simp [hnone]
    · by_cases hempty : (r.spans run.text).isEmpty = true
      · simp [hspans, hempty]
      · exact .inr ⟨palette, hascii, hcells, by simp [hspans, hempty]⟩

theorem adjusted_characters (style : TerminalStyle) (out : RenderedTerminalRun) :
    (r.adjusted style out).characters = out.characters := by
  unfold adjusted
  split <;> rfl

theorem adjusted_cellLooks (style : TerminalStyle) (out : RenderedTerminalRun) :
    (r.adjusted style out).cellLooks =
      places out.column out.cells (r.adjusted style out).look := by
  unfold adjusted
  split <;> rfl

theorem followOn_map_adjusted {a n : Nat} (style : TerminalStyle) (runs : List RenderedTerminalRun) :
    FollowOn a (runs.map (r.adjusted style)) n ↔ FollowOn a runs n := by
  have hplace (out : RenderedTerminalRun) : (r.adjusted style out).column = out.column ∧
      (r.adjusted style out).cells = out.cells := by
    unfold adjusted
    split <;> exact ⟨rfl, rfl⟩
  unfold FollowOn
  rw [abutting_map]
  simp only [Function.comp_def, hplace]

theorem flatMap_renderRun_characters (hspans : r.SpansOrdered) :
    (r.renderRun run).flatMap RenderedTerminalRun.characters = run.characters := by
  rcases renderRun_cases r run with heq | ⟨palette, hascii, hcells, heq⟩
  · rw [heq, List.flatMap_singleton, adjusted_characters]
    rfl
  · rw [heq, List.flatMap_map]
    simp only [adjusted_characters]
    exact flatMap_splitSemanticRun_characters hascii (hspans run.text)

theorem flatMap_renderRun_cellLooks (hspans : r.SpansOrdered) :
    (r.renderRun run).flatMap RenderedTerminalRun.cellLooks =
      places run.column run.cells (r.look run) := by
  rcases renderRun_cases r run with heq | ⟨palette, hascii, hcells, heq⟩
  · rw [heq, List.flatMap_singleton, adjusted_cellLooks, rendered_look]
    rfl
  · rw [heq, List.flatMap_map]
    simp only [adjusted_cellLooks]
    refine flatMap_splitSemanticRun_places (fun start stop highlight => ?_) hcells (hspans run.text)
    -- a slice differs from its run in nothing that is seen but the letters and their color
    rw [← rendered_look, adjusted_look, adjusted_look]
    rfl

theorem followOn_renderRun (hspans : r.SpansOrdered) :
    FollowOn run.column (r.renderRun run) (run.column + run.cells) := by
  rcases renderRun_cases r run with heq | ⟨palette, hascii, hcells, heq⟩
  · rw [heq, ← List.map_singleton, followOn_map_adjusted]
    exact ⟨rfl, rfl⟩
  · rw [heq, followOn_map_adjusted, hcells]
    have hordered : OrderedSpans 0 (r.spans run.text) (r.rendered run).text.utf8ByteSize :=
      hspans run.text
    exact followOn_splitFrom hordered

end TerminalRenderer

/-! ## Backgrounds -/

namespace RenderedTerminalBackgroundRun

def cellBackgrounds (run : RenderedTerminalBackgroundRun) : List (Nat × RgbColor) :=
  places run.column run.cells run.background

/-- The second run goes on with the background of the first one. -/
def Continues (first second : RenderedTerminalBackgroundRun) : Prop :=
  first.background = second.background ∧ first.column + first.cells = second.column

end RenderedTerminalBackgroundRun

open RenderedTerminalBackgroundRun (cellBackgrounds)

section Backgrounds

variable {runs : List RenderedTerminalRun} {defaultBackground : RgbColor}

theorem joinBackground_eq_some {previous next joined : RenderedTerminalBackgroundRun}
    (h : joinBackground previous next = some joined) :
    previous.Continues next ∧ joined = { previous with cells := previous.cells + next.cells } := by
  unfold joinBackground at h
  split at h
  · rename_i hcontinues
    exact ⟨hcontinues, (Option.some.inj h).symm⟩
  · cases h

theorem apart_joinBackground {first second : RenderedTerminalBackgroundRun} :
    Apart joinBackground first second ↔ ¬first.Continues second := by
  simp [Apart, joinBackground, RenderedTerminalBackgroundRun.Continues]

theorem appends_joinBackground (next : RenderedTerminalBackgroundRun) :
    Appends joinBackground cellBackgrounds next := by
  intro previous joined hjoin
  obtain ⟨⟨hbackground, hcolumn⟩, rfl⟩ := joinBackground_eq_some hjoin
  simp [cellBackgrounds, places_add, hbackground, hcolumn]

theorem grows_joinBackground : Grows joinBackground := by
  intro first last next joined hapart hjoin
  obtain ⟨-, rfl⟩ := joinBackground_eq_some hjoin
  exact apart_joinBackground.mpr fun hcontinues =>
    apart_joinBackground.mp hapart ⟨hcontinues.1, hcontinues.2⟩

/-- The background runs cover the cells whose background is not the default one. -/
theorem flatMap_mergedBackgroundRuns :
    (mergedBackgroundRuns runs defaultBackground).flatMap cellBackgrounds =
      ((runs.flatMap cellLooks).filter fun cell => cell.2.background ≠ defaultBackground).map
        fun cell => (cell.1, cell.2.background) := by
  unfold mergedBackgroundRuns
  rw [flatMap_foldl fun backgrounds run =>
    flatMap_push (appends_joinBackground run.backgroundRun) backgrounds]
  exact flatMap_filter_places (fun look => look.background ≠ defaultBackground)
    CellLook.background look runs

theorem mergedBackgroundRuns_merged :
    (mergedBackgroundRuns runs defaultBackground).IsChain fun first second =>
      ¬first.Continues second := by
  simp only [← apart_joinBackground]
  exact List.foldlRecOn _ _ .nil fun _ hchain run _ =>
    isChain_push grows_joinBackground hchain run.backgroundRun

end Backgrounds

/-! ## Decorations -/

namespace RenderedTerminalDecorationRun

/-- What a decoration run draws in a cell. -/
def decoration (run : RenderedTerminalDecorationRun) : RgbColor × TerminalUnderlineStyle × Bool :=
  (run.foreground, run.underlineStyle, run.strikethrough)

def cellDecorations (run : RenderedTerminalDecorationRun) :
    List (Nat × RgbColor × TerminalUnderlineStyle × Bool) :=
  places run.column run.cells run.decoration

/-- The second run goes on with the decoration of the first one. -/
def Continues (first second : RenderedTerminalDecorationRun) : Prop :=
  first.decoration = second.decoration ∧ first.column + first.cells = second.column

end RenderedTerminalDecorationRun

open RenderedTerminalDecorationRun (cellDecorations)

section Decorations

variable {runs : List RenderedTerminalRun}

theorem apart_joinDecoration {first second : RenderedTerminalDecorationRun} :
    Apart joinDecoration first second ↔ ¬first.Continues second := by
  simp only [Apart, joinDecoration, RenderedTerminalDecorationRun.Continues,
    RenderedTerminalDecorationRun.decoration, Prod.mk.injEq]
  grind

theorem joinDecoration_eq_some {previous next joined : RenderedTerminalDecorationRun}
    (h : joinDecoration previous next = some joined) :
    previous.Continues next ∧ joined = { previous with cells := previous.cells + next.cells } := by
  unfold joinDecoration at h
  split at h
  · rename_i hcontinues
    obtain ⟨hstrike, hstyle, hforeground, hcolumn⟩ := hcontinues
    refine ⟨⟨?_, hcolumn⟩, (Option.some.inj h).symm⟩
    simp [RenderedTerminalDecorationRun.decoration, hstrike, hstyle, hforeground]
  · cases h

theorem appends_joinDecoration (next : RenderedTerminalDecorationRun) :
    Appends joinDecoration cellDecorations next := by
  intro previous joined hjoin
  obtain ⟨⟨hdecoration, hcolumn⟩, rfl⟩ := joinDecoration_eq_some hjoin
  show places previous.column (previous.cells + next.cells) previous.decoration = _
  rw [places_add, hcolumn, cellDecorations, cellDecorations, hdecoration]

theorem grows_joinDecoration : Grows joinDecoration := by
  intro first last next joined hapart hjoin
  obtain ⟨-, rfl⟩ := joinDecoration_eq_some hjoin
  exact apart_joinDecoration.mpr fun hcontinues =>
    apart_joinDecoration.mp hapart ⟨hcontinues.1, hcontinues.2⟩

/-- One pass over the runs of a kind, which appends the cells of these runs. -/
theorem flatMap_decorationPass (p : CellLook → Bool)
    (style : CellLook → TerminalUnderlineStyle) (strikethrough : Bool)
    (decorations : List RenderedTerminalDecorationRun) :
    ((runs.filter fun run => 0 < run.cells && p run.look).foldl (fun decorations run =>
        pushDecorationRun decorations run (style run.look) strikethrough)
        decorations).flatMap cellDecorations =
      decorations.flatMap cellDecorations ++ ((runs.flatMap cellLooks).filter fun cell =>
        p cell.2).map fun cell =>
          (cell.1, cell.2.decorationForeground, style cell.2, strikethrough) := by
  have hpush (decorations : List RenderedTerminalDecorationRun) (run : RenderedTerminalRun) :
      (pushDecorationRun decorations run (style run.look) strikethrough).flatMap cellDecorations =
        decorations.flatMap cellDecorations ++
          places run.column run.cells (run.decorationForeground, style run.look, strikethrough) :=
    flatMap_push (appends_joinDecoration _) decorations
  rw [flatMap_foldl hpush]
  congr 1
  exact flatMap_filter_places p
    (fun look => (look.decorationForeground, style look, strikethrough)) look runs

/-- The first pass takes the runs with an underline style. -/
theorem underlinePass_eq (decorations : List RenderedTerminalDecorationRun) :
    (runs.filter (0 < ·.cells)).foldl (fun decorations run =>
        if run.underlineStyle ≠ .none then
          pushDecorationRun decorations run run.underlineStyle false
        else decorations) decorations =
      (runs.filter fun run => 0 < run.cells && run.look.underlineStyle ≠ .none).foldl
        (fun decorations run =>
          pushDecorationRun decorations run run.look.underlineStyle false) decorations := by
  have hfilter : (runs.filter fun run => 0 < run.cells && run.look.underlineStyle ≠ .none) =
      (runs.filter (0 < ·.cells)).filter (·.underlineStyle ≠ .none) := by
    rw [List.filter_filter]
    exact List.filter_congr fun run _ => Bool.and_comm _ _
  rw [hfilter]
  generalize runs.filter (0 < ·.cells) = solid
  rw [List.foldl_filter]
  simp [RenderedTerminalRun.look]

/-- The decoration runs cover the cells with an underline style and then the struck ones. -/
theorem flatMap_compactDecorationRuns :
    (compactDecorationRuns runs).flatMap cellDecorations =
      (((runs.flatMap cellLooks).filter fun cell => cell.2.underlineStyle ≠ .none).map fun cell =>
        (cell.1, cell.2.decorationForeground, cell.2.underlineStyle, false)) ++
      ((runs.flatMap cellLooks).filter fun cell => cell.2.strikethrough).map fun cell =>
        (cell.1, cell.2.decorationForeground, .none, true) := by
  unfold compactDecorationRuns
  dsimp only
  rw [underlinePass_eq]
  refine (flatMap_decorationPass (·.strikethrough) (fun _ => .none) true _).trans ?_
  congr 1
  exact flatMap_decorationPass (·.underlineStyle ≠ .none) (·.underlineStyle) false []

theorem compactDecorationRuns_merged :
    (compactDecorationRuns runs).IsChain fun first second => ¬first.Continues second := by
  simp only [← apart_joinDecoration]
  unfold compactDecorationRuns
  dsimp only
  refine List.foldlRecOn _ _ ?_ fun _ hchain run _ =>
    isChain_push grows_joinDecoration hchain (run.decorationRun _ _)
  refine List.foldlRecOn _ _ .nil fun _ hchain run _ => ?_
  split
  · exact isChain_push grows_joinDecoration hchain (run.decorationRun _ _)
  · exact hchain

end Decorations

/-! ## Lines -/

def RenderedTerminalLine.cellLooks (line : RenderedTerminalLine) : List (Nat × CellLook) :=
  line.runs.flatMap RenderedTerminalRun.cellLooks

/-- A style is underlined exactly when it has an underline style. -/
def TerminalStyle.UnderlineAgrees (style : TerminalStyle) : Prop :=
  style.underline = true ↔ style.underlineStyle ≠ .none

namespace TerminalRenderer

variable {r : TerminalRenderer} {run : TerminalStyledRun} {line : TerminalStyledLine} {a n : Nat}

theorem flatMap_prepare_characters (hspans : r.SpansOrdered) :
    (prepare (line.runs.flatMap r.renderRun)).flatMap RenderedTerminalRun.characters =
      line.runs.flatMap TerminalStyledRun.characters := by
  rw [prepareKeeps_characters.prepare, List.flatMap_assoc]
  simp only [flatMap_renderRun_characters hspans]

theorem cellLooks_renderLine (hspans : r.SpansOrdered) :
    (r.renderLine line).cellLooks = r.cellLooks line := by
  show (prepare (line.runs.flatMap r.renderRun)).flatMap RenderedTerminalRun.cellLooks = _
  rw [prepareKeeps_cellLooks.prepare, List.flatMap_assoc]
  simp only [flatMap_renderRun_cellLooks hspans]
  rfl

theorem followOn_renderLine (hspans : r.SpansOrdered) (hline : line.FollowsOn a n) :
    FollowOn a (r.renderLine line).runs n :=
  followOn_prepare (hline.flatMap fun _ => followOn_renderRun hspans)

/-- A link gives a cell an underline and an underline style at once. -/
theorem look_underline_iff (h : run.style.UnderlineAgrees) :
    (r.look run).underline = true ↔ (r.look run).underlineStyle ≠ .none := by
  by_cases hlink : run.plainLink
  · simp [look, hlink]
  · simpa [look, hlink, TerminalStyle.UnderlineAgrees] using h

/-- What a rendered line shows of the styled line, whose columns go from `a` to `n`. -/
structure ShowsLine (r : TerminalRenderer) (line : TerminalStyledLine) (a n : Nat)
    (out : RenderedTerminalLine) : Prop where
  text : out.runs.flatMap RenderedTerminalRun.characters =
    line.runs.flatMap TerminalStyledRun.characters
  followOn : FollowOn a out.runs n
  columns : out.cellLooks.map Prod.fst = List.range' a (n - a)
  cells : out.cellLooks = r.cellLooks line
  backgrounds : out.backgrounds.flatMap cellBackgrounds =
    ((r.cellLooks line).filter fun cell => cell.2.background ≠ r.palette.background).map
      fun cell => (cell.1, cell.2.background)
  decorations : out.decorations.flatMap cellDecorations =
    (((r.cellLooks line).filter fun cell => cell.2.underlineStyle ≠ .none).map fun cell =>
      (cell.1, cell.2.decorationForeground, cell.2.underlineStyle, false)) ++
    ((r.cellLooks line).filter fun cell => cell.2.strikethrough).map fun cell =>
      (cell.1, cell.2.decorationForeground, .none, true)
  underlined : (∀ run ∈ line.runs, run.style.UnderlineAgrees) →
    ∀ cell ∈ out.cellLooks, cell.2.underline = true ↔ cell.2.underlineStyle ≠ .none
  backgroundsMerged : out.backgrounds.IsChain fun first second => ¬first.Continues second
  decorationsMerged : out.decorations.IsChain fun first second => ¬first.Continues second

/-- **A rendered line shows the text and the cells of the styled line, and its background and
decoration runs cover the cells that have one.** -/
theorem renderLine_shows (hspans : r.SpansOrdered) (hline : line.FollowsOn a n) :
    r.ShowsLine line a n (r.renderLine line) := by
  have hcells : (r.renderLine line).cellLooks = r.cellLooks line := cellLooks_renderLine hspans
  have hfollow := followOn_renderLine hspans hline
  constructor
  case text => exact flatMap_prepare_characters hspans
  case followOn => exact hfollow
  case columns => exact hfollow.map_fst_places
  case cells => exact hcells
  case backgrounds =>
    rw [← hcells]
    exact flatMap_mergedBackgroundRuns
  case decorations =>
    rw [← hcells]
    exact flatMap_compactDecorationRuns
  case underlined =>
    intro hagree cell hcell
    rw [hcells] at hcell
    obtain ⟨run, hrun, hplace⟩ := List.mem_flatMap.mp hcell
    obtain ⟨_, -, rfl⟩ := List.mem_map.mp hplace
    exact look_underline_iff (hagree run hrun)
  case backgroundsMerged => exact mergedBackgroundRuns_merged
  case decorationsMerged => exact compactDecorationRuns_merged

/-- A renderer that highlights a log line and leaves the brightness of text as it is. -/
def logRenderer : TerminalRenderer where
  palette := ⟨⟨204, 204, 204⟩, ⟨30, 30, 30⟩, .replicate 16 ⟨104, 104, 104⟩⟩
  semanticPalette := some ⟨⟨90, 247, 142⟩, ⟨87, 199, 255⟩, ⟨243, 249, 157⟩, ⟨255, 92, 87⟩⟩
  brightBoldText := false
  cacheKey := 0
  spans text := if text = "ERROR ok" then [⟨0, 5, .error⟩] else []
  adjustTextForeground color _ := color

theorem logRenderer_spansOrdered : logRenderer.SpansOrdered := by
  intro text
  by_cases htext : text = "ERROR ok"
  · subst htext
    refine ⟨Nat.le_refl _, by decide, ?_⟩
    show 5 ≤ "ERROR ok".utf8ByteSize
    decide
  · simp [logRenderer, htext, OrderedSpans]

/-- A log line with a struck box after it. -/
def logLine : TerminalStyledLine where
  runs := [⟨"ERROR ok", 0, 8, {}, none⟩, ⟨"──", 8, 2, { strikethrough := true }, none⟩]

theorem logLine_shown :
    logRenderer.ShowsLine logLine 0 10 (logRenderer.renderLine logLine) ∧
      (logRenderer.renderLine logLine).runs.map (·.text) = ["ERROR", " ok", "──"] :=
  ⟨renderLine_shows logRenderer_spansOrdered ⟨rfl, rfl, rfl⟩, by decide⟩

/-- The cells of a run are underlined as its style says. -/
def KeepsUnderline (r : TerminalRenderer) (line : TerminalStyledLine) : Prop :=
  ∀ run ∈ line.runs, ∀ cell ∈ (r.renderLine line).cellLooks,
    run.column ≤ cell.1 → cell.1 < run.column + run.cells → cell.2.underline = run.style.underline

/-- A line that is one link, whose style has no underline. -/
def linkLine : TerminalStyledLine where
  runs := [⟨"docs", 0, 4, {}, some "https://example.org"⟩]

/-- The link is underlined all the same. -/
theorem linked_underlined :
    logRenderer.SpansOrdered ∧ linkLine.FollowsOn 0 4 ∧ ¬logRenderer.KeepsUnderline linkLine := by
  refine ⟨logRenderer_spansOrdered, ⟨rfl, rfl⟩, fun hkeeps => ?_⟩
  have hcell : (0, logRenderer.look ⟨"docs", 0, 4, {}, some "https://example.org"⟩) ∈
      (logRenderer.renderLine linkLine).cellLooks := by
    rw [cellLooks_renderLine logRenderer_spansOrdered]
    exact List.mem_cons_self
  have hplain := hkeeps _ List.mem_cons_self _ hcell (Nat.le_refl 0) (by decide)
  exact absurd hplain (by decide)

end TerminalRenderer

end AxSsh
