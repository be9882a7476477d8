import AxSsh.ForStd.Coalesce
import AxSsh.Native.TerminalGlyphs
import AxSsh.Native.TerminalScreen

/-!
# Rendered lines

The presentation of a styled line in `app/terminal_render.rs` and its `typography.rs`: the colors
that a style resolves to, the split of a run at its highlights, the preparation of the runs for
their fonts, and the background and decoration runs of the line.

Two parts of a renderer are parameters.  The regular expressions of `highlighting.rs` are a function
from texts to spans, and the adjustment of a text color to the configured brightness, which
computes in floating point, is a function of the color and the dim attribute.
-/

namespace AxSsh

/-! ## Palettes -/

structure RgbColor where
  red : UInt8
  green : UInt8
  blue : UInt8
deriving DecidableEq, Repr

inductive SemanticHighlight where
  | success
  | info
  | warning
  | error
deriving DecidableEq, Repr

structure SemanticPalette where
  success : RgbColor
  info : RgbColor
  warning : RgbColor
  error : RgbColor
deriving DecidableEq, Repr

def SemanticPalette.colorFor (palette : SemanticPalette) : SemanticHighlight → RgbColor
  | .success => palette.success
  | .info => palette.info
  | .warning => palette.warning
  | .error => palette.error

structure TerminalPalette where
  foreground : RgbColor
  background : RgbColor
  ansi : Vector RgbColor 16
deriving DecidableEq, Repr

/-- A level of the color cube. -/
def cubeLevel (level : Nat) : UInt8 := [0, 95, 135, 175, 215, 255].getD level 0

def indexedColor (index : UInt8) (palette : TerminalPalette) : RgbColor :=
  if h : index.toNat < 16 then palette.ansi[index.toNat]
  else if index.toNat ≤ 231 then
    let value := index.toNat - 16
    ⟨cubeLevel (value / 36), cubeLevel (value % 36 / 6), cubeLevel (value % 6)⟩
  else
    let gray := 8 + (index - 232) * 10
    ⟨gray, gray, gray⟩

def resolveColor (color : TerminalColor) (default : RgbColor) (palette : TerminalPalette) :
    RgbColor :=
  match color with
  | .default => default
  | .indexed index => indexedColor index palette
  | .rgb red green blue => ⟨red, green, blue⟩

/-- The foreground and the background of a style. -/
def resolveStyleColors (style : TerminalStyle) (palette : TerminalPalette) (brightBoldText : Bool) :
    RgbColor × RgbColor :=
  let foregroundColor :=
    if brightBoldText && style.bold then
      match style.foreground with
      | .indexed index => if index ≤ 7 then .indexed (index + 8) else .indexed index
      | color => color
    else style.foreground
  let foreground := resolveColor foregroundColor palette.foreground palette
  let background := resolveColor style.background palette.background palette
  if style.inverse then (background, foreground) else (foreground, background)

/-! ## Rendered runs -/

structure RenderedTerminalRun where
  text : String
  hyperlink : Option String
  column : Nat
  cells : Nat
  foreground : RgbColor
  background : RgbColor
  decorationForeground : RgbColor
  bold : Bool
  italic : Bool
  underline : Bool
  underlineStyle : TerminalUnderlineStyle
  strikethrough : Bool
  fontRole : FontRole := .primary
  fixedSpacing : Bool := false
  geometry : GlyphPaths := {}
deriving DecidableEq, Repr

structure RenderedTerminalBackgroundRun where
  column : Nat
  cells : Nat
  background : RgbColor
deriving DecidableEq, Repr

structure RenderedTerminalDecorationRun where
  column : Nat
  cells : Nat
  foreground : RgbColor
  underlineStyle : TerminalUnderlineStyle
  strikethrough : Bool
deriving DecidableEq, Repr

structure RenderedTerminalLine where
  sourceRevision : UInt64
  renderCacheKey : UInt64
  backgrounds : List RenderedTerminalBackgroundRun
  decorations : List RenderedTerminalDecorationRun
  runs : List RenderedTerminalRun
deriving DecidableEq, Repr

/-! ## Highlights -/

/-- A byte range of a text and what it is highlighted as. -/
structure HighlightSpan where
  start : Nat
  stop : Nat
  highlight : SemanticHighlight
deriving DecidableEq, Repr

structure TerminalRenderer where
  palette : TerminalPalette
  semanticPalette : Option SemanticPalette
  brightBoldText : Bool
  cacheKey : UInt64
  spans : String → List HighlightSpan
  adjustTextForeground : RgbColor → Bool → RgbColor

def maxSemanticHighlightBytes : Nat := 512

def isAsciiText (text : String) : Bool := text.toList.all (·.toNat < 128)

/-- `semantic_highlight_spans`: only an ASCII run with a cell for every byte is split. -/
def semanticHighlightSpans (spans : String → List HighlightSpan) (text : String) (cells : Nat)
    (style : TerminalStyle) : List HighlightSpan :=
  if !isAsciiText text || text.isEmpty || text.utf8ByteSize > maxSemanticHighlightBytes ||
      cells ≠ text.utf8ByteSize || style.foreground ≠ .default || style.background ≠ .default ||
      style.inverse || style.dim || style.hidden then
    []
  else spans text

/-- `text[start..stop]` for an ASCII text, whose bytes are its characters. -/
def asciiSlice (text : String) (start stop : Nat) : String :=
  String.ofList ((text.toList.drop start).take (stop - start))

/-- The closure `slice` of `split_semantic_run`. -/
def sliceRun (run : RenderedTerminalRun) (palette : SemanticPalette) (start stop : Nat)
    (highlight : Option SemanticHighlight) : RenderedTerminalRun :=
  { run with
    text := asciiSlice run.text start stop
    column := run.column + start
    cells := stop - start
    foreground := (highlight.map palette.colorFor).getD run.foreground }

/-- The rest of the loop of `split_semantic_run`, from a byte of the text on. -/
def splitFrom (run : RenderedTerminalRun) (palette : SemanticPalette) (start : Nat) :
    List HighlightSpan → List RenderedTerminalRun
  | [] =>
    if start < run.text.utf8ByteSize then
      [sliceRun run palette start run.text.utf8ByteSize none]
    else []
  | span :: highlights =>
    (if start < span.start then [sliceRun run palette start span.start none] else []) ++
      sliceRun run palette span.start span.stop (some span.highlight) ::
        splitFrom run palette span.stop highlights

def splitSemanticRun (run : RenderedTerminalRun) (highlights : List HighlightSpan)
    (palette : SemanticPalette) : List RenderedTerminalRun :=
  splitFrom run palette 0 highlights

/-! ## Runs of a style -/

namespace TerminalRenderer

/-- A run as its style and link have it, before it is split or its text color is adjusted. -/
def rendered (r : TerminalRenderer) (run : TerminalStyledRun) : RenderedTerminalRun :=
  let style := run.style
  let (foreground, background) := resolveStyleColors style r.palette r.brightBoldText
  let hyperlinkUnderline := run.hyperlink.isSome && style.underlineStyle = .none && !style.underline
  { text := run.text
    hyperlink := run.hyperlink
    column := run.column
    cells := run.cells
    foreground
    background
    decorationForeground :=
      (style.underlineColor.map (resolveColor · foreground r.palette)).getD foreground
    bold := style.bold
    italic := style.italic
    underline := style.underline || hyperlinkUnderline
    underlineStyle := if hyperlinkUnderline then .single else style.underlineStyle
    strikethrough := style.strikethrough }

/-- The last loop of `render_run`. -/
def adjusted (r : TerminalRenderer) (style : TerminalStyle) (run : RenderedTerminalRun) :
    RenderedTerminalRun :=
  if style.hidden then
    { run with foreground := run.background, decorationForeground := run.background }
  else
    { run with
      foreground := r.adjustTextForeground run.foreground style.dim
      decorationForeground := r.adjustTextForeground run.decorationForeground style.dim }

def renderRun (r : TerminalRenderer) (run : TerminalStyledRun) : List RenderedTerminalRun :=
  let highlights :=
    if r.semanticPalette.isSome then semanticHighlightSpans r.spans run.text run.cells run.style
    else []
  let rendered := r.rendered run
  let renderedRuns :=
    match r.semanticPalette with
    | some palette =>
      if highlights.isEmpty then [rendered] else splitSemanticRun rendered highlights palette
    | none => [rendered]
  renderedRuns.map (r.adjusted run.style)

end TerminalRenderer

/-! ## Preparation for the fonts -/

namespace RenderedTerminalRun

/-- `same_style`, which also asks that the second run begins where the first one ends. -/
def sameStyle (left right : RenderedTerminalRun) : Bool :=
  left.column + left.cells = right.column && left.foreground = right.foreground &&
    left.background = right.background &&
    left.decorationForeground = right.decorationForeground && left.bold = right.bold &&
    left.italic = right.italic && left.underline = right.underline &&
    left.underlineStyle = right.underlineStyle && left.strikethrough = right.strikethrough &&
    left.hyperlink = right.hyperlink && left.fontRole = right.fontRole

def canAppend (left right : RenderedTerminalRun) : Bool :=
  let geometry := !left.geometry.isEmpty && !right.geometry.isEmpty &&
    left.geometry.opacity = right.geometry.opacity
  let symbols := left.geometry.isEmpty && right.geometry.isEmpty && left.fixedSpacing &&
    right.fixedSpacing
  (geometry || symbols) && sameStyle left right

/-- An emoji that the one before it goes on with, in a run of its own. -/
def continuesEmoji (previous run : RenderedTerminalRun) : Bool :=
  previous.fontRole = .emoji && run.fontRole = .emoji && sameStyle previous run &&
    (previous.text.toList.getLast? = some (.ofNat 0x200d) ||
      run.text.toList.head?.any (inRanges [(0x1f3fb, 0x1f3ff)]) ||
      (singleRegionalIndicator previous.text && singleRegionalIndicator run.text))

def joinEmoji (previous run : RenderedTerminalRun) : Option RenderedTerminalRun :=
  if continuesEmoji previous run then
    some { previous with text := previous.text ++ run.text, cells := previous.cells + run.cells }
  else none

def joinSymbol (character : Char) (previous cell : RenderedTerminalRun) :
    Option RenderedTerminalRun :=
  if canAppend previous cell then
    some { previous with
      geometry :=
        if cell.geometry.isEmpty then previous.geometry
        else previous.geometry.append character previous.cells
      text := previous.text.push character
      cells := previous.cells + 1 }
  else none

/-- The cell of a character of a run. -/
def symbolCell (run : RenderedTerminalRun) (character : Char) (index : Nat) : RenderedTerminalRun :=
  { run with
    text := String.singleton character
    column := run.column + index
    cells := 1
    fontRole := AxSsh.fontRole (String.singleton character)
    fixedSpacing := fixedSymbol character
    geometry := GlyphPaths.append {} character 0 }

/-- A run with a cell for every character that is not a composition. -/
def simple (run : RenderedTerminalRun) : Bool :=
  run.cells = run.text.length && (run.text.length = 1 || run.text.toList.all isBoxLine)

end RenderedTerminalRun

open RenderedTerminalRun Coalesce

/-- One round of `typography::prepare`. -/
def prepareRun (result : List RenderedTerminalRun) (source : RenderedTerminalRun) :
    List RenderedTerminalRun :=
  let run := { source with fontRole := fontRole source.text }
  if !run.simple || run.fontRole = .emoji || isAsciiText run.text then
    push joinEmoji result run
  else
    run.text.toList.zipIdx.foldl (fun result (character, index) =>
      push (joinSymbol character) result (run.symbolCell character index)) result

def prepare (runs : List RenderedTerminalRun) : List RenderedTerminalRun :=
  runs.foldl prepareRun []

/-! ## Backgrounds and decorations -/

def RenderedTerminalRun.backgroundRun (run : RenderedTerminalRun) :
    RenderedTerminalBackgroundRun where
  column := run.column
  cells := run.cells
  background := run.background

def joinBackground (previous next : RenderedTerminalBackgroundRun) :
    Option RenderedTerminalBackgroundRun :=
  if previous.background = next.background ∧ previous.column + previous.cells = next.column then
    some { previous with cells := previous.cells + next.cells }
  else none

def mergedBackgroundRuns (runs : List RenderedTerminalRun) (defaultBackground : RgbColor) :
    List RenderedTerminalBackgroundRun :=
  (runs.filter fun run => 0 < run.cells && run.background ≠ defaultBackground).foldl
    (fun backgrounds run => push joinBackground backgrounds run.backgroundRun) []

def RenderedTerminalRun.decorationRun (run : RenderedTerminalRun)
    (underlineStyle : TerminalUnderlineStyle) (strikethrough : Bool) :
    RenderedTerminalDecorationRun where
  column := run.column
  cells := run.cells
  foreground := run.decorationForeground
  underlineStyle := underlineStyle
  strikethrough := strikethrough

def joinDecoration (previous next : RenderedTerminalDecorationRun) :
    Option RenderedTerminalDecorationRun :=
  if previous.strikethrough = next.strikethrough ∧
      previous.underlineStyle = next.underlineStyle ∧
      previous.foreground = next.foreground ∧ previous.column + previous.cells = next.column then
    some { previous with cells := previous.cells + next.cells }
  else none

def pushDecorationRun (decorations : List RenderedTerminalDecorationRun)
    (run : RenderedTerminalRun) (underlineStyle : TerminalUnderlineStyle) (strikethrough : Bool) :
    List RenderedTerminalDecorationRun :=
  push joinDecoration decorations (run.decorationRun underlineStyle strikethrough)

def compactDecorationRuns (runs : List RenderedTerminalRun) :
    List RenderedTerminalDecorationRun :=
  let underlined := (runs.filter (0 < ·.cells)).foldl (fun decorations run =>
    if run.underlineStyle ≠ .none then pushDecorationRun decorations run run.underlineStyle false
    else decorations) []
  (runs.filter fun run => 0 < run.cells && run.strikethrough).foldl (fun decorations run =>
    pushDecorationRun decorations run .none true) underlined

def TerminalRenderer.renderLine (r : TerminalRenderer) (line : TerminalStyledLine) :
    RenderedTerminalLine :=
  let runs := prepare (line.runs.flatMap r.renderRun)
  { sourceRevision := line.revision
    renderCacheKey := r.cacheKey
    backgrounds := mergedBackgroundRuns runs r.palette.background
    decorations := compactDecorationRuns runs
    runs }

end AxSsh
