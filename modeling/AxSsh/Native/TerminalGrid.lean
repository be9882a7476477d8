import AxSsh.Native.TerminalScreen
import AxSsh.Native.TerminalTargets

/-!
# Rows of the terminal grid

The cells of the terminal library as `terminal/render.rs` and `terminal/selection.rs` read them:
the style that colors and flags resolve to, the text of a row, and the maps between the columns
of a row and the characters of its text.

A text is the list of its characters.  A row is the list of its cells, as many as there are columns;
the grid gives one for every line, also for those of the history.
-/

namespace AxSsh

/-! ## Cells of the library -/

/-- The palette entries that cells and the cursor can name. -/
inductive NamedColor where
  | black | red | green | yellow | blue | magenta | cyan | white
  | brightBlack | brightRed | brightGreen | brightYellow | brightBlue | brightMagenta | brightCyan
  | brightWhite
  | foreground | background | cursor
  | dimBlack | dimRed | dimGreen | dimYellow | dimBlue | dimMagenta | dimCyan | dimWhite
  | brightForeground | dimForeground
deriving DecidableEq, Repr

/-- `named as usize`: sixteen palette entries, then the others from 256 on. -/
def NamedColor.index (named : NamedColor) : Nat :=
  if named.ctorIdx < 16 then named.ctorIdx else named.ctorIdx + 240

inductive Color where
  | named (named : NamedColor)
  | spec (rgb : Rgb)
  | indexed (index : UInt8)
deriving DecidableEq, Repr

/-- The flags of a cell; a cell without any is the default. -/
structure Flags where
  inverse : Bool := false
  bold : Bool := false
  italic : Bool := false
  underline : Bool := false
  wrapline : Bool := false
  wideChar : Bool := false
  wideCharSpacer : Bool := false
  dim : Bool := false
  hidden : Bool := false
  strikeout : Bool := false
  leadingWideCharSpacer : Bool := false
  doubleUnderline : Bool := false
  undercurl : Bool := false
  dottedUnderline : Bool := false
  dashedUnderline : Bool := false
deriving DecidableEq, Repr

/-- `intersects(Flags::ALL_UNDERLINES)` -/
def Flags.allUnderlines (flags : Flags) : Bool :=
  flags.underline || flags.doubleUnderline || flags.undercurl || flags.dottedUnderline ||
    flags.dashedUnderline

/-- A cell with its colors and flags as the library keeps them. -/
structure GridCell where
  c : Char
  fg : Color := .named .foreground
  bg : Color := .named .background
  flags : Flags := {}
  zerowidth : List Char := []
  underlineColor : Option Color := none
  hyperlink : Option String := none
deriving DecidableEq, Repr

/-! ## Styles -/

/-- `terminal_color`, with the colors that output has changed. -/
def terminalColor (colors : Nat → Option Rgb) (color : Color) : TerminalColor :=
  let dynamicColor := fun index => (colors index).map fun rgb => TerminalColor.rgb rgb.r rgb.g rgb.b
  match color with
  | .indexed index => (dynamicColor index.toNat).getD (.indexed index)
  | .spec rgb => .rgb rgb.r rgb.g rgb.b
  | .named named => (dynamicColor named.index).getD
      (if named.index < 16 then .indexed (UInt8.ofNat named.index) else .default)

def terminalUnderlineStyle (flags : Flags) : TerminalUnderlineStyle :=
  if flags.doubleUnderline then .double
  else if flags.undercurl then .curly
  else if flags.dottedUnderline then .dotted
  else if flags.dashedUnderline then .dashed
  else if flags.underline then .single
  else .none

def terminalStyle (colors : Nat → Option Rgb) (cell : GridCell) : TerminalStyle where
  foreground := terminalColor colors cell.fg
  background := terminalColor colors cell.bg
  bold := cell.flags.bold
  dim := cell.flags.dim
  italic := cell.flags.italic
  underline := cell.flags.allUnderlines
  underlineStyle := terminalUnderlineStyle cell.flags
  underlineColor := cell.underlineColor.map (terminalColor colors)
  strikethrough := cell.flags.strikeout
  inverse := cell.flags.inverse
  hidden := cell.flags.hidden

namespace GridCell

/-- The cell as `styled_line` reads it. -/
def resolve (colors : Nat → Option Rgb) (cell : GridCell) : Cell where
  c := cell.c
  zerowidth := cell.zerowidth
  style := terminalStyle colors cell
  wideChar := cell.flags.wideChar
  wideCharSpacer := cell.flags.wideCharSpacer
  leadingWideCharSpacer := cell.flags.leadingWideCharSpacer
  hyperlink := cell.hyperlink

/-! ## Text -/

def isDefaultBlank (cell : GridCell) : Bool :=
  cell.c = ' ' && cell.zerowidth = [] && cell.fg = .named .foreground &&
    cell.bg = .named .background && cell.flags = {}

def isWideContinuation (cell : GridCell) : Bool :=
  cell.flags.wideCharSpacer || cell.flags.leadingWideCharSpacer

/-- `append_cell_text` -/
def text (cell : GridCell) : List Char :=
  if cell.isWideContinuation then [] else cell.c :: cell.zerowidth

/-- `cell_character_count` -/
def characterCount (cell : GridCell) : Nat :=
  if cell.isWideContinuation then 0 else 1 + cell.zerowidth.length

end GridCell

/-- The last column up to `maximum` that is not blank. -/
def occupiedEndColumn (row : List GridCell) (maximum : Nat) : Option Nat :=
  (List.range (maximum + 1)).reverse.find? fun column =>
    (row[column]?).any fun cell => !cell.isDefaultBlank

/-- What `append_occupied_cells` appends. -/
def occupiedCells (row : List GridCell) (startColumn endColumn : Nat) : List Char :=
  match occupiedEndColumn row endColumn with
  | none => []
  | some lastColumn =>
    if lastColumn < startColumn then []
    else ((row.take (lastColumn + 1)).drop startColumn).flatMap GridCell.text

/-- The loop of `visible_row_text_at_cell`. -/
def textAtCell (column : Nat) : List GridCell → (cellColumn : Nat) → (contents : List Char) →
    (character : Nat) → (targetCharacter : Option Nat) → Option (List Char × Nat)
  | [], _, contents, _, targetCharacter => targetCharacter.map (contents, ·)
  | cell :: cells, cellColumn, contents, character, targetCharacter =>
    if cell.isWideContinuation then
      if cellColumn = column then none
      else textAtCell column cells (cellColumn + 1) contents character targetCharacter
    else
      textAtCell column cells (cellColumn + 1) (contents ++ cell.text)
        (character + cell.characterCount)
        (if cellColumn = column then some character else targetCharacter)

/-- The loop of `visible_row_cell_span_for_characters`. -/
def cellSpan (start stop : Nat) : List GridCell → (cellColumn character : Nat) →
    (startColumn : Option Nat) → Option (Nat × Nat)
  | [], _, _, _ => none
  | cell :: cells, cellColumn, character, startColumn =>
    if cell.isWideContinuation then cellSpan start stop cells (cellColumn + 1) character startColumn
    else
      let nextCharacter := character + cell.characterCount
      let startColumn :=
        if startColumn = none ∧ character ≤ start ∧ start < nextCharacter then some cellColumn
        else startColumn
      if character < stop ∧ stop ≤ nextCharacter then
        startColumn.map (·, cellColumn + 1 + cell.flags.wideChar.toNat)
      else cellSpan start stop cells (cellColumn + 1) nextCharacter startColumn

/-! ## The grid -/

def maxTargetContextRows : Nat := 32
def maxTargetContextChars : Nat := 2048

/-- The grid of `Term`, with the rows of the screen and, above them, of the history. -/
structure Grid where
  screenLines : Nat
  columns : Nat
  displayOffset : Nat
  historySize : Nat
  cells : Int → List GridCell
  /-- Every row has a cell in every column. -/
  width : ∀ line, (cells line).length = columns

namespace Grid

variable (grid : Grid)

/-- The line of a row of the viewport. -/
def line (row : Nat) : Int := (row : Int) - grid.displayOffset

def topmostLine : Int := -grid.historySize

def visibleRow (row : Nat) : List GridCell := grid.cells (grid.line row)

def lineWrapsToNext (line : Int) : Bool :=
  ((grid.cells line)[grid.columns - 1]?).any (·.flags.wrapline)

def lineWrapsToPreviousVisibleRowOrHistory (firstVisibleLine : Int) : Bool :=
  grid.topmostLine < firstVisibleLine && grid.lineWrapsToNext (firstVisibleLine - 1)

def visibleRowTextAtCell (row column : Nat) : Option (List Char × Nat) :=
  if row ≥ grid.screenLines ∨ column ≥ grid.columns then none
  else do
    let lastColumn ← occupiedEndColumn (grid.visibleRow row) (grid.columns - 1)
    if lastColumn < column then none
    else textAtCell column ((grid.visibleRow row).take (lastColumn + 1)) 0 [] 0 none

def visibleRowText (row : Nat) : Option (List Char) :=
  if row ≥ grid.screenLines ∨ grid.columns = 0 then none
  else some (occupiedCells (grid.visibleRow row) 0 (grid.columns - 1))

def visibleRowCellSpanForCharacters (row start stop : Nat) : Option (Nat × Nat) :=
  if start ≥ stop ∨ row ≥ grid.screenLines then none
  else do
    let lastColumn ← occupiedEndColumn (grid.visibleRow row) (grid.columns - 1)
    cellSpan start stop ((grid.visibleRow row).take (lastColumn + 1)) 0 0 none

/-! ## Logical lines -/

/-- The first row of the logical line of a row, as far as it is visible. -/
def firstLogicalRow : Nat → Nat
  | 0 => 0
  | row + 1 => if grid.lineWrapsToNext (grid.line row) then firstLogicalRow row else row + 1

/-- The last row of the logical line, as far as it is visible and within the limit. -/
def lastLogicalRow (firstRow lastRow : Nat) : Nat :=
  if lastRow + 1 < grid.screenLines ∧ lastRow - firstRow + 1 < maxTargetContextRows then
    if grid.lineWrapsToNext (grid.line lastRow) then lastLogicalRow firstRow (lastRow + 1)
    else lastRow
  else lastRow
termination_by grid.screenLines - lastRow

/-- The loop over the rows of the logical line. -/
def targetRows : List Nat → (characterCount : Nat) → Option (List TerminalTargetRow)
  | [], _ => some []
  | row :: rows, characterCount => do
    let text ← grid.visibleRowText row
    if maxTargetContextChars < characterCount + text.length then none
    else
      let others ← targetRows rows (characterCount + text.length)
      some (⟨row, text⟩ :: others)

def visibleLogicalLineTargetContextAtCell (row column : Nat) : Option TerminalTargetContext :=
  if grid.columns = 0 ∨ row ≥ grid.screenLines ∨ column ≥ grid.columns then none
  else do
    let (_, clickedCharacter) ← grid.visibleRowTextAtCell row column
    let firstRow := grid.firstLogicalRow row
    let startsMidLogicalLine :=
      firstRow = 0 && grid.lineWrapsToPreviousVisibleRowOrHistory (grid.line 0)
    let lastRow := grid.lastLogicalRow firstRow row
    let endsMidLogicalLine :=
      lastRow + 1 ≥ grid.screenLines && grid.lineWrapsToNext (grid.line lastRow) ||
        decide (lastRow - firstRow + 1 ≥ maxTargetContextRows)
    let rows ← grid.targetRows (List.range' firstRow (lastRow + 1 - firstRow)) 0
    let clickedRowOffset := ((rows.takeWhile (·.row ≠ row)).map (·.text.length)).sum
    some
      { rows
        clickedRow := row
        clickedCharacter := clickedRowOffset + clickedCharacter
        startsMidLogicalLine
        endsMidLogicalLine }

end Grid

end AxSsh
