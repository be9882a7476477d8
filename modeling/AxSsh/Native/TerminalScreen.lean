import AxSsh.Native.SftpTypes
import AxSsh.Native.TerminalResponses
import Mathlib.Data.List.Dedup
import Mathlib.Data.List.Sort

/-!
# Terminal snapshots

The part of `TerminalModel` in `terminal/render.rs` and `terminal/model.rs` that turns the
screen of the terminal library into snapshots: the styled runs of a row, the lines kept from
the last snapshot, and the rows that changed since.

The library's `Term` and its parser are one parameter, `Emulator`.  A cell comes with the style
its colors and flags resolve to, and the cursor with the cells it covers; no branch of the code
below reads the palette behind them.
-/

namespace AxSsh

/-! ## Cells and runs -/

inductive TerminalColor where
  | default
  | indexed (index : UInt8)
  | rgb (red green blue : UInt8)
deriving DecidableEq, Repr

inductive TerminalUnderlineStyle where
  | none
  | single
  | double
  | curly
  | dotted
  | dashed
deriving DecidableEq, Repr

structure TerminalStyle where
  foreground : TerminalColor := .default
  background : TerminalColor := .default
  bold : Bool := false
  dim : Bool := false
  italic : Bool := false
  underline : Bool := false
  underlineStyle : TerminalUnderlineStyle := .none
  underlineColor : Option TerminalColor := none
  strikethrough : Bool := false
  inverse : Bool := false
  hidden : Bool := false
deriving DecidableEq, Repr

structure TerminalStyledRun where
  text : String
  column : Nat
  cells : Nat
  style : TerminalStyle
  hyperlink : Option String
deriving DecidableEq, Repr

structure TerminalStyledLine where
  revision : UInt64 := 0
  runs : List TerminalStyledRun := []
deriving DecidableEq, Repr

/-- A cell of the library's grid. -/
structure Cell where
  c : Char
  zerowidth : List Char := []
  style : TerminalStyle := {}
  wideChar : Bool := false
  wideCharSpacer : Bool := false
  leadingWideCharSpacer : Bool := false
  hyperlink : Option String := none
deriving DecidableEq, Repr

inductive TextBatchKind where
  | ascii
  | boxDrawing
deriving DecidableEq, Repr

def maxHyperlinkUriBytes : Nat := 2 * 1024

namespace Cell

def isWideContinuation (cell : Cell) : Bool := cell.wideCharSpacer || cell.leadingWideCharSpacer

/-- `append_display_cell_text` -/
def displayText (cell : Cell) : List Char :=
  if cell.isWideContinuation then []
  else (if cell.c = '\t' then ' ' else cell.c) :: cell.zerowidth

def containsNonAscii (cell : Cell) : Bool :=
  127 < cell.c.toNat || cell.zerowidth.any (127 < ·.toNat)

def textBatchKind (cell : Cell) : Option TextBatchKind :=
  if cell.containsNonAscii = false then some .ascii
  else if 0x2500 ≤ cell.c.toNat ∧ cell.c.toNat ≤ 0x257f ∧ cell.zerowidth = [] then some .boxDrawing
  else none

def link (cell : Cell) : Option String :=
  (cell.hyperlink.map (boundUtf8 · maxHyperlinkUriBytes)).filter (· ≠ "")

/-- The inner loop of `styled_line` goes on to the next cell. -/
def batchesWith (cell next : Cell) : Bool :=
  !next.wideChar && !next.isWideContinuation && next.style = cell.style && next.link = cell.link &&
    cell.textBatchKind.isSome && next.textBatchKind = cell.textBatchKind

/-- The run of a cell and the cells batched with it, unless it only paints the background. -/
def run (cell : Cell) (batch : List Cell) (column cells : Nat) : Option TerminalStyledRun :=
  let text := (cell :: batch).flatMap displayText
  let invisibleDefault := text.all (· = ' ') && cell.style.background = .default &&
    !cell.style.inverse && !cell.style.underline && !cell.style.strikethrough
  if invisibleDefault then none
  else some ⟨String.ofList text, column, cells, cell.style, cell.link⟩

end Cell

/-- The runs of `styled_line` from a column on. -/
def styledRuns (column : Nat) : List Cell → List TerminalStyledRun
  | [] => []
  | cell :: rest =>
    if cell.isWideContinuation then styledRuns (column + 1) rest
    else if cell.wideChar then
      (cell.run [] column 2).toList ++ styledRuns (column + 2) (rest.drop 1)
    else
      let batch := rest.takeWhile cell.batchesWith
      let cells := 1 + batch.length
      (cell.run batch column cells).toList ++ styledRuns (column + cells) (rest.drop batch.length)
termination_by cells => cells.length
decreasing_by all_goals simp <;> omega

/-- `styled_line`, whose revision is filled in by the caller -/
def styledLine (cells : List Cell) : TerminalStyledLine := { runs := styledRuns 0 cells }

/-! ## The library -/

inductive TermDamage where
  | full
  | partialRows (rows : List Nat)
deriving DecidableEq, Repr

inductive TerminalCursorShape where
  | block
  | hollowBlock
  | underline
  | beam
deriving DecidableEq, Repr

structure TerminalMouseReporting where
  click : Bool := false
  drag : Bool := false
  motion : Bool := false
  sgr : Bool := false
  alternateScroll : Bool := false
deriving DecidableEq, Repr

def TerminalMouseReporting.enabled (r : TerminalMouseReporting) : Bool :=
  r.click || r.drag || r.motion

/-- The cursor and the colors a snapshot reads from the library. -/
structure TerminalCursor where
  row : Nat := 0
  column : Nat := 0
  cells : Nat := 1
  visible : Bool := true
  shape : TerminalCursorShape := .block
  blinking : Bool := false
  text : String := " "
  foregroundColor : TerminalColor := .default
  backgroundColor : TerminalColor := .default
  cursorColor : TerminalColor := .default
deriving DecidableEq, Repr

inductive Scroll where
  | delta (lines : Int)
  | bottom
deriving DecidableEq, Repr

/-- What the code uses of the terminal library, over the states `σ` of `Term` with its parser. -/
structure Emulator (σ : Type) where
  /-- The rows of the viewport. -/
  rows : σ → List (List Cell)
  columns : σ → Nat
  displayOffset : σ → Nat
  historySize : σ → Nat
  altScreen : σ → Bool
  cursor : σ → TerminalCursor
  mouseReporting : σ → TerminalMouseReporting
  damage : σ → TermDamage
  resetDamage : σ → σ
  /-- `Processor::advance` at an instant. -/
  advance : Instant → List UInt8 → σ → σ × Parsed
  /-- The instant at which a synchronized update expires. -/
  syncTimeout : σ → Option Instant
  /-- `stop_sync`, with the events of the output it held back. -/
  stopSync : σ → σ × List (Nat × TermEvent)
  scrollDisplay : Scroll → σ → σ
  resize : Nat → Nat → σ → σ
  setOptions : Nat → Bool → σ → σ

/-! ## Snapshots -/

inductive TerminalViewportMode where
  | follow
  | detached
  | alternateScreen
deriving DecidableEq, Repr

/-- The fields that `TerminalSnapshot` and `TerminalVisibleState` have in common. -/
structure TerminalFrame where
  maxColumns : Nat
  cursor : TerminalCursor
  displayOffset : Nat
  viewportMode : TerminalViewportMode
  mouseReporting : TerminalMouseReporting
  mouseButtonReportingActive : Bool
  mouseWheelReportingActive : Bool
  bellRevision : UInt64
deriving DecidableEq, Repr

structure TerminalSnapshot where
  lines : List TerminalStyledLine
  dirtyRows : List Nat
  fullRefresh : Bool
  frame : TerminalFrame
deriving DecidableEq, Repr

structure SnapshotDamage where
  dirtyRows : List Nat
  fullRefresh : Bool
deriving DecidableEq, Repr

/-- `TerminalModel`: the protocol part, with the screen and what is kept from the last snapshot. -/
structure ScreenModel (σ : Type) extends TerminalModel where
  term : σ
  scrollbackLines : Nat
  snapshotLines : List TerminalStyledLine := []
  snapshotColumns : Nat := 0
  snapshotDisplayOffset : Nat := 0
  nextLineRevision : UInt64 := 0
  viewportDetached : Bool := false

def takeLineRevision (revision : UInt64) : UInt64 := max (revision + 1) 1

/-- What the loops of `refresh_snapshot_lines` carry along. -/
structure LineRefresh where
  lines : List TerminalStyledLine
  revision : UInt64
  dirtyRows : List Nat
deriving DecidableEq, Repr

namespace LineRefresh

/-- One turn of the loop over the damaged rows. -/
def damagedRow (rows : List (List Cell)) (r : LineRefresh) (row : Nat) : LineRefresh :=
  match rows[row]? with
  | none => r
  | some cells =>
    let line := styledLine cells
    if (r.lines[row]?).any (·.runs = line.runs) then r
    else
      let revision := takeLineRevision r.revision
      { lines := r.lines.set row { line with revision := revision }
        revision := revision
        dirtyRows := r.dirtyRows ++ [row] }

/-- One turn of the loop over all rows; a line with the same runs is kept. -/
def everyRow (current : List TerminalStyledLine) (r : LineRefresh) (cells : List Cell) :
    LineRefresh :=
  let row := r.lines.length
  let line := styledLine cells
  match (current[row]?).filter (·.runs = line.runs) with
  | some kept => { r with lines := r.lines ++ [kept] }
  | none =>
    let revision := takeLineRevision r.revision
    { lines := r.lines ++ [{ line with revision := revision }]
      revision := revision
      dirtyRows := r.dirtyRows ++ [row] }

end LineRefresh

namespace ScreenModel

variable {σ : Type}

/-- The rows the library reports, unless the whole screen is refreshed. -/
def damagedRows (E : Emulator σ) (m : ScreenModel σ) : Option (List Nat) :=
  if m.snapshotLines.length ≠ (E.rows m.term).length ∨ m.snapshotColumns ≠ E.columns m.term ∨
      m.snapshotDisplayOffset ≠ E.displayOffset m.term then none
  else match E.damage m.term with
    | .full => none
    | .partialRows rows => some rows

/-- The two loops of `refresh_snapshot_lines`. -/
def refreshedLines (E : Emulator σ) (m : ScreenModel σ) : LineRefresh :=
  match m.damagedRows E with
  | some damaged =>
    damaged.foldl (LineRefresh.damagedRow (E.rows m.term))
      ⟨m.snapshotLines, m.nextLineRevision, []⟩
  | none =>
    (E.rows m.term).foldl (LineRefresh.everyRow m.snapshotLines) ⟨[], m.nextLineRevision, []⟩

/-- `dedup` removes repetitions in a row; the list is sorted. -/
def refreshSnapshotLines (E : Emulator σ) (m : ScreenModel σ) : ScreenModel σ × SnapshotDamage :=
  let refreshed := m.refreshedLines E
  ({ m with
      term := E.resetDamage m.term
      snapshotLines := refreshed.lines
      snapshotColumns := E.columns m.term
      snapshotDisplayOffset := E.displayOffset m.term
      nextLineRevision := refreshed.revision },
    { dirtyRows := (refreshed.dirtyRows.mergeSort (· ≤ ·)).dedup
      fullRefresh := (m.damagedRows E).isNone })

def viewportMode (E : Emulator σ) (m : ScreenModel σ) : TerminalViewportMode :=
  if E.altScreen m.term then .alternateScreen
  else if m.viewportDetached ∨ 0 < E.displayOffset m.term then .detached
  else .follow

/-- What a snapshot shows besides the lines. -/
def frame (E : Emulator σ) (m : ScreenModel σ) : TerminalFrame :=
  let reporting := E.mouseReporting m.term
  { maxColumns := E.columns m.term
    cursor := E.cursor m.term
    displayOffset := E.displayOffset m.term
    viewportMode := m.viewportMode E
    mouseReporting := reporting
    mouseButtonReportingActive := reporting.enabled
    mouseWheelReportingActive :=
      reporting.enabled || reporting.alternateScroll && E.altScreen m.term
    bellRevision := m.bellRevision }

def snapshot (E : Emulator σ) (m : ScreenModel σ) : ScreenModel σ × TerminalSnapshot :=
  let (m, damage) := m.refreshSnapshotLines E
  (m, { lines := m.snapshotLines
        dirtyRows := damage.dirtyRows
        fullRefresh := damage.fullRefresh
        frame := m.frame E })

/-! ## Output, scrolling and settings -/

def processWithResponses (E : Emulator σ) (now : Instant) (bytes : List UInt8)
    (m : ScreenModel σ) : ScreenModel σ × List (Nat × String) :=
  let wasAlternateScreen := E.altScreen m.term
  let (term, parsed) := E.advance now bytes m.term
  let isAlternateScreen := E.altScreen term
  let term := if wasAlternateScreen && !isAlternateScreen then E.scrollDisplay .bottom term else term
  let detached :=
    if isAlternateScreen || wasAlternateScreen != isAlternateScreen || E.displayOffset term = 0
    then false else m.viewportDetached
  let (protocol, responses) := m.toTerminalModel.processWithResponses bytes parsed
  ({ m with toTerminalModel := protocol, term := term, viewportDetached := detached }, responses)

def synchronizedOutputRemaining (E : Emulator σ) (now : Instant) (m : ScreenModel σ) : Option Nat :=
  (E.syncTimeout m.term).map (· - now)

def flushSynchronizedOutputIfDue (E : Emulator σ) (now : Instant) (m : ScreenModel σ) :
    ScreenModel σ × Bool :=
  match E.syncTimeout m.term with
  | none => (m, false)
  | some deadline =>
    if now < deadline then (m, false)
    else
      let (term, events) := E.stopSync m.term
      ({ m with toTerminalModel := m.toTerminalModel.flushSynchronizedOutput events, term := term },
        true)

def scroll (E : Emulator σ) (deltaLines : Int) (m : ScreenModel σ) : ScreenModel σ × Bool :=
  if E.altScreen m.term ∨ deltaLines = 0 then (m, false)
  else
    let current := E.displayOffset m.term
    let requested :=
      if 0 < deltaLines then min (current + deltaLines.toNat) (E.historySize m.term)
      else current - (-deltaLines).toNat
    if requested = current then (m, false)
    else
      ({ m with
          term := E.scrollDisplay (.delta ((requested : Int) - current)) m.term
          viewportDetached :=
            if requested = 0 then false
            else if current < requested then true
            else m.viewportDetached }, true)

def scrollToBottom (E : Emulator σ) (m : ScreenModel σ) : ScreenModel σ × Bool :=
  let m := { m with viewportDetached := false }
  if E.displayOffset m.term = 0 then (m, false)
  else ({ m with term := E.scrollDisplay .bottom m.term }, true)

/-- `dimensions` are within the limits of `TerminalSize::model`. -/
def resize (E : Emulator σ) (columns rows : Nat) (m : ScreenModel σ) : ScreenModel σ × Bool :=
  if E.columns m.term = columns ∧ (E.rows m.term).length = rows then (m, false)
  else
    let previous := E.displayOffset m.term
    let preserveViewport := !E.altScreen m.term && (m.viewportDetached || 0 < previous)
    let term := E.resize columns rows m.term
    if preserveViewport then
      let target := min previous (E.historySize term)
      let current := E.displayOffset term
      let term :=
        if target ≠ current then E.scrollDisplay (.delta ((target : Int) - current)) term else term
      ({ m with term := term, viewportDetached := 0 < target }, true)
    else
      ({ m with
          term := term
          viewportDetached := if E.displayOffset term = 0 then false else m.viewportDetached },
        true)

def setScrollbackLines (E : Emulator σ) (scrollbackLines : Nat) (m : ScreenModel σ) :
    ScreenModel σ :=
  if scrollbackLines = m.scrollbackLines then m
  else
    let term := E.setOptions scrollbackLines m.osc52ClipboardEnabled m.term
    { m with
      term := term
      scrollbackLines := scrollbackLines
      viewportDetached := if E.displayOffset term = 0 then false else m.viewportDetached }

def setOsc52ClipboardEnabled (E : Emulator σ) (enabled : Bool) (m : ScreenModel σ) :
    ScreenModel σ :=
  let m := if enabled then m
    else { m with pendingClipboardLoad := none, pendingClipboardStore := none }
  if m.osc52ClipboardEnabled = enabled then m
  else
    { m with
      osc52ClipboardEnabled := enabled
      term := E.setOptions m.scrollbackLines enabled m.term }

end ScreenModel

end AxSsh
