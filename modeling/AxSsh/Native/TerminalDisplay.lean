import AxSsh.ForStd.ListDelta
import AxSsh.Native.TerminalScreen

/-!
# Presenting a terminal tab

The fields of `TerminalTabState` in `app/state/terminal.rs` that decide which snapshot of the
terminal the UI gets, the operations of `app/state/tabs/terminal.rs` and
`terminal_bridge/output.rs` that change them, and the rows of the view in `view/terminal.rs`
that are updated from a snapshot.

The selection, the clipboard and the transport stay outside: whether the worker takes what is
sent to it is an argument.
-/

namespace AxSsh

/-! ## Sizes -/

def minTerminalColumns : Nat := 10
def minTerminalRows : Nat := 3
def maxTerminalColumns : Nat := 300
def maxTerminalRows : Nat := 100

structure TerminalSize where
  columns : Nat
  rows : Nat
deriving DecidableEq, Repr

def TerminalSize.model (columns rows : Nat) : TerminalSize :=
  { columns := max minTerminalColumns (min columns maxTerminalColumns)
    rows := max minTerminalRows (min rows maxTerminalRows) }

/-! ## Published snapshots -/

/-- The terminal state that is visible besides the rows. -/
structure TerminalVisibleState where
  lineCount : Nat
  frame : TerminalFrame
deriving DecidableEq, Repr

def TerminalVisibleState.ofSnapshot (snapshot : TerminalSnapshot) : TerminalVisibleState :=
  ⟨snapshot.lines.length, snapshot.frame⟩

def mergeTerminalSnapshots (pending current : TerminalSnapshot) : TerminalSnapshot :=
  if pending.fullRefresh ∨ current.fullRefresh ∨ pending.lines.length ≠ current.lines.length ∨
      pending.frame.maxColumns ≠ current.frame.maxColumns then
    { current with fullRefresh := true, dirtyRows := List.range current.lines.length }
  else
    { current with
      dirtyRows := ((current.dirtyRows ++ pending.dirtyRows).mergeSort (· ≤ ·)).dedup }

/-- The fields of `TerminalTabState` that present the terminal. -/
structure DisplayTab (σ : Type) where
  terminal : Option (ScreenModel σ)
  outputFramePending : Bool := false
  pendingTerminalSnapshot : Option TerminalSnapshot := none
  publishedTerminalSnapshot : Option TerminalSnapshot := none
  publishedTerminalState : Option TerminalVisibleState := none

namespace DisplayTab

variable {σ : Type}

def deferOutputPresentation (t : DisplayTab σ) : DisplayTab σ := { t with outputFramePending := true }

def discardPendingTerminalSnapshot (t : DisplayTab σ) : DisplayTab σ :=
  { t with pendingTerminalSnapshot := none, outputFramePending := false }

/-- An expired synchronized update is flushed, one that is not is still pending. -/
def synchronizedOutputPending (E : Emulator σ) (now : Instant) (t : DisplayTab σ) :
    DisplayTab σ × Bool :=
  match t.terminal with
  | none => (t, false)
  | some model =>
    let (model, flushed) := model.flushSynchronizedOutputIfDue E now
    ({ t with terminal := some model },
      !flushed && (model.synchronizedOutputRemaining E now).isSome)

/-- `terminal.as_mut().map(TerminalModel::snapshot)` -/
def takeSnapshot (E : Emulator σ) (t : DisplayTab σ) : DisplayTab σ × Option TerminalSnapshot :=
  match t.terminal with
  | none => (t, none)
  | some model =>
    let (model, snapshot) := model.snapshot E
    ({ t with terminal := some model }, some snapshot)

/-- What joins the pending snapshot when a new one is admitted. -/
def admitted (t : DisplayTab σ) (snapshot : TerminalSnapshot) : TerminalSnapshot :=
  match t.pendingTerminalSnapshot with
  | some pending => mergeTerminalSnapshots pending snapshot
  | none => snapshot

def prepareTerminalOutputSnapshot (E : Emulator σ) (now : Instant) (t : DisplayTab σ) :
    DisplayTab σ × Bool :=
  let (t, held) := t.synchronizedOutputPending E now
  if held then (t, false)
  else
    let t := { t with outputFramePending := false }
    match t.takeSnapshot E with
    | (t, none) => (t, false)
    | (t, some snapshot) =>
      let visibleState := TerminalVisibleState.ofSnapshot snapshot
      if t.pendingTerminalSnapshot = none ∧ snapshot.dirtyRows = [] ∧
          t.publishedTerminalState = some visibleState then (t, false)
      else ({ t with pendingTerminalSnapshot := some (t.admitted snapshot) }, true)

/-- `published_terminal_snapshot` and `published_terminal_state` take a snapshot. -/
def publish (t : DisplayTab σ) (snapshot : TerminalSnapshot) : DisplayTab σ :=
  { t with
    pendingTerminalSnapshot := none
    publishedTerminalSnapshot := some snapshot
    publishedTerminalState := some (TerminalVisibleState.ofSnapshot snapshot) }

/-- The last part of `terminal_snapshot_for_ui`. -/
def showSnapshot (t : DisplayTab σ) (currentSnapshot : Option TerminalSnapshot) :
    DisplayTab σ × Option TerminalSnapshot :=
  match t.pendingTerminalSnapshot, currentSnapshot with
  | some pending, some current =>
    let snapshot := mergeTerminalSnapshots pending current
    (t.publish snapshot, some snapshot)
  | some pending, none => (t.publish pending, some pending)
  | none, some current => (t.publish current, some current)
  | none, none => (t, t.publishedTerminalSnapshot)

def terminalSnapshotForUi (E : Emulator σ) (now : Instant) (t : DisplayTab σ) :
    DisplayTab σ × Option TerminalSnapshot :=
  let (t, held) := t.synchronizedOutputPending E now
  if held then (t, t.publishedTerminalSnapshot.or t.pendingTerminalSnapshot)
  else
    let (t, currentSnapshot) := if t.outputFramePending then (t, none) else t.takeSnapshot E
    t.showSnapshot currentSnapshot

/-! ## Operations of the tab -/

/-- `process_terminal_output`, with the presentation hold of its effects.  It fails when the
    worker does not take a response of the terminal. -/
def processTerminalOutput (E : Emulator σ) (now : Instant) (data : List UInt8)
    (workerAccepts : Bool) (t : DisplayTab σ) : DisplayTab σ × Except String (Option Nat) :=
  match t.terminal with
  | none => (t, .error "terminal tab has no terminal model")
  | some model =>
    let (model, responses) := model.processWithResponses E now data
    let model := { model with
      pendingTitleUpdate := none
      pendingBell := false
      pendingClipboardStore := none
      pendingClipboardLoad := none }
    let t := { t with terminal := some model }
    let t := if data ≠ [] then t.deferOutputPresentation else t
    if responses = [] ∨ workerAccepts then (t, .ok (model.synchronizedOutputRemaining E now))
    else (t, .error "cannot queue terminal protocol response")

/-- The model's part of a resize: the model, whether its size changed, and the responses. -/
def resizeModel (E : Emulator σ) (size : TerminalSize) (cellWidth cellHeight : UInt32)
    (model : ScreenModel σ) : ScreenModel σ × Bool × List (Nat × String) :=
  let (protocol, responses) :=
    if 0 < cellWidth ∧ 0 < cellHeight then
      model.toTerminalModel.setWindowSize (.ofNat size.columns) (.ofNat size.rows) cellWidth
        cellHeight
    else (model.toTerminalModel, [])
  let resized := { model with toTerminalModel := protocol }
  if TerminalSize.model (E.columns model.term) (E.rows model.term).length ≠ size then
    let (resized, changed) := resized.resize E size.columns size.rows
    (resized, changed, responses)
  else (resized, false, responses)

/-- `accepted` answers the resize request and then the protocol responses. -/
def resizeTerminalWithMetrics (E : Emulator σ) (columns rows cellWidth cellHeight : UInt32)
    (accepted : Bool × Bool) (t : DisplayTab σ) : DisplayTab σ × Except String Bool :=
  match t.terminal with
  | none => (t, .error "terminal tab has no terminal model")
  | some model =>
    let size := TerminalSize.model columns.toNat rows.toNat
    let charactersChanged :=
      TerminalSize.model (E.columns model.term) (E.rows model.term).length ≠ size
    if ¬charactersChanged ∧ ¬(0 < cellWidth ∧ 0 < cellHeight) then (t, .ok false)
    else if accepted.1 = false then (t, .error "cannot queue terminal resize")
    else
      let (model, changed, responses) := resizeModel E size cellWidth cellHeight model
      let t := { t with terminal := some model }
      (if changed then t.discardPendingTerminalSnapshot else t,
        if responses ≠ [] ∧ accepted.2 = false then
          .error "cannot queue terminal protocol response"
        else .ok (charactersChanged || responses ≠ []))

def scrollTerminal (E : Emulator σ) (lines : Int) (t : DisplayTab σ) : DisplayTab σ × Bool :=
  match t.terminal with
  | none => (t, false)
  | some model =>
    let (model, changed) := model.scroll E lines
    let t := { t with terminal := some model }
    (if changed then t.discardPendingTerminalSnapshot else t, changed)

def scrollTerminalToBottom (E : Emulator σ) (t : DisplayTab σ) : DisplayTab σ × Bool :=
  match t.terminal with
  | none => (t, false)
  | some model =>
    let (model, changed) := model.scrollToBottom E
    let t := { t with terminal := some model }
    (if changed then t.discardPendingTerminalSnapshot else t, changed)

/-- What `apply_scrollback_setting` does to one tab. -/
def applyScrollbackSetting (E : Emulator σ) (scrollbackLines : Nat) (osc52Clipboard : Bool)
    (t : DisplayTab σ) : DisplayTab σ :=
  match t.terminal with
  | none => t
  | some model =>
    let model := (model.setScrollbackLines E scrollbackLines).setOsc52ClipboardEnabled E
      osc52Clipboard
    { t with terminal := some model }.discardPendingTerminalSnapshot

end DisplayTab

/-! ## The rows of the view -/

/-- The rows of the view after a snapshot: all of them, or the dirty ones.  A view that shows
    nothing yet takes all rows. -/
def updateRenderLines (view : Option (List TerminalStyledLine)) (snapshot : TerminalSnapshot) :
    List TerminalStyledLine :=
  match view with
  | none => snapshot.lines
  | some lines =>
    if snapshot.fullRefresh ∨ lines.length ≠ snapshot.lines.length then snapshot.lines
    else List.patch snapshot.dirtyRows snapshot.lines lines

end AxSsh
