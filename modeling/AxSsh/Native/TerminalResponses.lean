import Mathlib.Data.List.Basic

/-!
# Terminal protocol responses

The part of `TerminalModel` in `terminal/model.rs` that answers queries: the bounded queue
between the parser and the model, the size requests that wait for the first layout, and the
responses handed to the transport.

The parser itself is a library.  What it reports of a chunk of output comes with the chunk,
each event with the position in the output at which its query ended.  The responses and the
waiting requests carry these positions too; no branch reads them, and the number of pending
cell size requests is the length of their list.
-/

namespace AxSsh

def protocolResponseCapacity : Nat := 16

def maxProtocolResponseBytes : Nat := 4 * 1024

def maxTerminalTitleBytes : Nat := 512

def maxOsc52ClipboardBytes : Nat := 64 * 1024

/-! ## Colors and sizes -/

structure Rgb where
  r : UInt8
  g : UInt8
  b : UInt8
deriving DecidableEq, Repr

structure TerminalQueryColor where
  red : UInt8
  green : UInt8
  blue : UInt8
deriving DecidableEq, Repr

structure TerminalQueryPalette where
  ansi : Vector TerminalQueryColor 16
  foreground : TerminalQueryColor
  background : TerminalQueryColor
  cursor : TerminalQueryColor
deriving DecidableEq, Repr

def fromQueryColor (color : TerminalQueryColor) : Rgb := ⟨color.red, color.green, color.blue⟩

/-- One axis of the 6 × 6 × 6 color cube. -/
def cubeComponent (part : Nat) : UInt8 := [0, 95, 135, 175, 215, 255].getD part 0

def defaultQueryColor (index : Nat) (palette : TerminalQueryPalette) : Rgb :=
  if h : index < 16 then fromQueryColor (palette.ansi.get ⟨index, h⟩)
  else if index ≤ 231 then
    let value := index - 16
    ⟨cubeComponent (value / 36), cubeComponent (value / 6 % 6), cubeComponent (value % 6)⟩
  else if index ≤ 255 then
    let shade := UInt8.ofNat (8 + (index - 232) * 10)
    ⟨shade, shade, shade⟩
  else if index = 256 then fromQueryColor palette.foreground
  else if index = 257 then fromQueryColor palette.background
  else if index = 258 then fromQueryColor palette.cursor
  else fromQueryColor palette.foreground

structure WindowSize where
  numLines : UInt16
  numCols : UInt16
  cellWidth : UInt16
  cellHeight : UInt16
deriving DecidableEq, Repr

/-- `value.min(u32::from(u16::MAX)) as u16` -/
def clampU16 (value : UInt32) : UInt16 := UInt16.ofNat (min value.toNat 65535)

/-! ## Events -/

inductive ClipboardType where
  | clipboard
  | selection
deriving DecidableEq, Repr

/-- An event of the terminal library. -/
inductive TermEvent where
  | ptyWrite (response : String)
  | colorRequest (index : Nat) (formatter : Rgb → String)
  | textAreaSizeRequest (formatter : WindowSize → String)
  | title (title : String)
  | resetTitle
  | bell
  | clipboardStore (clipboard : ClipboardType) (text : String)
  | clipboardLoad (clipboard : ClipboardType) (formatter : String → String)
  | other

inductive TerminalProtocolEvent where
  | ptyWrite (response : String)
  | colorRequest (index : Nat) (formatter : Rgb → String)
  | textAreaSizeRequest (formatter : WindowSize → String)
  | title (title : String)
  | resetTitle
  | bell
  | clipboardStore (text : String)
  | clipboardLoad (formatter : String → String)

/-- The characters that fit into a number of bytes. -/
def boundChars (maxBytes : Nat) : List Char → List Char
  | [] => []
  | c :: rest => if c.utf8Size ≤ maxBytes then c :: boundChars (maxBytes - c.utf8Size) rest else []

def boundUtf8 (value : String) (maxBytes : Nat) : String :=
  if value.utf8ByteSize ≤ maxBytes then value
  else String.ofList (boundChars maxBytes value.toList)

/-- What the event listener puts in the queue for an event, if anything. -/
def protocolEvent : TermEvent → Option TerminalProtocolEvent
  | .ptyWrite response => some (.ptyWrite response)
  | .colorRequest index formatter => some (.colorRequest index formatter)
  | .textAreaSizeRequest formatter => some (.textAreaSizeRequest formatter)
  | .title title => some (.title (boundUtf8 title maxTerminalTitleBytes))
  | .resetTitle => some .resetTitle
  | .bell => some .bell
  | .clipboardStore .clipboard text =>
    if text.utf8ByteSize ≤ maxOsc52ClipboardBytes then some (.clipboardStore text) else none
  | .clipboardLoad .clipboard formatter => some (.clipboardLoad formatter)
  | _ => none

/-! ## The cell size query -/

/-- `CSI 16 t` is found in the output itself; the library has no event for it. -/
structure WindowOperationQueryTracker where
  parserState : Nat := 0
  parameter : Nat := 0
  hasParameter : Bool := false
deriving DecidableEq, Repr

def isAsciiDigit (byte : UInt8) : Bool := 48 ≤ byte && byte ≤ 57

namespace WindowOperationQueryTracker

/-- The parser after one byte, and whether the byte ended a request. -/
def observeByte (t : WindowOperationQueryTracker) (byte : UInt8) :
    WindowOperationQueryTracker × Bool :=
  if t.parserState = 0 ∧ byte = 0x1b then ({ t with parserState := 1 }, false)
  else if t.parserState = 1 ∧ byte = 91 then
    ({ parserState := 2, parameter := 0, hasParameter := false }, false)
  else if t.parserState = 2 ∧ isAsciiDigit byte then
    ({ t with
      parameter := min (min (t.parameter * 10) 65535 + (byte.toNat - 48)) 65535
      hasParameter := true }, false)
  else if t.parserState = 2 ∧ byte = 116 ∧ t.hasParameter ∧ t.parameter = 16 then
    ({ t with parserState := 0 }, true)
  else ({ t with parserState := if byte = 0x1b then 1 else 0 }, false)

/-- The positions at which requests end in the bytes that start at `pos`. -/
def observe (t : WindowOperationQueryTracker) (pos : Nat) :
    List UInt8 → WindowOperationQueryTracker × List Nat
  | [] => (t, [])
  | byte :: bytes =>
    let (next, found) := t.observeByte byte
    let (last, requests) := next.observe (pos + 1) bytes
    (last, if found then pos :: requests else requests)

end WindowOperationQueryTracker

/-! ## Responses -/

def protocolResponse (response : String) : Option String :=
  if response ≠ "" ∧ response.utf8ByteSize ≤ maxProtocolResponseBytes then some response else none

def cellSizeResponse (windowSize : WindowSize) : Option String :=
  protocolResponse s!"\x1b[6;{windowSize.cellHeight.toNat};{windowSize.cellWidth.toNat}t"

/-- What the library makes of a chunk: the events it reports, and its color table afterwards. -/
structure Parsed where
  events : List (Nat × TermEvent)
  colors : Nat → Option Rgb

structure TerminalModel where
  /-- How much output was processed. -/
  observed : Nat := 0
  protocolEvents : List (Nat × TerminalProtocolEvent) := []
  queryPalette : TerminalQueryPalette
  windowSize : Option WindowSize := none
  pendingTextAreaRequests : List (Nat × (WindowSize → String)) := []
  pendingCellSizeRequests : List Nat := []
  windowOperationQueries : WindowOperationQueryTracker := {}
  pendingTitleUpdate : Option (Option String) := none
  bellRevision : UInt64 := 0
  pendingBell : Bool := false
  pendingClipboardStore : Option String := none
  pendingClipboardLoad : Option (String → String) := none
  osc52ClipboardEnabled : Bool

namespace TerminalModel

/-- `try_send`: an event that finds the queue full is dropped. -/
def sendEvent (m : TerminalModel) (event : Nat × TermEvent) : TerminalModel :=
  match protocolEvent event.2 with
  | none => m
  | some sent =>
    if m.protocolEvents.length < protocolResponseCapacity then
      { m with protocolEvents := m.protocolEvents ++ [(event.1, sent)] }
    else m

def sendEvents (m : TerminalModel) (events : List (Nat × TermEvent)) : TerminalModel :=
  events.foldl sendEvent m

/-- One turn of the loop of `drain_protocol_events`, with the responses so far. -/
def handleProtocolEvent (colors : Nat → Option Rgb) (m : TerminalModel)
    (responses : List (Nat × String)) (pos : Nat) :
    TerminalProtocolEvent → TerminalModel × List (Nat × String)
  | .ptyWrite response =>
    match protocolResponse response with
    | some response => (m, responses ++ [(pos, response)])
    | none => (m, responses)
  | .colorRequest index formatter =>
    let color := (colors index).getD (defaultQueryColor index m.queryPalette)
    match protocolResponse (formatter color) with
    | some response => (m, responses ++ [(pos, response)])
    | none => (m, responses)
  | .textAreaSizeRequest formatter =>
    match m.windowSize with
    | some windowSize =>
      match protocolResponse (formatter windowSize) with
      | some response => (m, responses ++ [(pos, response)])
      | none => (m, responses)
    | none =>
      if m.pendingTextAreaRequests.length < protocolResponseCapacity then
        ({ m with
          pendingTextAreaRequests := m.pendingTextAreaRequests ++ [(pos, formatter)] }, responses)
      else (m, responses)
  | .title title => ({ m with pendingTitleUpdate := some (some title) }, responses)
  | .resetTitle => ({ m with pendingTitleUpdate := some none }, responses)
  | .bell =>
    ({ m with bellRevision := max (m.bellRevision + 1) 1, pendingBell := true }, responses)
  | .clipboardStore text =>
    (if m.osc52ClipboardEnabled then { m with pendingClipboardStore := some text } else m,
      responses)
  | .clipboardLoad formatter =>
    (if m.osc52ClipboardEnabled then { m with pendingClipboardLoad := some formatter } else m,
      responses)

/-- The loop of `drain_protocol_events` over the queue. -/
def drainEvents (colors : Nat → Option Rgb) (m : TerminalModel)
    (responses : List (Nat × String)) :
    List (Nat × TerminalProtocolEvent) → TerminalModel × List (Nat × String)
  | [] => (m, responses)
  | (pos, event) :: events =>
    let (m, responses) := handleProtocolEvent colors m responses pos event
    drainEvents colors m responses events

def drainProtocolEvents (m : TerminalModel) (colors : Nat → Option Rgb) :
    TerminalModel × List (Nat × String) :=
  drainEvents colors { m with protocolEvents := [] } [] m.protocolEvents

/-- The responses to cell size requests; `flatten` skips a response that is not allowed. -/
def cellSizeResponses (windowSize : WindowSize) (requests : List Nat) : List (Nat × String) :=
  requests.filterMap fun pos => (cellSizeResponse windowSize).map (pos, ·)

def handleCellSizeRequests (m : TerminalModel) (requests : List Nat)
    (responses : List (Nat × String)) : TerminalModel × List (Nat × String) :=
  if requests.length = 0 then (m, responses)
  else match m.windowSize with
    | some windowSize =>
      let remaining := protocolResponseCapacity - responses.length
      (m, responses ++ cellSizeResponses windowSize (requests.take (min requests.length remaining)))
    | none =>
      let occupied := m.pendingTextAreaRequests.length + m.pendingCellSizeRequests.length
      let accepted := min requests.length (protocolResponseCapacity - occupied)
      ({ m with
        pendingCellSizeRequests := m.pendingCellSizeRequests ++ requests.take accepted }, responses)

def processWithResponses (m : TerminalModel) (bytes : List UInt8) (parsed : Parsed) :
    TerminalModel × List (Nat × String) :=
  let (tracker, requests) := m.windowOperationQueries.observe m.observed bytes
  let m := { m with windowOperationQueries := tracker, observed := m.observed + bytes.length }
  let m := m.sendEvents parsed.events
  let (m, responses) := m.drainProtocolEvents parsed.colors
  m.handleCellSizeRequests requests responses

/-- `stop_sync` hands the library the output it held back; what it reports stays queued. -/
def flushSynchronizedOutput (m : TerminalModel) (events : List (Nat × TermEvent)) :
    TerminalModel :=
  m.sendEvents events

def setWindowSize (m : TerminalModel) (columns rows cellWidth cellHeight : UInt32) :
    TerminalModel × List (Nat × String) :=
  let windowSize : WindowSize :=
    ⟨clampU16 rows, clampU16 columns, clampU16 cellWidth, clampU16 cellHeight⟩
  if m.windowSize = some windowSize then (m, [])
  else
    let responses := m.pendingTextAreaRequests.filterMap fun request =>
      (protocolResponse (request.2 windowSize)).map (request.1, ·)
    let remaining := protocolResponseCapacity - responses.length
    let cellSizeRequests := m.pendingCellSizeRequests
    ({ m with
        windowSize := some windowSize
        pendingTextAreaRequests := []
        pendingCellSizeRequests := [] },
      responses ++ cellSizeResponses windowSize
        (cellSizeRequests.take (min cellSizeRequests.length remaining)))

end TerminalModel

end AxSsh
