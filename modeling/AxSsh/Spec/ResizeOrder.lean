import AxSsh.ForStd.Except
import AxSsh.Native.TerminalResize

/-!
# Resize requests reach the backend in their order

Each worker is a receiver of a watch channel with the sizes of the requests.  SSH and Telnet use
one; the two locked slots of the local shell act like one, whose value is the size stored last and
which is seen where `pending_resize` is empty.

A state keeps what its stage asks for: a size on its way to the backend was sent no earlier than
anything the backend was told, and it is the current one unless the channel has changed meanwhile.
-/

namespace AxSsh.Resize

/-- The sizes that were asked for, oldest first. -/
def sizes (requests : List SizeRequest) : List BackendSize := requests.map SizeRequest.size

theorem sizes_append (requests : List SizeRequest) (request : SizeRequest) :
    sizes (requests ++ [request]) = sizes requests ++ [request.size] :=
  List.map_append

/-- The value of the channel is the size of the last request. -/
theorem exists_last {requests : List SizeRequest} {w : Watch BackendSize}
    (h : w.Latest (sizes requests)) :
    ∃ request, requests.getLast? = some request ∧ request.size = w.value := by
  have hmap : (requests.getLast?).map SizeRequest.size = some w.value := by
    rw [← List.getLast?_map]
    exact h
  exact Option.map_eq_some_iff.mp hmap

/-! ## What a request leaves of its arguments -/

theorem validateBackendSize_eq_ok {columns rows : Nat}
    (h : validateBackendSize columns rows = .ok ()) :
    (1 ≤ columns ∧ columns ≤ maxTerminalColumns) ∧ (1 ≤ rows ∧ rows ≤ maxTerminalRows) := by
  unfold validateBackendSize at h
  split at h
  · cases h
  · split at h
    · cases h
    · omega

/-- The dimensions pass `validate_backend_size`. -/
def SizeRequest.Valid (request : SizeRequest) : Prop :=
  (1 ≤ request.columns ∧ request.columns ≤ maxTerminalColumns) ∧
    (1 ≤ request.rows ∧ request.rows ≤ maxTerminalRows)

theorem SizeRequest.Valid.size_eq {request : SizeRequest} (h : request.Valid) :
    request.size =
      { columns := request.columns
        rows := request.rows
        pixelWidth := request.pixelWidth
        pixelHeight := request.pixelHeight } := by
  obtain ⟨⟨hpos, hmax⟩, ⟨hpos', hmax'⟩⟩ := h
  simp only [SizeRequest.size, backendWithPixels, backend, Nat.min_eq_left hmax,
    Nat.min_eq_left hmax', Nat.max_eq_right hpos, Nat.max_eq_right hpos']

theorem SizeRequest.Valid.ptySize_eq {request : SizeRequest} (h : request.Valid) :
    ptySize request.size =
      { rows := request.rows
        cols := request.columns
        pixelWidth := min request.pixelWidth u16Max
        pixelHeight := min request.pixelHeight u16Max } := by
  rw [h.size_eq]
  obtain ⟨⟨-, hmax⟩, ⟨-, hmax'⟩⟩ := h
  have hpixels (n : Nat) : min n u16Max % 2 ^ 16 = min n u16Max :=
    Nat.mod_eq_of_lt (Nat.lt_of_le_of_lt (Nat.min_le_right n u16Max) (by decide))
  have hcolumns : request.columns % 2 ^ 16 = request.columns :=
    Nat.mod_eq_of_lt (Nat.lt_of_le_of_lt hmax (by decide))
  have hrows : request.rows % 2 ^ 16 = request.rows :=
    Nat.mod_eq_of_lt (Nat.lt_of_le_of_lt hmax' (by decide))
  simp only [ptySize, hpixels, hcolumns, hrows]

/-- The columns and rows that a server reads in the payload of a NAWS subnegotiation. -/
def announcedWindow : List UInt8 → Option (Nat × Nat)
  | [columnsHigh, columnsLow, rowsHigh, rowsLow] =>
    some (columnsHigh.toNat * 256 + columnsLow.toNat, rowsHigh.toNat * 256 + rowsLow.toNat)
  | _ => none

/-- The two bytes of a number below `2 ^ 16` are that number again. -/
theorem toNat_u16Bytes {value : Nat} (h : value < 2 ^ 16) :
    (UInt8.ofNat (value % 2 ^ 16 / 256)).toNat * 256 + (UInt8.ofNat (value % 2 ^ 16 % 256)).toNat
      = value := by
  rw [Nat.mod_eq_of_lt h, UInt8.toNat_ofNat', UInt8.toNat_ofNat']
  omega

theorem announcedWindow_payload (columns rows : Nat) :
    announcedWindow (windowSizePayload (terminalSize columns rows)) =
      some (max 1 (min columns maxTerminalColumns), max 1 (min rows maxTerminalRows)) := by
  have hcolumns : max 1 (min columns maxTerminalColumns) < 2 ^ 16 := by
    unfold maxTerminalColumns
    omega
  have hrows : max 1 (min rows maxTerminalRows) < 2 ^ 16 := by
    unfold maxTerminalRows
    omega
  simp only [windowSizePayload, u16Bytes, terminalSize, backend, List.cons_append,
    List.nil_append, announcedWindow, toNat_u16Bytes hcolumns, toNat_u16Bytes hrows]

/-! ## The local shell -/

/-- The worker has the PTY and is in its loop or about to enter it. -/
def LocalStage.running : LocalStage → Bool
  | .opening | .stopped | .gone => false
  | _ => true

def LocalStage.isResizing : LocalStage → Bool
  | .applying _ => true
  | _ => false

namespace LocalShell

/-- The PTY has the size of the slot if that is seen, and it was told `size` last. -/
structure Told (resizes : List PtySize) (asked : List BackendSize) (w : Watch BackendSize)
    (size : BackendSize) : Prop where
  upToDate : w.UpToDate ptySize asked resizes true
  told : resizes.head? = some (ptySize size)

/-- What holds at a stage of the worker. -/
def StageInv (initialSize appliedSize : BackendSize) (resizes : List PtySize)
    (asked : List BackendSize) (w : Watch BackendSize) : LocalStage → Prop
  | .opening => w.Holding ptySize asked resizes initialSize
  | .starting => Told resizes asked w initialSize
  | .applying size => w.Holding ptySize asked resizes size
  | .stopped | .gone => InOrder (asked.map ptySize) resizes
  | .looping | .taking | .reporting | .polling | .receiving | .writing =>
    Told resizes asked w appliedSize

/-- The two slots of the resize requests act like the watch channel `w`. -/
structure Simulates (s : LocalShell) (w : Watch BackendSize) : Prop where
  latest : w.Latest (sizes s.requests)
  seen : w.seen = s.pendingResize.isNone
  pending : ∀ size, s.pendingResize = some size → size = w.value
  requested : s.requestedResize =
    match s.requester with
    | .storing request => request.size
    | _ => w.value
  stage : StageInv s.initialSize s.appliedSize s.resizes (sizes s.requests) w s.stage

variable {s s' : LocalShell} {asked : List BackendSize} {resizes : List PtySize}
  {w w' : Watch BackendSize} {initialSize appliedSize size value : BackendSize}

theorem Told.send (h : Told resizes asked w size) (hsends : w.Sends w' value) :
    Told resizes (asked ++ [value]) w' size :=
  ⟨h.upToDate.send hsends, h.told⟩

theorem StageInv.send {stage : LocalStage}
    (h : StageInv initialSize appliedSize resizes asked w stage) (hsends : w.Sends w' value) :
    StageInv initialSize appliedSize resizes (asked ++ [value]) w' stage := by
  cases stage with
  | opening => exact Watch.Holding.send h hsends
  | applying size => exact Watch.Holding.send h hsends
  | stopped | gone =>
    show InOrder ((asked ++ [value]).map ptySize) resizes
    rw [List.map_append]
    exact InOrder.append h _
  | _ => exact Told.send h hsends

theorem StageInv.inOrder {stage : LocalStage}
    (h : StageInv initialSize appliedSize resizes asked w stage) :
    InOrder (asked.map ptySize) resizes := by
  cases stage with
  | opening => exact (Watch.Holding.behind h).inOrder
  | applying size => exact (Watch.Holding.behind h).inOrder
  | stopped | gone => exact h
  | _ => exact (Told.upToDate h).inOrder

theorem simulates_spawn (columns rows : Nat) :
    (spawn columns rows).Simulates (.channel (backend columns rows)) where
  latest := rfl
  seen := rfl
  pending := nofun
  requested := rfl
  stage := ⟨⟨0, rfl, trivial⟩, fun _ => rfl⟩

/-! ### The request -/

theorem Simulates.request (h : s.Simulates w) {request : SizeRequest}
    (hok : s.requestResizeWithPixels request = .ok s') : ∃ w', s'.Simulates w' := by
  unfold requestResizeWithPixels at hok
  obtain ⟨_, -, hok⟩ := Except.bind_eq_ok_iff.mp hok
  split at hok
  · rename_i hidle
    have hvalue : s.requestedResize = w.value := by rw [h.requested, hidle]
    split at hok
    · -- the size is the one stored last, so the slot stays as it is
      rename_i hsame
      cases hok
      have hsends : w.Sends w request.size := ⟨by rw [← hvalue, hsame], fun _ => rfl⟩
      exact ⟨w, by rw [sizes_append]; exact hsends.latest, h.seen, h.pending, h.requested,
        by rw [sizes_append]; exact h.stage.send hsends⟩
    · cases hok
      exact ⟨w, h.latest, h.seen, h.pending, rfl, h.stage⟩
  · cases hok
    exact ⟨w, h⟩

theorem Simulates.storePending (h : s.Simulates w) : ∃ w', s.storePending.Simulates w' := by
  unfold LocalShell.storePending
  split
  · rename_i request hstoring
    have hsends : w.Sends ⟨request.size, false⟩ request.size := ⟨rfl, nofun⟩
    have hrequested : s.requestedResize = request.size := by rw [h.requested, hstoring]
    refine ⟨⟨request.size, false⟩, ?_, rfl, ?_, hrequested, ?_⟩
    · rw [sizes_append]
      exact hsends.latest
    · intro size hsize
      cases hsize
      rfl
    · rw [sizes_append]
      exact h.stage.send hsends
  · exact ⟨w, h⟩

theorem Simulates.trySend (h : s.Simulates w) (command : LocalShellCommand) :
    (s.trySend command).Simulates w := by
  unfold LocalShell.trySend
  split
  · exact ⟨h.latest, h.seen, h.pending, h.requested, h.stage⟩
  · exact h

theorem Simulates.finishRequest (h : s.Simulates w) : s.finishRequest.Simulates w := by
  unfold LocalShell.finishRequest
  split
  · rename_i hwaking
    have hrequested : s.requestedResize = w.value := by rw [h.requested, hwaking]
    unfold wakeWorker
    split
    · show LocalShell.Simulates { s with requester := .idle } w
      exact ⟨h.latest, h.seen, h.pending, hrequested, h.stage⟩
    · have hsent := h.trySend .wake
      have hrequested' : (s.trySend .wake).requestedResize = w.value := by
        unfold LocalShell.trySend
        split <;> exact hrequested
      exact ⟨hsent.latest, hsent.seen, hsent.pending, hrequested', hsent.stage⟩
  · exact h

/-! ### The worker -/

theorem Simulates.takePending (h : s.Simulates w) (hstage : s.stage = .taking) :
    ∃ w', s.takePending.Simulates w' := by
  have htold : Told s.resizes (sizes s.requests) w s.appliedSize := by
    have hinv := h.stage
    rw [hstage] at hinv
    exact hinv
  unfold LocalShell.takePending
  split
  · exact ⟨w, h.latest, h.seen, h.pending, h.requested, htold⟩
  · rename_i size hsize
    obtain rfl := h.pending size hsize
    split
    · -- the PTY has the size already
      rename_i hsame
      refine ⟨w.markSeen, h.latest, rfl, nofun, h.requested, ⟨htold.upToDate.inOrder, ?_⟩,
        htold.told⟩
      intro _ _
      show s.resizes.head? = some (ptySize w.value)
      rw [hsame, htold.told]
    · exact ⟨w.markSeen, h.latest, rfl, nofun, h.requested,
        Watch.Holding.take h.latest htold.upToDate.inOrder⟩

theorem Simulates.receive (h : s.Simulates w) (hstage : s.stage = .receiving) (answer : Answer) :
    (s.receive answer).Simulates w := by
  have htold : Told s.resizes (sizes s.requests) w s.appliedSize := by
    have hinv := h.stage
    rw [hstage] at hinv
    exact hinv
  unfold LocalShell.receive
  split
  all_goals first
    | exact h
    | exact ⟨h.latest, h.seen, h.pending, h.requested, htold⟩

theorem Simulates.work (h : s.Simulates w) (answer : Answer) :
    ∃ w', (s.work answer).Simulates w' := by
  have hinv := h.stage
  have hend : InOrder ((sizes s.requests).map ptySize) s.resizes := h.stage.inOrder
  -- whatever fails, the shell stops, and no size is applied any more
  have hstop : { s with stage := .stopped }.Simulates w :=
    ⟨h.latest, h.seen, h.pending, h.requested, hend⟩
  unfold LocalShell.work
  cases hstage : s.stage with rw [hstage] at hinv
  | opening =>
    cases answer with
    | ok => exact ⟨w, h.latest, h.seen, h.pending, h.requested, hinv.apply true, rfl⟩
    | _ => exact ⟨w, hstop⟩
  | starting =>
    cases answer with
    | ok => exact ⟨w, h.latest, h.seen, h.pending, h.requested, hinv⟩
    | _ => exact ⟨w, hstop⟩
  | looping =>
    refine ⟨w, h.latest, h.seen, h.pending, h.requested, ?_⟩
    cases s.shutdownRequested with
    | true => exact hend
    | false => exact hinv
  | taking => exact h.takePending hstage
  | applying size =>
    cases answer with
    | ok => exact ⟨w, h.latest, h.seen, h.pending, h.requested, hinv.apply true, rfl⟩
    | _ => exact ⟨w, hstop⟩
  | polling =>
    cases answer with
    | ok => exact ⟨w, h.latest, h.seen, h.pending, h.requested, hinv⟩
    | _ => exact ⟨w, hstop⟩
  | receiving => exact ⟨w, h.receive hstage answer⟩
  | writing =>
    cases answer with
    | ok => exact ⟨w, h.latest, h.seen, h.pending, h.requested, hinv⟩
    | _ => exact ⟨w, hstop⟩
  | reporting => exact ⟨w, h.latest, h.seen, h.pending, h.requested, hinv⟩
  | stopped => exact ⟨w, h.latest, h.seen, h.pending, h.requested, hend⟩
  | gone => exact ⟨w, h⟩

/-- Every step of a request, of the worker and of what queues commands. -/
theorem Simulates.step (h : s.Simulates w) (input : LocalInput) :
    ∃ w', (s.step input).Simulates w' := by
  cases input with
  | request request =>
    exact Except.toOption_getD_of (P := fun s => ∃ w, Simulates s w) ⟨w, h⟩
      fun _ hok => h.request hok
  | store => exact h.storePending
  | wake => exact ⟨w, h.finishRequest⟩
  | send => exact ⟨w, h.trySend .send⟩
  | readerCloses => exact ⟨w, h.trySend .readerClosed⟩
  | shutdown =>
    have hflag : { s with shutdownRequested := true }.Simulates w :=
      ⟨h.latest, h.seen, h.pending, h.requested, h.stage⟩
    exact ⟨w, hflag.trySend .wake⟩
  | work answer => exact h.work answer

theorem Simulates.run (h : s.Simulates w) (inputs : List LocalInput) :
    ∃ w', (inputs.foldl LocalShell.step s).Simulates w' := by
  have hstep (s : LocalShell) (hs : ∃ w, s.Simulates w) (input : LocalInput) :
      ∃ w, (s.step input).Simulates w := by
    obtain ⟨w, hw⟩ := hs
    exact hw.step input
  exact List.foldlRecOn inputs LocalShell.step ⟨w, h⟩ fun s hs input _ => hstep s hs input

/-- The worker is running and has no resize under way or to take. -/
def Settled (s : LocalShell) : Prop :=
  s.pendingResize = none ∧ s.stage.running = true ∧ s.stage.isResizing = false

instance (s : LocalShell) : Decidable s.Settled := inferInstanceAs (Decidable (_ ∧ _))

theorem Simulates.settled (h : s.Simulates w) (hsettled : s.Settled) :
    ∃ request, s.requests.getLast? = some request ∧
      s.resizes.head? = some (ptySize request.size) := by
  obtain ⟨hpending, hrunning, hresizing⟩ := hsettled
  obtain ⟨request, hlast, hsize⟩ := exists_last h.latest
  have hseen : w.seen = true := by rw [h.seen, hpending]; rfl
  refine ⟨request, hlast, ?_⟩
  rw [hsize]
  have hinv := h.stage
  cases hstage : s.stage with rw [hstage] at hinv hrunning hresizing
  | opening | stopped | gone => exact (Bool.false_ne_true hrunning).elim
  | applying => exact (Bool.false_ne_true hresizing.symm).elim
  | _ => exact hinv.upToDate.current rfl hseen

end LocalShell

/-! ## The SSH shell -/

theorem sends_replaceBy (w : Watch BackendSize) (size : BackendSize) :
    w.Sends (w.sendIfModified (replaceBy size)) size :=
  w.sends_sendIfModified size

/-- The shell is open and the worker is in its loop or about to enter it. -/
def SshStage.running : SshStage → Bool
  | .preparing | .opening _ | .stopped | .gone => false
  | _ => true

def SshStage.isResizing : SshStage → Bool
  | .resizing _ => true
  | _ => false

namespace SshShell

/-- What holds at a stage of the worker. -/
def StageInv (resizes asked : List BackendSize) (w : Watch BackendSize) : SshStage → Prop
  | .opening size | .resizing size => w.Holding id asked resizes size
  | .announcing | .selecting | .reporting => w.UpToDate id asked resizes true
  | .preparing | .stopped | .gone => InOrder (asked.map id) resizes

structure Inv (s : SshShell) : Prop where
  latest : s.resize.Latest (sizes s.requests)
  stage : StageInv s.resizes (sizes s.requests) s.resize s.stage

variable {s s' : SshShell} {asked resizes : List BackendSize} {w w' : Watch BackendSize}
  {value : BackendSize}

theorem StageInv.send {stage : SshStage} (h : StageInv resizes asked w stage)
    (hsends : w.Sends w' value) : StageInv resizes (asked ++ [value]) w' stage := by
  cases stage with
  | opening | resizing => exact Watch.Holding.send h hsends
  | announcing | selecting | reporting => exact Watch.UpToDate.send h hsends
  | preparing | stopped | gone =>
    show InOrder ((asked ++ [value]).map id) resizes
    rw [List.map_append]
    exact InOrder.append h _

theorem StageInv.inOrder {stage : SshStage} (h : StageInv resizes asked w stage) :
    InOrder (asked.map id) resizes := by
  cases stage with
  | opening | resizing => exact (Watch.Holding.behind h).inOrder
  | announcing | selecting | reporting => exact Watch.UpToDate.inOrder h
  | preparing | stopped | gone => exact h

theorem inv_spawn (columns rows : Nat) : (spawn columns rows).Inv :=
  ⟨rfl, InOrder.nil _⟩

theorem Inv.request (h : s.Inv) {request : SizeRequest}
    (hok : s.requestResizeWithPixels request = .ok s') : s'.Inv := by
  unfold requestResizeWithPixels at hok
  obtain ⟨_, -, hok⟩ := Except.bind_eq_ok_iff.mp hok
  split at hok
  · cases hok
  · cases hok
    have hsends := sends_replaceBy s.resize request.size
    constructor
    · rw [sizes_append]
      exact hsends.latest
    · rw [sizes_append]
      exact h.stage.send hsends

theorem Inv.changed (h : s.Inv) : s.changed.Inv := by
  unfold SshShell.changed
  split
  · exact ⟨h.latest, Watch.Holding.take h.latest h.stage.inOrder⟩
  · exact h

theorem Inv.work (h : s.Inv) (answer : Answer) : (s.work answer).Inv := by
  have hinv := h.stage
  have hstop : { s with stage := .stopped }.Inv := ⟨h.latest, h.stage.inOrder⟩
  unfold SshShell.work
  cases hstage : s.stage with rw [hstage] at hinv
  | preparing =>
    cases answer with
    | ok => exact ⟨h.latest, Watch.Holding.take h.latest hinv⟩
    | _ => exact hstop
  | opening size | resizing size =>
    cases answer with
    | ok => exact ⟨h.latest, hinv.apply true⟩
    | _ => exact hstop
  | announcing | reporting =>
    cases answer with
    | ok => exact ⟨h.latest, hinv⟩
    | _ => exact hstop
  | selecting =>
    cases answer with
    | ok => exact h
    | _ => exact hstop
  | stopped => exact ⟨h.latest, hinv⟩
  | gone => exact h

theorem Inv.step (h : s.Inv) (input : SshInput) : (s.step input).Inv := by
  cases input with
  | request request =>
    exact Except.toOption_getD_of h fun _ hok => h.request hok
  | changed => exact h.changed
  | work answer => exact h.work answer

theorem Inv.run (h : s.Inv) (inputs : List SshInput) :
    (inputs.foldl SshShell.step s).Inv :=
  List.foldlRecOn inputs SshShell.step h fun _ hs input _ => hs.step input

/-- The worker is running and has no resize under way or to take. -/
def Settled (s : SshShell) : Prop :=
  s.resize.hasChanged = false ∧ s.stage.running = true ∧ s.stage.isResizing = false

instance (s : SshShell) : Decidable s.Settled := inferInstanceAs (Decidable (_ ∧ _))

theorem Inv.settled (h : s.Inv) (hsettled : s.Settled) :
    ∃ request, s.requests.getLast? = some request ∧ s.resizes.head? = some request.size := by
  obtain ⟨hchanged, hrunning, hresizing⟩ := hsettled
  obtain ⟨request, hlast, hsize⟩ := exists_last h.latest
  refine ⟨request, hlast, ?_⟩
  rw [hsize]
  have hinv := h.stage
  cases hstage : s.stage with rw [hstage] at hinv hrunning hresizing
  | announcing | selecting | reporting =>
    exact hinv.current rfl (Watch.seen_of_not_hasChanged hchanged)
  | resizing => exact (Bool.false_ne_true hresizing.symm).elim
  | _ => exact (Bool.false_ne_true hrunning).elim

end SshShell

/-! ## The Telnet terminal -/

/-- The worker is connected and in its loop. -/
def TelnetStage.running : TelnetStage → Bool
  | .connecting | .stopped | .gone => false
  | _ => true

def TelnetStage.isResizing : TelnetStage → Bool
  | .resizing _ | .enabling _ _ => true
  | _ => false

namespace TelnetTerminal

/-- What holds at a stage of the worker; without NAWS there is nothing the server was told. -/
def StageInv (nawsEnabled : Bool) (resizes : List (List UInt8)) (asked : List BackendSize)
    (w : Watch BackendSize) : TelnetStage → Prop
  | .connecting | .selecting => w.UpToDate windowSizePayload asked resizes nawsEnabled
  | .resizing size => w.Holding windowSizePayload asked resizes size
  | .reading size _ =>
    w.Holding windowSizePayload asked resizes size ∧
      w.UpToDate windowSizePayload asked resizes nawsEnabled
  | .enabling size _ => w.Holding windowSizePayload asked resizes size
  | .stopped | .gone => InOrder (asked.map windowSizePayload) resizes

structure Inv (s : TelnetTerminal) : Prop where
  latest : s.resize.Latest (sizes s.requests)
  stage : StageInv s.nawsEnabled s.resizes (sizes s.requests) s.resize s.stage

variable {s s' : TelnetTerminal} {nawsEnabled : Bool} {asked : List BackendSize}
  {resizes : List (List UInt8)} {w w' : Watch BackendSize} {size value : BackendSize}

theorem StageInv.send {stage : TelnetStage} (h : StageInv nawsEnabled resizes asked w stage)
    (hsends : w.Sends w' value) : StageInv nawsEnabled resizes (asked ++ [value]) w' stage := by
  cases stage with
  | connecting | selecting => exact Watch.UpToDate.send h hsends
  | resizing | enabling => exact Watch.Holding.send h hsends
  | reading => exact ⟨h.1.send hsends, h.2.send hsends⟩
  | stopped | gone =>
    show InOrder ((asked ++ [value]).map windowSizePayload) resizes
    rw [List.map_append]
    exact InOrder.append h _

theorem StageInv.inOrder {stage : TelnetStage} (h : StageInv nawsEnabled resizes asked w stage) :
    InOrder (asked.map windowSizePayload) resizes := by
  cases stage with
  | connecting | selecting => exact Watch.UpToDate.inOrder h
  | resizing | enabling => exact (Watch.Holding.behind h).inOrder
  | reading => exact h.2.inOrder
  | stopped | gone => exact h

theorem inv_spawn (columns rows : Nat) : (spawn columns rows).Inv :=
  ⟨rfl, Watch.UpToDate.off (InOrder.nil _)⟩

theorem Inv.request (h : s.Inv) {columns rows : Nat}
    (hok : s.requestResize columns rows = .ok s') : s'.Inv := by
  unfold requestResize at hok
  split at hok
  · cases hok
  · cases hok
    have hsends := sends_replaceBy s.resize (terminalSize columns rows)
    constructor
    · rw [sizes_append]
      exact hsends.latest
    · rw [sizes_append]
      exact h.stage.send hsends

theorem Inv.changed (h : s.Inv) : s.changed.Inv := by
  unfold TelnetTerminal.changed
  split
  · have horder := h.stage.inOrder
    refine ⟨h.latest, ?_⟩
    show StageInv s.nawsEnabled s.resizes (sizes s.requests) s.resize.markSeen
      (if s.nawsEnabled = true then .resizing s.resize.value else .selecting)
    cases s.nawsEnabled with
    | true => exact Watch.Holding.take h.latest horder
    | false => exact Watch.UpToDate.off horder
  · exact h

theorem Inv.received (h : s.Inv) (events : List TelnetEvent) : (s.received events).Inv := by
  unfold TelnetTerminal.received
  split
  · rename_i hstage
    have hinv := h.stage
    rw [hstage] at hinv
    exact ⟨h.latest, Watch.Holding.peek h.latest hinv.inOrder, hinv⟩
  · exact h

theorem Inv.handleEvent (h : s.Inv) (hholding : s.resize.Holding windowSizePayload
    (sizes s.requests) s.resizes size) (hdone : s.resize.UpToDate windowSizePayload
    (sizes s.requests) s.resizes s.nawsEnabled) (event : TelnetEvent) (events : List TelnetEvent)
    (answer : Answer) : (s.handleEvent size event events answer).Inv := by
  unfold TelnetTerminal.handleEvent
  cases event with
  | negotiation command option =>
    dsimp only
    split
    · split
      · exact ⟨h.latest, hholding, hdone⟩
      · exact ⟨h.latest, hholding⟩
    · split
      · exact ⟨h.latest, hholding, Watch.UpToDate.off hdone.inOrder⟩
      · exact ⟨h.latest, hholding, hdone⟩
  | other =>
    cases answer with
    | ok => exact ⟨h.latest, hholding, hdone⟩
    | _ => exact ⟨h.latest, hdone.inOrder⟩

theorem Inv.work (h : s.Inv) (answer : Answer) : (s.work answer).Inv := by
  have hinv := h.stage
  have hstop : { s with stage := .stopped }.Inv := ⟨h.latest, h.stage.inOrder⟩
  unfold TelnetTerminal.work
  cases hstage : s.stage with rw [hstage] at hinv
  | connecting =>
    cases answer with
    | ok => exact ⟨h.latest, hinv⟩
    | _ => exact hstop
  | selecting =>
    cases answer with
    | ok => exact h
    | _ => exact hstop
  | resizing size =>
    cases answer with
    | ok => exact ⟨h.latest, hinv.apply _⟩
    | _ => exact hstop
  | reading size events =>
    cases events with
    | nil => exact ⟨h.latest, hinv.2⟩
    | cons event events => exact h.handleEvent hinv.1 hinv.2 event events answer
  | enabling size events =>
    cases answer with
    | ok => exact ⟨h.latest, hinv.again, hinv.apply _⟩
    | _ => exact hstop
  | stopped => exact ⟨h.latest, hinv⟩
  | gone => exact h

theorem Inv.step (h : s.Inv) (input : TelnetInput) : (s.step input).Inv := by
  cases input with
  | request columns rows =>
    exact Except.toOption_getD_of h fun _ hok => h.request hok
  | changed => exact h.changed
  | received events => exact h.received events
  | work answer => exact h.work answer

theorem Inv.run (h : s.Inv) (inputs : List TelnetInput) :
    (inputs.foldl TelnetTerminal.step s).Inv :=
  List.foldlRecOn inputs TelnetTerminal.step h fun _ hs input _ => hs.step input

/-- The worker is running and has no resize under way or to take. -/
def Settled (s : TelnetTerminal) : Prop :=
  s.resize.hasChanged = false ∧ s.stage.running = true ∧ s.stage.isResizing = false

instance (s : TelnetTerminal) : Decidable s.Settled := inferInstanceAs (Decidable (_ ∧ _))

theorem Inv.settled (h : s.Inv) (hsettled : s.Settled) (hnaws : s.nawsEnabled = true) :
    ∃ request, s.requests.getLast? = some request ∧
      s.resizes.head? = some (windowSizePayload request.size) := by
  obtain ⟨hchanged, hrunning, hresizing⟩ := hsettled
  obtain ⟨request, hlast, hsize⟩ := exists_last h.latest
  have hseen := Watch.seen_of_not_hasChanged hchanged
  refine ⟨request, hlast, ?_⟩
  rw [hsize]
  have hinv := h.stage
  cases hstage : s.stage with rw [hstage] at hinv hrunning hresizing
  | selecting => exact hinv.current hnaws hseen
  | reading => exact hinv.2.current hnaws hseen
  | resizing | enabling => exact (Bool.false_ne_true hresizing.symm).elim
  | _ => exact (Bool.false_ne_true hrunning).elim

end TelnetTerminal

end AxSsh.Resize
