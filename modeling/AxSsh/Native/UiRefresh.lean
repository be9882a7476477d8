import Mathlib.Algebra.Ring.Nat
import AxSsh.ForStd.Transition
import AxSsh.Native.TerminalScreen

/-!
# The coalesced UI refresh

`UiRefreshState` of `app/state.rs` with its operations in `app/state/tabs/refresh.rs`, and the
parties that call them: `refresh_workspace_multi_window` requests a refresh,
`schedule_pending_ui_refresh` in `view/workspace.rs` hands a closure to the event loop, the closure
takes a batch, applies it and finishes it, and `restore_workspace_tabs` starts over.

The lock of `AppState` is held for one operation at a time, so these are the steps.  A poisoned
lock is left out.
-/

namespace AxSsh

/-- `u64::saturating_add(1)`. -/
def saturatingSucc (n : Nat) : Nat := min (n + 1) (2 ^ 64 - 1)

inductive WorkspaceRefreshRequest where
  | full
  | tabs
  | terminal (tabId : Uuid) (outputReceivedAt : Option Instant)
deriving DecidableEq, Repr

structure UiRefreshState where
  pending : Bool := false
  inProgress : Bool := false
  generation : Nat := 0
  full : Bool := false
  tabs : Bool := false
  terminalIds : Finset Uuid := ∅
  earliestOutputReceivedAt : Option Instant := none
  coalescedRequests : Nat := 0
deriving DecidableEq

structure UiRefreshBatch where
  generation : Nat
  full : Bool
  tabs : Bool
  terminalIds : Finset Uuid
  earliestOutputReceivedAt : Option Instant
  coalescedRequests : Nat
deriving DecidableEq

namespace UiRefreshState

/-- What a request adds to the next batch. -/
def record (request : WorkspaceRefreshRequest) (r : UiRefreshState) : UiRefreshState :=
  match request with
  | .tabs => { r with tabs := true }
  | .full => { r with full := true, terminalIds := ∅ }
  | .terminal tabId outputReceivedAt =>
    { r with
      terminalIds := if r.full then r.terminalIds else insert tabId r.terminalIds
      earliestOutputReceivedAt :=
        match outputReceivedAt with
        | none => r.earliestOutputReceivedAt
        | some receivedAt =>
          some ((r.earliestOutputReceivedAt.map (min · receivedAt)).getD receivedAt) }

/-- The answer tells the caller to schedule a take. -/
def requestUiRefresh (request : WorkspaceRefreshRequest) (r : UiRefreshState) :
    UiRefreshState × Bool :=
  let r := r.record request
  if r.pending = false then
    ({ r with generation := saturatingSucc r.generation, pending := true }, true)
  else
    -- the batch that is being applied cannot contain this request
    ({ r with
       coalescedRequests := saturatingSucc r.coalescedRequests
       generation := if r.inProgress then saturatingSucc r.generation else r.generation }, false)

def takeUiRefreshBatch (r : UiRefreshState) : UiRefreshState × Option UiRefreshBatch :=
  if r.pending = false ∨ r.inProgress then (r, none)
  else
    ({ r with
       inProgress := true
       full := false
       tabs := false
       terminalIds := ∅
       earliestOutputReceivedAt := none
       coalescedRequests := 0 },
     some {
       generation := r.generation
       full := r.full
       tabs := r.tabs
       terminalIds := r.terminalIds
       earliestOutputReceivedAt := r.earliestOutputReceivedAt
       coalescedRequests := r.coalescedRequests })

/-- The answer tells the caller to schedule a follow-up. -/
def finishUiRefresh (generation : Nat) (r : UiRefreshState) : UiRefreshState × Bool :=
  if r.generation = generation then ({ r with inProgress := false, pending := false }, false)
  else ({ r with inProgress := false }, true)

def cancelUiRefresh (_ : UiRefreshState) : UiRefreshState := {}

end UiRefreshState

/-! ## The parties -/

/-- The refresh state with what its callers have under way, and the batches in the order in which
    they were taken and finished. -/
structure RefreshSystem where
  refresh : UiRefreshState := {}
  /-- Callers that were told to schedule a take and have not reached the event loop yet. -/
  scheduling : Nat := 0
  /-- Closures that wait in the event loop. -/
  queued : Nat := 0
  /-- The batch that the UI thread is applying. -/
  running : Option UiRefreshBatch := none
  taken : List UiRefreshBatch := []
  finished : List UiRefreshBatch := []
deriving DecidableEq

inductive RefreshOp where
  | request (request : WorkspaceRefreshRequest)
  /-- The event loop accepts the closure of a caller. -/
  | dispatched
  /-- The event loop refuses the closure of a caller. -/
  | rejected
  /-- The UI thread starts a closure. -/
  | take
  /-- The UI thread has applied its batch. -/
  | finish
  | restore
deriving DecidableEq

namespace RefreshSystem

def request (request : WorkspaceRefreshRequest) (s : RefreshSystem) : RefreshSystem :=
  let result := s.refresh.requestUiRefresh request
  { s with
    refresh := result.1
    scheduling := if result.2 then s.scheduling + 1 else s.scheduling }

def dispatched (s : RefreshSystem) : RefreshSystem :=
  if s.scheduling = 0 then s
  else { s with scheduling := s.scheduling - 1, queued := s.queued + 1 }

/-- The event loop refuses closures only when it does not run, so no batch is being applied. -/
def rejected (s : RefreshSystem) : RefreshSystem :=
  if s.scheduling = 0 ∨ s.running.isSome then s
  else { s with scheduling := s.scheduling - 1, refresh := s.refresh.cancelUiRefresh }

/-- Closures run one after the other on the UI thread. -/
def take (s : RefreshSystem) : RefreshSystem :=
  if s.queued = 0 ∨ s.running.isSome then s
  else
    let result := s.refresh.takeUiRefreshBatch
    { s with
      refresh := result.1
      queued := s.queued - 1
      running := result.2
      taken := s.taken ++ result.2.toList }

def finish (s : RefreshSystem) : RefreshSystem :=
  match s.running with
  | none => s
  | some batch =>
    let result := s.refresh.finishUiRefresh batch.generation
    { s with
      refresh := result.1
      running := none
      scheduling := if result.2 then s.scheduling + 1 else s.scheduling
      finished := s.finished ++ [batch] }

/-- `restore_workspace_tabs` runs on the UI thread, where no closure is under way. -/
def restore (s : RefreshSystem) : RefreshSystem :=
  if s.running.isSome then s else { s with refresh := {} }

def step (s : RefreshSystem) : RefreshOp → RefreshSystem
  | .request request => s.request request
  | .dispatched => s.dispatched
  | .rejected => s.rejected
  | .take => s.take
  | .finish => s.finish
  | .restore => s.restore

def run (s : RefreshSystem) (ops : List RefreshOp) : RefreshSystem := ops.foldl step s

end RefreshSystem

end AxSsh
