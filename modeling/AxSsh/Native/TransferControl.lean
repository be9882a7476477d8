import AxSsh.ForStd.Notify

/-!
# Control of a transfer

`TransferCancellation` and `UploadLimiter` of `sftp/transfer/control.rs`.  Every load, store, swap
and exchange of an atomic and every poll of a future is a turn of its own, so the turns of any
number of controllers, waits and uploads interleave.  The pacing by `TransferRateLimiter` is not
modelled.
-/

namespace AxSsh

namespace TransferControl

/-! ## Cancellation and pauses -/

structure TransferCancellation where
  cancelled : Bool := false
  paused : Bool := false
  notify : Notify := {}
deriving DecidableEq

/-- Where a call of `cancelled` is. -/
inductive Cancelled where
  | subscribing
  | checking (notified : Notified)
  | waiting (notified : Notified)
  | done
deriving DecidableEq

/-- Where a call of `wait_until_running` is. -/
inductive Running where
  | checkCancelled
  | checkPaused
  | subscribing
  | recheckCancelled (notified : Notified)
  | recheckPaused (notified : Notified)
  /-- In the `select!`. -/
  | selecting (notified : Notified) (cancelled : Cancelled)
  /-- `Ok(())`, or the `cancelled_error`. -/
  | done (running : Bool)
deriving DecidableEq

/-- A branch of the `select!`. -/
inductive Branch where
  | cancelled
  | notified
deriving DecidableEq

/-- A call that waits. -/
inductive Wait where
  | cancelled (wait : Cancelled)
  | running (wait : Running)
deriving DecidableEq

section

variable (c : TransferCancellation)

def Cancelled.poll : Cancelled → Cancelled
  | subscribing => checking c.notify.notified
  | checking notified => if c.cancelled then done else waiting notified
  | waiting notified => if c.notify.isReady notified then subscribing else waiting notified
  | done => done

def Running.poll (branch : Branch) : Running → Running
  | checkCancelled => if c.cancelled then done false else checkPaused
  | checkPaused => if c.paused then subscribing else done true
  | subscribing => recheckCancelled c.notify.notified
  | recheckCancelled notified => if c.cancelled then done false else recheckPaused notified
  | recheckPaused notified =>
    if c.paused then selecting notified .subscribing else done true
  | selecting notified wait =>
    match branch with
    | .notified => if c.notify.isReady notified then checkCancelled else selecting notified wait
    | .cancelled =>
      match wait.poll c with
      | .done => done false
      | wait => selecting notified wait
  | done running => done running

/-- A step of a wait; in the `select!` the branch says which future is polled. -/
def Wait.poll (wait : Wait) (branch : Branch) : Wait :=
  match wait with
  | cancelled wait => cancelled (wait.poll c)
  | running wait => running (wait.poll c branch)

end

/-- Everybody who holds a clone of the cancellation of one transfer. -/
structure Parties where
  control : TransferCancellation := {}
  /-- Callers of `pause` that have seen the transfer not cancelled. -/
  pausing : Nat := 0
  /-- Callers that have changed a flag and not called `notify_waiters` yet. -/
  notifying : Nat := 0
  waits : List Wait := []

inductive PartyTurn where
  | cancel
  /-- `is_cancelled` of `pause`. -/
  | beginPause
  | pause
  | resume
  | notify
  /-- A new call of `cancelled`. -/
  | awaitCancelled
  /-- A new call of `wait_until_running`. -/
  | awaitRunning
  | poll (index : Nat) (branch : Branch)
deriving DecidableEq

namespace Parties

/-- A swap that changes its flag is followed by a call of `notify_waiters`. -/
def swap (w : Parties) (changed : Bool) (control : TransferCancellation) : Parties :=
  { w with control, notifying := w.notifying + changed.toNat }

def step (w : Parties) : PartyTurn → Parties
  | .cancel => w.swap (!w.control.cancelled) { w.control with cancelled := true }
  | .beginPause => if w.control.cancelled then w else { w with pausing := w.pausing + 1 }
  | .pause =>
    if w.pausing = 0 then w
    else
      { w with pausing := w.pausing - 1 }.swap (!w.control.paused)
        { w.control with paused := true }
  | .resume => w.swap w.control.paused { w.control with paused := false }
  | .notify =>
    if w.notifying = 0 then w
    else
      { w with
        control := { w.control with notify := w.control.notify.notifyWaiters }
        notifying := w.notifying - 1 }
  | .awaitCancelled => { w with waits := w.waits ++ [.cancelled .subscribing] }
  | .awaitRunning => { w with waits := w.waits ++ [.running .checkCancelled] }
  | .poll index branch =>
    match w.waits[index]? with
    | none => w
    | some wait => { w with waits := w.waits.set index (wait.poll w.control branch) }

def run (w : Parties) (turns : List PartyTurn) : Parties := turns.foldl step w

end Parties

/-! ## The limit of uploads -/

structure UploadLimiter where
  active : Nat := 0
  limit : Nat
deriving DecidableEq

def UploadLimiter.new (limit : Nat) : UploadLimiter := { limit := max limit 1 }

def UploadLimiter.setLimit (l : UploadLimiter) (limit : Nat) : UploadLimiter :=
  { l with limit := max limit 1 }

/-- Where a call of `try_acquire` is. -/
inductive Acquire where
  | loadActive
  | loadLimit (active : Nat)
  | exchange (active : Nat)
  /-- The `UploadPermit` lives. -/
  | acquired
  | refused
  /-- The permit was dropped. -/
  | released
deriving DecidableEq

def UploadLimiter.poll (l : UploadLimiter) : Acquire → UploadLimiter × Acquire
  | .loadActive => (l, .loadLimit l.active)
  | .loadLimit active => (l, if active ≥ l.limit then .refused else .exchange active)
  | .exchange active =>
    if l.active = active then ({ l with active := active + 1 }, .acquired) else (l, .loadActive)
  | .acquired => ({ l with active := l.active - 1 }, .released)
  | call => (l, call)

structure Uploads where
  limiter : UploadLimiter
  calls : List Acquire := []
  /-- The limits that were set so far; no function reads them. -/
  limits : List Nat := [limiter.limit]

inductive UploadTurn where
  | setLimit (limit : Nat)
  | tryAcquire
  /-- The next step of a call, or the drop of its permit. -/
  | poll (index : Nat)
deriving DecidableEq

def Uploads.step (w : Uploads) : UploadTurn → Uploads
  | .setLimit limit =>
    { w with limiter := w.limiter.setLimit limit, limits := max limit 1 :: w.limits }
  | .tryAcquire => { w with calls := w.calls ++ [.loadActive] }
  | .poll index =>
    match w.calls[index]? with
    | none => w
    | some call =>
      { w with
        limiter := (w.limiter.poll call).1
        calls := w.calls.set index (w.limiter.poll call).2 }

def Uploads.run (w : Uploads) (turns : List UploadTurn) : Uploads := turns.foldl step w

end TransferControl

end AxSsh
