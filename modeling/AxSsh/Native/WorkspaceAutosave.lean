import AxSsh.ForStd.Watch
import AxSsh.Native.Workspace

/-!
# Workspace checkpoints

`app/workspace_autosave.rs`: when a checkpoint of the workspace is due, and the task that writes
them.

Times are nanoseconds of a monotonic clock, and a duration since a later time is zero.  The writer
runs beside the senders of its channel, so each of its steps may have any sends in front of it.
What the file holds is the snapshot whose encoding was written to it last.
-/

namespace AxSsh

def quietPeriod : Nat := 1 * 1000000000
def maxDirtyDelay : Nat := 5 * 1000000000
def textCheckpointInterval : Nat := 30 * 1000000000

structure CheckpointSchedule where
  observed : Option WorkspaceSnapshot := none
  dirtySince : Option Nat := none
  lastChange : Option Nat := none
  lastCheckpoint : Option Nat := none
deriving DecidableEq, Repr

namespace CheckpointSchedule

/-- The first part of `observe`: a layout that differs from the one before. -/
def notice (s : CheckpointSchedule) (layout : WorkspaceSnapshot) (now : Nat) :
    CheckpointSchedule :=
  if s.observed ≠ some layout then
    { s with
      observed := some layout
      dirtySince := some (s.dirtySince.getD now)
      lastChange := some now }
  else s

/-- Whether an instant lies at least `delay` before `now`. -/
def elapsed (since : Option Nat) (delay now : Nat) : Bool :=
  since.any fun first => decide (delay ≤ now - first)

def dirtyDue (s : CheckpointSchedule) (now : Nat) : Bool :=
  elapsed s.dirtySince maxDirtyDelay now ||
    (s.dirtySince.isSome && elapsed s.lastChange quietPeriod now)

def textDue (s : CheckpointSchedule) (now : Nat) : Bool :=
  elapsed s.lastCheckpoint textCheckpointInterval now

def observe (s : CheckpointSchedule) (layout : WorkspaceSnapshot) (now : Nat) :
    CheckpointSchedule × Bool :=
  let s := s.notice layout now
  if s.dirtyDue now || s.textDue now then
    ({ s with dirtySince := none, lastCheckpoint := some now }, true)
  else (s, false)

end CheckpointSchedule

/-! ## The writer -/

/-- Where `write_snapshots` is: waiting for a change, about to read the value, or waiting for the
    task that saves a snapshot. -/
inductive AutosaveWriterAt where
  | waiting
  | changed
  | saving (snapshot : WorkspaceSnapshot)
  | ended
deriving DecidableEq, Repr

/-- The channel, the local state of `write_snapshots`, and the file it writes. -/
structure AutosaveWriter where
  channel : Watch (Option WorkspaceSnapshot) := .channel none
  senderOpen : Bool := true
  position : AutosaveWriterAt := .waiting
  lastWritten : Option WorkspaceSnapshot := none
  file : Option WorkspaceSnapshot := none
deriving DecidableEq, Repr

inductive AutosaveEvent where
  /-- `send_replace(Some(snapshot))`. -/
  | send (snapshot : WorkspaceSnapshot)
  /-- The last sender is dropped. -/
  | close
  /-- `receiver.changed()` returns. -/
  | changedReturns
  /-- `borrow_and_update`, and what follows up to the next `await`. -/
  | borrowAndUpdate
  | saved
  /-- A save that fails may still have replaced the file. -/
  | saveFailed (replaced : Bool)
deriving DecidableEq, Repr

namespace AutosaveWriter

/-- A value that has not been seen is returned before the channel is found closed. -/
def changedReturns (w : AutosaveWriter) : Option AutosaveWriter :=
  if w.channel.hasChanged then
    some { w with channel := w.channel.markSeen, position := .changed }
  else if w.senderOpen then none
  else some { w with position := .ended }

def borrowAndUpdate (w : AutosaveWriter) : AutosaveWriter :=
  let (value, channel) := w.channel.borrowAndUpdate
  match value with
  | none => { w with channel, position := .waiting }
  | some snapshot =>
    if w.lastWritten = some snapshot then { w with channel, position := .waiting }
    else { w with channel, position := .saving snapshot }

/-- One step of the writer or of a sender, where it can be taken. -/
def step (w : AutosaveWriter) : AutosaveEvent → Option AutosaveWriter
  | .send snapshot =>
    if w.senderOpen then some { w with channel := ⟨some snapshot, false⟩ } else none
  | .close => some { w with senderOpen := false }
  | .changedReturns =>
    match w.position with
    | .waiting => w.changedReturns
    | _ => none
  | .borrowAndUpdate =>
    match w.position with
    | .changed => some w.borrowAndUpdate
    | _ => none
  | .saved =>
    match w.position with
    | .saving snapshot =>
      some { w with position := .waiting, lastWritten := some snapshot, file := some snapshot }
    | _ => none
  | .saveFailed replaced =>
    match w.position with
    | .saving snapshot =>
      some { w with position := .waiting, file := if replaced then some snapshot else w.file }
    | _ => none

end AutosaveWriter

end AxSsh
