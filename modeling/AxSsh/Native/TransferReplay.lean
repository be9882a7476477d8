import AxSsh.Native.SftpBrowser

/-!
# The reconnect replay of transfer intents

`requeue_transfer_intents` of `app/sftp_bridge/transfers.rs`: the task that a connected SFTP
tab spawns to submit its registered intents to the new worker.  The task takes the state lock
anew for each look at the tab, and awaits each submission without it, so the operations of
the browser, the changes of the SSH route and the other replay tasks of the tab come between
any two of its stages.

A submission can wait: an upload for a queue slot and for the worker's answer, every command
for room in the channel.  What becomes of it is the `SubmitReply` of the step.
-/

namespace AxSsh

/-- `completed_directory_child_paths`. -/
def SftpBrowserState.completedDirectoryChildPaths (s : SftpBrowserState) (rootId : Uuid) :
    Finset String :=
  match s.transferIntents.lookup rootId with
  | some (.downloadRoot _ _ _ _ _ completedChildren) => completedChildren
  | _ => ∅

/-! ## The tab -/

/-- What the replay reads of a tab.  A closed tab is the empty one: it serves no attempt. -/
structure SftpTab where
  sftp : SftpBrowserState := {}
  profileId : Option Uuid := none
  attempt : Option Uuid := none

namespace SftpTab

/-- The tab still waits for the replay of this attempt. -/
def awaitsReplay (tab : SftpTab) (profileId attemptId : Uuid) : Bool :=
  tab.profileId == some profileId && tab.attempt == some attemptId &&
    tab.sftp.reconnectReplayPending

def transferIntentIsCurrent (tab : SftpTab) (profileId attemptId : Uuid)
    (intent : SftpTransferIntent) : Bool :=
  tab.awaitsReplay profileId attemptId && tab.sftp.hasTransferIntent intent

end SftpTab

/-! ## The task -/

/-- The arguments of a call of `submit_with_excluded`, `submit_file` or `submit`. -/
inductive SftpSubmission where
  | withExcluded (transferId : Uuid) (remotePath : String) (localDirectory : PathBuf)
      (filterPatterns : List String) (expectedDirectory : Bool)
      (excludedRemotePaths : Finset String)
  | file (transferId : Uuid) (remotePath : String) (localPath : PathBuf) (totalBytes : Nat)
  | upload (batchId transferId : Uuid) (remotePath : String) (localPath : PathBuf)
      (totalBytes : Nat) (remoteDirectories : List String)
deriving DecidableEq

namespace SftpSubmission

/-- The transfer that a submission asks for. -/
def transferId : SftpSubmission → Uuid
  | withExcluded id .. | file id .. | upload _ id .. => id

end SftpSubmission

/-- The submission of an intent.  A directory leaves out the children that are there. -/
def SftpTransferIntent.submission (s : SftpBrowserState) : SftpTransferIntent → SftpSubmission
  | .downloadRoot transferId remotePath localDirectory filterPatterns expectedDirectory _ =>
    .withExcluded transferId remotePath localDirectory filterPatterns expectedDirectory
      (s.completedDirectoryChildPaths transferId)
  | .downloadFile transferId remotePath localPath totalBytes _ =>
    .file transferId remotePath localPath totalBytes
  | .upload transferId batchId remotePath localPath totalBytes remoteDirectories =>
    .upload batchId transferId remotePath localPath totalBytes remoteDirectories

/-- How far a submission comes. -/
inductive SubmitReply where
  /-- the command is in the channel; an upload still waits to be accepted -/
  | sent
  /-- the worker has accepted the upload -/
  | accepted
  /-- `SftpSubmissionError::Disconnected` -/
  | disconnected
  /-- any other error: an invalid request, a closed queue, an upload the worker rejects -/
  | rejected
deriving DecidableEq, Repr

inductive ReplayStage where
  /-- at the head of the loop -/
  | snapshot
  /-- in the `for` loop, before these intents -/
  | visiting (intents : List SftpTransferIntent)
  /-- the intent was found current -/
  | checked (intent : SftpTransferIntent) (intents : List SftpTransferIntent)
  /-- the submission of the intent is awaited -/
  | submitting (submission : SftpSubmission) (intent : SftpTransferIntent)
      (intents : List SftpTransferIntent)
  /-- the command of an upload was sent, and its acceptance is awaited -/
  | sent (intent : SftpTransferIntent) (intents : List SftpTransferIntent)
  /-- the submission failed -/
  | refused (intent : SftpTransferIntent) (intents : List SftpTransferIntent)
  /-- the refused intent was found current -/
  | failing (transferId : Uuid) (intents : List SftpTransferIntent)
  | returned

structure ReplayTask where
  profileId : Uuid
  attemptId : Uuid
  submitted : Finset Uuid := ∅
  revision : UInt64 := 0
  retryRequired : Bool := false
  stage : ReplayStage := .snapshot

/-- One step of a task leaves the tab and the task, and the command it sent if any. -/
structure ReplayStep where
  tab : SftpTab
  task : ReplayTask
  command : Option SftpSubmission := none

namespace ReplayTask

/-- `state.lock()` at the head of the loop. -/
def takeSnapshot (task : ReplayTask) (tab : SftpTab) : ReplayTask :=
  if tab.awaitsReplay task.profileId task.attemptId then
    let (revision, intents) := tab.sftp.transferIntentsWithRevision
    { task with revision, retryRequired := false, stage := .visiting intents }
  else { task with stage := .returned }

/-- An intent at its turn. -/
def visit (task : ReplayTask) (tab : SftpTab) (intent : SftpTransferIntent)
    (intents : List SftpTransferIntent) : ReplayTask :=
  if intent.transferId ∈ task.submitted then { task with stage := .visiting intents }
  else if tab.transferIntentIsCurrent task.profileId task.attemptId intent then
    { task with stage := .checked intent intents }
  else { task with stage := .visiting intents }

/-- The end of the `for` loop: the replay is over when no intent changed meanwhile. -/
def finishRound (task : ReplayTask) (tab : SftpTab) : ReplayStep :=
  if task.retryRequired then { tab, task := { task with stage := .returned } }
  else if tab.awaitsReplay task.profileId task.attemptId &&
      tab.sftp.transferIntentRevision == task.revision then
    { tab := { tab with sftp := { tab.sftp with reconnectReplayPending := false } }
      task := { task with stage := .returned } }
  else { tab, task := { task with stage := .snapshot } }

/-- The intent was submitted. -/
def succeed (task : ReplayTask) (intent : SftpTransferIntent)
    (intents : List SftpTransferIntent) : ReplayTask :=
  { task with submitted := insert intent.transferId task.submitted, stage := .visiting intents }

/-- The connection went away under a submission. -/
def interrupt (task : ReplayTask) (intents : List SftpTransferIntent) : ReplayTask :=
  { task with retryRequired := true, stage := .visiting intents }

/-- What a submission comes to. -/
def submit (task : ReplayTask) (tab : SftpTab) (submission : SftpSubmission)
    (intent : SftpTransferIntent) (intents : List SftpTransferIntent) :
    SubmitReply → ReplayStep
  | .sent =>
    { tab
      task := match submission with
        | .upload .. => { task with stage := .sent intent intents }
        | _ => task.succeed intent intents
      command := some submission }
  | .disconnected => { tab, task := task.interrupt intents }
  | .rejected | .accepted => { tab, task := { task with stage := .refused intent intents } }

/-- The worker's answer to an upload. -/
def answered (task : ReplayTask) (intent : SftpTransferIntent)
    (intents : List SftpTransferIntent) : SubmitReply → ReplayTask
  | .accepted => task.succeed intent intents
  | .disconnected => task.interrupt intents
  | .rejected | .sent => { task with stage := .refused intent intents }

/-- The next step of the task, under the lock or at an `await`. -/
def step (task : ReplayTask) (tab : SftpTab) (reply : SubmitReply) : ReplayStep :=
  match task.stage with
  | .snapshot => { tab, task := task.takeSnapshot tab }
  | .visiting [] => task.finishRound tab
  | .visiting (intent :: intents) => { tab, task := task.visit tab intent intents }
  | .checked intent intents =>
    { tab
      task := { task with stage := .submitting (intent.submission tab.sftp) intent intents } }
  | .submitting submission intent intents => task.submit tab submission intent intents reply
  | .sent intent intents => { tab, task := task.answered intent intents reply }
  | .refused intent intents =>
    { tab
      task := { task with
        stage :=
          if tab.transferIntentIsCurrent task.profileId task.attemptId intent then
            .failing intent.transferId intents
          else .visiting intents } }
  | .failing transferId intents =>
    { tab := { tab with
        sftp := tab.sftp.finishTransfer transferId .failed
          "Transfer retry request was rejected" }
      task := { task with stage := .visiting intents } }
  | .returned => { tab, task }

/-- The transfer whose intent the task has found current and not submitted yet. -/
def holds (task : ReplayTask) : Option Uuid :=
  match task.stage with
  | .checked intent _ => some intent.transferId
  | .submitting submission _ _ => some submission.transferId
  | _ => none

end ReplayTask

/-! ## The system -/

/-- A tab, its replay tasks, and the commands they have sent to the workers, newest first. -/
structure ReplaySystem where
  tab : SftpTab := {}
  tasks : List ReplayTask := []
  commands : List SftpSubmission := []

inductive ReplayEvent where
  /-- an operation of the browser, by the user or for an event of the worker -/
  | browser (op : BrowserOp)
  /-- the SSH route of the tab changes: an attempt starts, is retired, or takes a new profile -/
  | route (profileId attempt : Option Uuid)
  | closeTab
  /-- `SshSessionEvent::Connected` spawns a replay -/
  | requeue (profileId attemptId : Uuid) (hasWorker : Bool)
  /-- a task goes on -/
  | replay (task : Nat) (reply : SubmitReply)

namespace ReplaySystem

/-- A new replay looks at the tab once before its loop. -/
def requeue (s : ReplaySystem) (profileId attemptId : Uuid) (hasWorker : Bool) : ReplaySystem :=
  if s.tab.awaitsReplay profileId attemptId && hasWorker then
    { s with tasks := s.tasks ++ [{ profileId, attemptId }] }
  else s

/-- The step of one task. -/
def replay (s : ReplaySystem) (i : Nat) (reply : SubmitReply) : ReplaySystem :=
  match s.tasks[i]? with
  | none => s
  | some task =>
    let next := task.step s.tab reply
    { tab := next.tab
      tasks := s.tasks.set i next.task
      commands := next.command.toList ++ s.commands }

def step (s : ReplaySystem) : ReplayEvent → ReplaySystem
  | .browser op => { s with tab := { s.tab with sftp := s.tab.sftp.step op } }
  | .route profileId attempt => { s with tab := { s.tab with profileId, attempt } }
  | .closeTab => { s with tab := {} }
  | .requeue profileId attemptId hasWorker => s.requeue profileId attemptId hasWorker
  | .replay i reply => s.replay i reply

/-- The state after a sequence of events. -/
def run (s : ReplaySystem) (events : List ReplayEvent) : ReplaySystem :=
  events.foldl step s

end ReplaySystem

end AxSsh
