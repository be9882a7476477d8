import AxSsh.Spec.UploadPump

/-!
# The phases of an upload

`Allowed` says for every event of an upload what came before it, so a rename carries everything it
needs, and `PhaseInv` says for every phase what is known there.  Only the wait for the handle can
end without the temporary file being removed although the server creates it; with `leak` the
invariant allows for that.

## Key results
- `Upload.inv_chooseTarget`, `Upload.inv_beginOpen`: the target is chosen
- `Upload.inv_onOpen`, `Upload.inv_receive`, `Upload.inv_onNext`: the file is opened and written
-/

namespace AxSsh

/-! ## What a rename needs -/

/-- The rename onto `target` was asked for after `past`. -/
structure PublicationGuard (request : UploadRequest) (target : RemotePath)
    (past : List UploadEvent) : Prop where
  written : Written request.totalBytes past
  notCancelled : .cancelObserved ∉ past
  /-- The newest inspection is of the target; the oldest was made before the upload. -/
  inspected : ∃ current older, inspections past = (target, current) :: older ∧
    if request.conflictChoice = some .overwrite then
      older.getLast? = some (target, current) ∧
        ∀ confirmed, request.expectedRemote = some confirmed → current = some confirmed
    else current = none

/-- What came before an event of an upload. -/
def Allowed (request : UploadRequest) : UploadEvent → List UploadEvent → Prop
  | .sent (.mkdir path), _ => path ∈ request.remoteDirectories
  | .sent (.open path), _ => path = request.temporary
  | .sent (.remove path), past => path = request.temporary ∧ .created ∈ past
  | .sent (.rename _ target), past | .sent (.posixRename _ target), past =>
    PublicationGuard request target past ∧ .created ∈ past
  | .created, past => .sent (.open request.temporary) ∈ past
  | _, _ => True

/-- A rename was asked for. -/
def Renamed (past : List UploadEvent) : Prop :=
  ∃ sent target, .sent sent ∈ past ∧ SftpRequest.renamesOnto sent = some target

namespace Upload

variable {leak : Prop} {request : UploadRequest} {s : Upload}

/-! ## The invariant -/

/-- What holds of the trace in every phase. -/
structure TraceInv (request : UploadRequest) (past : List UploadEvent) (cancelled : Bool)
    (readerOffset : Nat) : Prop where
  allowed : History.Always (Allowed request) past
  observed : .cancelObserved ∈ past → cancelled = true
  reader : ReaderInv request past readerOffset

/-- The reader has not been started. -/
structure Unstarted (s : Upload) : Prop where
  reader_eq : s.reader = .idle
  reads_eq : reads s.trace = []
  offset_eq : s.offset = 0
  nextOffset_eq : s.nextOffset = 0
  window_eq : s.window = []
  chunks_eq : s.chunks = []
  open_eq : s.chunksOpen = true

/-- The target was chosen as the first inspection and the user's choice ask for. -/
structure Planned (request : UploadRequest) (s : Upload) : Prop where
  first : (inspections s.trace).getLast? = some (request.remotePath, s.existing)
  overwrite : s.overwrite = true → request.conflictChoice = some .overwrite
  chosen : request.conflictChoice = some .overwrite →
    s.targetPath = request.remotePath ∧ (s.overwrite = false → s.existing = none) ∧
      ∀ confirmed, request.expectedRemote = some confirmed → s.existing = some confirmed

/-- All bytes are written, and the reader reads no more. -/
def Complete (request : UploadRequest) (s : Upload) : Prop :=
  Written request.totalBytes s.trace ∧ s.readerOffset = request.totalBytes

/-- What is known before the temporary file is asked for. -/
def BeforeOpen (request : UploadRequest) (s : Upload) : Prop :=
  Unstarted s ∧ .sent (.open request.temporary) ∉ s.trace

/-- What is known in a phase.  With `leak` an upload may end and leave the temporary file. -/
def PhaseInv (leak : Prop) (request : UploadRequest) (s : Upload) : UploadPhase → Prop
  | .handshake | .inspecting => BeforeOpen request s ∧ inspections s.trace = []
  | .directories directory rest _ =>
    BeforeOpen request s ∧ inspections s.trace = [] ∧
      ∀ path ∈ directory :: rest, path ∈ request.remoteDirectories
  | .keepBoth _ =>
    BeforeOpen request s ∧ request.conflictChoice = some .keepBoth ∧
      (inspections s.trace).getLast? = some (request.remotePath, s.existing)
  | .opening =>
    Unstarted s ∧ Planned request s ∧ .sent (.open request.temporary) ∈ s.trace ∧
      ¬Renamed s.trace ∧ .sent (.remove request.temporary) ∉ s.trace
  | .pausing | .receiving | .waiting =>
    .created ∈ s.trace ∧ Planned request s ∧ ∃ finished, Pumping s finished
  | .joining result | .closing result =>
    .created ∈ s.trace ∧ Planned request s ∧ s.window = [] ∧ (result = .ok () → Complete request s)
  | .rechecking =>
    .created ∈ s.trace ∧ Planned request s ∧ s.window = [] ∧ Complete request s ∧
      .cancelObserved ∉ s.trace
  | .publishing => .created ∈ s.trace ∧ Renamed s.trace
  | .removing _ => .sent (.remove request.temporary) ∈ s.trace
  | .done _ =>
    leak ∨ Renamed s.trace ∨ .sent (.remove request.temporary) ∈ s.trace ∨ .created ∉ s.trace

structure Inv (leak : Prop) (request : UploadRequest) (s : Upload) : Prop where
  traceInv : TraceInv request s.trace s.cancelled s.readerOffset
  phaseInv : PhaseInv leak request s s.phase

/-! ## Giving up the open request -/

def Over (s : Upload) : Prop := ∃ result, s.phase = .done result

/-- The wait for the handle ends without one. -/
def GivesUp (s : Upload) : StepAnswer → Prop
  | .abandoned => s.cancelled = true
  | .timedOut => True
  | .reply (.handle _) => False
  | .reply _ => True

/-- The step does not leave the temporary file behind: the wait for the handle is not given up
after the server created the file, and the server does not create it after the upload is over. -/
def OpenKept (request : UploadRequest) (s : Upload) : Input → Prop
  | .answer answer => s.phase = .opening → GivesUp s answer → .created ∉ s.trace
  | .create => Over s → .sent (.open request.temporary) ∈ s.trace → .created ∈ s.trace
  | _ => True

theorem givesUp_of_awaitStep {operation : String} {answer : StepAnswer}
    {result : Except UploadError SftpReply} (h : s.awaitStep operation answer = some result)
    (hno : ∀ handle, result ≠ .ok (.handle handle)) : GivesUp s answer := by
  cases answer with
  | abandoned =>
    simp only [awaitStep] at h
    split at h
    · next hcancelled => exact hcancelled
    · cases h
  | timedOut => trivial
  | reply reply =>
    cases h
    cases reply with
    | handle handle => exact absurd rfl (hno handle)
    | _ => trivial

/-! ## Events -/

section

variable {past : List UploadEvent} {cancelled : Bool} {readerOffset : Nat} {e : UploadEvent}

theorem TraceInv.cons (h : TraceInv request past cancelled readerOffset)
    (hallowed : Allowed request e past) (hcancel : e = .cancelObserved → cancelled = true)
    (hread : ∀ chunk, e ≠ .read chunk) :
    TraceInv request (e :: past) cancelled readerOffset where
  allowed := ⟨hallowed, h.allowed⟩
  observed hmem := (List.mem_cons.mp hmem).elim (fun heq => hcancel heq.symm) h.observed
  reader := h.reader.cons hread

theorem TraceInv.opened_of_created (h : TraceInv request past cancelled readerOffset)
    (hc : .created ∈ past) : .sent (.open request.temporary) ∈ past := by
  obtain ⟨newer, older, rfl, hopen⟩ := h.allowed.of_mem hc
  exact List.mem_append_right _ (List.mem_cons_of_mem _ hopen)

/-- The temporary file is removed after it was created. -/
theorem TraceInv.removed_after (h : TraceInv request past cancelled readerOffset)
    (hr : .sent (.remove request.temporary) ∈ past) :
    History.After (.sent (.remove request.temporary)) .created past :=
  h.allowed.after hr fun _ hallowed => hallowed.2

theorem TraceInv.created_of_removed (h : TraceInv request past cancelled readerOffset)
    (hr : .sent (.remove request.temporary) ∈ past) : .created ∈ past := by
  obtain ⟨newer, older, rfl, hc⟩ := h.removed_after hr
  exact List.mem_append_right _ (List.mem_cons_of_mem _ hc)

theorem TraceInv.created_of_renamed (h : TraceInv request past cancelled readerOffset)
    (hr : Renamed past) : .created ∈ past := by
  obtain ⟨sent, target, hmem, htarget⟩ := hr
  obtain ⟨newer, older, rfl, hallowed⟩ := h.allowed.of_mem hmem
  cases sent with
  | rename => exact List.mem_append_right _ (List.mem_cons_of_mem _ hallowed.2)
  | posixRename => exact List.mem_append_right _ (List.mem_cons_of_mem _ hallowed.2)
  | _ => cases htarget

end

section

variable {e : UploadEvent}

theorem Unstarted.note (h : Unstarted s) (he : ∀ chunk, e ≠ .read chunk) :
    Unstarted (s.note e) :=
  ⟨h.reader_eq, (reads_cons_of_ne he).trans h.reads_eq, h.offset_eq, h.nextOffset_eq, h.window_eq,
    h.chunks_eq, h.open_eq⟩

theorem BeforeOpen.note (h : BeforeOpen request s) (he : ∀ chunk, e ≠ .read chunk)
    (hopen : e ≠ .sent (.open request.temporary)) : BeforeOpen request (s.note e) :=
  ⟨h.1.note he, fun hmem => (List.mem_cons.mp hmem).elim (fun heq => hopen heq.symm) h.2⟩

theorem Planned.note (h : Planned request s) (he : ∀ path found, e ≠ .inspected path found) :
    Planned request (s.note e) :=
  ⟨by rw [Upload.note, inspections_cons_of_ne he]; exact h.first, h.overwrite, h.chosen⟩

theorem Complete.note (h : Complete request s) (he : ∀ chunk, e ≠ .read chunk) :
    Complete request (s.note e) := ⟨h.1.cons he, h.2⟩

end

/-! ## Phases -/

/-- What is known in a phase is about the trace, the plan, the window and the reader. -/
theorem PhaseInv.congr {phase : UploadPhase} {s' : Upload} (h : PhaseInv leak request s phase)
    (ht : s'.trace = s.trace) (he : s'.existing = s.existing) (hw : s'.window = s.window)
    (hn : s'.readerOffset = s.readerOffset) (hunstarted : Unstarted s → Unstarted s')
    (hplanned : Planned request s → Planned request s')
    (hpump : ∀ finished, Pumping s finished → Pumping s' finished) :
    PhaseInv leak request s' phase := by
  cases phase with
  | handshake | inspecting | directories | keepBoth =>
    simp only [PhaseInv, BeforeOpen, ht, he]
    exact ⟨⟨hunstarted h.1.1, h.1.2⟩, h.2⟩
  | opening =>
    simp only [PhaseInv, ht]
    exact ⟨hunstarted h.1, hplanned h.2.1, h.2.2⟩
  | pausing | receiving | waiting =>
    obtain ⟨hc, hp, finished, hrun⟩ := h
    exact ⟨ht ▸ hc, hplanned hp, finished, hpump finished hrun⟩
  | joining | closing | rechecking =>
    simp only [PhaseInv, Complete, ht, hw, hn]
    exact ⟨h.1, hplanned h.2.1, h.2.2⟩
  | publishing | removing | done =>
    simp only [PhaseInv, ht]
    exact h

/-- Nothing that is known in a phase is about the phase itself. -/
theorem PhaseInv.setPhase {phase : UploadPhase} (h : PhaseInv leak request s phase)
    (phase' : UploadPhase) : PhaseInv leak request { s with phase := phase' } phase :=
  h.congr rfl rfl rfl rfl
    (fun hu => ⟨hu.reader_eq, hu.reads_eq, hu.offset_eq, hu.nextOffset_eq, hu.window_eq,
      hu.chunks_eq, hu.open_eq⟩)
    (fun hp => ⟨hp.first, hp.overwrite, hp.chosen⟩) (fun _ hp => hp.setPhase phase')

/-- The cancellation and the deadline are only looked at. -/
theorem PhaseInv.setFlags {phase : UploadPhase} (h : PhaseInv leak request s phase)
    (cancelled expired : Bool) : PhaseInv leak request { s with cancelled, expired } phase :=
  h.congr rfl rfl rfl rfl
    (fun hu => ⟨hu.reader_eq, hu.reads_eq, hu.offset_eq, hu.nextOffset_eq, hu.window_eq,
      hu.chunks_eq, hu.open_eq⟩)
    (fun hp => ⟨hp.first, hp.overwrite, hp.chosen⟩)
    (fun _ hp => ⟨hp.reads_eq, hp.offset_eq, hp.nextOffset_eq, hp.acknowledged, hp.window_placed,
      hp.settled, hp.open_eq⟩)

theorem inv_setPhase {phase : UploadPhase}
    (hT : TraceInv request s.trace s.cancelled s.readerOffset) (h : PhaseInv leak request s phase) :
    Inv leak request { s with phase } :=
  ⟨hT, h.setPhase phase⟩

/-! ## Errors -/

/-- A result that reports a cancellation only when there is one. -/
def Honest {α : Type} (s : Upload) (result : Except UploadError α) : Prop :=
  result = .error .cancelled → s.cancelled = true

theorem honest_awaitStepStart : Honest s s.awaitStepStart := by
  unfold Honest awaitStepStart
  split
  · next h => exact fun _ => h
  · split
    · exact fun h => (by cases h)
    · exact fun h => (by cases h)

theorem honest_awaitStep {operation : String} {answer : StepAnswer}
    {result : Except UploadError SftpReply} (h : s.awaitStep operation answer = some result) :
    Honest s result := by
  unfold awaitStep at h
  intro hresult
  subst hresult
  cases answer with
  | abandoned =>
    simp only at h
    split at h
    · next hcancelled => exact hcancelled
    · cases h
  | timedOut =>
    simp only at h
    split at h <;> cases h
  | reply reply => cases h

theorem honest_timeout {message : String} {answer : StepAnswer}
    {result : Except UploadError SftpReply} (h : timeout message answer = some result) :
    Honest s result := by
  intro hresult
  subst hresult
  cases answer <;> cases h

theorem honest_inspect {result : Except UploadError SftpReply} (h : Honest s result) :
    Honest s (inspectRemoteUploadTarget result) := by
  intro hresult
  unfold inspectRemoteUploadTarget at hresult
  split at hresult
  · cases hresult
    exact h rfl
  all_goals cases hresult

theorem honest_failed {α : Type} {message : String} :
    Honest s (.error (.failed message) : Except UploadError α) := fun h => (by cases h)

/-- An error that is raised is only added to the trace. -/
theorem raise_cases (s : Upload) (error : UploadError) :
    s.raise error = s ∨ (error = .cancelled ∧ s.raise error = s.note .cancelObserved) := by
  unfold raise
  split
  · next h => exact .inr ⟨h, rfl⟩
  · exact .inl rfl

theorem TraceInv.raise {error : UploadError} {α : Type}
    (h : TraceInv request s.trace s.cancelled s.readerOffset)
    (he : Honest s (.error error : Except UploadError α)) :
    TraceInv request (s.raise error).trace (s.raise error).cancelled
      (s.raise error).readerOffset := by
  rcases raise_cases s error with heq | ⟨rfl, heq⟩
  · rw [heq]
    exact h
  · rw [heq]
    exact h.cons trivial (fun _ => he rfl) (fun _ => nofun)

theorem inv_abort {error : UploadError} {α : Type}
    (h : TraceInv request s.trace s.cancelled s.readerOffset)
    (he : Honest s (.error error : Except UploadError α)) (hleak : leak ∨ .created ∉ s.trace) :
    Inv leak request (s.abort error) := by
  refine ⟨h.raise he, ?_⟩
  show leak ∨ Renamed (s.raise error).trace ∨ _ ∈ (s.raise error).trace ∨
    .created ∉ (s.raise error).trace
  rcases hleak with hleak | hc
  · exact .inl hleak
  · refine .inr (.inr (.inr ?_))
    rcases raise_cases s error with heq | ⟨-, heq⟩
    · rw [heq]
      exact hc
    · rw [heq]
      exact fun hmem => (List.mem_cons.mp hmem).elim nofun hc

theorem inv_resume {ended : Option (Except UploadError SftpReply)}
    {next : Except UploadError SftpReply → Upload} (h : Inv leak request s)
    (hnext : ∀ result, ended = some result → Inv leak request (next result)) :
    Inv leak request (s.resume ended next) := by
  unfold resume
  split
  · exact h
  · next result => exact hnext result rfl

/-! ## Before the temporary file is open -/

/-- An overwrite that is not refused is of the file the user has seen. -/
theorem confirmed_of_not_refused {remote confirmed : RemoteUploadFingerprint}
    (h : overwriteRefused request s remote = none)
    (hconfirmed : request.expectedRemote = some confirmed) : confirmed = remote := by
  unfold overwriteRefused at h
  split at h
  · cases h
  · split at h
    · cases h
    · next hne => simpa [hconfirmed] using hne

theorem honest_refused {remote : RemoteUploadFingerprint} {error : UploadError}
    (h : overwriteRefused request s remote = some error) :
    Honest s (.error error : Except UploadError Unit) := by
  intro hcancelled
  cases hcancelled
  unfold overwriteRefused at h
  split at h
  · cases h
  · split at h
    · cases h
    · split at h <;> cases h

section

variable (hT : TraceInv request s.trace s.cancelled s.readerOffset)
include hT

/-- Nothing was asked for that creates a file. -/
theorem BeforeOpen.uncreated (hb : BeforeOpen request s) : .created ∉ s.trace :=
  fun h => hb.2 (hT.opened_of_created h)

theorem inv_abort_early {error : UploadError} {α : Type} (hb : BeforeOpen request s)
    (he : Honest s (.error error : Except UploadError α)) : Inv leak request (s.abort error) :=
  inv_abort hT he (.inr (hb.uncreated hT))

theorem inv_nextDirectory {directories : List RemotePath} (hb : BeforeOpen request s)
    (hi : inspections s.trace = []) (hd : ∀ path ∈ directories, path ∈ request.remoteDirectories) :
    Inv leak request (nextDirectory request s directories) := by
  cases directories with
  | nil =>
    exact inv_setPhase (hT.cons trivial nofun (fun _ => nofun))
      ⟨hb.note (fun _ => nofun) nofun, hi⟩
  | cons directory rest =>
    exact inv_setPhase (hT.cons trivial nofun (fun _ => nofun))
      ⟨hb.note (fun _ => nofun) nofun, hi, hd⟩

theorem inv_onHandshake {result : Except UploadError SftpReply} (hr : Honest s result)
    (hb : BeforeOpen request s) (hi : inspections s.trace = []) :
    Inv leak request (onHandshake request s result) := by
  unfold onHandshake
  split
  · exact inv_abort_early hT hb hr
  · next posixRename =>
    have hu : Unstarted { s with posixRename } := ⟨hb.1.reader_eq, hb.1.reads_eq, hb.1.offset_eq,
      hb.1.nextOffset_eq, hb.1.window_eq, hb.1.chunks_eq, hb.1.open_eq⟩
    exact inv_nextDirectory (s := { s with posixRename }) hT ⟨hu, hb.2⟩ hi fun _ h => h
  · exact inv_abort_early hT hb (α := Unit) honest_failed

theorem inv_onDirectory {directory : RemotePath} {rest : List RemotePath} {stage : DirectoryStage}
    {result : Except UploadError SftpReply} (hr : Honest s result) (hb : BeforeOpen request s)
    (hi : inspections s.trace = [])
    (hd : ∀ path ∈ directory :: rest, path ∈ request.remoteDirectories) :
    Inv leak request (onDirectory request s directory rest stage result) := by
  have hrest := fun path hp => hd path (List.mem_cons_of_mem _ hp)
  unfold onDirectory
  split
  · exact inv_abort_early hT hb hr
  · exact inv_nextDirectory hT hb hi hrest
  · exact inv_abort_early hT hb (α := Unit) honest_failed
  · exact inv_setPhase (hT.cons (hd directory List.mem_cons_self) nofun (fun _ => nofun))
      ⟨hb.note (fun _ => nofun) nofun, hi, hd⟩
  · exact inv_abort_early hT hb (α := Unit) honest_failed
  · exact inv_nextDirectory hT hb hi hrest
  · exact inv_setPhase (hT.cons trivial nofun (fun _ => nofun))
      ⟨hb.note (fun _ => nofun) nofun, hi, hd⟩
  · exact inv_nextDirectory hT hb hi hrest
  · exact inv_abort_early hT hb (α := Unit) honest_failed

/-- A target is chosen; nothing was asked for but inspections and directories. -/
theorem inv_beginOpen {targetPath : RemotePath} {overwrite : Bool} (hb : BeforeOpen request s)
    (hplan : Planned request { s with targetPath, overwrite }) :
    Inv leak request (beginOpen request s targetPath overwrite) := by
  have hcreated := hb.uncreated hT
  unfold beginOpen
  simp only
  split
  · next error heq =>
    have hhonest : Honest { s with targetPath, overwrite } (.error error : Except _ Unit) :=
      heq ▸ honest_awaitStepStart
    exact inv_abort (s := { s with targetPath, overwrite }) hT hhonest (.inr hcreated)
  · have hu : Unstarted { s with targetPath, overwrite } := ⟨hb.1.reader_eq, hb.1.reads_eq,
      hb.1.offset_eq, hb.1.nextOffset_eq, hb.1.window_eq, hb.1.chunks_eq, hb.1.open_eq⟩
    refine inv_setPhase (s := Upload.send { s with targetPath, overwrite } _)
      (hT.cons rfl nofun (fun _ => nofun)) ⟨hu.note (fun _ => nofun), hplan.note (fun _ _ => nofun),
        List.mem_cons_self, ?_, ?_⟩
    · rintro ⟨sent, target, hmem, htarget⟩
      rcases List.mem_cons.mp hmem with heq | hmem
      · cases heq
        cases htarget
      · exact hcreated (hT.created_of_renamed ⟨sent, target, hmem, htarget⟩)
    · intro hmem
      rcases List.mem_cons.mp hmem with heq | hmem
      · cases heq
      · exact hcreated (hT.created_of_removed hmem)

theorem inv_tryCandidate {number : Nat} (hb : BeforeOpen request s)
    (hchoice : request.conflictChoice = some .keepBoth)
    (hfirst : (inspections s.trace).getLast? = some (request.remotePath, s.existing)) :
    Inv leak request (tryCandidate request s number) := by
  unfold tryCandidate
  split
  · exact inv_abort_early hT hb (α := Unit) honest_failed
  · split
    · exact inv_abort_early hT hb (α := Unit) honest_failed
    · exact inv_setPhase (hT.cons trivial nofun (fun _ => nofun))
        ⟨hb.note (fun _ => nofun) nofun, hchoice, hfirst⟩

theorem inv_chooseTarget (hb : BeforeOpen request s)
    (hfirst : (inspections s.trace).getLast? = some (request.remotePath, s.existing)) :
    Inv leak request (chooseTarget request s) := by
  have huncreated := hb.uncreated hT
  unfold chooseTarget
  split
  · exact ⟨hT, .inr (.inr (.inr huncreated))⟩
  · exact ⟨hT, .inr (.inr (.inr huncreated))⟩
  · next remote hexisting hchoice =>
    split
    · next error herror => exact inv_abort_early hT hb (honest_refused herror)
    · next hrefused =>
      refine inv_beginOpen hT hb ⟨hfirst, fun _ => hchoice, fun _ => ⟨rfl, nofun, ?_⟩⟩
      intro confirmed hconfirmed
      rw [confirmed_of_not_refused hrefused hconfirmed]
      exact hexisting
  · next hchoice => exact inv_tryCandidate hT hb hchoice hfirst
  · next hexisting =>
    split
    · exact inv_abort_early hT hb (α := Unit) honest_failed
    · next hexpected =>
      refine inv_beginOpen hT hb ⟨hfirst, nofun, fun _ => ⟨rfl, fun _ => hexisting, ?_⟩⟩
      intro confirmed hconfirmed
      rw [hconfirmed] at hexpected
      exact absurd rfl hexpected

theorem inv_onInspect {result : Except UploadError SftpReply} (hr : Honest s result)
    (hb : BeforeOpen request s) (hi : inspections s.trace = []) :
    Inv leak request (onInspect request s result) := by
  unfold onInspect
  split
  · next error heq =>
    exact inv_abort_early hT hb (α := Option RemoteUploadFingerprint) (heq ▸ honest_inspect hr)
  · next existing _ =>
    have hb' := hb.note (e := .inspected request.remotePath existing) (fun _ => nofun) nofun
    have hu : Unstarted { s.note (.inspected request.remotePath existing) with existing } :=
      ⟨hb'.1.reader_eq, hb'.1.reads_eq, hb'.1.offset_eq, hb'.1.nextOffset_eq, hb'.1.window_eq,
        hb'.1.chunks_eq, hb'.1.open_eq⟩
    refine inv_chooseTarget (s := { s.note (.inspected request.remotePath existing) with existing })
      (hT.cons trivial nofun (fun _ => nofun)) ⟨hu, hb'.2⟩ ?_
    show ((request.remotePath, existing) :: inspections s.trace).getLast? = _
    rw [hi]
    rfl

theorem inv_onCandidate {number : Nat} {result : Except UploadError SftpReply}
    (hr : Honest s result) (h : PhaseInv leak request s (.keepBoth number))
    (hphase : s.phase = .keepBoth number) : Inv leak request (onCandidate request s number result) := by
  obtain ⟨hb, hchoice, hfirst⟩ := h
  unfold onCandidate
  split
  · next error heq =>
    exact inv_abort_early hT hb (α := Option RemoteUploadFingerprint) (heq ▸ honest_inspect hr)
  · exact ⟨hT, hphase ▸ ⟨hb, hchoice, hfirst⟩⟩
  · next found candidate _ _ =>
    have hT' := hT.cons (e := .inspected candidate found) trivial nofun (fun _ => nofun)
    have hb' := hb.note (e := .inspected candidate found) (fun _ => nofun) nofun
    -- the first inspection of the trace stays the first one
    have hfirst' : (inspections (s.note (.inspected candidate found)).trace).getLast? =
        some (request.remotePath, s.existing) := by
      show ((candidate, found) :: inspections s.trace).getLast? = _
      cases hins : inspections s.trace with
      | nil =>
        rw [hins] at hfirst
        cases hfirst
      | cons i is =>
        rw [List.getLast?_cons_cons, ← hins]
        exact hfirst
    simp only
    split
    · refine inv_beginOpen (s := s.note (.inspected candidate found)) hT' hb'
        ⟨hfirst', nofun, fun hover => ?_⟩
      rw [hchoice] at hover
      cases hover
    · split
      · exact inv_tryCandidate (s := s.note (.inspected candidate found)) hT' hb' hchoice hfirst'
      · exact inv_abort_early (s := s.note (.inspected candidate found)) hT' hb' (α := Unit)
          honest_failed

end

/-! ## The writing loop -/

/-- What is known in the loop. -/
structure Looping (request : UploadRequest) (s : Upload) : Prop where
  traceInv : TraceInv request s.trace s.cancelled s.readerOffset
  created : .created ∈ s.trace
  planned : Planned request s
  pumping : ∃ finished, Pumping s finished

/-- The loop ends, and all bytes are written if it ends well. -/
theorem inv_endLoop {result : Except UploadError Unit} (h : Looping request s)
    (hcomplete : result = .ok () → Complete request s) : Inv leak request (s.endLoop result) :=
  ⟨h.traceInv, h.created, ⟨h.planned.first, h.planned.overwrite, h.planned.chosen⟩, rfl, hcomplete⟩

theorem Looping.raise {error : UploadError} {α : Type} (h : Looping request s)
    (he : Honest s (.error error : Except UploadError α)) : Looping request (s.raise error) := by
  have hT := h.traceInv.raise he
  obtain ⟨finished, hpump⟩ := h.pumping
  rcases raise_cases s error with heq | ⟨-, heq⟩
  · rw [heq]
    exact h
  · rw [heq] at hT ⊢
    exact ⟨hT, List.mem_cons_of_mem _ h.created, h.planned.note (fun _ _ => nofun), finished,
      hpump.note (fun _ => nofun)⟩

theorem inv_failLoop {error : UploadError} {α : Type} (h : Looping request s)
    (he : Honest s (.error error : Except UploadError α)) : Inv leak request (s.failLoop error) :=
  inv_endLoop (h.raise he) nofun

theorem inv_loopHead (h : Looping request s) : Inv leak request (loopHead request s) := by
  obtain ⟨finished, hpump⟩ := h.pumping
  unfold loopHead
  split
  · exact inv_setPhase h.traceInv ⟨h.created, h.planned, finished, hpump⟩
  · next hend => exact inv_endLoop h fun _ => hpump.complete h.traceInv.reader hend

theorem inv_fillWindow (h : Looping request s) : Inv leak request (fillWindow request s) := by
  unfold fillWindow
  split
  · split
    · next error heq =>
      have hhonest : Honest s (.error error : Except UploadError Unit) :=
        heq ▸ honest_awaitStepStart
      exact inv_failLoop h hhonest
    · exact inv_setPhase h.traceInv ⟨h.created, h.planned, h.pumping⟩
  · exact inv_setPhase h.traceInv ⟨h.created, h.planned, h.pumping⟩

/-- The file is open: the reader starts, and the loop begins. -/
theorem inv_onOpen {result : Except UploadError SftpReply} (hr : Honest s result)
    (hT : TraceInv request s.trace s.cancelled s.readerOffset)
    (h : PhaseInv leak request s .opening)
    (hleak : (∀ handle, result ≠ .ok (.handle handle)) → leak ∨ .created ∉ s.trace) :
    Inv leak request (onOpen request s result) := by
  obtain ⟨hu, hplan, hopen, -⟩ := h
  unfold onOpen
  split
  · exact inv_abort hT hr (hleak (by simp))
  · next handle =>
    -- The reply shows that the file was created, also when nothing was heard of it before.
    have hlooping : ∀ t : Upload, TraceInv request t.trace t.cancelled t.readerOffset →
        .created ∈ t.trace → Planned request t → Unstarted t →
          Looping request { t with handle, reader := .reading } := by
      intro t hT' hc hp hu'
      refine ⟨hT', hc, ⟨hp.first, hp.overwrite, hp.chosen⟩, [], ?_⟩
      constructor <;> simp [inWindow, queued, ReaderStage.pending, placed, hu'.reads_eq,
        hu'.offset_eq, hu'.nextOffset_eq, hu'.window_eq, hu'.chunks_eq, hu'.open_eq]
    simp only
    split
    · next hc => exact inv_loopHead (hlooping s hT hc hplan hu)
    · exact inv_loopHead (hlooping (s.note .created) (hT.cons hopen (by simp) (by simp))
        List.mem_cons_self (hplan.note (by simp)) (hu.note (by simp)))
  · next hno =>
    exact inv_abort hT (α := Unit) honest_failed
      (hleak fun handle heq => hno handle (Except.ok.inj heq))

/-- A chunk was received, or the reader has stopped. -/
theorem inv_receive (h : Looping request s) (hphase : s.phase = .receiving) :
    Inv leak request (receive request s) := by
  obtain ⟨hT, hc, hplan, finished, hpump⟩ := h
  unfold receive
  split
  · next chunk chunks hchunks =>
    unfold pushChunk
    split
    · -- The chunk is dropped together with the window.
      rw [failLoop, raise, if_neg nofun]
      exact ⟨hT, hc, ⟨hplan.first, hplan.overwrite, hplan.chosen⟩, rfl, nofun⟩
    · exact inv_fillWindow ⟨hT, hc, ⟨hplan.first, hplan.overwrite, hplan.chosen⟩, finished,
        hpump.push hchunks⟩
  · exact ⟨hT, hc, ⟨hplan.first, hplan.overwrite, hplan.chosen⟩, rfl, nofun⟩
  · exact inv_failLoop ⟨hT, hc, hplan, finished, hpump⟩ (α := Unit) honest_failed
  · exact ⟨hT, hphase ▸ ⟨hc, hplan, finished, hpump⟩⟩

/-- The front of the window is taken off, or ends the loop. -/
theorem inv_onNext {due closed : Bool} (h : Looping request s) (hphase : s.phase = .waiting) :
    Inv leak request (onNext request s due closed) := by
  obtain ⟨hT, hc, hplan, finished, hpump⟩ := h
  unfold onNext
  split
  · exact inv_failLoop ⟨hT, hc, hplan, finished, hpump⟩ (α := Unit) honest_failed
  · next write window hwindow =>
    split
    · exact inv_endLoop ⟨hT, hc, hplan, finished, hpump⟩ nofun
    · next hstage =>
      have hlooping : Looping request
          { s with window, offset := s.offset + write.chunk.length } :=
        ⟨hT, hc, ⟨hplan.first, hplan.overwrite, hplan.chosen⟩, _, hpump.pop hwindow hstage⟩
      simp only
      split
      · exact inv_failLoop hlooping (α := Unit) honest_failed
      · exact inv_loopHead hlooping
    · exact ⟨hT, hphase ▸ ⟨hc, hplan, finished, hpump⟩⟩

end Upload

end AxSsh
