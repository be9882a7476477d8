import AxSsh.ForStd.RangeReads
import AxSsh.ForStd.Transition
import AxSsh.Native.DownloadStream
import AxSsh.Spec.UploadPump

/-!
# The steps of a download

The slots of the window ask for ranges that follow one another, from the next byte to hand over to
the next offset, and a slot settles well only with its whole range.  So the front of the window is
always the next piece of the file.  The writer publishes when its channel is closed without an
abort and every byte is there, and its channel is closed so only after the stream succeeded, or
when the task was aborted.

## Key results
- `WindowInv.push`, `WindowInv.set`, `WindowInv.front`: the window of requests
- `Inv.step`: one step of a download
- `inv_run`: a whole run
-/

namespace AxSsh

open RangeReads

/-- Where a slot reads. -/
def PendingRead.span (read : PendingRead) : Nat × Nat := (read.offset, read.length)

/-- What a slot holds has arrived of its range. -/
structure PendingRead.Sound (remote : List UInt8) (read : PendingRead) : Prop where
  pos : 0 < read.length
  arrived : Arrived remote read.offset read.length read.chunk
  settled : ∀ chunk, read.stage = .settled (.ok chunk) →
    chunk = read.chunk ∧ read.chunk.length = read.length

namespace Download

variable {remote : List UInt8} {expected : RemoteFileMetadata} {s : Download}

/-- The server answers a read with the first bytes of its range; that it sends at least one is not
needed here. -/
def Honest (remote : List UInt8) (s : Download) : Input → Prop
  | .read index (.ready (.data data)) =>
    ∀ read, s.window[index]? = some read →
      Arrived remote (read.offset + read.chunk.length) (read.length - read.chunk.length) data
  | _ => True

/-! ## The invariant -/

/-- The window reads on from `base`. -/
structure WindowInv (remote : List UInt8) (expected : RemoteFileMetadata) (base : Nat)
    (window : List PendingRead) (nextOffset : Nat) : Prop where
  abut : Abut base (window.map PendingRead.span) nextOffset
  le : nextOffset ≤ expected.size
  bounded : window.length ≤ requestWindow
  sound : ∀ read ∈ window, read.Sound remote

/-- The channel was closed well, and all bytes are in the file. -/
structure Closed (expected : RemoteFileMetadata) (s : Download) : Prop where
  closed : s.senderOpen = false
  unaborted : s.writerAbort = false
  file_eq : s.file = s.handed
  length_eq : s.file.length = expected.size

def WriterInv (expected : RemoteFileMetadata) (s : Download) : WriterStage → Prop
  | .receiving => s.file ++ s.queue.flatten = s.handed ∧ s.localFile = .part
  | .finishing => Closed expected s ∧ s.localFile = .part
  | .published => Closed expected s ∧ s.localFile = .published
  | .ended (.ok ()) => Closed expected s
  | .ended (.error _) => s.localFile = .removed

/-- What holds in every phase. -/
structure Delivered (remote : List UInt8) (expected : RemoteFileMetadata) (s : Download) :
    Prop where
  handed_eq : s.handed = remote.take s.downloadedBytes
  handed_length : s.handed.length = s.downloadedBytes
  le : s.downloadedBytes ≤ expected.size
  writer : WriterInv expected s s.writer

/-- `stream_remote_file` runs. -/
structure Running (remote : List UInt8) (expected : RemoteFileMetadata) (base : Nat)
    (s : Download) : Prop extends Delivered remote expected s where
  senderOpen : s.senderOpen = true
  unaborted : s.writerAbort = false
  result : s.streamResult = none
  window : WindowInv remote expected base s.window s.nextOffset

/-- `stream_remote_file` has returned. -/
structure Finished (remote : List UInt8) (expected : RemoteFileMetadata) (s : Download) : Prop
    extends Delivered remote expected s where
  closed : s.senderOpen = false
  window : s.window = []
  result : (s.streamResult = some (.ok ()) ∧ s.downloadedBytes = expected.size) ∨
    ∃ error, s.streamResult = some (.error error) ∧ s.writerAbort = true

/-- The file of a writer that ended well is still there. -/
def Kept (s : Download) : Prop := s.writer = .ended (.ok ()) → s.localFile = .published

def PhaseInv (remote : List UInt8) (expected : RemoteFileMetadata) (s : Download) :
    DownloadPhase → Prop
  | .announcingPause | .pausing | .announcingResume | .waiting =>
    Running remote expected s.downloadedBytes s
  | .handing chunk =>
    Running remote expected (s.downloadedBytes + chunk.length) s ∧
      Arrived remote s.downloadedBytes chunk.length chunk
  | .confirming | .revalidating | .rechecking =>
    Running remote expected s.downloadedBytes s ∧ s.downloadedBytes = expected.size
  | .joining | .cleaning _ => Finished remote expected s ∧ Kept s
  | .removing _ => Finished remote expected s ∧ s.writer = .ended (.ok ())
  | .done (.ok ()) =>
    Finished remote expected s ∧ s.writer = .ended (.ok ()) ∧ s.localFile = .published
  | .done (.error _) => Finished remote expected s
  | .aborted =>
    Delivered remote expected s ∧ s.window = [] ∧
      (s.streamResult = some (.ok ()) → s.downloadedBytes = expected.size)

def Inv (remote : List UInt8) (expected : RemoteFileMetadata) (s : Download) : Prop :=
  PhaseInv remote expected s s.phase

theorem Inv.delivered (h : Inv remote expected s) : Delivered remote expected s := by
  unfold Inv PhaseInv at h
  split at h
  all_goals first
    | exact h.toDelivered
    | exact h.1.toDelivered
    | exact h.1

theorem Inv.bounded (h : Inv remote expected s) : s.window.length ≤ requestWindow := by
  have hnil : s.window = [] → s.window.length ≤ requestWindow := fun hw => by
    rw [hw]
    exact Nat.zero_le _
  unfold Inv PhaseInv at h
  split at h
  all_goals first
    | exact h.window.bounded
    | exact h.1.window.bounded
    | exact hnil h.window
    | exact hnil h.1.window
    | exact hnil h.2.1

/-! ## The window -/

section Window

variable {base nextOffset : Nat} {window : List PendingRead}

/-- The next request asks for what follows the last one. -/
theorem WindowInv.push (h : WindowInv remote expected base window nextOffset)
    (hlen : window.length < requestWindow) (hnext : nextOffset < expected.size) {length : Nat}
    (hlength : length = min (expected.size - nextOffset) downloadChunkBytes) :
    WindowInv remote expected base (window ++ [{ offset := nextOffset, length }])
      (nextOffset + length) where
  abut := by
    rw [List.map_append]
    exact h.abut.push length
  le := by omega
  bounded := by
    rw [List.length_append]
    exact hlen
  sound read hread := by
    rcases List.mem_append.mp hread with hread | hread
    · exact h.sound read hread
    · obtain rfl := List.mem_singleton.mp hread
      have hpos : 0 < downloadChunkBytes := by decide
      exact ⟨by show 0 < length; omega, Arrived.nil, fun chunk hstage => by cases hstage⟩

/-- A slot goes on within its range. -/
theorem WindowInv.set (h : WindowInv remote expected base window nextOffset) {index : Nat}
    {old read : PendingRead} (hold : window[index]? = some old) (hspan : read.span = old.span)
    (hsound : read.Sound remote) :
    WindowInv remote expected base (window.set index read) nextOffset where
  abut := by
    rw [map_set_of_eq PendingRead.span read hold hspan]
    exact h.abut
  le := h.le
  bounded := (List.length_set ..).trans_le h.bounded
  sound other hother := by
    rcases List.mem_or_eq_of_mem_set hother with hother | rfl
    · exact h.sound other hother
    · exact hsound

/-- A settled front is the next piece of the source. -/
theorem WindowInv.front {read : PendingRead} {chunk : List UInt8}
    (h : WindowInv remote expected base (read :: window) nextOffset)
    (hstage : read.stage = .settled (.ok chunk)) :
    Arrived remote base chunk.length chunk ∧
      WindowInv remote expected (base + chunk.length) window nextOffset := by
  have hsound := h.sound read List.mem_cons_self
  obtain ⟨rfl, hfull⟩ := hsound.settled chunk hstage
  have hoffset : read.offset = base := h.abut.1
  constructor
  · have harrived := hsound.arrived
    rw [← hfull, hoffset] at harrived
    exact harrived
  · constructor
    · rw [hfull]
      exact h.abut.2
    · exact h.le
    · have hlen := h.bounded
      simp only [List.length_cons] at hlen
      omega
    · exact fun other hother => h.sound other (List.mem_cons_of_mem _ hother)

end Window

/-! ## The stream -/

section Stream

variable {base : Nat}

/-- While the channel is open, the writer receives or has failed. -/
theorem Running.writer_cases (h : Running remote expected base s) :
    (s.writer = .receiving ∧ s.file ++ s.queue.flatten = s.handed ∧ s.localFile = .part) ∨
      ∃ error, s.writer = .ended (.error error) ∧ s.localFile = .removed := by
  have hopen := h.senderOpen
  have hwriter := h.writer
  cases hstage : s.writer with
  | receiving =>
    rw [hstage] at hwriter
    exact .inl ⟨rfl, hwriter⟩
  | finishing =>
    rw [hstage] at hwriter
    simp [hwriter.1.closed] at hopen
  | published =>
    rw [hstage] at hwriter
    simp [hwriter.1.closed] at hopen
  | ended result =>
    rw [hstage] at hwriter
    cases result with
    | ok =>
      have hclosed : Closed expected s := hwriter
      simp [hclosed.closed] at hopen
    | error error => exact .inr ⟨error, rfl, hwriter⟩

/-- The writer does not see the other fields. -/
theorem Running.writerInv_of (h : Running remote expected base s) {s' : Download}
    (hwriter : s'.writer = s.writer) (hfile : s'.file = s.file) (hqueue : s'.queue = s.queue)
    (hhanded : s'.handed = s.handed) (hlocal : s'.localFile = s.localFile) :
    WriterInv expected s' s'.writer := by
  rw [hwriter]
  rcases h.writer_cases with ⟨hstage, hbytes, hpart⟩ | ⟨error, hstage, hremoved⟩
  · rw [hstage]
    exact ⟨by rw [hfile, hqueue, hhanded, hbytes], hlocal.trans hpart⟩
  · rw [hstage]
    exact hlocal.trans hremoved

theorem Running.kept (h : Running remote expected base s) {s' : Download}
    (hwriter : s'.writer = s.writer) : Kept s' := by
  intro hended
  rw [hwriter] at hended
  rcases h.writer_cases with ⟨hstage, _⟩ | ⟨error, hstage, _⟩
  all_goals simp [hstage] at hended

theorem Running.fail (h : Running remote expected base s) (error : DownloadError) :
    Inv remote expected (s.failStream error) :=
  ⟨{ handed_eq := h.handed_eq
     handed_length := h.handed_length
     le := h.le
     writer := h.writerInv_of rfl rfl rfl rfl rfl
     closed := rfl
     window := rfl
     result := .inr ⟨error, rfl, rfl⟩ }, h.kept rfl⟩

theorem Running.succeed (h : Running remote expected base s)
    (hfull : s.downloadedBytes = expected.size) : Inv remote expected s.endStream := by
  have hfinished : Finished remote expected s.endStream :=
    { handed_eq := h.handed_eq
      handed_length := h.handed_length
      le := h.le
      writer := h.writerInv_of rfl rfl rfl rfl rfl
      closed := rfl
      window := rfl
      result := .inl ⟨rfl, hfull⟩ }
  unfold Inv
  have hphase : s.endStream.phase = .cleaning .cancelled ∨ s.endStream.phase = .joining := by
    simp only [endStream]
    split
    · exact .inl rfl
    · exact .inr rfl
  rcases hphase with hphase | hphase
  all_goals
    rw [hphase]
    exact ⟨hfinished, h.kept rfl⟩

/-- A step that moves only the window and the phase. -/
theorem Running.setWindow (h : Running remote expected base s) {base' nextOffset : Nat}
    {window : List PendingRead} {phase : DownloadPhase}
    (hwindow : WindowInv remote expected base' window nextOffset) :
    Running remote expected base' { s with window, nextOffset, phase } where
  handed_eq := h.handed_eq
  handed_length := h.handed_length
  le := h.le
  writer := h.writerInv_of rfl rfl rfl rfl rfl
  senderOpen := h.senderOpen
  unaborted := h.unaborted
  result := h.result
  window := hwindow

theorem Running.setPhase (h : Running remote expected base s) (phase : DownloadPhase) :
    Running remote expected base { s with phase } :=
  h.setWindow h.window

theorem Running.proceed (h : Running remote expected base s) {phase : DownloadPhase}
    (hphase : PhaseInv remote expected { s with phase } phase) :
    Inv remote expected (s.proceed phase) := by
  unfold Download.proceed
  split
  · exact h.fail _
  · exact hphase

theorem Running.push (h : Running remote expected base s) :
    Running remote expected base (pushRead expected s) ∧
      (pushRead expected s).downloadedBytes = s.downloadedBytes := by
  unfold pushRead
  split
  · rename_i hroom
    exact ⟨h.setWindow (h.window.push hroom.1 hroom.2 rfl), rfl⟩
  · exact ⟨h, rfl⟩

theorem Running.pushes (h : Running remote expected base s) (n : Nat) :
    Running remote expected base ((pushRead expected)^[n] s) ∧
      ((pushRead expected)^[n] s).downloadedBytes = s.downloadedBytes := by
  induction n generalizing s with
  | zero => exact ⟨h, rfl⟩
  | succ n ih =>
    obtain ⟨hpush, hbytes⟩ := h.push
    obtain ⟨hpushes, hrest⟩ := ih hpush
    rw [Function.iterate_succ_apply]
    exact ⟨hpushes, hrest.trans hbytes⟩

theorem inv_fillWindow (h : Running remote expected s.downloadedBytes s) :
    Inv remote expected (fillWindow expected s) := by
  obtain ⟨hpushes, hbytes⟩ := h.pushes requestWindow
  unfold fillWindow
  generalize (pushRead expected)^[requestWindow] s = filled at hpushes hbytes ⊢
  rw [← hbytes] at hpushes
  exact hpushes.setPhase .waiting

theorem inv_loopHead (h : Running remote expected s.downloadedBytes s) :
    Inv remote expected (loopHead expected s) := by
  unfold loopHead
  split
  · split
    · exact h.setPhase .announcingPause
    · exact inv_fillWindow h
  · rename_i hend
    have hfull : s.downloadedBytes = expected.size := by
      have hle := h.le
      omega
    exact h.proceed ⟨h.setPhase .confirming, hfull⟩

theorem inv_onNext (h : Running remote expected s.downloadedBytes s) (hphase : s.phase = .waiting) :
    Inv remote expected s.onNext := by
  unfold onNext
  split
  · exact h.fail _
  · rename_i read window hcons
    split
    · exact h.fail _
    · rename_i chunk hstage
      have hwindow := h.window
      rw [hcons] at hwindow
      obtain ⟨hchunk, hrest⟩ := hwindow.front hstage
      have hrunning : Running remote expected (s.downloadedBytes + chunk.length)
          { s with window } := h.setWindow hrest
      exact hrunning.proceed ⟨hrunning.setPhase _, hchunk⟩
    · rw [Inv, hphase]
      exact h

theorem inv_onAccepted {chunk : List UInt8} {due closed : Bool}
    (h : Running remote expected (s.downloadedBytes + chunk.length) s)
    (hchunk : Arrived remote s.downloadedBytes chunk.length chunk)
    (hphase : s.phase = .handing chunk) :
    Inv remote expected (onAccepted expected s chunk due closed) := by
  unfold onAccepted
  split
  · rename_i hreceiving
    split
    · have hwriter := h.writer
      rw [hreceiving] at hwriter
      obtain ⟨hbytes, hpart⟩ := hwriter
      -- What is handed over is the next piece of the source.
      have hrunning : Running remote expected (s.downloadedBytes + chunk.length)
          { s with
            queue := s.queue ++ [chunk]
            handed := s.handed ++ chunk
            downloadedBytes := s.downloadedBytes + chunk.length } :=
        { handed_eq := by
            rw [h.handed_eq]
            exact hchunk.take_append rfl
          handed_length := by rw [List.length_append, h.handed_length]
          le := h.window.abut.le.trans h.window.le
          writer := by
            rw [hreceiving]
            refine ⟨?_, hpart⟩
            rw [List.flatten_append, ← List.append_assoc, hbytes, List.flatten_singleton]
          senderOpen := h.senderOpen
          unaborted := h.unaborted
          result := h.result
          window := h.window }
      dsimp only
      split
      · exact hrunning.fail _
      · exact inv_loopHead hrunning
    · rw [Inv, hphase]
      exact ⟨h, hchunk⟩
  · exact h.fail _

theorem inv_onConfirmed {result : Except DownloadError RemoteReply}
    (h : Running remote expected s.downloadedBytes s) (hfull : s.downloadedBytes = expected.size) :
    Inv remote expected (s.onConfirmed result) := by
  unfold onConfirmed
  split
  · exact h.fail _
  · exact h.proceed ⟨h.setPhase .revalidating, hfull⟩
  · exact h.proceed ⟨h.setPhase .revalidating, hfull⟩
  · exact h.fail _
  · exact h.fail _

theorem inv_onRevalidated {result : Except DownloadError RemoteReply}
    (h : Running remote expected s.downloadedBytes s) (hfull : s.downloadedBytes = expected.size) :
    Inv remote expected (onRevalidated expected s result) := by
  unfold onRevalidated
  split
  · exact h.fail _
  · split
    · exact h.fail _
    · exact h.proceed ⟨h.setPhase .rechecking, hfull⟩

theorem inv_onRechecked {result : Except DownloadError RemoteReply}
    (h : Running remote expected s.downloadedBytes s) (hfull : s.downloadedBytes = expected.size) :
    Inv remote expected (onRechecked expected s result) := by
  unfold onRechecked
  split
  · exact h.fail _
  · split
    · exact h.fail _
    · exact h.succeed hfull

theorem inv_onAnnounced {next : Download} {answer : WaitEnd Bool}
    (h : Running remote expected base s) (hs : Inv remote expected s)
    (hnext : Inv remote expected next) : Inv remote expected (s.onAnnounced next answer) := by
  unfold onAnnounced
  split
  · exact hs
  · exact h.fail _
  · exact h.fail _
  · exact hnext

theorem inv_onRunning (h : Running remote expected s.downloadedBytes s)
    (hphase : s.phase = .pausing) : Inv remote expected s.onRunning := by
  unfold onRunning
  split
  · exact h.fail _
  · split
    · rw [Inv, hphase]
      exact h
    · exact h.setPhase .announcingResume

end Stream

/-! ## The slots -/

theorem WriterInv.congr {stage : WriterStage} (h : WriterInv expected s stage) {s' : Download}
    (hopen : s'.senderOpen = s.senderOpen) (habort : s'.writerAbort = s.writerAbort)
    (hfile : s'.file = s.file) (hqueue : s'.queue = s.queue) (hhanded : s'.handed = s.handed)
    (hlocal : s'.localFile = s.localFile) : WriterInv expected s' stage := by
  have hclosed : Closed expected s → Closed expected s' := fun hc =>
    ⟨hopen.trans hc.closed, habort.trans hc.unaborted, by rw [hfile, hhanded, hc.file_eq],
      by rw [hfile, hc.length_eq]⟩
  cases stage with
  | receiving => exact ⟨by rw [hfile, hqueue, hhanded, h.1], hlocal.trans h.2⟩
  | finishing => exact ⟨hclosed h.1, hlocal.trans h.2⟩
  | published => exact ⟨hclosed h.1, hlocal.trans h.2⟩
  | ended result =>
    cases result with
    | ok => exact hclosed h
    | error error => exact hlocal.trans h

/-- A step that leaves the phase and the bytes alone and keeps what the phases are made of. -/
theorem PhaseInv.transfer {phase : DownloadPhase} (h : PhaseInv remote expected s phase)
    {s' : Download} (hbytes : s'.downloadedBytes = s.downloadedBytes)
    (hrunning : ∀ base, Running remote expected base s → Running remote expected base s')
    (hfinished : Finished remote expected s → Finished remote expected s')
    (hkept : Finished remote expected s → Kept s → Kept s')
    (hended : Finished remote expected s → s.writer = .ended (.ok ()) →
      s'.writer = .ended (.ok ()) ∧ s'.localFile = s.localFile)
    (haborted : Delivered remote expected s → s.window = [] →
      Delivered remote expected s' ∧ s'.window = [] ∧ s'.streamResult = s.streamResult) :
    PhaseInv remote expected s' phase := by
  -- the phase says which part of the state it is about
  cases phase with
  | announcingPause | pausing | announcingResume | waiting =>
    show Running remote expected s'.downloadedBytes s'
    rw [hbytes]
    exact hrunning _ h
  | handing chunk =>
    show Running remote expected (s'.downloadedBytes + chunk.length) s' ∧
      Arrived remote s'.downloadedBytes chunk.length chunk
    rw [hbytes]
    exact ⟨hrunning _ h.1, h.2⟩
  | confirming | revalidating | rechecking =>
    show Running remote expected s'.downloadedBytes s' ∧ s'.downloadedBytes = expected.size
    rw [hbytes]
    exact ⟨hrunning _ h.1, h.2⟩
  | joining | cleaning reason => exact ⟨hfinished h.1, hkept h.1 h.2⟩
  | removing error => exact ⟨hfinished h.1, (hended h.1 h.2).1⟩
  | done result =>
    cases result with
    | ok =>
      obtain ⟨hwriter, hlocal⟩ := hended h.1 h.2.1
      exact ⟨hfinished h.1, hwriter, hlocal.trans h.2.2⟩
    | error error => exact hfinished h
  | aborted =>
    obtain ⟨hdelivered, hwindow, hresult⟩ := haborted h.1 h.2.1
    refine ⟨hdelivered, hwindow, fun hok => ?_⟩
    rw [hbytes]
    exact h.2.2 (hresult.symm.trans hok)

theorem inv_setRead (h : Inv remote expected s) {index : Nat} {old read : PendingRead}
    (hold : s.window[index]? = some old) (hspan : read.span = old.span)
    (hsound : read.Sound remote) : Inv remote expected (s.setRead index read) := by
  have hne : s.window ≠ [] := by
    rintro hnil
    simp [hnil] at hold
  exact PhaseInv.transfer h rfl (fun _ hr => hr.setWindow (hr.window.set hold hspan hsound))
    (fun hf => absurd hf.window hne) (fun hf => absurd hf.window hne)
    (fun hf => absurd hf.window hne) (fun _ hwindow => absurd hwindow hne)

/-- A read of the window goes on, or settles with its whole range. -/
theorem inv_readMore (h : Inv remote expected s) {index : Nat} {old read : PendingRead}
    (hold : s.window[index]? = some old) (hspan : read.span = old.span) (hpos : 0 < read.length)
    (harrived : Arrived remote read.offset read.length read.chunk) :
    Inv remote expected (s.readMore index read) := by
  unfold readMore
  split
  · split
    · exact inv_setRead h hold hspan ⟨hpos, harrived, fun chunk hstage => by cases hstage⟩
    · exact inv_setRead h hold hspan ⟨hpos, harrived, fun chunk hstage => by cases hstage⟩
  · rename_i hlen
    have hfull : read.chunk.length = read.length := by
      have hle := harrived.length_le
      omega
    exact inv_setRead h hold hspan ⟨hpos, harrived, fun chunk hstage => by
      cases hstage
      exact ⟨rfl, hfull⟩⟩

theorem Inv.sound (h : Inv remote expected s) {index : Nat} {read : PendingRead}
    (hread : s.window[index]? = some read) : read.Sound remote := by
  have hmem := List.mem_of_getElem? hread
  have hnil : s.window ≠ [] := List.ne_nil_of_mem hmem
  unfold Inv PhaseInv at h
  split at h
  all_goals first
    | exact h.window.sound read hmem
    | exact h.1.window.sound read hmem
    | exact absurd h.window hnil
    | exact absurd h.1.window hnil
    | exact absurd h.2.1 hnil

theorem inv_onLimited (h : Inv remote expected s) (index : Nat) (abandoned : Bool) :
    Inv remote expected (s.onLimited index abandoned) := by
  unfold onLimited
  split
  · rename_i read offset length chunk hread
    have hsound := h.sound hread
    split
    · split
      · exact inv_setRead h hread rfl ⟨hsound.pos, hsound.arrived, fun _ hstage => by cases hstage⟩
      · exact h
    · exact inv_readMore h hread rfl hsound.pos hsound.arrived
  · exact h

/-- Only the future itself ends a wait well. -/
theorem awaitStep_eq_ok {α : Type} {operation : String} {answer : WaitEnd α} {value : α}
    (h : s.awaitStep operation answer = some (.ok value)) : answer = .ready value := by
  cases answer with
  | abandoned =>
    simp only [awaitStep] at h
    split at h <;> cases h
  | timedOut => cases h
  | ready other =>
    cases h
    rfl

/-- Every reply but a good one settles the slot with an error. -/
theorem inv_onData (h : Inv remote expected s) {index : Nat} {read : PendingRead}
    (hread : s.window[index]? = some read) {result : Except DownloadError RemoteReply}
    (hdata : ∀ data, result = .ok (.data data) →
      Arrived remote (read.offset + read.chunk.length) (read.length - read.chunk.length) data) :
    Inv remote expected (onData expected s index read result) := by
  have hsound := h.sound hread
  have hfail : ∀ error, Inv remote expected
      (s.setRead index { read with stage := .settled (.error error) }) := fun error =>
    inv_setRead h hread rfl ⟨hsound.pos, hsound.arrived, fun _ hstage => by cases hstage⟩
  unfold onData
  split
  · exact hfail _
  · exact hfail _
  · exact hfail _
  · split
    · exact hfail _
    · exact inv_readMore h hread rfl hsound.pos (hsound.arrived.extend (hdata _ rfl))
  · exact hfail _

theorem inv_onRead (h : Inv remote expected s) (index : Nat) (answer : WaitEnd RemoteReply)
    (hhonest : Honest remote s (.read index answer)) :
    Inv remote expected (onRead expected s index answer) := by
  unfold onRead
  split
  · rename_i offset length chunk hread
    generalize "reading remote file" = operation
    unfold Download.resume
    split
    · exact h
    · rename_i result hended
      refine inv_onData h hread fun data hresult => ?_
      subst hresult
      obtain rfl := awaitStep_eq_ok hended
      exact hhonest _ hread
  · exact h

/-! ## The writer and the result -/

/-- What holds in a phase does not depend on the flags. -/
theorem PhaseInv.setFlags (phase : DownloadPhase) (h : PhaseInv remote expected s phase)
    (current : DownloadPhase) (cancelled paused expired : Bool) :
    PhaseInv remote expected { s with phase := current, cancelled, paused, expired } phase := by
  let s' : Download := { s with phase := current, cancelled, paused, expired }
  have hdelivered : Delivered remote expected s → Delivered remote expected s' := fun hd =>
    ⟨hd.handed_eq, hd.handed_length, hd.le, hd.writer.congr rfl rfl rfl rfl rfl rfl⟩
  have hrunning : ∀ {base}, Running remote expected base s → Running remote expected base s' :=
    fun hr => ⟨hdelivered hr.toDelivered, hr.senderOpen, hr.unaborted, hr.result, hr.window⟩
  have hfinished : Finished remote expected s → Finished remote expected s' := fun hf =>
    ⟨hdelivered hf.toDelivered, hf.closed, hf.window, hf.result⟩
  exact h.transfer rfl (fun _ => hrunning) hfinished (fun _ => id)
    (fun _ hwriter => ⟨hwriter, rfl⟩) (fun hd hwindow => ⟨hdelivered hd, hwindow, rfl⟩)

/-- A step of a writer that is still at work. -/
theorem Inv.setWriter (h : Inv remote expected s) (hwork : ∀ result, s.writer ≠ .ended result)
    (writer : WriterStage) (queue : List (List UInt8)) (file : List UInt8)
    (localFile : LocalDownload)
    (hwriter : WriterInv expected { s with writer, queue, file, localFile } writer)
    (hkept : Kept { s with writer, queue, file, localFile }) :
    Inv remote expected { s with writer, queue, file, localFile } := by
  let s' : Download := { s with writer, queue, file, localFile }
  have hdelivered : Delivered remote expected s → Delivered remote expected s' := fun hd =>
    ⟨hd.handed_eq, hd.handed_length, hd.le, hwriter⟩
  have hrunning : ∀ {base}, Running remote expected base s → Running remote expected base s' :=
    fun hr => ⟨hdelivered hr.toDelivered, hr.senderOpen, hr.unaborted, hr.result, hr.window⟩
  have hfinished : Finished remote expected s → Finished remote expected s' := fun hf =>
    ⟨hdelivered hf.toDelivered, hf.closed, hf.window, hf.result⟩
  exact PhaseInv.transfer h rfl (fun _ => hrunning) hfinished (fun _ _ => hkept)
    (fun _ hended => absurd hended (hwork _)) (fun hd hwindow => ⟨hdelivered hd, hwindow, rfl⟩)

theorem inv_endWriter (h : Inv remote expected s) (hwork : ∀ result, s.writer ≠ .ended result)
    (queue : List (List UInt8)) (error : DownloadError) :
    Inv remote expected ({ s with queue }.endWriter error) := by
  refine h.setWriter hwork _ queue s.file _ rfl ?_
  intro hended
  cases hended

theorem inv_onReceive (h : Inv remote expected s) (written : Bool) :
    Inv remote expected (onReceive expected s written) := by
  have hwriter := h.delivered.writer
  unfold onReceive
  split
  · rename_i chunk queue hreceiving hqueue
    have hwork : ∀ result, s.writer ≠ .ended result := by simp [hreceiving]
    rw [hreceiving] at hwriter
    obtain ⟨hbytes, hpart⟩ := hwriter
    dsimp only
    split
    · exact inv_endWriter h hwork queue _
    · split
      · exact inv_endWriter h hwork queue _
      · split
        · exact inv_endWriter h hwork queue _
        · split
          · -- The chunk goes from the channel into the file.
            have hmoved : (s.file ++ chunk) ++ queue.flatten = s.handed := by
              rw [← hbytes, hqueue, List.flatten_cons, List.append_assoc]
            refine h.setWriter hwork s.writer queue _ s.localFile ?_ ?_
            · rw [hreceiving]
              exact ⟨hmoved, hpart⟩
            · intro hended
              exact absurd hended (hwork _)
          · exact inv_endWriter h hwork queue _
  · rename_i hreceiving hqueue
    have hwork : ∀ result, s.writer ≠ .ended result := by simp [hreceiving]
    rw [hreceiving] at hwriter
    obtain ⟨hbytes, hpart⟩ := hwriter
    split
    · exact h
    · rename_i hclosed
      split
      · exact inv_endWriter h hwork s.queue _
      · rename_i habort
        split
        · exact inv_endWriter h hwork s.queue _
        · rename_i hlen
          -- The channel is closed and drained, so the file has all that was handed over.
          rw [hqueue, List.flatten_nil, List.append_nil] at hbytes
          refine h.setWriter hwork _ s.queue s.file s.localFile ⟨?_, hpart⟩ nofun
          exact ⟨by simpa using hclosed, by simpa using habort, hbytes, not_not.mp hlen⟩
  · exact h

theorem inv_onPublish (h : Inv remote expected s) (error : Option String) :
    Inv remote expected (s.onPublish error) := by
  have hwriter := h.delivered.writer
  unfold onPublish
  split
  · rename_i hfinishing
    exact inv_endWriter h (by simp [hfinishing]) s.queue _
  · rename_i hfinishing
    rw [hfinishing] at hwriter
    refine h.setWriter (by simp [hfinishing]) _ s.queue s.file _ ⟨?_, rfl⟩ nofun
    exact ⟨hwriter.1.closed, hwriter.1.unaborted, hwriter.1.file_eq, hwriter.1.length_eq⟩
  · exact h

theorem inv_onSynced (h : Inv remote expected s) (error : Option String) :
    Inv remote expected (s.onSynced error) := by
  have hwriter := h.delivered.writer
  unfold onSynced
  split
  · rename_i hpublished
    exact inv_endWriter h (by simp [hpublished]) s.queue _
  · rename_i hpublished
    rw [hpublished] at hwriter
    refine h.setWriter (by simp [hpublished]) _ s.queue s.file s.localFile ?_ fun _ => hwriter.2
    exact ⟨hwriter.1.closed, hwriter.1.unaborted, hwriter.1.file_eq, hwriter.1.length_eq⟩
  · exact h

theorem inv_onPanic (h : Inv remote expected s) : Inv remote expected s.onPanic := by
  unfold onPanic
  split
  · exact h
  · rename_i hwork
    exact inv_endWriter h hwork s.queue _

theorem inv_onJoined (h : Inv remote expected s) : Inv remote expected s.onJoined := by
  have hinv := h
  unfold Inv at h
  unfold onJoined
  split
  · rename_i error hphase hended
    rw [hphase] at h
    exact PhaseInv.setFlags (.done (.error error)) h.1 _ _ _ _
  · rename_i hphase hended
    rw [hphase] at h
    split
    · exact PhaseInv.setFlags (.removing .cancelled) ⟨h.1, hended⟩ _ _ _ _
    · exact PhaseInv.setFlags (.done (.ok ())) ⟨h.1, hended, h.2 hended⟩ _ _ _ _
  · rename_i reason error hphase hended
    rw [hphase] at h
    exact PhaseInv.setFlags (.done (.error _)) h.1 _ _ _ _
  · rename_i reason hphase hended
    rw [hphase] at h
    exact PhaseInv.setFlags (.removing _) ⟨h.1, hended⟩ _ _ _ _
  · exact hinv

theorem inv_onRemoved (h : Inv remote expected s) (success : Bool) :
    Inv remote expected (s.onRemoved success) := by
  have hinv := h
  unfold Inv at h
  unfold onRemoved
  split
  · rename_i error hphase
    rw [hphase] at h
    obtain ⟨hfinished, hended⟩ := h
    have hwriter := hfinished.writer
    rw [hended] at hwriter
    have hclosed : Closed expected s := hwriter
    refine ⟨⟨hfinished.handed_eq, hfinished.handed_length, hfinished.le, ?_⟩, hfinished.closed,
      hfinished.window, hfinished.result⟩
    rw [hended]
    exact ⟨hclosed.closed, hclosed.unaborted, hclosed.file_eq, hclosed.length_eq⟩
  · exact hinv

/-- A stream that succeeded has handed over every byte. -/
theorem Inv.full (h : Inv remote expected s) (hresult : s.streamResult = some (.ok ())) :
    s.downloadedBytes = expected.size := by
  have hrunning : ∀ {base}, Running remote expected base s →
      s.downloadedBytes = expected.size := fun hr => by simp [hr.result] at hresult
  have hfinished : Finished remote expected s → s.downloadedBytes = expected.size := fun hf => by
    rcases hf.result with ⟨_, hfull⟩ | ⟨error, herror, _⟩
    · exact hfull
    · simp [herror] at hresult
  unfold Inv PhaseInv at h
  split at h
  all_goals first
    | exact hrunning h
    | exact hrunning h.1
    | exact hfinished h
    | exact hfinished h.1
    | exact h.2.2 hresult

/-- An abort closes the channel and nothing else that the writer sees. -/
theorem WriterInv.close {stage : WriterStage} (h : WriterInv expected s stage)
    (window : List PendingRead) (phase : DownloadPhase) (cancelled : Bool) :
    WriterInv expected { s with senderOpen := false, window, phase, cancelled } stage := by
  have hclosed : Closed expected s →
      Closed expected { s with senderOpen := false, window, phase, cancelled } := fun hc =>
    ⟨rfl, hc.unaborted, hc.file_eq, hc.length_eq⟩
  cases stage with
  | receiving => exact h
  | finishing => exact ⟨hclosed h.1, h.2⟩
  | published => exact ⟨hclosed h.1, h.2⟩
  | ended result =>
    cases result with
    | ok => exact hclosed h
    | error error => exact h

theorem inv_onAbort (h : Inv remote expected s) : Inv remote expected s.onAbort := by
  have hdelivered := h.delivered
  unfold onAbort
  split
  · exact h
  · refine ⟨⟨hdelivered.handed_eq, hdelivered.handed_length, hdelivered.le, ?_⟩, rfl, h.full⟩
    exact hdelivered.writer.close _ _ _

/-! ## The steps -/

theorem inv_onAnswer (h : Inv remote expected s) (answer : WaitEnd RemoteReply) :
    Inv remote expected (onAnswer expected s answer) := by
  have hinv := h
  unfold Inv at h
  unfold onAnswer
  -- The texts of the waits play no role.
  generalize "writing local download" = handing
  generalize "confirming remote end of file" = confirming
  generalize "revalidating downloaded remote file" = revalidating
  generalize "inspecting remote file" = rechecking
  cases hphase : s.phase with
  | handing chunk =>
    rw [hphase] at h
    dsimp only [Download.resume]
    split
    · exact hinv
    · split
      · exact h.1.fail _
      · exact hinv
  | confirming =>
    rw [hphase] at h
    dsimp only [Download.resume]
    split
    · exact hinv
    · exact inv_onConfirmed h.1 h.2
  | revalidating =>
    rw [hphase] at h
    dsimp only [Download.resume]
    split
    · exact hinv
    · exact inv_onRevalidated h.1 h.2
  | rechecking =>
    rw [hphase] at h
    dsimp only [Download.resume]
    split
    · exact hinv
    · exact inv_onRechecked h.1 h.2
  | joining =>
    rw [hphase] at h
    cases answer with
    | abandoned =>
      dsimp only
      split
      · exact PhaseInv.setFlags (.cleaning .cancelled) h _ _ _ _
      · exact hinv
    | timedOut =>
      dsimp only
      split
      · exact PhaseInv.setFlags (.cleaning .expired) h _ _ _ _
      · exact hinv
    | ready value => exact hinv
  | cleaning reason =>
    rw [hphase] at h
    cases answer with
    | timedOut => exact PhaseInv.setFlags (.done (.error _)) h.1 _ _ _ _
    | abandoned => exact hinv
    | ready value => exact hinv
  | _ => exact hinv

/-- One step of a download, where the server answers reads as it should. -/
theorem Inv.step (h : Inv remote expected s) (input : Input) (hhonest : Honest remote s input) :
    Inv remote expected (step expected s input) := by
  cases input with
  | cancel => exact h.setFlags _ _ _ _ _
  | pause =>
    simp only [Download.step]
    split
    · exact h
    · exact h.setFlags _ _ _ _ _
  | resume => exact h.setFlags _ _ _ _ _
  | expire => exact h.setFlags _ _ _ _ _
  | abort => exact inv_onAbort h
  | limited index abandoned => exact inv_onLimited h index abandoned
  | read index answer => exact inv_onRead h index answer hhonest
  | announced answer =>
    have hinv := h
    unfold Inv at h
    simp only [Download.step]
    -- only the phases that wait for the announcement take it
    split
    · rename_i hphase
      rw [hphase] at h
      have hrunning : Running remote expected s.downloadedBytes s := h
      exact inv_onAnnounced hrunning hinv (hrunning.setPhase .pausing)
    · rename_i hphase
      rw [hphase] at h
      have hrunning : Running remote expected s.downloadedBytes s := h
      exact inv_onAnnounced hrunning hinv (inv_fillWindow hrunning)
    · exact hinv
  | running =>
    have hinv := h
    unfold Inv at h
    simp only [Download.step]
    split
    · rename_i hphase
      rw [hphase] at h
      exact inv_onRunning h hphase
    · exact hinv
  | next =>
    have hinv := h
    unfold Inv at h
    simp only [Download.step]
    split
    · rename_i hphase
      rw [hphase] at h
      exact inv_onNext h hphase
    · exact hinv
  | accepted due closed =>
    have hinv := h
    unfold Inv at h
    simp only [Download.step]
    split
    · rename_i chunk hphase
      rw [hphase] at h
      exact inv_onAccepted h.1 h.2 hphase
    · exact hinv
  | answer answer => exact inv_onAnswer h answer
  | receive written => exact inv_onReceive h written
  | publish error => exact inv_onPublish h error
  | synced error => exact inv_onSynced h error
  | writerPanics => exact inv_onPanic h
  | joined => exact inv_onJoined h
  | removed success => exact inv_onRemoved h success

theorem inv_start (cancelled paused expired : Bool) :
    Inv remote expected (start expected cancelled paused expired) := by
  refine inv_loopHead ⟨⟨List.take_zero.symm, rfl, Nat.zero_le _, rfl, rfl⟩, rfl, rfl, rfl, ?_⟩
  exact ⟨rfl, Nat.zero_le _, Nat.zero_le _, nofun⟩

/-- A whole run of a download. -/
theorem inv_run {cancelled paused expired : Bool} {inputs : List Input}
    (hhonest : Transition.AllSafe (step expected) (start expected cancelled paused expired)
      (Honest remote) inputs) :
    Inv remote expected (inputs.foldl (step expected) (start expected cancelled paused expired)) :=
  hhonest.preserves (inv_start cancelled paused expired) fun _ input h hi => h.step input hi

/-- A published file was closed well. -/
theorem Inv.closed (h : Inv remote expected s) (hpublished : s.localFile = .published) :
    Closed expected s := by
  have hwriter := h.delivered.writer
  cases hstage : s.writer with
  | receiving =>
    rw [hstage] at hwriter
    simp [hwriter.2] at hpublished
  | finishing =>
    rw [hstage] at hwriter
    simp [hwriter.2] at hpublished
  | published =>
    rw [hstage] at hwriter
    exact hwriter.1
  | ended result =>
    rw [hstage] at hwriter
    cases result with
    | ok => exact hwriter
    | error error =>
      have hremoved : s.localFile = .removed := hwriter
      simp [hremoved] at hpublished

/-- While the stream runs, its channel is open; once it has returned, its result is known. -/
theorem Inv.stream_cases (h : Inv remote expected s) :
    (s.senderOpen = true ∧ s.streamResult = none) ∨ Finished remote expected s ∨
      s.phase = .aborted := by
  unfold Inv PhaseInv at h
  split at h
  all_goals first
    | exact .inl ⟨h.senderOpen, h.result⟩
    | exact .inl ⟨h.1.senderOpen, h.1.result⟩
    | exact .inr (.inl h)
    | exact .inr (.inl h.1)
    | exact .inr (.inr (by assumption))

end Download

end AxSsh
