import AxSsh.Spec.DownloadSteps

/-!
# What a download publishes

The writer has what the stream handed over, and it publishes only after the stream has succeeded.
A cancel ends the stream when its next wait starts, so one that comes before the last check of the
remote file is sent keeps the file from being published.  A later one does not reach the writer:
the file may be published, and is removed again.

## Key results
- `Refused.step`: after a cancel in time the stream does not succeed
- `download_integrity`: what is handed over, and when the file is published
- `cancelled_download_publishes`: a cancel that comes too late
-/

namespace AxSsh

namespace Download

variable {remote : List UInt8} {expected : RemoteFileMetadata} {s : Download}

/-! ## A cancel in time -/

/-- The last check of the remote file is not sent yet. -/
def BeforeRecheck : DownloadPhase → Prop
  | .announcingPause | .pausing | .announcingResume | .waiting | .handing _ | .confirming
  | .revalidating => True
  | _ => False

/-- The stream cannot succeed any more. -/
def Refused (s : Download) : Prop :=
  s.phase = .aborted ∨ (∃ error, s.streamResult = some (.error error)) ∨
    s.cancelled = true ∧ BeforeRecheck s.phase

theorem Refused.congr {s' : Download} (h : Refused s) (hphase : s'.phase = s.phase)
    (hcancelled : s'.cancelled = s.cancelled) (hresult : s'.streamResult = s.streamResult) :
    Refused s' := by
  unfold Refused
  rw [hphase, hcancelled, hresult]
  exact h

theorem refused_fail (s : Download) (error : DownloadError) : Refused (s.failStream error) :=
  .inr (.inl ⟨error, rfl⟩)

/-- Every new wait looks at the cancellation. -/
theorem refused_proceed (hcancelled : s.cancelled = true) (phase : DownloadPhase) :
    Refused (s.proceed phase) := by
  have hstart : s.awaitStepStart = .error .cancelled := by simp [awaitStepStart, hcancelled]
  simp only [proceed, hstart]
  exact refused_fail s _

theorem pushReads_cancelled (expected : RemoteFileMetadata) (s : Download) (n : Nat) :
    ((pushRead expected)^[n] s).cancelled = s.cancelled := by
  induction n generalizing s with
  | zero => rfl
  | succ n ih =>
    rw [Function.iterate_succ_apply, ih]
    unfold pushRead
    split <;> rfl

theorem refused_fillWindow (hcancelled : s.cancelled = true) :
    Refused (fillWindow expected s) := by
  have hkept := pushReads_cancelled expected s requestWindow
  unfold fillWindow
  generalize (pushRead expected)^[requestWindow] s = filled at hkept ⊢
  exact .inr (.inr ⟨hkept.trans hcancelled, trivial⟩)

theorem refused_loopHead (hcancelled : s.cancelled = true) : Refused (loopHead expected s) := by
  unfold loopHead
  split
  · split
    · exact .inr (.inr ⟨hcancelled, trivial⟩)
    · exact refused_fillWindow hcancelled
  · exact refused_proceed hcancelled _

theorem refused_onNext (h : Refused s) (hcancelled : s.cancelled = true) : Refused s.onNext := by
  unfold onNext
  split
  · exact refused_fail s _
  · split
    · exact refused_fail s _
    · rename_i window _ _ _ _
      have hrest : ({ s with window } : Download).cancelled = true := hcancelled
      exact refused_proceed hrest _
    · exact h

theorem refused_onAccepted (h : Refused s) (hcancelled : s.cancelled = true)
    (chunk : List UInt8) (due closed : Bool) :
    Refused (onAccepted expected s chunk due closed) := by
  unfold onAccepted
  split
  · split
    · dsimp only
      split
      · exact refused_fail _ _
      · exact refused_loopHead hcancelled
    · exact h
  · exact refused_fail s _

theorem refused_onConfirmed (hcancelled : s.cancelled = true)
    (result : Except DownloadError RemoteReply) : Refused (s.onConfirmed result) := by
  unfold onConfirmed
  split
  · exact refused_fail s _
  · exact refused_proceed hcancelled _
  · exact refused_proceed hcancelled _
  · exact refused_fail s _
  · exact refused_fail s _

theorem refused_onRevalidated (hcancelled : s.cancelled = true)
    (result : Except DownloadError RemoteReply) : Refused (onRevalidated expected s result) := by
  unfold onRevalidated
  split
  · exact refused_fail s _
  · split
    · exact refused_fail s _
    · exact refused_proceed hcancelled _

/-- In a running stream, a refusal is a cancel. -/
theorem Refused.cancelled {base : Nat} (h : Refused s) (hr : Running remote expected base s)
    (hphase : s.phase ≠ .aborted) : s.cancelled = true ∧ BeforeRecheck s.phase := by
  rcases h with h | ⟨error, herror⟩ | h
  · exact absurd h hphase
  · simp [hr.result] at herror
  · exact h

/-- The slots and the writer change nothing that a refusal is about. -/
theorem Refused.onLimited (h : Refused s) (index : Nat) (abandoned : Bool) :
    Refused (s.onLimited index abandoned) := by
  unfold Download.onLimited readMore
  repeat' split
  all_goals exact h.congr rfl rfl rfl

theorem Refused.onRead (h : Refused s) (index : Nat) (answer : WaitEnd RemoteReply) :
    Refused (Download.onRead expected s index answer) := by
  unfold Download.onRead Download.resume
  generalize "reading remote file" = operation
  split
  · split
    · exact h
    · unfold onData readMore
      repeat' split
      all_goals exact h.congr rfl rfl rfl
  · exact h

theorem Refused.onReceive (h : Refused s) (written : Bool) :
    Refused (Download.onReceive expected s written) := by
  unfold Download.onReceive endWriter
  dsimp only
  repeat' split
  all_goals exact h.congr rfl rfl rfl

theorem Refused.onPublish (h : Refused s) (error : Option String) :
    Refused (s.onPublish error) := by
  unfold Download.onPublish endWriter
  repeat' split
  all_goals exact h.congr rfl rfl rfl

theorem Refused.onSynced (h : Refused s) (error : Option String) : Refused (s.onSynced error) := by
  unfold Download.onSynced endWriter
  repeat' split
  all_goals exact h.congr rfl rfl rfl

theorem Refused.onPanic (h : Refused s) : Refused s.onPanic := by
  unfold Download.onPanic endWriter
  split
  all_goals exact h.congr rfl rfl rfl

/-- What follows the stream does not change its result. -/
theorem Refused.after (h : Refused s) (hover : ¬BeforeRecheck s.phase)
    (hphase : s.phase ≠ .aborted) (phase : DownloadPhase) (cancelled : Bool)
    (localFile : LocalDownload) :
    Refused { s with phase, cancelled, localFile } := by
  rcases h with h | herror | h
  · exact absurd h hphase
  · exact .inr (.inl herror)
  · exact absurd h.2 hover

theorem Refused.onAnswer (h : Refused s) (hi : Inv remote expected s)
    (answer : WaitEnd RemoteReply) : Refused (Download.onAnswer expected s answer) := by
  unfold Inv at hi
  unfold Download.onAnswer
  -- the texts of the errors do not matter here
  generalize "writing local download" = handing
  generalize "confirming remote end of file" = confirming
  generalize "revalidating downloaded remote file" = revalidating
  generalize "inspecting remote file" = rechecking
  cases hphase : s.phase with
  | handing chunk =>
    dsimp only [Download.resume]
    split
    · exact h
    · split
      · exact refused_fail s _
      · exact h
  | confirming =>
    rw [hphase] at hi
    have hcancelled := (h.cancelled hi.1 (by simp [hphase])).1
    dsimp only [Download.resume]
    split
    · exact h
    · exact refused_onConfirmed hcancelled _
  | revalidating =>
    rw [hphase] at hi
    have hcancelled := (h.cancelled hi.1 (by simp [hphase])).1
    dsimp only [Download.resume]
    split
    · exact h
    · exact refused_onRevalidated hcancelled _
  | rechecking =>
    rw [hphase] at hi
    -- a refused download does not come to the recheck
    have hbefore := (h.cancelled hi.1 (by simp [hphase])).2
    rw [hphase] at hbefore
    exact hbefore.elim
  | joining =>
    have hafter := h.after (by simp [hphase, BeforeRecheck]) (by simp [hphase])
    cases answer with
    | abandoned =>
      dsimp only
      split
      · exact hafter _ _ _
      · exact h
    | timedOut =>
      dsimp only
      split
      · exact hafter _ _ _
      · exact h
    | ready value => exact h
  | cleaning reason =>
    cases answer with
    | timedOut => exact h.after (by simp [hphase, BeforeRecheck]) (by simp [hphase]) _ _ _
    | abandoned => exact h
    | ready value => exact h
  | _ => exact h

theorem Refused.step (h : Refused s) (hi : Inv remote expected s) (input : Input) :
    Refused (step expected s input) := by
  have hinv := hi
  unfold Inv at hi
  -- in the phases before the recheck a refused download is a cancelled one
  cases input with
  | cancel =>
    exact h.imp_right (Or.imp_right fun hb => ⟨rfl, hb.2⟩)
  | pause =>
    simp only [Download.step]
    split
    · exact h
    · exact h.congr rfl rfl rfl
  | resume => exact h.congr rfl rfl rfl
  | expire => exact h.congr rfl rfl rfl
  | abort =>
    simp only [Download.step, Download.onAbort]
    split
    · exact h
    · exact .inl rfl
  | limited index abandoned => exact h.onLimited index abandoned
  | read index answer => exact h.onRead index answer
  | announced answer =>
    have hnext : ∀ {next}, Refused next → Refused (s.onAnnounced next answer) := fun hn => by
      unfold onAnnounced
      split
      · exact h
      · exact refused_fail s _
      · exact refused_fail s _
      · exact hn
    simp only [Download.step]
    split
    · rename_i hphase
      rw [hphase] at hi
      have hcancelled := (h.cancelled hi (by simp [hphase])).1
      exact hnext (.inr (.inr ⟨hcancelled, trivial⟩))
    · rename_i hphase
      rw [hphase] at hi
      have hcancelled := (h.cancelled hi (by simp [hphase])).1
      exact hnext (refused_fillWindow hcancelled)
    · exact h
  | running =>
    simp only [Download.step]
    split
    · rename_i hphase
      rw [hphase] at hi
      have hcancelled := (h.cancelled hi (by simp [hphase])).1
      simp only [onRunning, if_pos hcancelled]
      exact refused_fail s _
    · exact h
  | next =>
    simp only [Download.step]
    split
    · rename_i hphase
      rw [hphase] at hi
      exact refused_onNext h (h.cancelled hi (by simp [hphase])).1
    · exact h
  | accepted due closed =>
    simp only [Download.step]
    split
    · rename_i chunk hphase
      rw [hphase] at hi
      exact refused_onAccepted h (h.cancelled hi.1 (by simp [hphase])).1 chunk due closed
    · exact h
  | answer answer => exact h.onAnswer hinv answer
  | receive written => exact h.onReceive written
  | publish error => exact h.onPublish error
  | synced error => exact h.onSynced error
  | writerPanics => exact h.onPanic
  -- the stream is over: what follows does not change its result
  | joined =>
    simp only [Download.step, Download.onJoined]
    split
    · rename_i hphase _
      exact h.after (by simp [hphase, BeforeRecheck]) (by simp [hphase]) _ _ _
    · rename_i hphase _
      have hafter := h.after (by simp [hphase, BeforeRecheck]) (by simp [hphase])
      split
      · exact hafter _ _ _
      · exact hafter _ _ _
    · rename_i hphase _
      exact h.after (by simp [hphase, BeforeRecheck]) (by simp [hphase]) _ _ _
    · rename_i hphase _
      exact h.after (by simp [hphase, BeforeRecheck]) (by simp [hphase]) _ _ _
    · exact h
  | removed success =>
    simp only [Download.step, Download.onRemoved]
    split
    · rename_i hphase
      exact h.after (by simp [hphase, BeforeRecheck]) (by simp [hphase]) _ _ _
    · exact h

theorem Inv.result_of_before (h : Inv remote expected s) (hbefore : BeforeRecheck s.phase) :
    s.streamResult = none := by
  unfold Inv at h
  cases hphase : s.phase with
  | announcingPause | pausing | announcingResume | waiting =>
    rw [hphase] at h
    exact h.result
  | handing chunk | confirming | revalidating =>
    rw [hphase] at h
    exact h.1.result
  | _ =>
    rw [hphase] at hbefore
    exact hbefore.elim

/-! ## The download as a whole -/

/-- What every state of a download keeps. -/
structure Integrity (remote : List UInt8) (expected : RemoteFileMetadata) (s : Download) :
    Prop where
  /-- What the writer was given is the start of the file, without gap or repetition. -/
  handed : s.handed = remote.take s.downloadedBytes ∧ s.handed.length = s.downloadedBytes ∧
    s.downloadedBytes ≤ expected.size
  bounded : s.window.length ≤ requestWindow
  /-- A stream that succeeded gave it everything. -/
  complete : s.streamResult = some (.ok ()) →
    s.handed = remote.take expected.size ∧ s.handed.length = expected.size
  /-- A published file has every byte, and the stream had succeeded before, with its checks; only
  when the task was aborted is that not known. -/
  published : s.localFile = .published →
    s.file = remote.take expected.size ∧ s.file.length = expected.size ∧
      (s.phase ≠ .aborted → s.streamResult = some (.ok ()))
  /-- A download that is reported as completed has its file. -/
  reported : s.phase = .done (.ok ()) → s.localFile = .published

theorem Inv.integrity (h : Inv remote expected s) : Integrity remote expected s := by
  have hd := h.delivered
  refine ⟨⟨hd.handed_eq, hd.handed_length, hd.le⟩, h.bounded, ?_, ?_, ?_⟩
  · intro hresult
    rw [← h.full hresult]
    exact ⟨hd.handed_eq, hd.handed_length⟩
  · intro hpublished
    have hclosed := h.closed hpublished
    have hfull : s.downloadedBytes = expected.size := by
      rw [← hd.handed_length, ← hclosed.file_eq, hclosed.length_eq]
    refine ⟨?_, hclosed.length_eq, fun hphase => ?_⟩
    · rw [hclosed.file_eq, hd.handed_eq, hfull]
    · rcases h.stream_cases with ⟨hopen, _⟩ | hfinished | haborted
      · simp [hclosed.closed] at hopen
      · rcases hfinished.result with ⟨hok, _⟩ | ⟨error, _, habort⟩
        · exact hok
        · simp [hclosed.unaborted] at habort
      · exact absurd haborted hphase
  · intro hphase
    unfold Inv at h
    rw [hphase] at h
    exact h.2.2

/-! ## One small download -/

/-- A file of three bytes. -/
def threeBytes : RemoteFileMetadata := ⟨3, some 7⟩

/-- It arrives in two pieces, and its checks find it unchanged. -/
def threeByteReplies : List Input :=
  let unchanged := WaitEnd.ready (.attrs ⟨.regular, some 3, some 7⟩)
  [.limited 0 false, .read 0 (.ready (.data [1, 2])), .read 0 (.ready (.data [3])), .next,
    .accepted true false, .receive true, .answer (.ready .eof), .answer unchanged,
    .answer unchanged]

theorem honest_threeByteReplies (rest : List Input)
    (hrest : ∀ input ∈ rest, ∀ s, Honest [1, 2, 3] s input) :
    Transition.AllSafe (step threeBytes) (start threeBytes false false false) (Honest [1, 2, 3])
      (threeByteReplies ++ rest) := by
  simp only [threeByteReplies, List.cons_append, List.nil_append, Transition.allSafe_cons_iff]
  refine ⟨trivial, ?_, ?_, trivial, trivial, trivial, trivial, trivial, trivial, ?_⟩
  · intro read hread
    obtain rfl := Option.some.inj hread
    exact ⟨[3], rfl⟩
  · intro read hread
    obtain rfl := Option.some.inj hread
    exact ⟨[], rfl⟩
  · intro past input hpast
    exact hrest input (hpast.mem (List.mem_append_right _ List.mem_cons_self)) _

/-! ## Runs -/

/-- In every run in which the server answers reads from the remote file, the writer is given the
    remote bytes in order, and the file is published only with all of them and after the stream
    succeeded; a cancel before the last check is sent prevents it. -/
theorem download_integrity (remote : List UInt8) (expected : RemoteFileMetadata)
    (cancelled paused expired : Bool) (inputs : List Input)
    (hhonest : Transition.AllSafe (step expected) (start expected cancelled paused expired)
      (Honest remote) inputs) :
    let run (inputs : List Input) :=
      inputs.foldl (step expected) (start expected cancelled paused expired)
    Integrity remote expected (run inputs) ∧
      ∀ past, past <+: inputs → (run past).cancelled = true → BeforeRecheck (run past).phase →
        (run inputs).localFile = .published → (run inputs).phase = .aborted := by
  intro run
  have hinv : Inv remote expected (run inputs) := inv_run hhonest
  refine ⟨hinv.integrity, ?_⟩
  rintro past ⟨rest, rfl⟩ hcancelled hbefore hpublished
  obtain ⟨hpast, hrest⟩ := Transition.allSafe_append_iff.mp hhonest
  have hrun : run (past ++ rest) = rest.foldl (step expected) (run past) := List.foldl_append
  -- The refusal is kept by the steps that follow the cancel.
  have hkept : Inv remote expected (run (past ++ rest)) ∧ Refused (run (past ++ rest)) := by
    rw [hrun]
    have hstart : Inv remote expected (run past) ∧ Refused (run past) :=
      ⟨inv_run hpast, .inr (.inr ⟨hcancelled, hbefore⟩)⟩
    exact hrest.preserves (P := fun s => Inv remote expected s ∧ Refused s) hstart
      fun s input h hhonest => ⟨h.1.step input hhonest, h.2.step h.1 input⟩
  by_contra hphase
  have hresult := (hinv.integrity.published hpublished).2.2 hphase
  rcases hkept.2 with haborted | ⟨error, herror⟩ | ⟨_, hbefore⟩
  · exact hphase haborted
  · simp [herror] at hresult
  · simp [hinv.result_of_before hbefore] at hresult

theorem download_integrity_threeBytes :
    let inputs : List Input := threeByteReplies ++ [.receive true, .publish none]
    let s := inputs.foldl (step threeBytes) (start threeBytes false false false)
    s.localFile = .published ∧ s.file = ([1, 2, 3] : List UInt8) := by
  have hhonest := honest_threeByteReplies [.receive true, .publish none] (by simp [Honest])
  have hintegrity := (download_integrity [1, 2, 3] threeBytes false false false _ hhonest).1
  exact ⟨rfl, (hintegrity.published rfl).1⟩

/-- A cancel that comes after the last check does not reach the writer. -/
theorem cancelled_download_publishes :
    ¬∀ (remote : List UInt8) (expected : RemoteFileMetadata) (inputs : List Input) (input : Input),
      Transition.AllSafe (step expected) (start expected false false false) (Honest remote)
        (inputs ++ [input]) →
      let s := inputs.foldl (step expected) (start expected false false false)
      s.cancelled = true → s.localFile = .part → (step expected s input).localFile ≠ .published := by
  intro h
  let inputs := threeByteReplies ++ [.cancel, .receive true]
  have hhonest := honest_threeByteReplies [.cancel, .receive true, .publish none] (by simp [Honest])
  exact h [1, 2, 3] threeBytes inputs (.publish none) hhonest rfl rfl rfl

end Download

end AxSsh
