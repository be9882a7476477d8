import AxSsh.Spec.UploadPhases

/-!
# The steps of an upload

Most inputs leave the phase: the requests in the window go on, and so does the reader.  What is
known in a phase is kept by them for one and the same reason, which is `PhaseInv.keep`.  The
others end a wait, and the last wait that matters is the second inspection.

## Key results
- `Upload.PhaseInv.keep`: steps that leave the phase
- `Upload.inv_onRecheck`: a rename has everything it needs
- `Upload.inv_step`: every step keeps the invariant
-/

namespace AxSsh

namespace Upload

variable {leak : Prop} {request : UploadRequest} {s : Upload}

/-! ## Steps that leave the phase -/

theorem Planned.keep {s' : Upload} (h : Planned request s)
    (hi : inspections s'.trace = inspections s.trace) (he : s'.existing = s.existing)
    (ht : s'.targetPath = s.targetPath) (ho : s'.overwrite = s.overwrite) : Planned request s' :=
  ⟨by rw [hi, he]; exact h.first, by rw [ho]; exact h.overwrite, by rw [ht, ho, he]; exact h.chosen⟩

/-- Once the reader is started, a step that leaves the phase keeps what is known in it: the trace
grows, the plan stays, the loop goes on, and after the loop nothing is written or read. -/
theorem PhaseInv.keep {phase : UploadPhase} {s' : Upload} (h : PhaseInv leak request s phase)
    (hstarted : ¬Unstarted s) (hgrows : ∀ e ∈ s.trace, e ∈ s'.trace)
    (hplanned : Planned request s → Planned request s')
    (hpump : ∀ finished, Pumping s finished → Pumping s' finished)
    (hended : s.window = [] → s'.window = [] ∧ (Complete request s → Complete request s' ∧
      (.cancelObserved ∉ s.trace → .cancelObserved ∉ s'.trace)))
    (hcreated : .created ∉ s.trace → .created ∉ s'.trace) : PhaseInv leak request s' phase := by
  cases phase with
  -- these phases come before the upload has started
  | handshake | inspecting | directories | keepBoth => exact absurd h.1.1 hstarted
  | opening => exact absurd h.1 hstarted
  | pausing | receiving | waiting =>
    obtain ⟨hc, hplan, finished, hp⟩ := h
    exact ⟨hgrows _ hc, hplanned hplan, finished, hpump finished hp⟩
  | joining | closing =>
    obtain ⟨hc, hplan, hw, hcomplete⟩ := h
    exact ⟨hgrows _ hc, hplanned hplan, (hended hw).1,
      fun hok => ((hended hw).2 (hcomplete hok)).1⟩
  | rechecking =>
    obtain ⟨hc, hplan, hw, hcomplete, hquiet⟩ := h
    obtain ⟨hw', hended'⟩ := hended hw
    exact ⟨hgrows _ hc, hplanned hplan, hw', (hended' hcomplete).1, (hended' hcomplete).2 hquiet⟩
  | publishing =>
    obtain ⟨hc, sent, target, hmem, htarget⟩ := h
    exact ⟨hgrows _ hc, sent, target, hgrows _ hmem, htarget⟩
  | removing => exact hgrows _ h
  | done =>
    rcases h with h | ⟨sent, target, hmem, htarget⟩ | h | h
    · exact .inl h
    · exact .inr (.inl ⟨sent, target, hgrows _ hmem, htarget⟩)
    · exact .inr (.inr (.inl (hgrows _ h)))
    · exact .inr (.inr (.inr (hcreated h)))

/-! ### The window -/

/-- An event that the invariant of no phase is about. -/
def Neutral (s : Upload) : UploadEvent → Prop
  | .sent (.write ..) | .acknowledged .. => True
  | .cancelObserved => s.cancelled = true
  | _ => False

theorem Neutral.allowed {e : UploadEvent} (h : Neutral s e) : Allowed request e s.trace := by
  unfold Neutral at h
  split at h <;> trivial

theorem Neutral.quiet {e : UploadEvent} (h : Neutral s e) :
    (e = .cancelObserved → s.cancelled = true) ∧ (∀ chunk, e ≠ .read chunk) ∧
      (∀ path found, e ≠ .inspected path found) ∧ e ≠ .created := by
  refine ⟨?_, ?_, ?_, ?_⟩
  · rintro rfl
    exact h
  · rintro chunk rfl
    exact h
  · rintro path found rfl
    exact h
  · rintro rfl
    exact h

/-- While requests are in the window, what happens to them is added to the trace. -/
theorem inv_note {e : UploadEvent} (h : Inv leak request s) (hw : s.window ≠ []) (he : Neutral s e) :
    Inv leak request (s.note e) := by
  obtain ⟨hcancel, hread, hinspect, hcreated⟩ := he.quiet
  exact ⟨h.traceInv.cons he.allowed hcancel hread, h.phaseInv.keep (fun hu => hw hu.window_eq)
    (fun _ => List.mem_cons_of_mem _) (fun hplan => hplan.note hinspect)
    (fun _ hpump => hpump.note hread) (fun hnil => absurd hnil hw)
    (fun hc hmem => (List.mem_cons.mp hmem).elim (fun heq => hcreated heq.symm) hc)⟩

theorem window_ne_nil {index : Nat} {write : PendingWrite} (hw : s.window[index]? = some write) :
    s.window ≠ [] := by
  intro hnil
  rw [hnil] at hw
  cases hw

/-- The stage of a request in the window changes. -/
theorem inv_setStage {index : Nat} {write : PendingWrite} {stage : WriteStage}
    (h : Inv leak request s) (hw : s.window[index]? = some write)
    (hstage : stage = .settled (.ok ()) → .acknowledged write.offset write.chunk ∈ s.trace) :
    Inv leak request (s.setStage index write stage) :=
  ⟨h.traceInv, h.phaseInv.keep (fun hu => window_ne_nil hw hu.window_eq) (fun _ => id)
    (fun hplan => hplan.keep rfl rfl rfl rfl) (fun _ hpump => hpump.setStage hw hstage)
    (fun hnil => absurd hnil (window_ne_nil hw)) id⟩

/-- An error that was seen settles a request in the window. -/
theorem inv_settle_error {index : Nat} {write : PendingWrite} {error : UploadError} {α : Type}
    (h : Inv leak request s) (hw : s.window[index]? = some write)
    (he : Honest s (.error error : Except UploadError α)) :
    Inv leak request ((s.raise error).setStage index write (.settled (.error error))) := by
  rcases raise_cases s error with heq | ⟨rfl, heq⟩
  · rw [heq]
    exact inv_setStage h hw nofun
  · rw [heq]
    exact inv_setStage (inv_note h (window_ne_nil hw) (he rfl)) hw nofun

theorem inv_onLimited {index : Nat} {abandoned : Bool} (h : Inv leak request s) :
    Inv leak request (s.onLimited index abandoned) := by
  unfold onLimited
  split
  · next offset chunk hw =>
    split
    · split
      · next hcancelled => exact inv_settle_error h hw (α := Unit) fun _ => hcancelled
      · exact h
    · split
      · next error heq =>
        have hhonest : Honest s (.error error : Except UploadError Unit) :=
          heq ▸ honest_awaitStepStart
        exact inv_settle_error h hw hhonest
      · exact inv_setStage (s := s.send _) (inv_note h (window_ne_nil hw) trivial) hw nofun
  · exact h

theorem inv_onWritten {index : Nat} {answer : StepAnswer} (h : Inv leak request s) :
    Inv leak request (s.onWritten index answer) := by
  unfold onWritten
  split
  · next offset chunk hw =>
    refine inv_resume h fun result hresult => ?_
    have hhonest := honest_awaitStep hresult
    split
    · exact inv_settle_error h hw hhonest
    · exact inv_setStage (s := s.note _) (inv_note h (window_ne_nil hw) trivial) hw
        fun _ => List.mem_cons_self
    · exact inv_setStage h hw nofun
  · exact h

/-! ### The reader -/

/-- The reader does something that is not seen in the trace. -/
theorem inv_setReader {reader : ReaderStage} (h : Inv leak request s) (hr : s.reader ≠ .idle)
    (hpending : reader.pending = s.reader.pending) : Inv leak request { s with reader } :=
  ⟨h.traceInv, h.phaseInv.keep (fun hu => hr hu.reader_eq) (fun _ => id)
    (fun hplan => hplan.keep rfl rfl rfl rfl) (fun _ hpump => hpump.setReader hpending)
    (fun hw => ⟨hw, fun hcomplete => ⟨hcomplete, id⟩⟩) id⟩

/-- The reader sees the cancellation before it has read everything. -/
theorem inv_note_reading (h : Inv leak request s) (hr : s.reader ≠ .idle)
    (hlt : s.readerOffset < request.totalBytes) (hcancelled : s.cancelled = true) :
    Inv leak request (s.note .cancelObserved) := by
  refine ⟨h.traceInv.cons trivial (fun _ => hcancelled) (fun _ => nofun),
    h.phaseInv.keep (fun hu => hr hu.reader_eq) (fun _ => List.mem_cons_of_mem _)
      (fun hplan => hplan.note (fun _ _ => nofun)) (fun _ hpump => hpump.note (fun _ => nofun)) ?_
      (fun hc hmem => (List.mem_cons.mp hmem).elim nofun hc)⟩
  intro hw
  refine ⟨hw, fun hcomplete => ?_⟩
  have hend := hcomplete.2
  omega

/-- The reader reads a chunk. -/
theorem inv_read {chunk : List UInt8} (h : Inv leak request s) (hr : s.reader = .reading)
    (hlt : s.readerOffset < request.totalBytes)
    (hlen : chunk.length = min (request.totalBytes - s.readerOffset) downloadChunkBytes) :
    Inv leak request { s.note (.read chunk) with
      reader := .sending (.ok chunk), readerOffset := s.readerOffset + chunk.length } := by
  have hpos : 0 < downloadChunkBytes := by decide
  have hreader := h.traceInv.reader
  constructor
  · refine ⟨⟨trivial, h.traceInv.allowed⟩, ?_, ?_, ?_, ?_⟩
    · intro hmem
      exact h.traceInv.observed ((List.mem_cons.mp hmem).resolve_left (by simp))
    · simp [Upload.note, reads, hreader.offset_eq]
    · show s.readerOffset + chunk.length ≤ _
      omega
    · intro c hc
      rcases List.mem_append.mp hc with hold | hnew
      · exact hreader.ne_nil c hold
      · obtain rfl := List.mem_singleton.mp hnew
        intro hnil
        rw [hnil, List.length_nil] at hlen
        omega
  · refine h.phaseInv.keep (fun hu => by cases hr.symm.trans hu.reader_eq)
      (fun _ => List.mem_cons_of_mem _) (fun hplan => hplan.keep rfl rfl rfl rfl)
      (fun _ hpump => hpump.read hr _) ?_
      (fun hc hmem => hc ((List.mem_cons.mp hmem).resolve_left (by simp)))
    intro hw
    refine ⟨hw, fun hcomplete => ?_⟩
    have hend := hcomplete.2
    omega

theorem inv_readChunk {data : Except String (List UInt8)} (h : Inv leak request s) :
    Inv leak request (readChunk request s data) := by
  unfold readChunk
  split
  · next hr => exact inv_setReader h (hr ▸ nofun) (hr ▸ rfl)
  · next chunk hr =>
    split
    · next hlt =>
      split
      · next hcancelled =>
        exact inv_setReader (inv_note_reading h (hr ▸ nofun) hlt hcancelled) (hr ▸ nofun)
          (show _ = s.reader.pending from hr ▸ rfl)
      · split
        · next hlen => exact inv_read h hr hlt hlen
        · exact h
    · exact inv_setReader h (hr ▸ nofun) (hr ▸ rfl)
  · exact h

theorem inv_sendChunk (h : Inv leak request s) : Inv leak request s.sendChunk := by
  by_cases hidle : s.reader = .idle
  · have hself : s.sendChunk = s := by
      unfold sendChunk
      rw [hidle]
    rw [hself]
    exact h
  · have hsame : s.sendChunk.trace = s.trace ∧ s.sendChunk.cancelled = s.cancelled ∧
        s.sendChunk.readerOffset = s.readerOffset ∧ s.sendChunk.phase = s.phase ∧
        s.sendChunk.existing = s.existing ∧ s.sendChunk.targetPath = s.targetPath ∧
        s.sendChunk.overwrite = s.overwrite ∧ s.sendChunk.window = s.window := by
      unfold sendChunk
      split
      · split
        · split
          · split <;> simp
          · simp
        · simp
      · simp
    obtain ⟨ht, hc, hn, hp, he, hg, ho, hw⟩ := hsame
    refine ⟨by rw [ht, hc, hn]; exact h.traceInv, ?_⟩
    rw [hp]
    refine h.phaseInv.keep (fun hu => hidle hu.reader_eq) (fun _ => ht.symm ▸ id)
      (fun hplan => hplan.keep (by rw [ht]) he hg ho) (fun _ hpump => hpump.sendChunk) ?_
      (ht.symm ▸ id)
    unfold Complete
    rw [hw, ht, hn]
    exact fun hnil => ⟨hnil, fun hcomplete => ⟨hcomplete, id⟩⟩

theorem inv_readerPanics (h : Inv leak request s) : Inv leak request s.readerPanics := by
  unfold readerPanics
  split
  · next hr => exact inv_setReader h (hr ▸ nofun) (hr ▸ rfl)
  · exact h

/-! ## Publication -/

/-- The temporary file was created, so it is removed. -/
theorem inv_cleanUp {error : UploadError} {α : Type}
    (hT : TraceInv request s.trace s.cancelled s.readerOffset) (hc : .created ∈ s.trace)
    (he : Honest s (.error error : Except UploadError α)) : Inv leak request (cleanUp request s error) := by
  have hc' : .created ∈ (s.raise error).trace := by
    rcases raise_cases s error with heq | ⟨-, heq⟩
    · rw [heq]
      exact hc
    · rw [heq]
      exact List.mem_cons_of_mem _ hc
  exact inv_setPhase (s := (s.raise error).send _)
    ((hT.raise he).cons ⟨rfl, hc'⟩ nofun (fun _ => nofun)) List.mem_cons_self

theorem inv_onJoin {result joined : Except UploadError Unit} (h : Inv leak request s)
    (hphase : s.phase = .joining result) : Inv leak request (s.onJoin result joined) := by
  have hp := h.phaseInv
  rw [hphase] at hp
  obtain ⟨hc, hplan, hw, hcomplete⟩ := hp
  refine inv_setPhase (s := s.send _) (h.traceInv.cons trivial nofun (fun _ => nofun))
    ⟨List.mem_cons_of_mem _ hc, hplan.note (fun _ _ => nofun), hw, fun hok => ?_⟩
  cases result with
  | error error => cases hok
  | ok u => exact (hcomplete rfl).note (fun _ => nofun)

theorem inv_onClosed {result : Except UploadError Unit} {closed : Except UploadError SftpReply}
    (hr : Honest s closed) (hT : TraceInv request s.trace s.cancelled s.readerOffset)
    (h : PhaseInv leak request s (.closing result)) : Inv leak request (onClosed request s result closed) := by
  obtain ⟨hc, hplan, hw, hcomplete⟩ := h
  unfold onClosed
  split
  · exact inv_setPhase (s := s.send _) (hT.cons ⟨rfl, hc⟩ nofun (fun _ => nofun))
      List.mem_cons_self
  · exact inv_cleanUp hT hc hr
  · split
    · next hcancelled => exact inv_cleanUp hT hc (α := Unit) fun _ => hcancelled
    · next hcancelled =>
      refine inv_setPhase (s := s.send _) (hT.cons trivial nofun (fun _ => nofun))
        ⟨List.mem_cons_of_mem _ hc, hplan.note (fun _ _ => nofun), hw,
          (hcomplete rfl).note (fun _ => nofun), fun hmem => ?_⟩
      -- What was seen of a cancellation before would still be set.
      exact (List.mem_cons.mp hmem).elim nofun fun hold => hcancelled (hT.observed hold)
  · exact inv_cleanUp hT hc (α := Unit) honest_failed

/-- The second inspection is followed by a rename only when it found what it has to. -/
theorem inv_onRecheck {result : Except UploadError SftpReply} (hr : Honest s result)
    (hT : TraceInv request s.trace s.cancelled s.readerOffset)
    (h : PhaseInv leak request s .rechecking) : Inv leak request (onRecheck request s result) := by
  obtain ⟨hc, hplan, -, hcomplete, hquiet⟩ := h
  unfold onRecheck
  split
  · next error heq =>
    exact inv_cleanUp hT hc (α := Option RemoteUploadFingerprint) (heq ▸ honest_inspect hr)
  · next current _ =>
    have hT' := hT.cons (e := .inspected s.targetPath current) trivial nofun (fun _ => nofun)
    have hc' : .created ∈ (s.note (.inspected s.targetPath current)).trace :=
      List.mem_cons_of_mem _ hc
    have hguard : (if request.conflictChoice = some .overwrite then
        (inspections s.trace).getLast? = some (s.targetPath, current) ∧
          ∀ confirmed, request.expectedRemote = some confirmed → current = some confirmed
        else current = none) →
        PublicationGuard request s.targetPath (.inspected s.targetPath current :: s.trace) :=
      fun hfound => ⟨hcomplete.1.cons (fun _ => nofun),
        fun hmem => (List.mem_cons.mp hmem).elim nofun hquiet,
        current, inspections s.trace, rfl, hfound⟩
    have hrenamed : ∀ sent target, sent.renamesOnto = some target →
        Renamed (.sent sent :: (s.note (.inspected s.targetPath current)).trace) :=
      fun sent target htarget => ⟨sent, target, List.mem_cons_self, htarget⟩
    simp only
    split
    · next hcancelled => exact inv_cleanUp hT' hc' (α := Unit) fun _ => hcancelled
    · split
      · next hoverwrite =>
        have hchoice := hplan.overwrite hoverwrite
        obtain ⟨htarget, -, hconfirmed⟩ := hplan.chosen hchoice
        split
        · exact inv_cleanUp hT' hc' (α := Unit) honest_failed
        · next hsame =>
          have hcurrent : current = s.existing := not_not.mp hsame
          refine inv_setPhase (s := Upload.send _ _) (hT'.cons ⟨hguard ?_, hc'⟩ nofun
            (fun _ => nofun)) ⟨List.mem_cons_of_mem _ hc', hrenamed _ _ rfl⟩
          rw [if_pos hchoice, htarget, hcurrent]
          exact ⟨hplan.first, hconfirmed⟩
      · next hoverwrite =>
        split
        · exact inv_cleanUp hT' hc' (α := Unit) honest_failed
        · next habsent =>
          have hcurrent : current = none := Option.not_isSome_iff_eq_none.mp habsent
          refine inv_setPhase (s := Upload.send _ _) (hT'.cons ⟨hguard ?_, hc'⟩ nofun
            (fun _ => nofun)) ⟨List.mem_cons_of_mem _ hc', hrenamed _ _ rfl⟩
          split
          · next hchoice =>
            -- The file was absent before the upload too.
            obtain ⟨htarget, hexisting, hconfirmed⟩ := hplan.chosen hchoice
            have hnone := hexisting (Bool.not_eq_true _ ▸ hoverwrite)
            rw [htarget, hcurrent, ← hnone]
            exact ⟨hplan.first, hconfirmed⟩
          · exact hcurrent

theorem inv_onRename {result : Except UploadError SftpReply}
    (hT : TraceInv request s.trace s.cancelled s.readerOffset)
    (h : PhaseInv leak request s .publishing) : Inv leak request (onRename request s result) := by
  unfold onRename
  split
  · exact ⟨hT, .inr (.inl h.2)⟩
  · exact inv_cleanUp hT h.1 (α := Unit) fun hcancelled => (by cases hcancelled)
  · exact inv_cleanUp hT h.1 (α := Unit) fun hcancelled => (by cases hcancelled)

/-! ## Every step -/

theorem inv_onAnswer {answer : StepAnswer} (h : Inv leak request s)
    (hkept : leak ∨ OpenKept request s (.answer answer)) :
    Inv leak request (onAnswer request s answer) := by
  have hT := h.traceInv
  have hp := h.phaseInv
  unfold onAnswer
  split
  · next hphase =>
    rw [hphase] at hp
    exact inv_resume h fun _ hr => inv_onHandshake hT (honest_awaitStep hr) hp.1 hp.2
  · next hphase =>
    rw [hphase] at hp
    exact inv_resume h fun _ hr => inv_onDirectory hT (honest_timeout hr) hp.1 hp.2.1 hp.2.2
  · next hphase =>
    rw [hphase] at hp
    exact inv_resume h fun _ hr => inv_onInspect hT (honest_timeout hr) hp.1 hp.2
  · next hphase =>
    rw [hphase] at hp
    exact inv_resume h fun _ hr => inv_onCandidate hT (honest_timeout hr) hp hphase
  · next hphase =>
    rw [hphase] at hp
    -- given up while the file is being opened, the handle may be left behind
    refine inv_resume h fun result hr => inv_onOpen (honest_awaitStep hr) hT hp fun hno => ?_
    exact hkept.imp_right fun hkept => hkept hphase (givesUp_of_awaitStep hr hno)
  · next hphase =>
    rw [hphase] at hp
    refine inv_resume h fun result hr => ?_
    split
    · exact inv_failLoop ⟨hT, hp.1, hp.2.1, hp.2.2⟩ (honest_awaitStep hr)
    · exact h
  · next result hphase =>
    refine inv_resume h fun reply _ => ?_
    split
    · exact inv_onJoin h hphase
    · exact h
  · next hphase =>
    rw [hphase] at hp
    exact inv_resume h fun _ hr => inv_onClosed (honest_timeout hr) hT hp
  · next hphase =>
    rw [hphase] at hp
    exact inv_resume h fun _ hr => inv_onRecheck (honest_timeout hr) hT hp
  · next hphase =>
    rw [hphase] at hp
    exact inv_resume h fun _ _ => inv_onRename hT hp
  · next hphase =>
    rw [hphase] at hp
    exact inv_resume h fun _ _ => ⟨hT, .inr (.inr (.inl hp))⟩
  · exact h
  · exact h
  · exact h

theorem inv_onRunning (h : Inv leak request s) : Inv leak request (onRunning request s) := by
  have hp := h.phaseInv
  unfold onRunning
  split
  · next hphase =>
    rw [hphase] at hp
    have hlooping : Looping request s := ⟨h.traceInv, hp.1, hp.2.1, hp.2.2⟩
    split
    · next hcancelled => exact inv_failLoop hlooping (α := Unit) fun _ => hcancelled
    · exact inv_fillWindow hlooping
  · exact h

theorem inv_onJoined (h : Inv leak request s) : Inv leak request s.onJoined := by
  unfold onJoined
  split
  · next hphase _ => exact inv_onJoin h hphase
  · exact h

/-- The server carries out the open request, which it does once. -/
theorem inv_create (h : Inv leak request s) (hopen : .sent (.open request.temporary) ∈ s.trace)
    (hnew : .created ∉ s.trace) (hkept : leak ∨ OpenKept request s .create) : Inv leak request (s.note .created) := by
  have hT := h.traceInv
  refine ⟨hT.cons hopen nofun (fun _ => nofun), ?_⟩
  show PhaseInv leak request (s.note .created) s.phase
  have hp := h.phaseInv
  generalize hphase : s.phase = phase at hp ⊢
  revert hp
  cases phase with
  | handshake | inspecting | directories | keepBoth => exact fun hp => absurd hopen hp.1.2
  | opening =>
    intro ⟨hu, hplan, _, hrenamed, hremoved⟩
    refine ⟨hu.note (fun _ => nofun), hplan.note (fun _ _ => nofun), List.mem_cons_of_mem _ hopen,
      ?_, ?_⟩
    · rintro ⟨sent, target, hmem, htarget⟩
      exact (List.mem_cons.mp hmem).elim nofun fun hold => hrenamed ⟨sent, target, hold, htarget⟩
    · exact fun hmem => (List.mem_cons.mp hmem).elim nofun hremoved
  | pausing | receiving | waiting | joining | closing | rechecking | publishing =>
    exact fun hp => absurd hp.1 hnew
  | removing => exact fun hp => absurd (hT.created_of_removed hp) hnew
  | done result =>
    intro _
    rcases hkept with hleak | hkept
    · exact .inl hleak
    · exact absurd (hkept ⟨result, hphase⟩ hopen) hnew

/-- Every step keeps the invariant. -/
theorem inv_step (h : Inv leak request s) (input : Input)
    (hkept : leak ∨ OpenKept request s input) : Inv leak request (step request s input) := by
  have hp := h.phaseInv
  cases input with
  | cancel =>
    exact ⟨⟨h.traceInv.allowed, fun _ => rfl, h.traceInv.reader⟩, hp.setFlags true s.expired⟩
  | expire => exact ⟨h.traceInv, hp.setFlags s.cancelled true⟩
  | create =>
    -- the server may create the file whatever the upload does meanwhile
    show Inv leak request (if _ then _ else _)
    split
    · next heffective => exact inv_create h heffective.1 heffective.2 hkept
    · exact h
  | answer answer => exact inv_onAnswer h hkept
  | running => exact inv_onRunning h
  | receive =>
    dsimp only [step]
    split
    · next hphase =>
      rw [hphase] at hp
      exact inv_receive ⟨h.traceInv, hp.1, hp.2.1, hp.2.2⟩ hphase
    · exact h
  | next due closed =>
    dsimp only [step]
    split
    · next hphase =>
      rw [hphase] at hp
      exact inv_onNext ⟨h.traceInv, hp.1, hp.2.1, hp.2.2⟩ hphase
    · exact h
  | limited index abandoned => exact inv_onLimited h
  | written index answer => exact inv_onWritten h
  | readChunk data => exact inv_readChunk h
  | sendChunk => exact inv_sendChunk h
  | readerPanics => exact inv_readerPanics h
  | joined => exact inv_onJoined h

end Upload

end AxSsh
