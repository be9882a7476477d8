import AxSsh.Spec.WorkerBooks

/-!
# Queue slots and containers

What sound books say about the containers of the loop themselves: the queue slots are the
uploads that are queued, wait for a decision or are active, a transfer is in one container at
most, and the tab has no more active transfers than it may have.  The map of discoveries is
apart: a root that turns out to be a file is a download while its discovery ends.

## Key results
- `reachable_inOrder`: the books are in order in every orderly run
- `slots_and_limit`: slots, containers and limit of the loop
-/

namespace AxSsh

namespace SftpWorker

/-- An input of an orderly run: it brings only transfers that are new to the loop, the
    application listens, and no last event of a task is lost. -/
def Orderly (s : SftpWorker) (input : WorkerInput) : Prop :=
  s.BringsNew input ∧ input ≠ .receiverClosed ∧ ∀ id, input ≠ .taskStage id .lost

/-- How often the containers of the loop hold a transfer, the map of discoveries apart. -/
def occurrences (s : SftpWorker) (t : Uuid) : Nat :=
  s.queuedDiscoveryRoots.countP (·.transferId == t) +
  s.queuedRequests.countP (·.transferId == t) + tally (t ∈ s.pendingByTransfer) +
  s.transfers.countP (·.transferId == t) +
  s.queuedUploads.countP (·.transferId == t) + tally (t ∈ s.pendingUploadConflicts)

/-- What holds in every state of an orderly run. -/
structure InOrder (s : SftpWorker) : Prop where
  booked : s.Booked
  kept : s.UploadsKept
  tight : ∀ t, (s.census t).Tight

/-! ## Orderly runs -/

theorem WorkSteps.uploadsKept {s s' : SftpWorker} (h : WorkSteps s s') (hb : s.Booked)
    (hs : s.UploadsKept) : s'.UploadsKept := by
  have hinv : s'.Booked ∧ s'.UploadsKept := by
    refine h.preserves (I := fun s => s.Booked ∧ s.UploadsKept) ?_ ⟨hb, hs⟩
    rintro label s s' rfl hstep ⟨hb, hs⟩
    exact ⟨hb.step hstep (fun _ hlabel => nomatch hlabel), hstep.uploadsKept hb.sound hs⟩
  exact hinv.2

/-- Every input keeps the requests of the uploads with a task. -/
theorem uploadsKept_apply {s : SftpWorker} {input : WorkerInput} (hb : s.Booked)
    (hs : s.UploadsKept) (h : s.Allowed input) (hnew : s.BringsNew input)
    (hreceiver : input ≠ .receiverClosed) : (s.apply input).UploadsKept := by
  by_cases hconnection : input = .connectionClosed
  · subst hconnection
    exact hs
  have hprepared := hb.work (s.prepared_steps input)
  have hkept := (s.prepared_steps input).uploadsKept hb hs
  obtain ⟨s₁, hfirst, hrest⟩ := s.apply_steps input h hconnection hreceiver
  rcases hfirst with rfl | ⟨label, hpermits, hstep⟩
  · exact hrest.uploadsKept (hprepared 0).1 hkept
  · have hblank : ∀ id, label = .of .enter id → ((s.prepared input).census id).Blank := by
      rintro id rfl
      exact hb.blank_prepared hnew hpermits
    exact hrest.uploadsKept ((hprepared 0).1.step hstep hblank)
      (hstep.uploadsKept (hprepared 0).1.sound hkept)

/-- An orderly input keeps everything in order. -/
theorem InOrder.apply {s : SftpWorker} {input : WorkerInput} (hs : s.InOrder)
    (h : s.Allowed input) (horderly : s.Orderly input) : (s.apply input).InOrder := by
  obtain ⟨hnew, hreceiver, hlost⟩ := horderly
  have hb := hs.booked.apply h hnew hreceiver
  refine ⟨(hb 0).1, uploadsKept_apply hs.booked hs.kept h hnew hreceiver, fun t => ?_⟩
  refine (hb t).2.preserves (fun kind c c' hkind hmove htight => htight.move ?_ hmove)
    (hs.tight t)
  rintro rfl
  rcases hkind with hkind | hpermits
  · exact nomatch hkind
  · cases input with
    | taskStage id stage =>
      cases stage with
      | lost => exact hlost id rfl
      | _ => exact hpermits
    | _ => exact hpermits

/-- The loop at its start is in order. -/
theorem inOrder_new (limit : Nat) : (SftpWorker.new limit).InOrder where
  booked := by
    refine ⟨⟨?_, ?_, ?_⟩, rfl, fun t => ?_⟩
    · intro id p hp
      cases hp
    · intro id r hr
      cases hr
    · intro id r hr
      cases hr
    · constructor <;> simp [census, new, pipeline, Census.place, tally]
  kept := by
    intro x hx
    cases hx
  tight t := by constructor <;> simp [census, new, tally]

/-- In every orderly run everything is in order. -/
theorem reachable_inOrder {limit : Nat} {s : SftpWorker}
    (h : ((workerSystem limit).restrict Orderly).Reachable s) : s.InOrder := by
  refine h.invariant ?_ ?_
  · rintro s rfl
    exact inOrder_new limit
  · rintro s input s' ⟨⟨-, hallowed, rfl⟩, horderly⟩ hs
    exact hs.apply hallowed horderly

/-! ## Slots and containers -/

namespace InOrder

variable {s : SftpWorker}

/-- The queue slots are the uploads that are queued, wait for a decision or are active. -/
theorem slot_iff (hs : s.InOrder) (t : Uuid) :
    t ∈ s.uploadQueueSlots ↔ (∃ request ∈ s.queuedUploads, request.transferId = t) ∨
      t ∈ s.pendingUploadConflicts ∨ t ∈ s.activeUploadRequests := by
  have heq := (hs.booked.sound t).slot_eq
  have hupload : 0 < (s.census t).upload ↔ ∃ request ∈ s.queuedUploads,
      request.transferId = t := by
    simp [census, List.countP_pos_iff]
  have hconflict : 0 < (s.census t).conflict ↔ t ∈ s.pendingUploadConflicts := tally_pos
  have hactive : 0 < (s.census t).activeUpload ↔ t ∈ s.activeUploadRequests := tally_pos
  have hslot : 0 < (s.census t).slot ↔ t ∈ s.uploadQueueSlots := tally_pos
  rw [← hupload, ← hconflict, ← hactive, ← hslot]
  omega

/-- An upload is active as long as it has a task or a last event that is not handled. -/
theorem active_spec (hs : s.InOrder) {t : Uuid} (h : t ∈ s.activeUploadRequests) :
    (∃ x ∈ s.transfers, x.transferId = t) ∨
      ∃ event ∈ s.transferEvents, event.transferId = t ∧ event.endsTask := by
  have hle := (hs.tight t).activeUpload_le
  have hpos : 0 < (s.census t).activeUpload := tally_pos.mpr h
  by_cases hunreported : 0 < (s.census t).unreported
  · obtain ⟨x, hx, hxt⟩ := List.countP_pos_iff.mp hunreported
    exact .inl ⟨x, hx, by simpa using (Bool.and_eq_true_iff.mp hxt).1⟩
  · have hevent : 0 < (s.census t).event := by omega
    obtain ⟨event, hmem, hevent⟩ := List.countP_pos_iff.mp hevent
    exact .inr ⟨event, hmem, by simpa using hevent⟩

/-- A transfer is in one container at most. -/
theorem occurrences_le (hs : s.InOrder) (t : Uuid) : s.occurrences t ≤ 1 := by
  have hplace := (hs.booked.sound t).queuedRoot_le
  have hreported := (hs.booked.sound t).reported_le
  have hhandles := s.countP_handles t
  unfold Census.place at hplace
  simp only [census] at hplace hreported hhandles
  unfold occurrences
  omega

/-- A transfer with a discovery is elsewhere only as a file that the discovery has sent. -/
theorem discovering_spec (hs : s.InOrder) {t : Uuid} (h : t ∈ s.discoveryByTransfer)
    (hpos : 0 < s.occurrences t) :
    t ∉ s.uploadQueueSlots ∧ (∀ root ∈ s.queuedDiscoveryRoots, root.transferId ≠ t) ∧
      ∀ task ∈ s.discoveries, task.runs t → task.sentRoot := by
  have hsound := hs.booked.sound t
  have hroot := hsound.root_le
  have hunsent := hsound.unsent_place_le
  have hreported := hsound.reported_le
  have hdiscovering : (s.census t).discovering = 1 := tally_true h
  have hhandles := s.countP_handles t
  have hslot : (s.census t).slot = 0 := by omega
  refine ⟨tally_eq_zero.mp hslot, ?_, ?_⟩
  · have hnone : (s.census t).queuedRoot = 0 := by omega
    simpa [census] using hnone
  · have hnone : (s.census t).unsent = 0 := by
      unfold Census.place at hunsent
      simp only [census] at hunsent hreported hhandles hroot ⊢
      unfold occurrences at hpos
      simp only [census] at hdiscovering
      omega
    intro task hmem hruns
    have hnot := List.countP_eq_zero.mp hnone task hmem
    simpa [hruns] using hnot

end InOrder

/-- Slots, containers and limit of the loop.  In every run the tab has no more active transfers
    than it may have.  In every orderly run the queue slots are the uploads that are queued,
    wait for a decision or are active; and a transfer is in one container at most, but for a
    root that turned out to be a file and is a download while its discovery ends. -/
theorem slots_and_limit (limit : Nat) :
    (∀ s, (workerSystem limit).Reachable s →
      s.transfers.length + s.pendingByTransfer.entries.length ≤
        max (min limit transferChannels) 1) ∧
    ∀ s, ((workerSystem limit).restrict Orderly).Reachable s → ∀ t,
      (t ∈ s.uploadQueueSlots ↔ (∃ request ∈ s.queuedUploads, request.transferId = t) ∨
        t ∈ s.pendingUploadConflicts ∨ t ∈ s.activeUploadRequests) ∧
      ((∃ x ∈ s.transfers, x.transferId = t ∧ x.upload) → t ∈ s.activeUploadRequests) ∧
      (t ∈ s.activeUploadRequests → (∃ x ∈ s.transfers, x.transferId = t) ∨
        ∃ event ∈ s.transferEvents, event.transferId = t ∧ event.endsTask) ∧
      s.occurrences t ≤ 1 ∧
      (t ∈ s.discoveryByTransfer → 0 < s.occurrences t →
        t ∉ s.uploadQueueSlots ∧ (∀ root ∈ s.queuedDiscoveryRoots, root.transferId ≠ t) ∧
          ∀ task ∈ s.discoveries, task.runs t → task.sentRoot) := by
  refine ⟨fun s h => reachable_withinLimit h, fun s h t => ?_⟩
  have hs := reachable_inOrder h
  refine ⟨hs.slot_iff t, ?_, hs.active_spec, hs.occurrences_le t, hs.discovering_spec⟩
  rintro ⟨x, hx, rfl, hupload⟩
  exact hs.kept x hx hupload

/-! ## Where slots and containers go wrong -/

/-- The state of the loop after some inputs. -/
def after (inputs : List WorkerInput) : SftpWorker := inputs.foldl apply (new 1)

/-- The inputs of a run that breaks the rule: a root that is a file, in an orderly run. -/
def fileRootInputs : List WorkerInput :=
  [.command (.openSftpFile { transferId := 1 }) [] 0, .discover 1 { transferId := 1 },
    .discoveredReceived, .discoveredHandled]

/-- An upload whose last event was lost. -/
def lostUploadInputs : List WorkerInput :=
  [.command (.openSftpUpload { transferId := 1, batchId := 1 }) [] 1, .taskStage 1 .lost,
    .command .other [] 0]

/-- An upload whose conflict was answered after the application had stopped listening. -/
def deafUploadInputs : List WorkerInput :=
  [.command (.openSftpUpload { transferId := 1, batchId := 1 }) [] 1,
    .taskEnd (.uploadConflict 1 1 "" none none), .transferEventReceived 0, .receiverClosed,
    .command (.resolveSftpUploadConflict 1 .overwrite false) [] 0]

/-- One id for an upload and for a root. -/
def sharedIdInputs : List WorkerInput :=
  [.command (.openSftpUpload { transferId := 1, batchId := 1 }) [] 0,
    .command (.openSftpFile { transferId := 1 }) [] 0]

/-- Each input of a run is one that can come. -/
def AllowedRun (guard : SftpWorker → WorkerInput → Prop) :
    SftpWorker → List WorkerInput → Prop
  | _, [] => True
  | s, input :: inputs =>
    (s.stopped = false ∧ s.Allowed input ∧ guard s input) ∧ AllowedRun guard (s.apply input) inputs

theorem reachable_foldl {limit : Nat} {guard : SftpWorker → WorkerInput → Prop}
    {s : SftpWorker} (h : ((workerSystem limit).restrict guard).Reachable s)
    (inputs : List WorkerInput) (hinputs : AllowedRun guard s inputs) :
    ((workerSystem limit).restrict guard).Reachable (inputs.foldl apply s) := by
  induction inputs generalizing s with
  | nil => exact h
  | cons input inputs ih =>
    obtain ⟨⟨hstopped, hallowed, hguard⟩, hrest⟩ := hinputs
    exact ih (h.step ⟨⟨hstopped, hallowed, rfl⟩, hguard⟩) hrest

/-- Four runs in which the rule fails as it stands. -/
theorem slots_and_containers_break :
    (∃ s, ((workerSystem 1).restrict Orderly).Reachable s ∧
      1 ∈ s.discoveryByTransfer ∧ 1 ∈ s.pendingByTransfer) ∧
    (∃ s, (workerSystem 1).Reachable s ∧ 1 ∈ s.uploadQueueSlots ∧ s.queuedUploads = [] ∧
      1 ∉ s.pendingUploadConflicts ∧ s.transfers = [] ∧ s.transferEvents = []) ∧
    (∃ s, (workerSystem 1).Reachable s ∧ 1 ∈ s.uploadQueueSlots ∧ s.queuedUploads = [] ∧
      1 ∉ s.pendingUploadConflicts ∧ 1 ∉ s.activeUploadRequests) ∧
    (∃ s, (workerSystem 1).Reachable s ∧ 1 ∈ s.discoveryByTransfer ∧
      s.queuedUploads.map (·.transferId) = [1]) := by
  have hinit : ∀ guard, ((workerSystem 1).restrict guard).Reachable (new 1) :=
    fun guard => .of_init rfl
  -- one run for each part of the claim
  refine ⟨⟨after fileRootInputs, ?_, by decide, by decide⟩,
    ⟨after lostUploadInputs, ?_, by decide, by decide, by decide, by decide, by decide⟩,
    ⟨after deafUploadInputs, ?_, by decide, by decide, by decide, by decide⟩,
    ⟨after sharedIdInputs, ?_, by decide, by decide⟩⟩
  · refine reachable_foldl (hinit Orderly) fileRootInputs ⟨⟨rfl, trivial, ?_, ?_, ?_⟩,
      ⟨rfl, ⟨by decide, _, rfl, rfl⟩, .inl rfl, ?_, ?_⟩, ⟨rfl, rfl, trivial, ?_, ?_⟩,
      ⟨rfl, ?_, trivial, ?_, ?_⟩, trivial⟩
    · intro id hid
      cases hid
      exact .inr ⟨by decide, by decide, by decide, by decide⟩
    rotate_left 6
    · change 0 < availableSftpTransferSlots _
      decide
    all_goals exact nofun
  · exact (reachable_foldl (hinit fun _ _ => True) lostUploadInputs ⟨⟨rfl, trivial, trivial⟩,
      ⟨rfl, ⟨_, rfl, rfl⟩, trivial⟩, ⟨rfl, trivial, trivial⟩, trivial⟩).of_restrict
  · exact (reachable_foldl (hinit fun _ _ => True) deafUploadInputs ⟨⟨rfl, trivial, trivial⟩,
      ⟨rfl, ⟨_, rfl, rfl, rfl⟩, trivial⟩, ⟨rfl, trivial, trivial⟩, ⟨rfl, trivial, trivial⟩,
      ⟨rfl, trivial, trivial⟩, trivial⟩).of_restrict
  · exact (reachable_foldl (hinit fun _ _ => True) sharedIdInputs ⟨⟨rfl, trivial, trivial⟩,
      ⟨rfl, trivial, trivial⟩, trivial⟩).of_restrict

end SftpWorker

end AxSsh
