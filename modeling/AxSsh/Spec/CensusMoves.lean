import AxSsh.Spec.WorkerCensus

/-!
# What small steps do to a census

Every small step of the loop is, for every transfer, a few moves of the abstract machine of
`Census`; so what is proved of that machine holds of the loop.  There is one lemma for each
small step.  A step that a census does not see has a lemma `census_*` instead.

## Key results
- `LoopStep.moves`: a small step moves the census of every transfer
-/

namespace AxSsh

namespace SftpWorker

variable {s : SftpWorker} {t : Uuid}

/-! ## Moves of the small steps -/

/-- One move leads to a census that is equal to its target. -/
private theorem move_to {P : Census.MoveKind → Prop} {k : Census.MoveKind} {c c' c'' : Census}
    (hk : P k) (hm : Census.Move k c c'') (h : c' = c'') : Census.Moves P c c' :=
  h ▸ .single hk hm

variable {P : Census.MoveKind → Prop}

/-! ### Discoveries -/

section Discovery

/-- Rewriting the discovery of a root keeps a count that does not see the change. -/
private theorem countP_updateDiscovery {root : Uuid} {f : DiscoveryTask → DiscoveryTask}
    {p : DiscoveryTask → Bool} (h : ∀ task, task.runs root → p (f task) = p task)
    (s : SftpWorker) :
    (s.updateDiscovery root f).discoveries.countP p = s.discoveries.countP p := by
  simp only [updateDiscovery, List.countP_map]
  congr 1
  funext task
  by_cases hruns : task.runs root
  · simpa [hruns] using h task hruns
  · simp [hruns]

/-- Rewriting the discovery of a root leaves nothing to a count of what it no longer is. -/
private theorem countP_updateDiscovery_eq_zero {root : Uuid}
    {f : DiscoveryTask → DiscoveryTask} {p : DiscoveryTask → Bool}
    (h : ∀ task, task.runs root → p (f task) = false) (hp : ∀ task, p task → task.runs root)
    (s : SftpWorker) : (s.updateDiscovery root f).discoveries.countP p = 0 := by
  simp only [updateDiscovery, List.countP_map, List.countP_eq_zero]
  intro task _
  by_cases hruns : task.runs root
  · simp [hruns, h task hruns]
  · simpa [hruns] using fun hpt => hruns (hp task hpt)

/-- A task walks the directory of one root only. -/
private theorem runs_unique {task : DiscoveryTask} {root : Uuid} (h : task.runs root)
    (ht : root ≠ t) : task.runs t = false := by
  unfold DiscoveryTask.runs at h ⊢
  have hroot : task.root.transferId = root := by simpa using (Bool.and_eq_true_iff.mp h).2
  simp [hroot, ht]

/-- A discovery that is found runs. -/
theorem runningDiscovery_spec {root : Uuid} {task : DiscoveryTask}
    (h : s.runningDiscovery root = some task) : task ∈ s.discoveries ∧ task.runs root :=
  ⟨List.mem_of_find?_eq_some h, List.find?_some (p := (DiscoveryTask.runs · root)) h⟩

theorem pipeline_discover (s : SftpWorker) (root : Uuid) (request : SftpDownloadRequest) :
    (s.discover root request).pipeline = s.pipeline ++ [.request root request] :=
  (List.append_assoc _ _ _).symm

theorem pipeline_discoverEnd (s : SftpWorker) (root : Uuid) (name : String)
    (outcome : Except String SftpDiscoverySummary) (recoverable : Bool) :
    (s.discoverEnd root name outcome recoverable).pipeline =
      s.pipeline ++ [.finished root name outcome recoverable] :=
  (List.append_assoc _ _ _).symm

variable {root : Uuid} {request : SftpDownloadRequest} {task : DiscoveryTask}

/-- A discovery that sends a file no longer sends its root; if it is the root, it has. -/
theorem census_discover (s : SftpWorker) (root : Uuid) (request : SftpDownloadRequest)
    (t : Uuid) : (s.discover root request).census t =
      { s.census t with
        unsent := if root = t ∧ request.transferId = t then 0 else (s.census t).unsent
        selfSend := if root = t then 0 else (s.census t).selfSend
        message := (s.census t).message + if request.transferId = t then 1 else 0 } := by
  apply Census.ext
  case running =>
    exact countP_updateDiscovery (f := (·.countRequest request)) (fun _ _ => rfl) s
  case unsent =>
    simp only
    split
    · rename_i h
      obtain ⟨rfl, hrequest⟩ := h
      refine countP_updateDiscovery_eq_zero (fun task hruns => ?_)
        (fun task hp => (Bool.and_eq_true_iff.mp hp).1) s
      have hroot : task.root.transferId = root := by
        simpa using (Bool.and_eq_true_iff.mp hruns).2
      simp [DiscoveryTask.countRequest, hrequest, hroot]
    · rename_i h
      refine countP_updateDiscovery (fun task hruns => ?_) s
      by_cases ht : root = t
      · subst ht
        have hroot : task.root.transferId = root := by
          simpa using (Bool.and_eq_true_iff.mp hruns).2
        have hne : (request.transferId == root) = false :=
          beq_false_of_ne fun hid => h ⟨rfl, hid⟩
        simp [DiscoveryTask.countRequest, DiscoveryTask.runs, hroot, hne]
      -- tasks of other roots are not touched
      · have hother := runs_unique hruns ht
        have hother' : (task.countRequest request).runs t = false := hother
        rw [hother, hother', Bool.false_and, Bool.false_and]
  case selfSend =>
    simp only
    split
    · rename_i ht
      subst ht
      refine countP_updateDiscovery_eq_zero (fun task _ => ?_)
        (fun task hp => (Bool.and_eq_true_iff.mp hp).1) s
      simp [DiscoveryTask.maySendRoot, DiscoveryTask.countRequest]
    · rename_i ht
      refine countP_updateDiscovery (fun task hruns => ?_) s
      have hother := runs_unique hruns ht
      have hother' : (task.countRequest request).runs t = false := hother
      rw [hother, hother', Bool.false_and, Bool.false_and]
  case finished =>
    simp only [census, pipeline_discover, List.countP_append, List.countP_singleton]
    rfl
  case message =>
    simp only [census, pipeline_discover, List.countP_append, List.countP_singleton]
    simp [SftpDiscoveredDownload.isRequest]
  all_goals rfl

theorem moves_discoverRoot (hP : P .work) (htask : s.runningDiscovery root = some task)
    (hsend : task.maySend request) (hroot : request.transferId = root) (t : Uuid) :
    Census.Moves P (s.census t) ((s.discover root request).census t) := by
  rw [census_discover]
  by_cases ht : root = t
  · subst ht
    obtain ⟨hmem, hruns⟩ := runningDiscovery_spec htask
    have hself : task.root.transferId = root := by
      simpa using (Bool.and_eq_true_iff.mp hruns).2
    have hpos : 0 < (s.census root).selfSend := by
      refine List.countP_pos_iff.mpr ⟨task, hmem, ?_⟩
      rw [hruns, Bool.true_and]
      simpa [DiscoveryTask.maySend, DiscoveryTask.maySendRoot, hroot, hself] using hsend
    exact move_to hP (.sendRoot hpos) (by simp [hroot])
  · have hne : request.transferId ≠ t := fun h => ht (hroot ▸ h)
    exact .of_eq (by simp [ht, hne])

/-- A child comes to the loop; its root can no longer be a file. -/
theorem moves_discoverChild (hP : P .work) (henter : request.transferId = t → P .enter)
    (hblank : (s.census request.transferId).Blank) (hroot : request.transferId ≠ root) :
    Census.Moves P (s.census t) ((s.discover root request).census t) := by
  rw [census_discover]
  by_cases ht : root = t
  · subst ht
    exact move_to hP .sendOther (by simp [hroot])
  · by_cases hchild : request.transferId = t
    · subst hchild
      exact move_to (henter rfl) (.sendChild hblank) (by simp [ht])
    · exact .of_eq (by simp [ht, hchild])

/-- A discovery ends with its last message. -/
theorem moves_discoverEnd (hP : P .work) (htask : s.runningDiscovery root = some task)
    (name : String) (outcome : Except String SftpDiscoverySummary) (recoverable : Bool)
    (t : Uuid) : Census.Moves P (s.census t)
      ((s.discoverEnd root name outcome recoverable).census t) := by
  obtain ⟨hmem, hruns⟩ := runningDiscovery_spec htask
  have hended : ∀ t' (task : DiscoveryTask), DiscoveryTask.runs { task with ended := true } t' =
    false := fun _ _ => rfl
  by_cases ht : root = t
  · subst ht
    have hpos : 0 < (s.census root).running := List.countP_pos_iff.mpr ⟨task, hmem, hruns⟩
    refine move_to hP (.endDiscovery hpos) ?_
    apply Census.ext
    case running =>
      exact countP_updateDiscovery_eq_zero (fun _ _ => rfl) (fun _ hp => hp) s
    case unsent =>
      exact countP_updateDiscovery_eq_zero (fun _ _ => rfl)
        (fun _ hp => (Bool.and_eq_true_iff.mp hp).1) s
    case selfSend =>
      exact countP_updateDiscovery_eq_zero (fun _ _ => rfl)
        (fun _ hp => (Bool.and_eq_true_iff.mp hp).1) s
    case finished =>
      simp only [census, pipeline_discoverEnd, List.countP_append, List.countP_singleton]
      simp [SftpDiscoveredDownload.isFinished]
    case message =>
      simp only [census, pipeline_discoverEnd, List.countP_append, List.countP_singleton]
      rfl
    all_goals rfl
  -- another transfer: the task of the root is not counted for it
  · apply StepsVia.of_eq
    apply Census.ext
    case running =>
      exact countP_updateDiscovery (fun task hruns => (runs_unique hruns ht).symm) s
    case unsent =>
      refine countP_updateDiscovery (fun task hruns => ?_) s
      rw [runs_unique hruns ht, hended, Bool.false_and]
    case selfSend =>
      refine countP_updateDiscovery (fun task hruns => ?_) s
      rw [runs_unique hruns ht, hended, Bool.false_and, Bool.false_and]
    case finished =>
      simp only [census, pipeline_discoverEnd, List.countP_append, List.countP_singleton]
      simp [SftpDiscoveredDownload.isFinished, ht]
    case message =>
      simp only [census, pipeline_discoverEnd, List.countP_append, List.countP_singleton]
      rfl
    all_goals rfl

/-- Joining a discovery that has ended is not seen. -/
theorem census_joinDiscovery (s : SftpWorker) (root t : Uuid) :
    { s with
      discoveries := s.discoveries.eraseP fun task =>
        task.ended && task.root.transferId == root }.census t = s.census t := by
  have hcount : ∀ p : DiscoveryTask → Bool, (∀ task, p task → task.runs t) →
      (s.discoveries.eraseP fun task =>
        task.ended && task.root.transferId == root).countP p = s.discoveries.countP p := by
    intro p hp
    by_cases h : ∃ task ∈ s.discoveries, task.ended && task.root.transferId == root
    · obtain ⟨task, -, hended, hcount⟩ := List.countP_eraseP (q := p) h
      have hnot : p task = false := by
        rw [Bool.eq_false_iff]
        intro hpt
        have hruns := hp task hpt
        unfold DiscoveryTask.runs at hruns
        simp_all
      simpa [hnot] using hcount
    · rw [List.eraseP_of_forall_not fun task hmem htask => h ⟨task, hmem, htask⟩]
  apply Census.ext
  case running => exact hcount _ fun _ hp => hp
  case unsent => exact hcount _ fun _ hp => (Bool.and_eq_true_iff.mp hp).1
  case selfSend => exact hcount _ fun _ hp => (Bool.and_eq_true_iff.mp hp).1
  all_goals rfl

/-- A discovery is spawned for a root. -/
theorem census_spawnPendingSftpDiscovery (s : SftpWorker) (root : SftpDownloadRoot) (t : Uuid) :
    (s.spawnPendingSftpDiscovery root).census t =
      { s.census t with
        discovering := if root.transferId = t then 1 else (s.census t).discovering
        running := (s.census t).running + if root.transferId = t then 1 else 0
        unsent := (s.census t).unsent + if root.transferId = t then 1 else 0
        selfSend := (s.census t).selfSend +
          if root.transferId = t ∧ root.expectedDirectory = false then 1 else 0 } := by
  apply Census.ext
  case discovering => exact tally_mem_insert _ _ _ _
  case running => simp [census, spawnPendingSftpDiscovery, DiscoveryTask.runs]
  case unsent => simp [census, spawnPendingSftpDiscovery, DiscoveryTask.runs]
  case selfSend =>
    simp [census, spawnPendingSftpDiscovery, DiscoveryTask.runs, DiscoveryTask.maySendRoot]
  all_goals rfl

theorem moves_beginRoot {root : SftpDownloadRoot} (henter : root.transferId = t → P .enter)
    (hblank : (s.census root.transferId).Blank) :
    Census.Moves P (s.census t)
      (((s.expectDirectory root).spawnPendingSftpDiscovery root).census t) := by
  rw [census_spawnPendingSftpDiscovery, census_expectDirectory]
  by_cases ht : root.transferId = t
  · subst ht
    refine move_to (henter rfl)
      (.beginRoot (if root.expectedDirectory = false then 1 else 0) hblank ?_) (by simp)
    split <;> omega
  · exact .of_eq (by simp [ht])

theorem moves_queueRoot {root : SftpDownloadRoot} (henter : root.transferId = t → P .enter)
    (hblank : (s.census root.transferId).Blank) :
    Census.Moves P (s.census t)
      ({ s.expectDirectory root with
        queuedDiscoveryRoots := s.queuedDiscoveryRoots ++ [root] }.census t) := by
  have hcensus : { s.expectDirectory root with
        queuedDiscoveryRoots := s.queuedDiscoveryRoots ++ [root] }.census t =
      { s.census t with
        queuedRoot := (s.census t).queuedRoot + if root.transferId = t then 1 else 0 } := by
    obtain ⟨aggregates, h⟩ := s.exists_expectDirectory root
    rw [h]
    apply Census.ext
    case queuedRoot =>
      simp only [census, List.countP_append, List.countP_singleton, beq_iff_eq]
    all_goals rfl
  rw [hcensus]
  by_cases ht : root.transferId = t
  · subst ht
    exact move_to (henter rfl) (.queueRoot hblank) (by simp)
  · exact .of_eq (by simp [ht])

/-- The next root gets its discovery. -/
theorem moves_dequeueRoot {next : SftpDownloadRoot} {rest : List SftpDownloadRoot}
    (hP : P .work) (h : s.queuedDiscoveryRoots = next :: rest) (t : Uuid) :
    Census.Moves P (s.census t)
      (({ s with queuedDiscoveryRoots := rest }.spawnPendingSftpDiscovery next).census t) := by
  have hrest : { s with queuedDiscoveryRoots := rest }.census t =
      { s.census t with
        queuedRoot := (s.census t).queuedRoot - if next.transferId = t then 1 else 0 } := by
    apply Census.ext
    case queuedRoot =>
      simp only [census, h, List.countP_cons, beq_iff_eq]
      omega
    all_goals rfl
  rw [census_spawnPendingSftpDiscovery, hrest]
  by_cases ht : next.transferId = t
  · have hpos : 0 < (s.census t).queuedRoot := by simp [census, h, ht]
    refine move_to hP
      (.dequeueRoot (if next.expectedDirectory = false then 1 else 0) hpos ?_) (by simp [ht])
    split <;> omega
  · exact .of_eq (by simp [ht])

/-- Taking a message off the channel leaves it in the pipeline. -/
theorem census_receive {discovered : SftpDiscoveredDownload}
    {rest : List SftpDiscoveredDownload} (hnone : s.deferredDiscovered = none)
    (h : s.discoveredDownloads = discovered :: rest) (t : Uuid) :
    { s with deferredDiscovered := some discovered,
             discoveredDownloads := rest }.census t = s.census t := by
  have hpipeline : { s with deferredDiscovered := some discovered,
                            discoveredDownloads := rest }.pipeline = s.pipeline := by
    simp [pipeline, hnone, h]
  apply Census.ext
  case finished => exact congrArg (List.countP _) hpipeline
  case message => exact congrArg (List.countP _) hpipeline
  all_goals rfl

/-- The deferred message leaves the pipeline. -/
theorem census_takeMessage {discovered : SftpDiscoveredDownload}
    (h : s.deferredDiscovered = some discovered) (t : Uuid) :
    { s with deferredDiscovered := none }.census t =
      { s.census t with
        finished := (s.census t).finished - if discovered.isFinished t then 1 else 0
        message := (s.census t).message - if discovered.isRequest t then 1 else 0 } := by
  have hpipeline : s.pipeline =
      discovered :: { s with deferredDiscovered := none }.pipeline := by
    simp [pipeline, h]
  apply Census.ext
  case finished =>
    simp only [census, hpipeline, List.countP_cons]
    omega
  case message =>
    simp only [census, hpipeline, List.countP_cons]
    omega
  all_goals rfl

theorem moves_dropMessage (hP : P .work)
    (h : s.deferredDiscovered = some (.request root request)) (t : Uuid) :
    Census.Moves P (s.census t) ({ s with deferredDiscovered := none }.census t) := by
  rw [census_takeMessage h]
  by_cases ht : request.transferId = t
  · have hpos : 0 < (s.census t).message := by
      simp [census, pipeline, h, SftpDiscoveredDownload.isRequest, ht]
    exact move_to hP (.dropMessage hpos)
      (by simp [SftpDiscoveredDownload.isFinished, SftpDiscoveredDownload.isRequest, ht])
  · exact .of_eq
      (by simp [SftpDiscoveredDownload.isFinished, SftpDiscoveredDownload.isRequest, ht])

/-- A download is announced and queued. -/
theorem census_enqueueDownload (hopen : s.receiverOpen) (request : SftpDownloadRequest)
    (announced : Option Uuid) (t : Uuid) : (s.enqueueDownload request announced).census t =
      { s.census t with
        request := (s.census t).request + if request.transferId = t then 1 else 0 } := by
  have hemit : (s.emit (downloadQueuedEvent request announced)).census t = s.census t :=
    s.census_emit_other rfl t
  unfold enqueueDownload
  rw [if_pos hopen, ← hemit]
  apply Census.ext
  case request =>
    simp only [census, List.countP_append, List.countP_singleton, beq_iff_eq]
    unfold emit
    split <;> rfl
  all_goals rfl

theorem moves_adopt (hopen : s.receiverOpen) (hadopt : request.transferId = t → P .adopt)
    (h : s.deferredDiscovered = some (.request root request)) (announced : Option Uuid) :
    Census.Moves P (s.census t)
      (((({ s with deferredDiscovered := none } : SftpWorker).adoptChild root
        request.transferId).enqueueDownload request announced).census t) := by
  have hopen' : (({ s with deferredDiscovered := none } : SftpWorker).adoptChild root
      request.transferId).receiverOpen := by
    unfold adoptChild
    split <;> exact hopen
  rw [census_enqueueDownload hopen', census_adoptChild, census_takeMessage h]
  by_cases ht : request.transferId = t
  · have hpos : 0 < (s.census t).message := by
      simp [census, pipeline, h, SftpDiscoveredDownload.isRequest, ht]
    exact move_to (hadopt ht) (.adopt hpos)
      (by simp [SftpDiscoveredDownload.isFinished, SftpDiscoveredDownload.isRequest, ht])
  · exact .of_eq
      (by simp [SftpDiscoveredDownload.isFinished, SftpDiscoveredDownload.isRequest, ht])

theorem moves_finish {name : String} {outcome : Except String SftpDiscoverySummary}
    {recoverable : Bool} (hP : P .work)
    (h : s.deferredDiscovered = some (.finished root name outcome recoverable)) (t : Uuid) :
    Census.Moves P (s.census t)
      ((({ s with deferredDiscovered := none } : SftpWorker).discoveredFinished root name outcome
        recoverable).census t) := by
  rw [census_discoveredFinished, census_takeMessage h]
  by_cases ht : root = t
  · have hpos : 0 < (s.census t).finished := by
      simp [census, pipeline, h, SftpDiscoveredDownload.isFinished, ht]
    exact move_to hP (.finishDiscovery hpos)
      (by simp [SftpDiscoveredDownload.isFinished, SftpDiscoveredDownload.isRequest, ht])
  · exact .of_eq
      (by simp [SftpDiscoveredDownload.isFinished, SftpDiscoveredDownload.isRequest, ht])

end Discovery

/-! ### Downloads -/

section Download

variable {request : SftpDownloadRequest} {id : Uuid} {pending : PendingSftpOpen}

theorem moves_admitDownload (hopen : s.receiverOpen)
    (henter : request.transferId = t → P .enter)
    (hblank : (s.census request.transferId).Blank) (announced : Option Uuid) :
    Census.Moves P (s.census t) ((s.enqueueDownload request announced).census t) := by
  rw [census_enqueueDownload hopen]
  by_cases ht : request.transferId = t
  · subst ht
    exact move_to (henter rfl) (.queueRequest hblank) (by simp)
  · exact .of_eq (by simp [ht])

theorem moves_openRequest {rest : List SftpDownloadRequest} (hP : P .work)
    (h : s.queuedRequests = request :: rest) (t : Uuid) :
    Census.Moves P (s.census t)
      (({ s with queuedRequests := rest }.spawnPendingSftpOpen request).census t) := by
  by_cases ht : request.transferId = t
  · have hpos : 0 < (s.census t).request := by simp [census, h, ht]
    refine move_to hP (.openRequest hpos) ?_
    apply Census.ext
    case request => simp [census, spawnPendingSftpOpen, h, ht]
    case opening => simp [census, spawnPendingSftpOpen, ht]
    case dropped => simp [census, spawnPendingSftpOpen, ht]
    case starts => simp [census, spawnPendingSftpOpen, ht]
    all_goals rfl
  · apply StepsVia.of_eq
    apply Census.ext
    case request => simp [census, spawnPendingSftpOpen, h, ht]
    case opening => exact (tally_mem_insert _ _ _ _).trans (if_neg ht)
    case dropped => simp [census, spawnPendingSftpOpen, Ne.symm ht]
    case starts => simp [census, spawnPendingSftpOpen, ht]
    all_goals rfl

/-- Joining an opening takes it off the map. -/
theorem census_eraseOpening (s : SftpWorker) (id t : Uuid) :
    { s with pendingByTransfer := s.pendingByTransfer.erase id }.census t =
      { s.census t with
        opening := if id = t then 0 else (s.census t).opening
        dropped := if id = t then 0 else (s.census t).dropped } := by
  apply Census.ext
  case opening => exact tally_mem_erase _ _ _
  case dropped =>
    by_cases ht : id = t
    · simp [census, ht]
    · simp [census, ht, Ne.symm ht]
  all_goals rfl

/-- How an opening that is on the map is counted. -/
theorem census_opening (h : s.pendingByTransfer.lookup id = some pending) :
    (s.census id).opening = 1 ∧
      (s.census id).dropped = if pending.cancelled then 1 else 0 := by
  constructor
  · exact tally_true (AssocMap.mem_iff_lookup.mpr ⟨pending, h⟩)
  · simp [census, h, tally]

theorem dropped_lt_opening (h : s.pendingByTransfer.lookup id = some pending)
    (hcancelled : pending.cancelled = false) :
    (s.census id).dropped < (s.census id).opening := by
  obtain ⟨hopening, hdropped⟩ := census_opening h
  rw [hopening, hdropped, hcancelled]
  decide

theorem moves_joinDropped (hP : P .work) (h : s.pendingByTransfer.lookup id = some pending)
    (hcancelled : pending.cancelled) (t : Uuid) :
    Census.Moves P (s.census t)
      ({ s with pendingByTransfer := s.pendingByTransfer.erase id }.census t) := by
  rw [census_eraseOpening]
  by_cases ht : id = t
  · subst ht
    have hpos : 0 < (s.census id).dropped := by
      rw [(census_opening h).2, if_pos hcancelled]
      decide
    exact move_to hP (.joinDropped hpos) (by simp)
  · exact .of_eq (by simp [ht])

/-- A download is spawned. -/
theorem census_spawnDownload (s : SftpWorker) (request : SftpDownloadRequest) (t : Uuid) :
    (s.spawnDownload request).census t =
      { s.census t with
        unreported := (s.census t).unreported + if request.transferId = t then 1 else 0
        starts := (s.census t).starts + if request.transferId = t then 1 else 0 } := by
  apply Census.ext
  case unreported => simp [census, spawnDownload, TaskStage.owes]
  case lost => simp [census, spawnDownload]
  case reported => simp [census, spawnDownload, TaskStage.hasReported]
  case starts => simp [census, spawnDownload, List.count_singleton]
  all_goals rfl

theorem moves_activate (hP : P .work) (hkeyed : s.Keyed)
    (h : s.pendingByTransfer.lookup id = some pending) (hcancelled : pending.cancelled = false)
    (t : Uuid) :
    Census.Moves P (s.census t)
      (({ s with pendingByTransfer := s.pendingByTransfer.erase id }.spawnDownload
        pending.request).census t) := by
  rw [census_spawnDownload, census_eraseOpening, hkeyed.pending id pending h]
  by_cases ht : id = t
  · subst ht
    exact move_to hP (.activate (dropped_lt_opening h hcancelled)) (by simp)
  · exact .of_eq (by simp [ht])

theorem moves_failOpening (hP : P .work) (hopen : s.receiverOpen)
    (h : s.pendingByTransfer.lookup id = some pending) (hcancelled : pending.cancelled = false)
    (message : String) (recoverable : Bool) (t : Uuid) :
    Census.Moves P (s.census t)
      (({ s with pendingByTransfer := s.pendingByTransfer.erase id }
        |>.sendTransferEventWithDirectoryState (.failed id message recoverable)).census t) := by
  rw [census_sendTransferEvent, census_emit _ (by exact hopen), census_eraseOpening]
  by_cases ht : id = t
  · subst ht
    exact move_to hP (.failOpening (dropped_lt_opening h hcancelled))
      (by simp [SftpTransferEvent.settles, SftpTransferEvent.transferId,
        SftpTransferEvent.endsTransfer])
  · exact .of_eq (by simp [SftpTransferEvent.settles, SftpTransferEvent.transferId, ht])

end Download

/-! ### Uploads -/

section Upload

variable {request : SftpUploadRequest} {id : Uuid}

/-- An upload is announced and queued, with its slot. -/
theorem census_enqueueUpload (hopen : s.receiverOpen) (request : SftpUploadRequest) (t : Uuid) :
    (s.enqueueUpload request).census t =
      { s.census t with
        upload := (s.census t).upload + if request.transferId = t then 1 else 0
        slot := if request.transferId = t then 1 else (s.census t).slot } := by
  unfold enqueueUpload emit
  rw [if_pos hopen]
  apply Census.ext
  case upload => simp [census]
  case slot =>
    by_cases ht : request.transferId = t
    · simp [census, ht]
    · have hmem : t ∈ insert request.transferId s.uploadQueueSlots ↔ t ∈ s.uploadQueueSlots := by
        simp [Ne.symm ht]
      exact (tally_congr hmem).trans (if_neg ht).symm
  case outcome =>
    simp [census, SftpTransferEvent.settles, uploadQueuedEvent, SftpTransferEvent.endsTransfer]
  all_goals rfl

theorem moves_admitUpload (hopen : s.receiverOpen) (henter : request.transferId = t → P .enter)
    (hblank : (s.census request.transferId).Blank) :
    Census.Moves P (s.census t) ((s.enqueueUpload request).census t) := by
  rw [census_enqueueUpload hopen]
  by_cases ht : request.transferId = t
  · subst ht
    exact move_to (henter rfl) (.queueUpload hblank) (by simp)
  · exact .of_eq (by simp [ht])

theorem moves_startUpload {rest : List SftpUploadRequest} (hP : P .work)
    (h : s.queuedUploads = request :: rest) (t : Uuid) :
    Census.Moves P (s.census t)
      (({ s with queuedUploads := rest }.spawnUpload request).census t) := by
  by_cases ht : request.transferId = t
  · have hpos : 0 < (s.census t).upload := by simp [census, h, ht]
    refine move_to hP (.startUpload hpos) ?_
    apply Census.ext
    case upload => simp [census, spawnUpload, h, ht]
    case activeUpload => simp [census, spawnUpload, ht]
    case unreported => simp [census, spawnUpload, TaskStage.owes, ht]
    case lost => simp [census, spawnUpload]
    case reported => simp [census, spawnUpload, TaskStage.hasReported]
    case starts => simp [census, spawnUpload, ht]
    all_goals rfl
  · apply StepsVia.of_eq
    apply Census.ext
    case upload => simp [census, spawnUpload, h, ht]
    case activeUpload => exact (tally_mem_insert _ _ _ _).trans (if_neg ht)
    case unreported => simp [census, spawnUpload, ht]
    case lost => simp [census, spawnUpload]
    case reported => simp [census, spawnUpload, ht]
    case starts => simp [census, spawnUpload, ht]
    all_goals rfl

/-- The answer of the user sends an upload back to the queue. -/
theorem moves_resolve (hP : P .work) (hopen : s.receiverOpen) (hkeyed : s.Keyed)
    (choice : SftpUploadConflictChoice)
    (h : s.pendingUploadConflicts.lookup id = some request) (t : Uuid) :
    Census.Moves P (s.census t) ((retryUpload choice s id).census t) := by
  have hid := hkeyed.conflict id request h
  unfold retryUpload emit
  simp only [h, hopen, if_true]
  by_cases ht : id = t
  · have hpos : 0 < (s.census t).conflict :=
      tally_pos.mpr (ht ▸ AssocMap.mem_iff_lookup.mpr ⟨request, h⟩)
    refine move_to hP (.resolve hpos) ?_
    apply Census.ext
    case upload => simp [census, hid, ht]
    case conflict => simp [census, ht]
    case outcome =>
      simp [census, SftpTransferEvent.settles, uploadQueuedEvent,
        SftpTransferEvent.endsTransfer]
    all_goals rfl
  · apply StepsVia.of_eq
    apply Census.ext
    case upload => simp [census, hid, ht]
    case conflict => exact (tally_mem_erase _ _ _).trans (if_neg ht)
    case outcome =>
      simp [census, SftpTransferEvent.settles, uploadQueuedEvent,
        SftpTransferEvent.endsTransfer]
    all_goals rfl

end Upload

/-! ### Tasks -/

section Task

variable {event : SftpTransferEvent} {transfer : ActiveSftpTransfer} {id : Uuid}

/-- A task that ends sends an event that ends it. -/
theorem endsTask_of_mayEnd (h : transfer.mayEnd event) : event.endsTask := by
  cases event <;> first | rfl | exact nomatch h

/-- What a task sends while it works ends nothing. -/
theorem endsTask_of_maySend (h : transfer.maySend event) : event.endsTask = false := by
  cases event <;> first | rfl | exact nomatch h

/-- Changing handles without their transfer and stage is not seen. -/
theorem census_modifyTransfer {f : ActiveSftpTransfer → ActiveSftpTransfer}
    (hid : ∀ x, (f x).transferId = x.transferId) (hstage : ∀ x, (f x).stage = x.stage)
    (s : SftpWorker) (id t : Uuid) :
    { s with transfers := s.transfers.modifyKey (·.transferId) id f }.census t = s.census t := by
  have hcount : ∀ q : TaskStage → Bool,
      (s.transfers.modifyKey (·.transferId) id f).countP (fun x => x.transferId == t && q x.stage) =
        s.transfers.countP fun x => x.transferId == t && q x.stage :=
    fun q => List.countP_modifyKey_of_eq _ _ fun x => by rw [hid, hstage]
  apply Census.ext
  case unreported => exact hcount _
  case lost => exact hcount (· == .lost)
  case reported => exact hcount _
  all_goals rfl

/-- What a count of stages sees of a task that comes to another stage: `a` says that it sees
    the old stage, and `b` that it sees the new one. -/
private theorem countP_setStage (h : s.transfer? id = some transfer) {stage : TaskStage}
    {q : TaskStage → Bool} {a b : Bool} (ha : q transfer.stage = a) (hb : q stage = b)
    (t : Uuid) :
    ((s.setStage id stage).transfers.countP fun x => x.transferId == t && q x.stage) +
        (if id = t ∧ a then 1 else 0) =
      (s.transfers.countP fun x => x.transferId == t && q x.stage) +
        if id = t ∧ b then 1 else 0 := by
  have hid : transfer.transferId = id := List.key_of_findKey h
  have hcount := List.countP_modifyKey h (fun x => { x with stage })
    fun x => x.transferId == t && q x.stage
  simpa [setStage, hid, Bool.and_eq_true, ha, hb] using hcount

theorem census_setStage {stage : TaskStage} (h : s.transfer? id = some transfer)
    (hstep : transfer.stage.silentStep stage) (hlost : stage ≠ .lost) (t : Uuid) :
    (s.setStage id stage).census t = s.census t := by
  have hsame : stage.owes = transfer.stage.owes ∧
      stage.hasReported = transfer.stage.hasReported ∧
      (stage == .lost) = (transfer.stage == .lost) := by
    cases hfrom : transfer.stage <;> cases stage <;> rw [hfrom] at hstep <;> simp_all
      [TaskStage.silentStep, TaskStage.owes, TaskStage.hasReported]
  have hcount : ∀ q : TaskStage → Bool, q stage = q transfer.stage →
      ((s.setStage id stage).transfers.countP fun x => x.transferId == t && q x.stage) =
        s.transfers.countP fun x => x.transferId == t && q x.stage := by
    intro q hq
    have := countP_setStage h rfl hq t
    omega
  apply Census.ext
  case unreported => exact hcount _ hsame.1
  case lost => exact hcount (· == .lost) hsame.2.2
  case reported => exact hcount _ hsame.2.1
  all_goals rfl

/-- A task that still owes its last event is counted. -/
private theorem unreported_pos (h : s.transfer? id = some transfer)
    (hrunning : transfer.stage = .running) : 0 < (s.census id).unreported := by
  refine List.countP_pos_iff.mpr ⟨transfer, List.mem_of_findKey h, ?_⟩
  have hid : transfer.transferId = id := List.key_of_findKey h
  simp [hid, hrunning, TaskStage.owes]

/-- A task that works comes to an end: what it owed is counted as lost, or as reported. -/
private theorem census_endTask (h : s.transfer? id = some transfer)
    (hrunning : transfer.stage = .running) {stage : TaskStage} (howes : stage.owes = false)
    (t : Uuid) : (s.setStage id stage).census t =
      { s.census t with
        unreported := (s.census t).unreported - if id = t then 1 else 0
        lost := (s.census t).lost + if id = t ∧ stage = .lost then 1 else 0
        reported := (s.census t).reported + if id = t ∧ stage.hasReported then 1 else 0 } := by
  have hunreported := countP_setStage h (q := (·.owes)) (a := true) (by simp [hrunning, TaskStage.owes])
    howes t
  have hlost := countP_setStage h (q := (· == .lost)) (a := false) (by simp [hrunning])
    (rfl : (stage == TaskStage.lost) = _) t
  have hreported := countP_setStage h (q := (·.hasReported)) (a := false)
    (by simp [hrunning, TaskStage.hasReported]) (rfl : stage.hasReported = _) t
  simp at hunreported hlost hreported
  apply Census.ext
  case unreported => simp only [census]; omega
  case lost => simpa only [census] using hlost
  case reported => simpa only [census] using hreported
  all_goals rfl

theorem moves_lose (h : s.transfer? id = some transfer)
    (hstep : transfer.stage.silentStep .lost) (hlose : id = t → P .lose) :
    Census.Moves P (s.census t) ((s.setStage id .lost).census t) := by
  have hrunning : transfer.stage = .running := by
    cases hfrom : transfer.stage <;> rw [hfrom] at hstep <;> first | rfl | exact nomatch hstep
  rw [census_endTask h hrunning rfl]
  by_cases ht : id = t
  · subst ht
    exact move_to (hlose rfl) (.lose (unreported_pos h hrunning))
      (by simp [TaskStage.hasReported])
  · exact .of_eq (by simp [ht])

theorem moves_sendLast (hP : P .work) (h : s.transfer? event.transferId = some transfer)
    (hrunning : transfer.stage = .running) (hend : transfer.mayEnd event) (t : Uuid) :
    Census.Moves P (s.census t) ((s.sendLast event).census t) := by
  have hends := endsTask_of_mayEnd hend
  have hcensus : (s.sendLast event).census t =
      { (s.setStage event.transferId .reported).census t with
        event := (s.census t).event + if event.transferId = t then 1 else 0 } := by
    apply Census.ext
    case event => simp [census, sendLast, setStage, hends]
    all_goals rfl
  rw [hcensus, census_endTask h hrunning rfl]
  by_cases ht : event.transferId = t
  · subst ht
    exact move_to hP (.report (unreported_pos h hrunning)) (by simp [TaskStage.hasReported])
  · exact .of_eq (by simp [ht])

/-- What a task sends while it works is not seen. -/
theorem census_sendUpdate (hsend : transfer.maySend event) (s : SftpWorker) (t : Uuid) :
    (s.sendUpdate event).census t = s.census t := by
  have hends := endsTask_of_maySend hsend
  have hid : ∀ x : ActiveSftpTransfer, (x.afterUpdate event).transferId = x.transferId ∧
      (x.afterUpdate event).stage = x.stage := by
    intro x
    unfold ActiveSftpTransfer.afterUpdate
    split <;> exact ⟨rfl, rfl⟩
  rw [← census_modifyTransfer (fun x => (hid x).1) (fun x => (hid x).2) s event.transferId t]
  apply Census.ext
  case event => simp [census, sendUpdate, hends]
  all_goals rfl

theorem census_flagTransfer (s : SftpWorker) (id t : Uuid) :
    (s.flagTransfer id).census t = s.census t :=
  census_modifyTransfer (f := ActiveSftpTransfer.cancel) (fun _ => rfl) (fun _ => rfl) s id t

theorem census_setPaused (s : SftpWorker) (id : Uuid) (paused : Bool) (t : Uuid) :
    (s.setPaused id paused).census t = s.census t := by
  apply census_modifyTransfer <;> intro x <;> cases paused <;>
    cases hpausable : x.isPausable <;> simp [ActiveSftpTransfer.pause, ActiveSftpTransfer.resume]

/-- Joining the tasks that are over reports the panics, and drops the lost handles. -/
theorem moves_reap (hP : P .work) (s : SftpWorker) (t : Uuid) :
    Census.Moves P (s.census t) (s.reapFinishedSftpTransfers.census t) := by
  obtain ⟨hkept, hremoved⟩ := List.swapRemoveAll_perm
    (fun transfer : ActiveSftpTransfer => transfer.stage.isFinished) s.transfers.length
    s.transfers (Nat.le_refl _)
  -- reaping keeps the handles that have not finished
  have hcount : ∀ q : TaskStage → Bool,
      (s.reapFinishedSftpTransfers.transfers.countP fun x => x.transferId == t && q x.stage) =
        s.transfers.countP fun x => x.transferId == t && (q x.stage && !x.stage.isFinished) := by
    intro q
    refine (hkept.countP_eq _).trans ?_
    rw [List.countP_filter]
    congr 1
    funext x
    rw [Bool.and_assoc]
  -- a task that panicked is reported as failed
  have hpanicked : (s.reapFinishedSftpTransfers.census t).event = (s.census t).event +
      s.transfers.countP fun x => x.transferId == t && x.stage == .panicked := by
    simp only [census, reapFinishedSftpTransfers, List.countP_append, List.countP_map,
      List.countP_filter, hremoved.countP_eq]
    congr 2
    funext x
    cases x.stage <;>
      simp [SftpTransferEvent.transferId, SftpTransferEvent.endsTask,
        SftpTransferEvent.endsTransfer, TaskStage.isFinished]
  have howes : (s.reapFinishedSftpTransfers.census t).unreported +
      (s.transfers.countP fun x => x.transferId == t && x.stage == .panicked) =
        (s.census t).unreported := by
    refine (congrArg (· + _) (hcount _)).trans (List.countP_add_countP (fun x => ?_) _)
    cases x.stage <;> simp [TaskStage.isFinished, TaskStage.owes]
  have hreported : (s.reapFinishedSftpTransfers.census t).reported ≤ (s.census t).reported := by
    refine (hcount _).trans_le (List.countP_mono_left fun x _ hx => ?_)
    simp_all
  have hlost : (s.reapFinishedSftpTransfers.census t).lost = 0 := by
    refine (hcount (· == .lost)).trans (List.countP_eq_zero.mpr fun x _ => ?_)
    cases x.stage <;> simp [TaskStage.isFinished]
  refine move_to hP (.reap _ _ hreported
    (Nat.le.intro (Nat.add_comm _ _ ▸ howes))) ?_
  apply Census.ext
  case unreported => simp only; omega
  case lost => exact hlost
  case event => exact hpanicked
  all_goals rfl

/-! ### Events of the tasks -/

@[simp] theorem transferId_withConnection (event : SftpTransferEvent) (closed : Bool) :
    (event.withConnection closed).transferId = event.transferId := by
  cases event <;> rfl

@[simp] theorem endsTask_withConnection (event : SftpTransferEvent) (closed : Bool) :
    (event.withConnection closed).endsTask = event.endsTask := by
  cases event <;> rfl

@[simp] theorem endsTransfer_withConnection (event : SftpTransferEvent) (closed : Bool) :
    (event.withConnection closed).endsTransfer = event.endsTransfer := by
  cases event <;> rfl

/-- Taking the next event off the channel. -/
theorem census_takeEvent {rest : List SftpTransferEvent} (h : s.transferEvents = event :: rest)
    (t : Uuid) : { s with transferEvents := rest }.census t =
      { s.census t with
        event := (s.census t).event -
          if event.transferId = t ∧ event.endsTask then 1 else 0 } := by
  apply Census.ext
  case event => simp [census, h, List.countP_cons]
  all_goals rfl

/-- Every handle of a transfer is counted once. -/
theorem countP_handles (s : SftpWorker) (t : Uuid) :
    (s.transfers.countP fun x => x.transferId == t) =
      (s.census t).unreported + (s.census t).lost + (s.census t).reported := by
  have h₁ := List.countP_add_countP (p := fun x : ActiveSftpTransfer =>
    x.transferId == t && x.stage.owes) (q := fun x => x.transferId == t && x.stage == .lost)
    (r := fun x => x.transferId == t && (x.stage.owes || x.stage == .lost))
    (fun x => by cases x.stage <;> simp [TaskStage.owes]) s.transfers
  have h₂ := List.countP_add_countP (p := fun x : ActiveSftpTransfer =>
    x.transferId == t && (x.stage.owes || x.stage == .lost))
    (q := fun x => x.transferId == t && x.stage.hasReported)
    (r := fun x => x.transferId == t)
    (fun x => by cases x.stage <;> simp [TaskStage.owes, TaskStage.hasReported]) s.transfers
  simp only [census]
  omega

/-- Joining the task of a transfer that has one handle at most, and that has reported, leaves
    no handle of it. -/
theorem census_joinTransfer (hends : event.endsTask)
    (hunreported : (s.census event.transferId).unreported = 0)
    (hlost : (s.census event.transferId).lost = 0)
    (hreported : (s.census event.transferId).reported ≤ 1) (t : Uuid) :
    (s.joinTransfer event).census t =
      { s.census t with
        reported := if event.transferId = t then 0 else (s.census t).reported } := by
  unfold joinTransfer
  rw [if_pos hends]
  have hperm := List.swapRemoveFirst_perm
    (fun x : ActiveSftpTransfer => x.transferId == event.transferId) s.transfers
  -- the handle that is joined is the only one of its transfer
  have hcount : ∀ q : TaskStage → Bool,
      ((s.transfers.swapRemoveFirst (·.transferId == event.transferId)).countP
        fun x => x.transferId == t && q x.stage) =
      if event.transferId = t then 0
      else s.transfers.countP fun x => x.transferId == t && q x.stage := by
    intro q
    rw [hperm.countP_eq]
    by_cases hex : ∃ x ∈ s.transfers, x.transferId == event.transferId
    · obtain ⟨x, -, hx, hcount⟩ := List.countP_eraseP (q := fun x => x.transferId == t && q x.stage)
        hex
      have hid : x.transferId = event.transferId := by simpa using hx
      split
      · rename_i ht
        obtain ⟨y, -, hy, hall⟩ := List.countP_eraseP
          (q := fun x : ActiveSftpTransfer => x.transferId == event.transferId) hex
        have hhandles := s.countP_handles event.transferId
        have hzero : (s.transfers.eraseP (·.transferId == event.transferId)).countP
            (·.transferId == event.transferId) = 0 := by
          rw [if_pos hy] at hall
          omega
        rw [List.countP_eq_zero] at hzero ⊢
        intro z hz hpz
        exact hzero z hz (ht ▸ (Bool.and_eq_true_iff.mp hpz).1)
      · rename_i ht
        simpa [hid, ht] using hcount
    · have hnone : ∀ x ∈ s.transfers, ¬(x.transferId == event.transferId) := by
        intro x hx hid
        exact hex ⟨x, hx, hid⟩
      rw [List.eraseP_of_forall_not hnone]
      split
      · rename_i ht
        rw [List.countP_eq_zero]
        intro x hx hpx
        exact hnone x hx (ht ▸ (Bool.and_eq_true_iff.mp hpx).1)
      · rfl
  -- only the reported handle is struck from the census
  apply Census.ext
  case unreported =>
    refine (hcount (·.owes)).trans ?_
    split
    · rename_i ht
      rw [← ht]
      exact hunreported.symm
    · rfl
  case lost =>
    refine (hcount (· == .lost)).trans ?_
    split
    · rename_i ht
      rw [← ht]
      exact hlost.symm
    · rfl
  case reported => exact hcount _
  all_goals rfl

theorem receiverOpen_joinTransfer (s : SftpWorker) (event : SftpTransferEvent) :
    (s.joinTransfer event).receiverOpen = s.receiverOpen := by
  unfold joinTransfer
  split <;> rfl

/-- The request of an upload is forgotten. -/
theorem census_releaseUpload (s : SftpWorker) (hends : event.endsTask) (t : Uuid) :
    (s.releaseUpload event).census t =
      { s.census t with
        activeUpload := if event.transferId = t then 0 else (s.census t).activeUpload } := by
  unfold releaseUpload
  rw [if_pos hends]
  apply Census.ext
  case activeUpload => exact tally_mem_erase _ _ _
  all_goals rfl

/-- The slot of an upload is given back. -/
theorem census_eraseSlot (s : SftpWorker) (id t : Uuid) :
    { s with uploadQueueSlots := s.uploadQueueSlots.erase id }.census t =
      { s.census t with slot := if id = t then 0 else (s.census t).slot } := by
  apply Census.ext
  case slot =>
    by_cases ht : id = t
    · simp [census, ht]
    · have hmem : t ∈ s.uploadQueueSlots.erase id ↔ t ∈ s.uploadQueueSlots := by
        simp [Ne.symm ht]
      exact (tally_congr hmem).trans (if_neg ht).symm
  all_goals rfl

/-- An update is forwarded. -/
theorem handleTransferEvent_update (hopen : s.receiverOpen) (h : event.endsTask = false) :
    s.handleTransferEvent event = s.sendTransferEventWithDirectoryState event := by
  cases event with
  | uploadConflict | skipped | completed | cancelled | failed => exact nomatch h
  | _ =>
    simp [handleTransferEvent, forwardTransferEvent, joinTransfer, settleUpload, releaseUpload,
      releaseSlot, SftpTransferEvent.endsTask, SftpTransferEvent.endsTransfer, hopen]

/-- The end of a transfer joins its task, frees its request and its slot, and is forwarded. -/
theorem handleTransferEvent_end (hopen : s.receiverOpen) (h : event.endsTransfer) :
    s.handleTransferEvent event =
      (((s.joinTransfer event).releaseUpload event).sendTransferEventWithDirectoryState
        event).releaseSlot event := by
  have hopen' : ((s.joinTransfer event).releaseUpload event).receiverOpen := by
    unfold releaseUpload
    split <;> rw [← hopen] <;> exact receiverOpen_joinTransfer s event
  cases event with
  | skipped | completed | cancelled | failed =>
    simp only [handleTransferEvent, forwardTransferEvent, settleUpload, hopen', if_true]
  | _ => exact nomatch h

/-- An event that no task has been joined for finds the handle of its task: it has
    reported, and there is no other. -/
theorem census_joinReported {rest : List SftpTransferEvent}
    (hsound : (s.census event.transferId).Sound) (h : s.transferEvents = event :: rest)
    (hends : event.endsTask) (closed : Bool) (t : Uuid) :
    (({ s with transferEvents := rest } : SftpWorker).joinTransfer
      (event.withConnection closed)).census t =
      { s.census t with
        event := (s.census t).event - if event.transferId = t then 1 else 0
        reported := if event.transferId = t then 0 else (s.census t).reported } := by
  have hpos : 0 < (s.census event.transferId).event := by simp [census, h, hends]
  have hplace := hsound.place_le
  have hreported := hsound.reported_le
  unfold Census.place at hplace
  have hcensus := census_takeEvent h
  rw [census_joinTransfer (by simpa using hends), hcensus, transferId_withConnection]
  · simp [hends]
  all_goals
    rw [transferId_withConnection, hcensus]
    simp only
    omega

/-- The end of a transfer is the last move of its task. -/
theorem moves_endTransfer {rest : List SftpTransferEvent} (hP : P .work)
    (hopen : s.receiverOpen) (hsound : (s.census event.transferId).Sound)
    (h : s.transferEvents = event :: rest) (hends : event.endsTransfer) (closed : Bool)
    (t : Uuid) :
    Census.Moves P (s.census t)
      (({ s with transferEvents := rest }.handleTransferEvent
        (event.withConnection closed)).census t) := by
  have htask : event.endsTask := by cases event <;> first | rfl | exact nomatch hends
  have hends' : (event.withConnection closed).endsTransfer := by simpa using hends
  rw [handleTransferEvent_end (s := { s with transferEvents := rest }) hopen hends']
  unfold releaseSlot
  rw [if_pos hends', census_eraseSlot, census_sendTransferEvent, census_emit,
    census_releaseUpload _ (by simpa using htask), census_joinReported hsound h htask]
  · by_cases ht : event.transferId = t
    · subst ht
      have hpos : 0 < (s.census event.transferId).event := by simp [census, h, htask]
      exact move_to hP (.settle hpos) (by simp [SftpTransferEvent.settles, hends])
    · exact .of_eq (by simp [SftpTransferEvent.settles, ht])
  · unfold releaseUpload
    split <;> exact (receiverOpen_joinTransfer _ _).trans hopen

/-- What becomes of an upload whose task has found a conflict: it goes back to the queue with
    the policy of its batch, or waits for a decision; without a request of it, the conflict
    is only reported. -/
theorem census_uploadConflict (hopen : s.receiverOpen) (hkeyed : s.Keyed) {batchId : Uuid}
    {name : String} {size modified : Option Nat} (t : Uuid) {s' : SftpWorker}
    (hs' : s' = forwardTransferEvent (.uploadConflict id batchId name size modified)
      (s.settleUpload (.uploadConflict id batchId name size modified))) :
    id ∉ s.activeUploadRequests ∧ s'.census t = s.census t ∨
    id ∈ s.activeUploadRequests ∧ s'.census t =
      { s.census t with
        activeUpload := if id = t then 0 else (s.census t).activeUpload
        upload := (s.census t).upload + if id = t then 1 else 0 } ∨
    id ∈ s.activeUploadRequests ∧ s'.census t =
      { s.census t with
        activeUpload := if id = t then 0 else (s.census t).activeUpload
        conflict := if id = t then 1 else (s.census t).conflict } := by
  subst hs'
  -- a conflict of an unknown upload, one that the batch's policy settles, and one that waits
  cases hlookup : s.activeUploadRequests.lookup id with
  | none =>
    have hmem : id ∉ s.activeUploadRequests := fun hmem => by
      obtain ⟨request, hrequest⟩ := AssocMap.mem_iff_lookup.mp hmem
      rw [hlookup] at hrequest
      exact nomatch hrequest
    refine .inl ⟨hmem, ?_⟩
    have hopen' : (s.releaseUpload (.uploadConflict id batchId name size modified)).receiverOpen :=
      hopen
    simp only [settleUpload, hlookup, forwardTransferEvent, hopen', if_true, releaseSlot,
      SftpTransferEvent.endsTransfer, Bool.false_eq_true, if_false]
    rw [census_sendTransferEvent, census_emit_other _ rfl, census_releaseUpload _ rfl]
    apply Census.ext
    case activeUpload =>
      by_cases ht : id = t
      · subst ht
        simp [SftpTransferEvent.transferId, census, hmem]
      · simp [SftpTransferEvent.transferId, ht]
    all_goals rfl
  | some request =>
    have hmem : id ∈ s.activeUploadRequests := AssocMap.mem_iff_lookup.mpr ⟨request, hlookup⟩
    have hid : request.transferId = id := hkeyed.active id request hlookup
    refine .inr ?_
    cases hpolicy : s.batchPolicies.lookup batchId with
    | some choice =>
      refine .inl ⟨hmem, ?_⟩
      simp only [settleUpload, hlookup, uploadConflict, hpolicy, forwardTransferEvent, emit, hopen,
        if_true, releaseSlot, SftpTransferEvent.endsTransfer, Bool.false_eq_true, if_false]
      apply Census.ext
      case activeUpload => exact tally_mem_erase _ _ _
      case upload => simp [census, hid]
      case outcome =>
        simp [census, SftpTransferEvent.settles, uploadQueuedEvent,
          SftpTransferEvent.endsTransfer]
      all_goals rfl
    | none =>
      refine .inr ⟨hmem, ?_⟩
      simp only [settleUpload, hlookup, uploadConflict, hpolicy, forwardTransferEvent, hopen,
        if_true, releaseSlot, SftpTransferEvent.endsTransfer, Bool.false_eq_true, if_false]
      rw [census_sendTransferEvent, census_emit_other _ rfl]
      apply Census.ext
      case activeUpload => exact tally_mem_erase _ _ _
      case conflict => exact tally_mem_insert _ _ _ _
      all_goals rfl

/-- A conflict sends an upload back to the queue, or to the user. -/
theorem moves_uploadConflict {rest : List SftpTransferEvent} {batchId : Uuid} {name : String}
    {size modified : Option Nat} (hopen : s.receiverOpen) (hkeyed : s.Keyed)
    (hsound : (s.census id).Sound)
    (h : s.transferEvents = .uploadConflict id batchId name size modified :: rest)
    (hretry : id = t → P .retry) :
    Census.Moves P (s.census t)
      (({ s with transferEvents := rest }.handleTransferEvent
        (.uploadConflict id batchId name size modified)).census t) := by
  have hpos : 0 < (s.census id).event := by
    simp [census, h, SftpTransferEvent.endsTask, SftpTransferEvent.transferId]
  have hjoin := census_joinReported hsound h rfl false t
  simp only [SftpTransferEvent.withConnection, SftpTransferEvent.transferId] at hjoin
  rcases census_uploadConflict
      (s := ({ s with transferEvents := rest } : SftpWorker).joinTransfer
        (.uploadConflict id batchId name size modified))
      hopen ⟨hkeyed.1, hkeyed.2, hkeyed.3⟩ t rfl with ⟨hmem, hcensus⟩ | ⟨hmem, hcensus⟩ |
      ⟨hmem, hcensus⟩
  all_goals
    unfold handleTransferEvent
    rw [hcensus, hjoin]
    by_cases ht : id = t
    swap
    · exact .of_eq (by simp [ht])
    subst ht
  · exact move_to (hretry rfl) (.ignoreConflict hpos (tally_false hmem)) (by simp)
  · exact move_to (hretry rfl) (.requeue hpos (tally_pos.mpr hmem)) (by simp)
  · exact move_to (hretry rfl) (.await hpos (tally_pos.mpr hmem)) (by simp)

end Task

/-! ### Cancellation -/

section Cancel

variable {id : Uuid}

/-- Removing the first record of a transfer is seen at that transfer only. -/
private theorem countP_eraseP_id {α : Type} (key : α → Uuid) (l : List α) (id t : Uuid) :
    (l.eraseP (key · == id)).countP (key · == t) =
      l.countP (key · == t) - if id = t then 1 else 0 := by
  by_cases hex : ∃ x ∈ l, key x == id
  · obtain ⟨x, -, hx, hcount⟩ := List.countP_eraseP (q := (key · == t)) hex
    have hkey : key x = id := by simpa using hx
    by_cases ht : id = t
    · simp [hkey, ht] at hcount ⊢
      omega
    · simpa [hkey, ht] using hcount
  · have hnone : ∀ x ∈ l, ¬(key x == id) := fun x hx hid => hex ⟨x, hx, hid⟩
    rw [List.eraseP_of_forall_not hnone]
    split
    · rename_i ht
      subst ht
      have hzero : l.countP (key · == id) = 0 := List.countP_eq_zero.mpr hnone
      omega
    · rfl

/-- A record of a transfer is counted. -/
private theorem countP_pos_of_any {α : Type} (key : α → Uuid) {l : List α} {id : Uuid}
    (h : l.any (key · == id)) : 0 < l.countP (key · == id) := by
  rw [List.countP_pos_iff]
  exact List.any_eq_true.mp h

theorem census_markDiscovery (s : SftpWorker) (id t : Uuid) :
    (s.markDiscovery id).census t = s.census t := by
  apply Census.ext
  case discovering => exact tally_congr AssocMap.mem_adjust
  all_goals rfl

theorem moves_cancelRoot (hP : P .work) (s : SftpWorker) (id t : Uuid) :
    Census.Moves P (s.census t) ((s.cancelRoot id).census t) := by
  -- first the root leaves the queue; the deferred message is still there
  have hqueue : Census.Moves P (s.census t)
      ({ s.cancelRoot id with deferredDiscovered := s.deferredDiscovered }.census t) := by
    have hcensus : { s.cancelRoot id with deferredDiscovered := s.deferredDiscovered }.census t =
        { s.census t with
          queuedRoot := (s.census t).queuedRoot - if id = t then 1 else 0 } := by
      apply Census.ext
      case queuedRoot => exact countP_eraseP_id SftpDownloadRoot.transferId _ id t
      case discovering => exact tally_congr AssocMap.mem_adjust
      all_goals rfl
    rw [hcensus]
    by_cases ht : id = t
    · exact move_to hP .dropRoot (by simp [ht])
    · exact .of_eq (by simp [ht])
  refine hqueue.trans ?_
  have hdeferred : (s.cancelRoot id).deferredDiscovered =
      if s.defersRequestOf id then none else s.deferredDiscovered := rfl
  by_cases hdefers : s.defersRequestOf id
  · rw [if_pos hdefers] at hdeferred
    unfold defersRequestOf at hdefers
    split at hdefers
    · rename_i root request hrequest
      have hnone : ({ s.cancelRoot id with deferredDiscovered := none } : SftpWorker) =
          s.cancelRoot id := by
        rw [← hdeferred]
      have hdrop := moves_dropMessage (s :=
        { s.cancelRoot id with deferredDiscovered := s.deferredDiscovered }) hP hrequest t
      exact hdrop.trans (.of_eq (congrArg (census · t) hnone.symm))
    · exact nomatch hdefers
  · rw [if_neg hdefers] at hdeferred
    have hsame : ({ s.cancelRoot id with deferredDiscovered := s.deferredDiscovered } :
        SftpWorker) = s.cancelRoot id := by
      rw [← hdeferred]
    exact .of_eq (congrArg (census · t) hsame.symm)

/-- The event of a cancellation is an outcome of the transfer. -/
private theorem settles_cancelled (id t : Uuid) :
    (SftpTransferEvent.cancelled id).settles t = decide (id = t) := by
  simp [SftpTransferEvent.settles, SftpTransferEvent.transferId, SftpTransferEvent.endsTransfer,
    beq_eq_decide]

theorem moves_cancelQueuedRoot (hP : P .work) (hopen : s.receiverOpen)
    (h : s.queuedDiscoveryRoots.any (·.transferId == id)) (t : Uuid) :
    Census.Moves P (s.census t)
      (({ s with queuedDiscoveryRoots :=
        s.queuedDiscoveryRoots.eraseP (·.transferId == id) }.emit (.cancelled id)).census t) := by
  have hcensus : { s with queuedDiscoveryRoots :=
        s.queuedDiscoveryRoots.eraseP (·.transferId == id) }.census t =
      { s.census t with
        queuedRoot := (s.census t).queuedRoot - if id = t then 1 else 0 } := by
    apply Census.ext
    case queuedRoot => exact countP_eraseP_id SftpDownloadRoot.transferId _ id t
    all_goals rfl
  rw [census_emit _ (by exact hopen), hcensus, settles_cancelled]
  by_cases ht : id = t
  · subst ht
    exact move_to hP (.cancelRoot (countP_pos_of_any SftpDownloadRoot.transferId h))
      (by simp)
  · exact .of_eq (by simp [ht])

theorem moves_cancelDiscovering (hopen : s.receiverOpen) (hextra : id = t → P .extra) :
    Census.Moves P (s.census t) (((s.markDiscovery id).emit (.cancelled id)).census t) := by
  rw [census_emit _ (by exact hopen), census_markDiscovery, settles_cancelled]
  by_cases ht : id = t
  · exact move_to (hextra ht) .extra (by simp [ht])
  · exact .of_eq (by simp [ht])

/-- A queued download is cancelled; `rest` is what is left of the queue. -/
theorem moves_cancelRequest (hP : P .work) (hopen : s.receiverOpen)
    (h : s.queuedRequests.any (·.transferId == id)) {rest : List SftpDownloadRequest}
    (hrest : ∀ t, rest.countP (·.transferId == t) =
      s.queuedRequests.countP (·.transferId == t) - if id = t then 1 else 0) (t : Uuid) :
    Census.Moves P (s.census t)
      (({ s with queuedRequests := rest }
        |>.sendTransferEventWithDirectoryState (.cancelled id)).census t) := by
  have hcensus : { s with queuedRequests := rest }.census t =
      { s.census t with
        request := (s.census t).request - if id = t then 1 else 0 } := by
    apply Census.ext
    case request => exact hrest t
    all_goals rfl
  rw [census_sendTransferEvent, census_emit _ (by exact hopen), hcensus, settles_cancelled]
  by_cases ht : id = t
  · subst ht
    exact move_to hP
      (.cancelRequest (countP_pos_of_any SftpDownloadRequest.transferId h)) (by simp)
  · exact .of_eq (by simp [ht])

/-- Removing every record of a transfer is the same when there is one. -/
theorem countP_filter_id {queue : List SftpDownloadRequest}
    (h : queue.countP (·.transferId == id) ≤ 1) (t : Uuid) :
    (queue.filter (·.transferId != id)).countP (·.transferId == t) =
      queue.countP (·.transferId == t) - if id = t then 1 else 0 := by
  rw [List.countP_filter]
  by_cases ht : id = t
  · subst ht
    rw [if_pos rfl, List.countP_eq_zero.mpr]
    · omega
    · intro request _
      simp
  · rw [if_neg ht, Nat.sub_zero]
    congr 1
    funext request
    by_cases hr : request.transferId = t
    · simp [hr, Ne.symm ht]
    · simp [hr]

theorem moves_cancelOpening {pending : PendingSftpOpen} (hP : P .work) (hopen : s.receiverOpen)
    (h : s.pendingByTransfer.lookup id = some pending) (hcancelled : pending.cancelled = false)
    (t : Uuid) :
    Census.Moves P (s.census t)
      (((s.markOpening id).sendTransferEventWithDirectoryState (.cancelled id)).census t) := by
  have hcensus : (s.markOpening id).census t =
      { s.census t with dropped := if id = t then 1 else (s.census t).dropped } := by
    apply Census.ext
    case opening => exact tally_congr AssocMap.mem_adjust
    case dropped =>
      by_cases ht : id = t
      · simp [census, markOpening, AssocMap.lookup_adjust_ite, ← ht, h, PendingSftpOpen.cancel]
      · simp [census, markOpening, AssocMap.lookup_adjust_ite, ht, Ne.symm ht]
    all_goals rfl
  rw [census_sendTransferEvent, census_emit _ (by exact hopen), hcensus, settles_cancelled]
  by_cases ht : id = t
  · subst ht
    exact move_to hP (.cancelOpening (dropped_lt_opening h hcancelled)) (by simp)
  · exact .of_eq (by simp [ht])

theorem moves_cancelUpload (hP : P .work) (hopen : s.receiverOpen)
    (h : s.queuedUploads.any (·.transferId == id)) (t : Uuid) :
    Census.Moves P (s.census t)
      (({ s with
        queuedUploads := s.queuedUploads.eraseP (·.transferId == id)
        uploadQueueSlots := s.uploadQueueSlots.erase id }.emit (.cancelled id)).census t) := by
  have hcensus : { s with
        queuedUploads := s.queuedUploads.eraseP (·.transferId == id)
        uploadQueueSlots := s.uploadQueueSlots.erase id }.census t =
      { { s with uploadQueueSlots := s.uploadQueueSlots.erase id }.census t with
        upload := (s.census t).upload - if id = t then 1 else 0 } := by
    apply Census.ext
    case upload => exact countP_eraseP_id SftpUploadRequest.transferId _ id t
    all_goals rfl
  rw [census_emit _ (by exact hopen), hcensus, census_eraseSlot, settles_cancelled]
  by_cases ht : id = t
  · subst ht
    exact move_to hP (.cancelUpload (countP_pos_of_any SftpUploadRequest.transferId h))
      (by simp)
  · exact .of_eq (by simp [ht])

theorem moves_cancelConflict (hP : P .work) (hopen : s.receiverOpen)
    (h : id ∈ s.pendingUploadConflicts) (t : Uuid) :
    Census.Moves P (s.census t)
      (({ s with
        pendingUploadConflicts := s.pendingUploadConflicts.erase id
        uploadQueueSlots := s.uploadQueueSlots.erase id }.emit (.cancelled id)).census t) := by
  have hcensus : { s with
        pendingUploadConflicts := s.pendingUploadConflicts.erase id
        uploadQueueSlots := s.uploadQueueSlots.erase id }.census t =
      { { s with uploadQueueSlots := s.uploadQueueSlots.erase id }.census t with
        conflict := if id = t then 0 else (s.census t).conflict } := by
    apply Census.ext
    case conflict => exact tally_mem_erase _ _ _
    all_goals rfl
  rw [census_emit _ (by exact hopen), hcensus, census_eraseSlot, settles_cancelled]
  by_cases ht : id = t
  · subst ht
    exact move_to hP (.cancelConflict (tally_pos.mpr h)) (by simp)
  · exact .of_eq (by simp [ht])

theorem moves_reply (hopen : s.receiverOpen) (message : String) (hreply : id = t → P .reply) :
    Census.Moves P (s.census t) ((s.reply id message).census t) := by
  have hcensus : (s.reply id message).census t =
      { s.census t with
        outcome := (s.census t).outcome + if id = t then 1 else 0
        replied := (s.census t).replied + if id = t then 1 else 0 } := by
    unfold reply
    rw [if_pos hopen]
    apply Census.ext
    case outcome =>
      simp [census, SftpTransferEvent.settles, SftpTransferEvent.transferId,
        SftpTransferEvent.endsTransfer]
    case replied => simp [census, List.count_singleton]
    all_goals rfl
  rw [hcensus]
  by_cases ht : id = t
  · exact move_to (hreply ht) .reply (by simp [ht])
  · exact .of_eq (by simp [ht])

end Cancel

theorem census_rememberPolicy (s : SftpWorker) (batchId : Uuid)
    (choice : SftpUploadConflictChoice) (t : Uuid) :
    (s.rememberPolicy batchId choice).census t = s.census t := by
  unfold rememberPolicy
  simp only
  split
  · rfl
  · split
    · split <;> rfl
    · rfl

/-! ## All small steps -/

/-- The kinds of moves that a small step can stand for, at a transfer. -/
def LoopLabel.kinds (label : LoopLabel) (t : Uuid) (kind : Census.MoveKind) : Prop :=
  kind = .work ∨ label = .of kind t

/-- A small step moves the census of every transfer, each by ordinary moves, and the transfer
    of its label by moves of its kind.  What it admits must be nowhere in the loop. -/
theorem LoopStep.moves {label : LoopLabel} {s s' : SftpWorker} (h : LoopStep label s s')
    (hkeyed : s.Keyed) (hopen : s.receiverOpen) (hsound : ∀ t, (s.census t).Sound)
    (hblank : ∀ id, label = .of .enter id → (s.census id).Blank) (t : Uuid) :
    Census.Moves (LoopLabel.kinds label t) (s.census t) (s'.census t) := by
  have hP : LoopLabel.kinds label t .work := .inl rfl
  have hof : ∀ {kind id}, label = .of kind id → id = t → LoopLabel.kinds label t kind :=
    fun hlabel hid => .inr (hid ▸ hlabel)
  cases h with
  | discoverRoot htask hsend hroot => exact moves_discoverRoot hP htask hsend hroot t
  | discoverChild htask hsend hroot =>
    exact moves_discoverChild hP (hof rfl) (hblank _ rfl) hroot
  | discoverEnd htask _ => exact moves_discoverEnd hP htask _ _ _ t
  | sendUpdate _ _ hsend => exact .of_eq (census_sendUpdate hsend s t)
  | sendLast hfind hrunning hend => exact moves_sendLast hP hfind hrunning hend t
  | setStage hfind hstep hlost => exact .of_eq (census_setStage hfind hstep hlost t)
  | lose hfind hstep => exact moves_lose hfind hstep (hof rfl)
  | joinDiscovery root => exact .of_eq (census_joinDiscovery s root t)
  | dequeueRoot hqueue => exact moves_dequeueRoot hP hqueue t
  | receive hnone hmessages => exact .of_eq (census_receive hnone hmessages t)
  | dropMessage hdeferred _ => exact moves_dropMessage hP hdeferred t
  | adopt hdeferred _ => exact moves_adopt hopen (hof rfl) hdeferred _
  | finish hdeferred => exact moves_finish hP hdeferred t
  | openRequest hqueue _ => exact moves_openRequest hP hqueue t
  | startUpload hqueue _ => exact moves_startUpload hP hqueue t
  | joinOpening taskId => exact .refl _
  | joinDropped hlookup hcancelled => exact moves_joinDropped hP hlookup hcancelled t
  | activate hlookup hcancelled => exact moves_activate hP hkeyed hlookup hcancelled t
  | failOpening message hlookup hcancelled =>
    exact moves_failOpening hP hopen hlookup hcancelled message _ t
  | reap => exact moves_reap hP s t
  | beginRoot _ => exact moves_beginRoot (hof rfl) (hblank _ rfl)
  | queueRoot _ => exact moves_queueRoot (hof rfl) (hblank _ rfl)
  | admitDownload _ => exact moves_admitDownload hopen (hof rfl) (hblank _ rfl) _
  | admitUpload _ _ => exact moves_admitUpload hopen (hof rfl) (hblank _ rfl)
  | reply id message => exact moves_reply hopen message (hof rfl)
  | rememberPolicy batchId choice => exact .of_eq (census_rememberPolicy s batchId choice t)
  | resolve choice hlookup => exact moves_resolve hP hopen hkeyed choice hlookup t
  | setPaused id paused => exact .of_eq (census_setPaused s id paused t)
  | stop => exact .refl _
  | flag id => exact .of_eq (census_flagTransfer s id t)
  | cancelRoot _ => exact moves_cancelRoot hP s _ t
  -- all requests of the transfer are struck off, but there is at most one
  | cancelRequests hqueued =>
    rename_i id
    refine moves_cancelRequest hP hopen hqueued (countP_filter_id ?_) t
    have hplace := (hsound id).place_le
    unfold Census.place at hplace
    have hrequest : (s.census id).request = s.queuedRequests.countP (·.transferId == id) := rfl
    omega
  | cancelRequest hqueued =>
    exact moves_cancelRequest hP hopen hqueued
      (countP_eraseP_id SftpDownloadRequest.transferId _ _) t
  | cancelOpening hlookup hcancelled => exact moves_cancelOpening hP hopen hlookup hcancelled t
  | settleDirectory id => exact .of_eq (census_settleDirectory s id t)
  | cancelQueuedRoot _ hqueued => exact moves_cancelQueuedRoot hP hopen hqueued t
  | cancelDiscovering _ _ => exact moves_cancelDiscovering hopen (hof rfl)
  | cancelUpload hqueued => exact moves_cancelUpload hP hopen hqueued t
  | cancelConflict hmem => exact moves_cancelConflict hP hopen hmem t
  | handleEvent hevents =>
    rename_i event rest
    cases hends : event.endsTask with
    -- an update of a running transfer is passed on and ends nothing
    | false =>
      have hends' : (event.withConnection s.connectionClosed).endsTask = false := by
        simpa using hends
      apply StepsVia.of_eq
      rw [handleTransferEvent_update (s := { s with transferEvents := rest }) hopen hends',
        census_sendTransferEvent,
        census_emit_other _ (by cases event <;> first | rfl | exact nomatch hends)]
      rw [census_takeEvent hevents]
      simp [hends]
    | true =>
      cases htransfer : event.endsTransfer with
      | true => exact moves_endTransfer hP hopen (hsound _) hevents htransfer _ t
      | false =>
        cases event with
        | uploadConflict id =>
          exact moves_uploadConflict hopen hkeyed (hsound id) hevents (hof rfl)
        | completed | cancelled | failed | skipped => exact nomatch htransfer
        | _ => exact nomatch hends

end SftpWorker

end AxSsh
