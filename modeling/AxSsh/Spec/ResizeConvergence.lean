import AxSsh.Spec.ResizeOrder

/-!
# Terminals settle on the size asked for last

From every state of a running worker its own steps lead to a state in which no resize is left, and
there the backend has the size of the last request.  A wake-up that finds the queue of the local
shell full is lost and changes nothing about that, because the loop looks at `pending_resize` in
each of its rounds.
-/

namespace AxSsh.Resize

/-! ## Accepted requests -/

/-- Behind the size of the start there are only sizes that were validated. -/
def Admitted (requests : List SizeRequest) : Prop :=
  ∃ first accepted, requests = first :: accepted ∧ ∀ request ∈ accepted, request.Valid

theorem Admitted.append {requests : List SizeRequest} (h : Admitted requests)
    {request : SizeRequest} (hvalid : request.Valid) : Admitted (requests ++ [request]) := by
  obtain ⟨first, accepted, rfl, hall⟩ := h
  refine ⟨first, accepted ++ [request], rfl, ?_⟩
  intro other hmem
  rcases List.mem_append.mp hmem with hmem | hmem
  · exact hall other hmem
  · obtain rfl := List.mem_singleton.mp hmem
    exact hvalid

theorem Admitted.tail {requests : List SizeRequest} (h : Admitted requests) :
    ∀ request ∈ requests.tail, request.Valid := by
  obtain ⟨first, accepted, rfl, hall⟩ := h
  exact hall

/-! ## The local shell -/

namespace LocalShell

variable {s s' : LocalShell}

/-- The requests that count, and the one that is about to, were validated. -/
structure Admits (s : LocalShell) : Prop where
  admitted : Admitted s.requests
  storing : ∀ request, s.requester = .storing request → request.Valid

theorem admits_spawn (columns rows : Nat) : (spawn columns rows).Admits :=
  ⟨⟨_, [], rfl, nofun⟩, nofun⟩

theorem Admits.request (h : s.Admits) {request : SizeRequest}
    (hok : s.requestResizeWithPixels request = .ok s') : s'.Admits := by
  unfold requestResizeWithPixels at hok
  obtain ⟨_, hvalidated, hok⟩ := Except.bind_eq_ok_iff.mp hok
  have hvalid : request.Valid := validateBackendSize_eq_ok hvalidated
  split at hok
  · split at hok
    · cases hok
      exact ⟨h.admitted.append hvalid, h.storing⟩
    · cases hok
      refine ⟨h.admitted, ?_⟩
      intro other hother
      cases hother
      exact hvalid
  · cases hok
    exact h

theorem Admits.storePending (h : s.Admits) : s.storePending.Admits := by
  unfold LocalShell.storePending
  split
  · rename_i request hstoring
    exact ⟨h.admitted.append (h.storing request hstoring), nofun⟩
  · exact h

theorem Admits.trySend (h : s.Admits) (command : LocalShellCommand) :
    (s.trySend command).Admits := by
  unfold LocalShell.trySend
  split
  · exact ⟨h.admitted, h.storing⟩
  · exact h

theorem Admits.finishRequest (h : s.Admits) : s.finishRequest.Admits := by
  unfold LocalShell.finishRequest
  split
  · unfold wakeWorker
    split
    · exact ⟨h.admitted, nofun⟩
    · exact ⟨(h.trySend .wake).admitted, nofun⟩
  · exact h

/-- The worker leaves the requests alone. -/
theorem Admits.work (h : s.Admits) (answer : Answer) : (s.work answer).Admits := by
  unfold LocalShell.work LocalShell.takePending LocalShell.receive
  repeat' split
  all_goals exact ⟨h.admitted, h.storing⟩

theorem Admits.step (h : s.Admits) (input : LocalInput) : (s.step input).Admits := by
  cases input with
  | request request =>
    exact Except.toOption_getD_of h fun _ hok => h.request hok
  | store => exact h.storePending
  | wake => exact h.finishRequest
  | send => exact h.trySend .send
  | readerCloses => exact h.trySend .readerClosed
  | shutdown =>
    have hflag : { s with shutdownRequested := true }.Admits := ⟨h.admitted, h.storing⟩
    exact hflag.trySend .wake
  | work answer => exact h.work answer

theorem Admits.run (h : s.Admits) (inputs : List LocalInput) :
    (inputs.foldl LocalShell.step s).Admits :=
  List.foldlRecOn inputs LocalShell.step h fun _ hs input _ => hs.step input

/-! ### The worker gets there on its own -/

theorem work_of_stage {stage : LocalStage} (h : s.stage = stage) (answer : Answer) :
    s.work answer = { s with stage := stage }.work answer := by
  subst h
  rfl

/-- Steps of the worker lead to a state in which no resize is left. -/
def Settles (s : LocalShell) : Prop :=
  ∃ answers : List Answer, (answers.foldl LocalShell.work s).Settled

theorem Settled.settles (h : s.Settled) : s.Settles := ⟨[], h⟩

theorem Settles.of_work (answer : Answer) (h : (s.work answer).Settles) : s.Settles := by
  obtain ⟨answers, hsettled⟩ := h
  exact ⟨answer :: answers, hsettled⟩

theorem settles_of_reporting (hstage : s.stage = .reporting) (hpending : s.pendingResize = none) :
    s.Settles :=
  Settled.settles ⟨hpending, by rw [hstage]; rfl, by rw [hstage]; rfl⟩

theorem settles_of_taking (hstage : s.stage = .taking) : s.Settles := by
  refine Settles.of_work .ok ?_
  rw [work_of_stage hstage]
  show LocalShell.Settles (LocalShell.takePending { s with stage := .taking })
  unfold LocalShell.takePending
  split
  · rename_i hnone
    exact Settled.settles ⟨hnone, rfl, rfl⟩
  · split
    · exact Settled.settles ⟨rfl, rfl, rfl⟩
    · exact Settles.of_work .ok (settles_of_reporting rfl rfl)

theorem settles_of_looping (hstage : s.stage = .looping) (hon : s.shutdownRequested = false) :
    s.Settles := by
  refine Settles.of_work .ok (settles_of_taking ?_)
  rw [work_of_stage hstage]
  show (if s.shutdownRequested then LocalStage.stopped else LocalStage.taking) = .taking
  rw [hon]
  rfl

theorem settles_of_writing (hstage : s.stage = .writing) (hon : s.shutdownRequested = false) :
    s.Settles := by
  refine Settles.of_work .ok ?_
  rw [work_of_stage hstage]
  exact settles_of_looping rfl hon

/-- Whether or not a command is waiting, the next round of the loop comes. -/
theorem settles_of_receiving (hstage : s.stage = .receiving) (hon : s.shutdownRequested = false) :
    s.Settles := by
  cases hcommands : s.commands with
  | nil =>
    refine Settles.of_work .failed ?_
    rw [work_of_stage hstage]
    show LocalShell.Settles (LocalShell.receive { s with stage := .receiving } _)
    simp only [receive, hcommands]
    exact settles_of_looping rfl hon
  | cons command commands =>
    refine Settles.of_work .ok ?_
    cases command with
    | send =>
      rw [work_of_stage hstage]
      show LocalShell.Settles (LocalShell.receive { s with stage := .receiving } _)
      simp only [receive, hcommands]
      exact settles_of_writing rfl hon
    | wake | readerClosed =>
      rw [work_of_stage hstage]
      show LocalShell.Settles (LocalShell.receive { s with stage := .receiving } _)
      simp only [receive, hcommands]
      exact settles_of_looping rfl hon

theorem settles_of_polling (hstage : s.stage = .polling) (hon : s.shutdownRequested = false) :
    s.Settles := by
  refine Settles.of_work .ok ?_
  rw [work_of_stage hstage]
  exact settles_of_receiving rfl hon

theorem settles (hrunning : s.stage.running = true) (hon : s.shutdownRequested = false) :
    s.Settles := by
  have hreporting (t : LocalShell) (hstage : t.stage = .reporting)
      (hon : t.shutdownRequested = false) : t.Settles := by
    refine Settles.of_work .ok ?_
    rw [work_of_stage hstage]
    exact settles_of_polling rfl hon
  cases hstage : s.stage with rw [hstage] at hrunning
  | opening | stopped | gone => exact (Bool.false_ne_true hrunning).elim
  | starting =>
    refine Settles.of_work .ok ?_
    rw [work_of_stage hstage]
    exact settles_of_looping rfl hon
  | looping => exact settles_of_looping hstage hon
  | taking => exact settles_of_taking hstage
  | applying size =>
    refine Settles.of_work .ok ?_
    rw [work_of_stage hstage]
    exact hreporting _ rfl hon
  | reporting => exact hreporting s hstage hon
  | polling => exact settles_of_polling hstage hon
  | receiving => exact settles_of_receiving hstage hon
  | writing => exact settles_of_writing hstage hon

end LocalShell

/-! ## The SSH shell -/

namespace SshShell

variable {s s' : SshShell}

theorem admitted_request (h : Admitted s.requests) {request : SizeRequest}
    (hok : s.requestResizeWithPixels request = .ok s') : Admitted s'.requests := by
  unfold requestResizeWithPixels at hok
  obtain ⟨_, hvalidated, hok⟩ := Except.bind_eq_ok_iff.mp hok
  split at hok
  · cases hok
  · cases hok
    exact h.append (validateBackendSize_eq_ok hvalidated)

theorem admitted_step (h : Admitted s.requests) (input : SshInput) :
    Admitted (s.step input).requests := by
  cases input with
  | request request =>
    exact Except.toOption_getD_of (P := fun s => Admitted s.requests) h
      fun _ hok => admitted_request h hok
  | changed =>
    show Admitted s.changed.requests
    unfold SshShell.changed
    split <;> exact h
  | work answer =>
    show Admitted (s.work answer).requests
    unfold SshShell.work
    split <;> exact h

theorem admitted_run (h : Admitted s.requests) (inputs : List SshInput) :
    Admitted (inputs.foldl SshShell.step s).requests :=
  List.foldlRecOn (motive := fun s => Admitted s.requests) inputs SshShell.step h
    fun _ hs input _ => admitted_step hs input

/-! ### The worker gets there on its own -/

/-- Steps of the worker lead to a state in which no resize is left. -/
def Settles (s : SshShell) : Prop :=
  ∃ inputs : List SshInput, (∀ request, .request request ∉ inputs) ∧
    (inputs.foldl SshShell.step s).Settled

theorem Settled.settles (h : s.Settled) : s.Settles := ⟨[], nofun, h⟩

theorem Settles.of_step (input : SshInput) (hworker : ∀ request, input ≠ .request request)
    (h : (s.step input).Settles) : s.Settles := by
  obtain ⟨inputs, hothers, hsettled⟩ := h
  refine ⟨input :: inputs, ?_, hsettled⟩
  intro request hmem
  rcases List.mem_cons.mp hmem with heq | hmem
  · exact hworker request heq.symm
  · exact hothers request hmem

theorem settles_of_selecting (hstage : s.stage = .selecting) : s.Settles := by
  cases hchanged : s.resize.hasChanged with
  | false => exact Settled.settles ⟨hchanged, by rw [hstage]; rfl, by rw [hstage]; rfl⟩
  | true =>
    refine Settles.of_step .changed nofun ?_
    have hstep : s.step .changed =
        { s with resize := s.resize.markSeen, stage := .resizing s.resize.value } := by
      show s.changed = _
      unfold SshShell.changed
      rw [if_pos ⟨hstage, hchanged⟩]
      rfl
    rw [hstep]
    exact Settles.of_step (.work .ok) nofun (Settled.settles ⟨rfl, rfl, rfl⟩)

theorem settles (hrunning : s.stage.running = true) : s.Settles := by
  have hnext (t : SshShell) (hstage : t.stage = .announcing ∨ t.stage = .reporting) :
      t.Settles := by
    refine Settles.of_step (.work .ok) nofun (settles_of_selecting ?_)
    show (t.work .ok).stage = .selecting
    rcases hstage with hstage | hstage <;> simp only [SshShell.work, hstage]
  cases hstage : s.stage with rw [hstage] at hrunning
  | preparing | opening | stopped | gone => exact (Bool.false_ne_true hrunning).elim
  | announcing => exact hnext s (.inl hstage)
  | selecting => exact settles_of_selecting hstage
  | resizing size =>
    refine Settles.of_step (.work .ok) nofun (hnext _ (.inr ?_))
    show (s.work .ok).stage = .reporting
    simp only [SshShell.work, hstage]
  | reporting => exact hnext s (.inr hstage)

end SshShell

/-! ## The Telnet terminal -/

namespace TelnetTerminal

variable {s : TelnetTerminal}

/-- Steps of the worker, without anything from the server, lead to a state in which no resize is
    left. -/
def Settles (s : TelnetTerminal) : Prop :=
  ∃ inputs : List TelnetInput, (∀ input ∈ inputs, input = .changed ∨ input = .work .ok) ∧
    (inputs.foldl TelnetTerminal.step s).Settled

theorem Settled.settles (h : s.Settled) : s.Settles := ⟨[], nofun, h⟩

theorem Settles.of_step {input : TelnetInput} (hworker : input = .changed ∨ input = .work .ok)
    (h : (s.step input).Settles) : s.Settles := by
  obtain ⟨inputs, hothers, hsettled⟩ := h
  exact ⟨input :: inputs, List.forall_mem_cons.mpr ⟨hworker, hothers⟩, hsettled⟩

theorem settles_of_selecting (hstage : s.stage = .selecting) : s.Settles := by
  cases hchanged : s.resize.hasChanged with
  | false => exact Settled.settles ⟨hchanged, by rw [hstage]; rfl, by rw [hstage]; rfl⟩
  | true =>
    refine Settles.of_step (.inl rfl) ?_
    have hstep : s.step .changed =
        { s with resize := s.resize.markSeen
                 stage := if s.nawsEnabled then .resizing s.resize.value else .selecting } := by
      show s.changed = _
      unfold TelnetTerminal.changed
      rw [if_pos ⟨hstage, hchanged⟩]
      rfl
    rw [hstep]
    cases s.nawsEnabled with
    | false => exact Settled.settles ⟨rfl, rfl, rfl⟩
    | true => exact Settles.of_step (.inr rfl) (Settled.settles ⟨rfl, rfl, rfl⟩)

/-- The events that were read come to an end. -/
theorem settles_of_reading {size : BackendSize} {events : List TelnetEvent}
    (hstage : s.stage = .reading size events) : s.Settles := by
  induction events generalizing s with
  | nil =>
    refine Settles.of_step (.inr rfl) (settles_of_selecting ?_)
    show (s.work .ok).stage = .selecting
    simp only [TelnetTerminal.work, hstage]
  | cons event events ih =>
    refine Settles.of_step (.inr rfl) ?_
    show (s.work .ok).Settles
    simp only [TelnetTerminal.work, hstage]
    unfold TelnetTerminal.handleEvent
    cases event with
    | negotiation command option =>
      dsimp only
      split
      · split
        · exact ih rfl
        · -- the size is sent and the other events follow
          refine Settles.of_step (.inr rfl) (ih ?_)
          rfl
      · split <;> exact ih rfl
    | other => exact ih rfl

theorem settles (hrunning : s.stage.running = true) : s.Settles := by
  cases hstage : s.stage with rw [hstage] at hrunning
  | connecting | stopped | gone => exact (Bool.false_ne_true hrunning).elim
  | selecting => exact settles_of_selecting hstage
  | resizing size =>
    refine Settles.of_step (.inr rfl) (settles_of_selecting ?_)
    show (s.work .ok).stage = .selecting
    simp only [TelnetTerminal.work, hstage]
  | reading size events => exact settles_of_reading hstage
  | enabling size events =>
    have hreading : (s.work .ok).stage = .reading size events := by
      simp only [TelnetTerminal.work, hstage]
    exact Settles.of_step (.inr rfl) (settles_of_reading hreading)

end TelnetTerminal

/-! ## The three terminals -/

/-- What the requests of a local shell come to. -/
structure LocalShell.Converges (s : LocalShell) : Prop where
  latest : s.Settled → ∃ request, s.requests.getLast? = some request ∧
    s.resizes.head? = some (ptySize request.size)
  kept : ∀ request ∈ s.requests.tail, ptySize request.size =
    { rows := request.rows
      cols := request.columns
      pixelWidth := min request.pixelWidth u16Max
      pixelHeight := min request.pixelHeight u16Max }
  ordered : InOrder (s.requests.map fun request => ptySize request.size) s.resizes
  settles : s.stage.running = true → s.shutdownRequested = false → s.Settles

/-- What the requests of an SSH shell come to. -/
structure SshShell.Converges (s : SshShell) : Prop where
  latest : s.Settled → ∃ request, s.requests.getLast? = some request ∧
    s.resizes.head? = some request.size
  kept : ∀ request ∈ s.requests.tail, request.size =
    { columns := request.columns
      rows := request.rows
      pixelWidth := request.pixelWidth
      pixelHeight := request.pixelHeight }
  ordered : InOrder (s.requests.map SizeRequest.size) s.resizes
  settles : s.stage.running = true → s.Settles

/-- What the requests of a Telnet terminal come to. -/
structure TelnetTerminal.Converges (s : TelnetTerminal) : Prop where
  latest : s.Settled → s.nawsEnabled = true → ∃ request, s.requests.getLast? = some request ∧
    s.resizes.head? = some (windowSizePayload request.size)
  announced : ∀ request ∈ s.requests, announcedWindow (windowSizePayload request.size) =
    some (max 1 (min request.columns maxTerminalColumns),
      max 1 (min request.rows maxTerminalRows))
  ordered : InOrder (s.requests.map fun request => windowSizePayload request.size) s.resizes
  settles : s.stage.running = true → s.Settles

theorem LocalShell.Simulates.converges {s : LocalShell} {w : Watch BackendSize}
    (h : s.Simulates w) (hadmits : s.Admits) : s.Converges where
  latest := h.settled
  kept := fun request hmem => (hadmits.admitted.tail request hmem).ptySize_eq
  ordered := by
    have horder := h.stage.inOrder
    rw [sizes, List.map_map] at horder
    exact horder
  settles := LocalShell.settles

theorem SshShell.Inv.converges {s : SshShell} (h : s.Inv) (hadmitted : Admitted s.requests) :
    s.Converges where
  latest := h.settled
  kept := fun request hmem => (hadmitted.tail request hmem).size_eq
  ordered := by
    have horder := h.stage.inOrder
    rw [List.map_id] at horder
    exact horder
  settles := SshShell.settles

theorem TelnetTerminal.Inv.converges {s : TelnetTerminal} (h : s.Inv) : s.Converges where
  latest := h.settled
  announced := fun request _ => announcedWindow_payload request.columns request.rows
  ordered := by
    have horder := h.stage.inOrder
    rw [sizes, List.map_map] at horder
    exact horder
  settles := TelnetTerminal.settles

/-- After every interleaving of requests with what the workers do, a worker that has no resize left
    has told the backend the size of the last accepted request, and what it told the backend keeps
    the order of the requests.  A server that speaks Telnet is told the size while NAWS is enabled.
    The size is the one of the request within the limits of the backend. -/
theorem resizes_converge :
    (∀ (columns rows : Nat) (inputs : List LocalInput),
      (inputs.foldl LocalShell.step (.spawn columns rows)).Converges) ∧
    (∀ (columns rows : Nat) (inputs : List SshInput),
      (inputs.foldl SshShell.step (.spawn columns rows)).Converges) ∧
    ∀ (columns rows : Nat) (inputs : List TelnetInput),
      (inputs.foldl TelnetTerminal.step (.spawn columns rows)).Converges := by
  refine ⟨?_, ?_, ?_⟩
  · intro columns rows inputs
    obtain ⟨w, hsimulates⟩ := (LocalShell.simulates_spawn columns rows).run inputs
    exact hsimulates.converges ((LocalShell.admits_spawn columns rows).run inputs)
  · intro columns rows inputs
    exact ((SshShell.inv_spawn columns rows).run inputs).converges
      (SshShell.admitted_run ⟨_, [], rfl, nofun⟩ inputs)
  · intro columns rows inputs
    exact ((TelnetTerminal.inv_spawn columns rows).run inputs).converges

/-- Two requests whose wake-ups are lost in a full queue, the second while the first is carried
    out. -/
def fullQueueRun : List LocalInput :=
  [.work .ok, .work .ok] ++ List.replicate 32 .send ++
    [.request ⟨100, 30, 900, 600⟩, .store, .wake, .work .ok, .work .ok,
      .request ⟨120, 40, 0, 0⟩, .store, .wake, .work .ok, .work .ok, .work .ok, .work .ok,
      .work .ok, .work .ok, .work .ok, .work .ok]

/-- A request while the shell is opened and one back to the first size. -/
def returningRun : List SshInput :=
  [.work .ok, .request ⟨100, 30, 0, 0⟩, .work .ok, .request ⟨80, 24, 0, 0⟩, .work .ok, .changed,
    .work .ok]

/-- A request while the server has switched NAWS off. -/
def switchedNawsRun : List TelnetInput :=
  [.work .ok, .received [.negotiation OpCommand.do naws, .negotiation OpCommand.dont naws],
    .work .ok, .work .ok, .work .ok, .work .ok, .request 132 50, .changed,
    .received [.negotiation OpCommand.do naws], .work .ok, .work .ok, .work .ok]

set_option maxRecDepth 4096 in
theorem resizes_converge_runs :
    (fullQueueRun.foldl LocalShell.step (.spawn 80 24)).resizes.head? = some ⟨40, 120, 0, 0⟩ ∧
    (returningRun.foldl SshShell.step (.spawn 80 24)).resizes.head? = some ⟨⟨80, 24⟩, 0, 0⟩ ∧
    (switchedNawsRun.foldl TelnetTerminal.step (.spawn 80 24)).resizes.head? =
      some [0, 132, 0, 50] := by
  refine ⟨?_, ?_, ?_⟩
  · obtain ⟨request, hlast, htold⟩ := (resizes_converge.1 80 24 fullQueueRun).latest (by decide)
    cases hlast
    exact htold
  · obtain ⟨request, hlast, htold⟩ := (resizes_converge.2.1 80 24 returningRun).latest (by decide)
    cases hlast
    exact htold
  · obtain ⟨request, hlast, htold⟩ :=
      (resizes_converge.2.2 80 24 switchedNawsRun).latest (by decide) (by decide)
    cases hlast
    exact htold

/-- The sizes as they were asked for: a Telnet terminal takes a request for no columns and no rows
    and announces one of each, and a PTY is told at most `u16Max` pixels. -/
theorem requests_are_clamped :
    (¬∀ inputs : List TelnetInput,
      let s := inputs.foldl TelnetTerminal.step (.spawn 80 24)
      s.Settled → s.nawsEnabled = true → ∀ request, s.requests.getLast? = some request →
        s.resizes.head?.bind announcedWindow = some (request.columns, request.rows)) ∧
    ¬∀ inputs : List LocalInput,
      let s := inputs.foldl LocalShell.step (.spawn 80 24)
      s.Settled → ∀ request, s.requests.getLast? = some request →
        s.resizes.head?.map PtySize.pixelWidth = some request.pixelWidth := by
  constructor
  · intro h
    have hwindow := h [.work .ok, .received [.negotiation OpCommand.do naws], .work .ok, .work .ok,
      .work .ok, .request 0 0, .changed, .work .ok] (by decide) (by decide) _ rfl
    revert hwindow
    decide
  · intro h
    have hpixels := h [.work .ok, .work .ok, .request ⟨80, 24, 70000, 0⟩, .store, .wake, .work .ok,
      .work .ok, .work .ok] (by decide) _ rfl
    revert hpixels
    decide

end AxSsh.Resize
