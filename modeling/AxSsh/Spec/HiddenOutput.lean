import AxSsh.Native.TerminalMonitor
import AxSsh.Spec.SnapshotDeltas

/-!
# Output that waits for its deadline

Processed output stays hidden while `output_frame_pending` is set, and a monitor of the tab lifts
the flag when its deadline passes.  `Deferred` says that the flag is set only while a monitor has
such a deadline.  A step keeps it exactly when it drops no deadline under the flag and presents
nothing during a synchronized update.

## Key results
- `DisplayTab.terminalSnapshotForUi_current`: without the flag the UI gets the current screen
- `MonitoredTab.step_deferred_iff`: exactly the safe steps keep a deadline for the flag
- `MonitoredTab.presents_throughout_iff`: the same for whole runs
-/

namespace AxSsh

/-! ## The flag -/

namespace DisplayTab

variable {σ : Type} {E : Emulator σ} {t t' : DisplayTab σ}

/-- The lines kept from the last snapshot are those of every row that is not damaged. -/
def Accounted (E : Emulator σ) (t : DisplayTab σ) : Prop :=
  ∀ m, t.terminal = some m → m.Accounted E

theorem Moves.accounted (hmoves : t.Moves E t') (h : t.Accounted E) : t'.Accounted E := by
  intro m' hm'
  obtain ⟨m, hm, hmove⟩ := hmoves.model m' hm'
  exact (h m hm).of_reports hmove.lines hmove.reports

@[simp] theorem outputFramePending_synchronizedOutputPending (E : Emulator σ) (now : Instant)
    (t : DisplayTab σ) :
    (t.synchronizedOutputPending E now).1.outputFramePending = t.outputFramePending := by
  unfold synchronizedOutputPending
  split <;> rfl

@[simp] theorem outputFramePending_takeSnapshot (E : Emulator σ) (t : DisplayTab σ) :
    (t.takeSnapshot E).1.outputFramePending = t.outputFramePending := by
  unfold takeSnapshot
  split <;> rfl

theorem accounted_takeSnapshot (hE : E.ReportsDamage) (h : t.Accounted E) :
    (t.takeSnapshot E).1.Accounted E := by
  unfold takeSnapshot
  cases hm : t.terminal with
  | none => exact h
  | some m => exact fun m' hm' => Option.some.inj hm' ▸ ScreenModel.accounted_snapshot hE (h m hm)

@[simp] theorem outputFramePending_showSnapshot (t : DisplayTab σ)
    (currentSnapshot : Option TerminalSnapshot) :
    (t.showSnapshot currentSnapshot).1.outputFramePending = t.outputFramePending := by
  unfold showSnapshot
  split <;> rfl

@[simp] theorem terminal_showSnapshot (t : DisplayTab σ)
    (currentSnapshot : Option TerminalSnapshot) :
    (t.showSnapshot currentSnapshot).1.terminal = t.terminal := by
  unfold showSnapshot
  split <;> rfl

/-- Admitting a snapshot lifts the flag, unless a synchronized update is active. -/
theorem outputFramePending_prepare (E : Emulator σ) (now : Instant) (t : DisplayTab σ) :
    (t.prepareTerminalOutputSnapshot E now).1.outputFramePending =
      ((t.synchronizedOutputPending E now).2 && t.outputFramePending) := by
  unfold prepareTerminalOutputSnapshot
  have hflag := outputFramePending_synchronizedOutputPending E now t
  cases hsync : t.synchronizedOutputPending E now with
  | mk tab held =>
    rw [hsync] at hflag
    cases held with
    | true => exact hflag
    | false =>
      simp only [Bool.false_eq_true, ↓reduceIte, Bool.false_and]
      unfold takeSnapshot
      cases tab.terminal with
      | none => rfl
      | some m =>
        dsimp only
        split <;> rfl

theorem accounted_prepare (hE : E.ReportsDamage) (now : Instant) (h : t.Accounted E) :
    (t.prepareTerminalOutputSnapshot E now).1.Accounted E := by
  have hsynced := (moves_synchronizedOutputPending hE now t).accounted h
  unfold prepareTerminalOutputSnapshot
  cases hsync : t.synchronizedOutputPending E now with
  | mk tab held =>
    rw [hsync] at hsynced
    cases held with
    | true => exact hsynced
    | false =>
      have htaken : (({ tab with outputFramePending := false } : DisplayTab σ).takeSnapshot
        E).1.Accounted E := accounted_takeSnapshot hE hsynced
      simp only [Bool.false_eq_true, ↓reduceIte]
      cases htake : ({ tab with outputFramePending := false } : DisplayTab σ).takeSnapshot E with
      | mk tab' taken =>
        rw [htake] at htaken
        cases taken with
        | none => exact htaken
        | some snapshot =>
          dsimp only
          split <;> exact htaken

@[simp] theorem outputFramePending_terminalSnapshotForUi (E : Emulator σ) (now : Instant)
    (t : DisplayTab σ) :
    (t.terminalSnapshotForUi E now).1.outputFramePending = t.outputFramePending := by
  have hflag := outputFramePending_synchronizedOutputPending E now t
  unfold terminalSnapshotForUi
  cases hsync : t.synchronizedOutputPending E now with
  | mk tab held =>
    rw [hsync] at hflag
    cases held with
    | true => exact hflag
    | false =>
      simp only [Bool.false_eq_true, ↓reduceIte, outputFramePending_showSnapshot]
      split
      · exact hflag
      · rw [outputFramePending_takeSnapshot]
        exact hflag

theorem accounted_terminalSnapshotForUi (hE : E.ReportsDamage) (now : Instant)
    (h : t.Accounted E) : (t.terminalSnapshotForUi E now).1.Accounted E := by
  have hsynced := (moves_synchronizedOutputPending hE now t).accounted h
  unfold terminalSnapshotForUi
  cases hsync : t.synchronizedOutputPending E now with
  | mk tab held =>
    rw [hsync] at hsynced
    cases held with
    | true => exact hsynced
    | false =>
      simp only [Bool.false_eq_true, ↓reduceIte]
      unfold Accounted
      rw [terminal_showSnapshot]
      split
      · exact hsynced
      · exact accounted_takeSnapshot hE hsynced

/-- Without the flag and outside a synchronized update, the UI gets the lines and the cursor of
    the current screen. -/
theorem terminalSnapshotForUi_current (hE : E.ReportsDamage) {now : Instant} {m : ScreenModel σ}
    (h : t.Accounted E) (hflag : t.outputFramePending = false)
    (hheld : (t.synchronizedOutputPending E now).2 = false)
    (hm : (t.synchronizedOutputPending E now).1.terminal = some m) :
    ∃ snapshot, (t.terminalSnapshotForUi E now).2 = some snapshot ∧
      snapshot.lines.map (·.runs) = (E.rows m.term).map (fun cells => (styledLine cells).runs) ∧
      snapshot.frame.cursor = E.cursor m.term := by
  have hsynced := (moves_synchronizedOutputPending hE now t).accounted h
  have hlifted := outputFramePending_synchronizedOutputPending E now t
  unfold terminalSnapshotForUi
  cases hsync : t.synchronizedOutputPending E now with
  | mk tab held =>
    rw [hsync] at hsynced hlifted hheld hm
    dsimp only at hsynced hlifted hheld hm
    have hcursor : (m.snapshot E).2.frame.cursor = E.cursor m.term := (hE.resetDamage m.term).2
    simp only [hheld, hlifted, hflag, Bool.false_eq_true, ↓reduceIte, takeSnapshot, hm]
    unfold showSnapshot
    dsimp only
    cases tab.pendingTerminalSnapshot with
    | none => exact ⟨_, rfl, ScreenModel.snapshot_shows (hsynced m hm), hcursor⟩
    | some pending =>
      refine ⟨_, rfl, ?_, ?_⟩
      · rw [lines_mergeTerminalSnapshots]
        exact ScreenModel.snapshot_shows (hsynced m hm)
      · unfold mergeTerminalSnapshots
        split <;> exact hcursor

/-- Output raises the flag, and an empty chunk leaves it. -/
theorem outputFramePending_processTerminalOutput (E : Emulator σ) (now : Instant)
    (data : List UInt8) (workerAccepts : Bool) (t : DisplayTab σ) :
    (t.processTerminalOutput E now data workerAccepts).1.outputFramePending =
      (t.outputFramePending || (t.terminal.isSome && data ≠ [])) := by
  unfold processTerminalOutput
  cases hm : t.terminal with
  | none => simp
  | some m =>
    dsimp only
    split <;> split <;> simp_all [deferOutputPresentation]

/-! The operations of the user lift the flag or leave it. -/

/-- A change of the terminal that may drop the pending snapshot. -/
theorem eases_dropIf {t tab : DisplayTab σ} (changed : Bool) (hmoves : t.Moves E tab)
    (hflag : tab.outputFramePending = t.outputFramePending) (h : t.Accounted E) :
    let t' := if changed then tab.discardPendingTerminalSnapshot else tab
    t'.Accounted E ∧ (t'.outputFramePending = true → t.outputFramePending = true) := by
  cases changed with
  | false => exact ⟨hmoves.accounted h, fun hset => hflag ▸ hset⟩
  | true => exact ⟨hmoves.accounted h, fun hset => nomatch hset⟩

theorem eases_scrollTerminal (hE : E.ReportsDamage) (lines : Int) (h : t.Accounted E) :
    let t' := (t.scrollTerminal E lines).1
    t'.Accounted E ∧ (t'.outputFramePending = true → t.outputFramePending = true) := by
  unfold scrollTerminal
  cases hm : t.terminal with
  | none => exact ⟨h, id⟩
  | some m => exact eases_dropIf _ (moves_of_model hm (ScreenModel.moves_scroll hE lines m)) rfl h

theorem eases_scrollTerminalToBottom (hE : E.ReportsDamage) (h : t.Accounted E) :
    let t' := (t.scrollTerminalToBottom E).1
    t'.Accounted E ∧ (t'.outputFramePending = true → t.outputFramePending = true) := by
  unfold scrollTerminalToBottom
  cases hm : t.terminal with
  | none => exact ⟨h, id⟩
  | some m => exact eases_dropIf _ (moves_of_model hm (ScreenModel.moves_scrollToBottom hE m)) rfl h

theorem eases_resizeTerminalWithMetrics (hE : E.ReportsDamage)
    (columns rows cellWidth cellHeight : UInt32) (accepted : Bool × Bool) (h : t.Accounted E) :
    let t' := (t.resizeTerminalWithMetrics E columns rows cellWidth cellHeight accepted).1
    t'.Accounted E ∧ (t'.outputFramePending = true → t.outputFramePending = true) := by
  unfold resizeTerminalWithMetrics
  cases hm : t.terminal with
  | none => exact ⟨h, id⟩
  | some m =>
    dsimp only
    split
    · exact ⟨h, id⟩
    · split
      · exact ⟨h, id⟩
      · exact eases_dropIf _
          (moves_of_model hm (DisplayState.moves_resizeModel hE _ cellWidth cellHeight m)) rfl h

theorem eases_applyScrollbackSetting (hE : E.ReportsDamage) (scrollbackLines : Nat)
    (osc52Clipboard : Bool) (h : t.Accounted E) :
    let t' := t.applyScrollbackSetting E scrollbackLines osc52Clipboard
    t'.Accounted E ∧ (t'.outputFramePending = true → t.outputFramePending = true) := by
  unfold applyScrollbackSetting
  cases hm : t.terminal with
  | none => exact ⟨h, id⟩
  | some m =>
    have hmoves := (ScreenModel.moves_setScrollbackLines hE scrollbackLines m).trans
      (ScreenModel.moves_setOsc52ClipboardEnabled hE osc52Clipboard _)
    exact eases_dropIf true (moves_of_model hm hmoves) rfl h

end DisplayTab

/-! ## Monitors -/

namespace MonitoredTab

variable {σ : Type} {E : Emulator σ} {s : MonitoredTab σ}

/-- The flag is set only while some monitor has output to present. -/
def Deferred (s : MonitoredTab σ) : Prop :=
  s.tab.outputFramePending = true → ∃ id monitor, s.monitors.lookup id = some monitor ∧
    monitor.presentation.hasPendingOutput = true

/-- A monitor besides the given one has output to present. -/
def OtherPending (s : MonitoredTab σ) (id : Uuid) : Prop :=
  ∃ id' monitor, id' ≠ id ∧ s.monitors.lookup id' = some monitor ∧
    monitor.presentation.hasPendingOutput = true

/-- What every run keeps: damage is accounted for, and a monitor that saw the end of its
    connection no longer has the tab. -/
structure Sound (E : Emulator σ) (s : MonitoredTab σ) : Prop where
  accounted : s.tab.Accounted E
  retired : s.kind = .ssh → ∀ id monitor, s.monitors.lookup id = some monitor →
    monitor.terminalEvent = true → s.attempt ≠ some id

/-- The event takes the deadline of its monitor away. -/
def drops (s : MonitoredTab σ) (monitor : Monitor) : MonitorEvent → Bool
  | .output _ _ _ _ _ => s.kind = .ssh && monitor.terminalEvent
  | .disconnected => s.kind ≠ .local
  | .failed => true
  | .retry skipsEnd => s.kind = .ssh && !skipsEnd
  | .other skipsEnd => !skipsEnd && s.kind = .ssh && monitor.terminalEvent

/-- A step under the flag takes the deadline of a monitor away, or presents during a synchronized
    update, only when another monitor has one. -/
def Safe (E : Emulator σ) (s : MonitoredTab σ) : MonitorOp → Prop
  | .event id event => ∀ monitor, s.monitors.lookup id = some monitor →
      s.drops monitor event = true → s.tab.outputFramePending = true → s.OtherPending id
  | .endStream id => ∀ monitor, s.monitors.lookup id = some monitor →
      s.tab.outputFramePending = true → s.OtherPending id
  | .present id mode policy now preparedAt => ∀ monitor, s.monitors.lookup id = some monitor →
      monitor.presentation.isReady mode policy now = true → s.tab.outputFramePending = true →
      (s.tab.synchronizedOutputPending E preparedAt).2 = true → s.OtherPending id
  | _ => True

/-- A monitor is replaced by one without output to present. -/
theorem deferred_setMonitor_iff (tab : DisplayTab σ) (attempt : Option Uuid) {id : Uuid}
    {monitor : Monitor} (h : monitor.presentation.hasPendingOutput = false) :
    (setMonitor { s with tab := tab, attempt := attempt } id monitor).Deferred ↔
      (tab.outputFramePending = true → s.OtherPending id) := by
  unfold Deferred OtherPending setMonitor
  refine imp_congr_right fun _ => ⟨?_, ?_⟩
  · rintro ⟨id', monitor', hlookup, hpending⟩
    rw [AssocMap.lookup_insert_ite] at hlookup
    split at hlookup
    · rw [← Option.some.inj hlookup, h] at hpending
      exact nomatch hpending
    · next hne => exact ⟨id', monitor', hne, hlookup, hpending⟩
  · rintro ⟨id', monitor', hne, hlookup, hpending⟩
    exact ⟨id', monitor', by rwa [AssocMap.lookup_insert_ite, if_neg hne], hpending⟩

/-- A monitor ends. -/
theorem deferred_endMonitor_iff (attempt : Option Uuid) {id : Uuid} :
    (endMonitor { s with attempt := attempt } id).Deferred ↔
      (s.tab.outputFramePending = true → s.OtherPending id) := by
  unfold Deferred OtherPending endMonitor
  refine imp_congr_right fun _ => ⟨?_, ?_⟩
  · rintro ⟨id', monitor', hlookup, hpending⟩
    rw [AssocMap.lookup_erase_ite] at hlookup
    split at hlookup
    · exact nomatch hlookup
    · next hne => exact ⟨id', monitor', hne, hlookup, hpending⟩
  · rintro ⟨id', monitor', hne, hlookup, hpending⟩
    exact ⟨id', monitor', by rwa [AssocMap.lookup_erase_ite, if_neg hne], hpending⟩

/-- A monitor that is put back keeps its deadline. -/
theorem Deferred.setMonitor {id : Uuid} {monitor monitor' : Monitor} (h : s.Deferred)
    (hlookup : s.monitors.lookup id = some monitor)
    (hsame : monitor'.presentation = monitor.presentation) (attempt : Option Uuid) :
    (MonitoredTab.setMonitor { s with attempt := attempt } id monitor').Deferred := by
  intro hflag
  obtain ⟨id', found, hfound, hpending⟩ := h hflag
  by_cases heq : id' = id
  · refine ⟨id', monitor', (AssocMap.lookup_insert_ite _ _ _ _).trans (if_pos heq), ?_⟩
    rw [heq, hlookup] at hfound
    rw [hsame, Option.some.inj hfound]
    exact hpending
  · exact ⟨id', found, (AssocMap.lookup_insert_ite _ _ _ _).trans (by rw [if_neg heq, hfound]),
      hpending⟩

/-- The end of a turn takes the deadline of an SSH monitor away once its connection has ended. -/
theorem finishTurn_deferred_iff {id : Uuid} {monitor : Monitor} (h : s.Deferred)
    (hlookup : s.monitors.lookup id = some monitor) :
    (s.setMonitor id (finishTurn s.kind monitor)).Deferred ↔
      ((s.kind = .ssh && monitor.terminalEvent) = true → s.tab.outputFramePending = true →
        s.OtherPending id) := by
  unfold finishTurn
  split
  · next hended =>
    rw [show (decide (s.kind = .ssh) && monitor.terminalEvent) = true by simp [hended]]
    simpa only [true_implies] using deferred_setMonitor_iff s.tab s.attempt (by rfl)
  · next hopen =>
    refine iff_of_true (h.setMonitor hlookup rfl s.attempt) fun hended => absurd ?_ hopen
    simpa using hended

/-- Output that is processed gives its monitor a deadline. -/
theorem handleOutput_deferred_iff {id : Uuid} {monitor : Monitor} (hs : s.Sound E)
    (h : s.Deferred) (hlookup : s.monitors.lookup id = some monitor)
    (now recordedAt receivedAt : Instant) (data : List UInt8) (workerAccepts : Bool) :
    (s.handleOutput E id monitor now recordedAt receivedAt data workerAccepts).Deferred ↔
      ((s.kind = .ssh && monitor.terminalEvent) = true → s.tab.outputFramePending = true →
        s.OtherPending id) := by
  unfold handleOutput
  split
  · next hcurrent =>
    -- a monitor that has the tab has not seen the end of its connection
    have hopen : ¬(s.kind = .ssh ∧ monitor.terminalEvent = true) := by
      intro ⟨hssh, hended⟩
      have hattempt := hs.retired hssh id monitor hlookup hended
      simp [current, hssh, hattempt] at hcurrent
    refine iff_of_true ?_ fun hended => absurd (by simpa using hended) hopen
    have hflag := DisplayTab.outputFramePending_processTerminalOutput E now data workerAccepts s.tab
    dsimp only
    unfold finishTurn
    rw [if_neg hopen]
    by_cases hdata : data = []
    · have hsame : (s.tab.processTerminalOutput E now data workerAccepts).1.outputFramePending =
          s.tab.outputFramePending := by rw [hflag, hdata]; simp
      rw [if_neg (by simpa using hdata)]
      intro hset
      exact h.setMonitor hlookup rfl s.attempt (hsame ▸ hset)
    · rw [if_pos hdata]
      intro _
      exact ⟨id, _, (AssocMap.lookup_insert_ite _ _ _ _).trans (if_pos rfl), rfl⟩
  · exact finishTurn_deferred_iff h hlookup

/-- Retiring takes the attempt away from the route, if the route still has it. -/
theorem retire_eq (s : MonitoredTab σ) (id : Uuid) :
    ∃ attempt, s.retire id = { s with attempt := attempt } ∧
      (attempt = none ∨ attempt = s.attempt) ∧ attempt ≠ some id := by
  unfold retire
  split
  · exact ⟨none, rfl, .inl rfl, fun h => nomatch h⟩
  · next hstale =>
    refine ⟨s.attempt, rfl, .inr rfl, fun hsame => hstale ?_⟩
    simp [current, hsame]

theorem handleTerminalEvent_deferred_iff {id : Uuid} {monitor : Monitor} :
    (s.handleTerminalEvent id monitor).Deferred ↔
      (s.tab.outputFramePending = true → s.OtherPending id) := by
  unfold handleTerminalEvent
  obtain ⟨attempt, hretire, -⟩ := s.retire_eq id
  rw [hretire]
  exact deferred_setMonitor_iff s.tab attempt rfl

theorem handleEvent_deferred_iff {id : Uuid} {monitor : Monitor} (hs : s.Sound E)
    (h : s.Deferred) (hlookup : s.monitors.lookup id = some monitor) (event : MonitorEvent) :
    (s.handleEvent E id monitor event).Deferred ↔
      (s.drops monitor event = true → s.tab.outputFramePending = true → s.OtherPending id) := by
  cases event with
  | output now recordedAt receivedAt data workerAccepts =>
    exact handleOutput_deferred_iff hs h hlookup now recordedAt receivedAt data workerAccepts
  | disconnected =>
    unfold handleEvent drops
    by_cases hlocal : s.kind = .local
    · simpa [hlocal] using h
    · simpa [hlocal] using handleTerminalEvent_deferred_iff
  | failed =>
    unfold handleEvent drops
    by_cases hlocal : s.kind = .local
    · simpa [hlocal] using deferred_endMonitor_iff s.attempt
    · simpa [hlocal] using handleTerminalEvent_deferred_iff
  | retry skipsEnd =>
    unfold handleEvent drops
    by_cases hssh : s.kind = .ssh
    · obtain ⟨attempt, hretire, -⟩ := s.retire_eq id
      have hdrops : (decide (s.kind = .ssh) && !skipsEnd) = !skipsEnd := by simp [hssh]
      -- for an SSH tab the retry ends the monitor of its attempt
      dsimp only
      rw [if_pos hssh, hretire, hdrops]
      cases skipsEnd with
      | true =>
        rw [if_pos rfl]
        exact iff_of_true (h.setMonitor hlookup (by rfl) attempt) fun hskip => nomatch hskip
      | false =>
        have hfinish : finishTurn s.kind { monitor with terminalEvent := true } =
            { presentation := monitor.presentation.clearPendingOutput, terminalEvent := true } :=
          if_pos ⟨hssh, rfl⟩
        rw [hfinish]
        simpa only [Bool.not_false, true_implies] using
          deferred_setMonitor_iff s.tab attempt rfl
    · simpa [hssh] using h
  | other skipsEnd =>
    unfold handleEvent drops
    cases skipsEnd with
    | true => simpa using h
    | false => simpa using finishTurn_deferred_iff h hlookup

/-- Presenting lifts the flag, unless a synchronized update is active. -/
theorem present_deferred_iff {id : Uuid} {monitor : Monitor} (now preparedAt : Instant) :
    (s.present E id monitor now preparedAt).Deferred ↔
      (s.tab.outputFramePending = true →
        (s.tab.synchronizedOutputPending E preparedAt).2 = true → s.OtherPending id) := by
  unfold present
  refine (deferred_setMonitor_iff _ s.attempt rfl).trans ?_
  rw [DisplayTab.outputFramePending_prepare, Bool.and_eq_true]
  constructor
  · exact fun h hflag hheld => h ⟨hheld, hflag⟩
  · exact fun h hboth => h hboth.2 hboth.1

/-- An operation that lifts the flag or leaves it. -/
theorem Deferred.of_eases {tab : DisplayTab σ} (h : s.Deferred)
    (heases : tab.outputFramePending = true → s.tab.outputFramePending = true) :
    Deferred { s with tab := tab } := fun hflag => h (heases hflag)

/-- **One step.**  A step keeps a deadline for the flag exactly when it is safe. -/
theorem step_deferred_iff (hE : E.ReportsDamage) (hs : s.Sound E) (h : s.Deferred)
    (op : MonitorOp) : (s.apply E op).Deferred ↔ s.Safe E op := by
  have hacc := hs.accounted
  cases op with
  | event id event =>
    simp only [apply, Safe]
    cases hlookup : s.monitors.lookup id with
    | none => exact iff_of_true h fun monitor hm => nomatch hm
    | some monitor =>
      refine (handleEvent_deferred_iff hs h hlookup event).trans ?_
      constructor
      · exact fun hsafe monitor' hm => Option.some.inj hm ▸ hsafe
      · exact fun hsafe => hsafe monitor rfl
  | endStream id =>
    simp only [apply, Safe]
    cases hlookup : s.monitors.lookup id with
    | none => exact iff_of_true h fun monitor hm => nomatch hm
    | some monitor =>
      have hend : (s.endStream id monitor).Deferred ↔
          (s.tab.outputFramePending = true → s.OtherPending id) := by
        unfold endStream
        obtain ⟨attempt, hretire, -⟩ := s.retire_eq id
        dsimp only
        split
        · rw [hretire]
          exact deferred_endMonitor_iff attempt
        · exact deferred_endMonitor_iff s.attempt
      refine hend.trans ⟨fun hsafe _ _ => hsafe, fun hsafe => hsafe monitor rfl⟩
  | present id mode policy now preparedAt =>
    simp only [apply, Safe]
    cases hlookup : s.monitors.lookup id with
    | none => exact iff_of_true h fun monitor hm => nomatch hm
    | some monitor =>
      dsimp only
      split
      · next hready =>
        refine (present_deferred_iff now preparedAt).trans ⟨?_, ?_⟩
        · exact fun hsafe _ _ _ => hsafe
        · exact fun hsafe => hsafe monitor rfl hready
      · next hwaits =>
        refine iff_of_true h fun monitor' hm hready => absurd ?_ hwaits
        rwa [Option.some.inj hm]
  | startAttempt id =>
    simp only [apply, Safe]
    refine iff_of_true ?_ trivial
    cases hlookup : s.monitors.lookup id with
    | some monitor => exact h
    | none =>
      -- the new monitor takes no one's place
      intro hflag
      obtain ⟨id', monitor', hlookup', hpending⟩ := h hflag
      have hne : id' ≠ id := by
        rintro rfl
        exact nomatch hlookup.symm.trans hlookup'
      exact ⟨id', monitor', (AssocMap.lookup_insert_ite _ _ _ _).trans (by rw [if_neg hne, hlookup']),
        hpending⟩
  | dropAttempt => exact iff_of_true h trivial
  | refresh now =>
    refine iff_of_true (h.of_eases fun hflag => ?_) trivial
    rwa [DisplayTab.outputFramePending_terminalSnapshotForUi] at hflag
  | resize columns rows cellWidth cellHeight accepted =>
    exact iff_of_true (h.of_eases (DisplayTab.eases_resizeTerminalWithMetrics hE columns rows
      cellWidth cellHeight accepted hacc).2) trivial
  | scroll lines =>
    exact iff_of_true (h.of_eases (DisplayTab.eases_scrollTerminal hE lines hacc).2) trivial
  | scrollToBottom =>
    exact iff_of_true (h.of_eases (DisplayTab.eases_scrollTerminalToBottom hE hacc).2) trivial
  | applySettings scrollbackLines osc52Clipboard =>
    exact iff_of_true (h.of_eases (DisplayTab.eases_applyScrollbackSetting hE scrollbackLines
      osc52Clipboard hacc).2) trivial

/-! ## Runs -/

theorem ne_some_of_dropped {attempt old : Option Uuid} {id : Uuid}
    (h : attempt = none ∨ attempt = old) (hold : old ≠ some id) : attempt ≠ some id := by
  rcases h with rfl | rfl
  · exact fun h => nomatch h
  · exact hold

theorem Sound.setMonitor {tab : DisplayTab σ} {attempt : Option Uuid} {id : Uuid}
    {monitor : Monitor} (hs : s.Sound E) (hacc : tab.Accounted E)
    (hattempt : attempt = none ∨ attempt = s.attempt)
    (hretired : s.kind = .ssh → monitor.terminalEvent = true → attempt ≠ some id) :
    (MonitoredTab.setMonitor { s with tab := tab, attempt := attempt } id monitor).Sound E where
  accounted := hacc
  retired hssh id' monitor' hlookup hended := by
    have hfound := (AssocMap.lookup_insert_ite s.monitors id id' monitor).symm.trans hlookup
    split at hfound
    · next heq =>
      rw [heq]
      exact hretired hssh (by rw [Option.some.inj hfound, hended])
    · exact ne_some_of_dropped hattempt (hs.retired hssh id' monitor' hfound hended)

theorem Sound.endMonitor {attempt : Option Uuid} {id : Uuid} (hs : s.Sound E)
    (hattempt : attempt = none ∨ attempt = s.attempt) :
    (MonitoredTab.endMonitor { s with attempt := attempt } id).Sound E where
  accounted := hs.accounted
  retired hssh id' monitor' hlookup hended := by
    have hfound := (AssocMap.lookup_erase_ite s.monitors id id').symm.trans hlookup
    split at hfound
    · exact nomatch hfound
    · exact ne_some_of_dropped hattempt (hs.retired hssh id' monitor' hfound hended)

/-- A change of the tab that leaves the monitors and the route. -/
theorem Sound.of_tab {tab : DisplayTab σ} (hs : s.Sound E) (hacc : tab.Accounted E) :
    Sound E { s with tab := tab } := ⟨hacc, hs.retired⟩

theorem terminalEvent_finishTurn (kind : MonitorKind) (monitor : Monitor) :
    (finishTurn kind monitor).terminalEvent = monitor.terminalEvent := by
  unfold finishTurn
  split <;> rfl

theorem Sound.handleEvent (hE : E.ReportsDamage) {id : Uuid} {monitor : Monitor}
    (hs : s.Sound E) (hlookup : s.monitors.lookup id = some monitor) (event : MonitorEvent) :
    (s.handleEvent E id monitor event).Sound E := by
  have hacc := hs.accounted
  have hkept : s.kind = .ssh → monitor.terminalEvent = true → s.attempt ≠ some id :=
    fun hssh hended => hs.retired hssh id monitor hlookup hended
  obtain ⟨attempt, hretire, hattempt, hstale⟩ := s.retire_eq id
  -- the end of an attempt retires its monitor
  have hterminal : (s.handleTerminalEvent id monitor).Sound E := by
    unfold handleTerminalEvent
    rw [hretire]
    exact hs.setMonitor hacc hattempt fun _ _ => hstale
  cases event with
  | output now recordedAt receivedAt data workerAccepts =>
    have hout := (DisplayTab.moves_processTerminalOutput hE now data workerAccepts s.tab).accounted
      hacc
    unfold MonitoredTab.handleEvent handleOutput
    dsimp only
    split
    -- output of the current monitor or of an older one; the turn ends the same
    · exact hs.setMonitor hout (.inr rfl) fun hssh hended =>
        hkept hssh (by rwa [terminalEvent_finishTurn] at hended)
    · exact hs.setMonitor hacc (.inr rfl) fun hssh hended =>
        hkept hssh (by rwa [terminalEvent_finishTurn] at hended)
  | disconnected =>
    unfold MonitoredTab.handleEvent
    dsimp only
    split
    · exact hs
    · exact hterminal
  | failed =>
    unfold MonitoredTab.handleEvent
    dsimp only
    split
    · exact hs.endMonitor (.inr rfl)
    · exact hterminal
  | retry skipsEnd =>
    unfold MonitoredTab.handleEvent
    dsimp only
    split
    · rw [hretire]
      exact hs.setMonitor hacc hattempt fun _ _ => hstale
    · exact hs
  | other skipsEnd =>
    unfold MonitoredTab.handleEvent
    dsimp only
    split
    · exact hs
    · exact hs.setMonitor hacc (.inr rfl) fun hssh hended =>
        hkept hssh (by rwa [terminalEvent_finishTurn] at hended)

theorem Sound.apply (hE : E.ReportsDamage) (hs : s.Sound E) (op : MonitorOp) :
    (s.apply E op).Sound E := by
  have hacc := hs.accounted
  cases op with
  | event id event =>
    simp only [MonitoredTab.apply]
    split
    · exact hs
    · next monitor hlookup => exact hs.handleEvent hE hlookup event
  | endStream id =>
    simp only [MonitoredTab.apply]
    split
    · exact hs
    · obtain ⟨attempt, hretire, hattempt, -⟩ := s.retire_eq id
      unfold MonitoredTab.endStream
      dsimp only
      split
      · rw [hretire]
        exact hs.endMonitor hattempt
      · exact hs.endMonitor (.inr rfl)
  | present id mode policy now preparedAt =>
    simp only [MonitoredTab.apply]
    split
    · exact hs
    · next monitor hlookup =>
      split
      · exact hs.setMonitor (DisplayTab.accounted_prepare hE preparedAt hacc) (.inr rfl)
          fun hssh hended => hs.retired hssh id monitor hlookup hended
      · exact hs
  | startAttempt id =>
    simp only [MonitoredTab.apply]
    split
    -- a new attempt has a fresh monitor, which has not ended
    · next hlookup =>
      refine ⟨hacc, fun hssh id' monitor' hlookup' hended => ?_⟩
      have hfound := (AssocMap.lookup_insert_ite s.monitors id id' {}).symm.trans hlookup'
      split at hfound
      · rw [← Option.some.inj hfound] at hended
        exact nomatch hended
      · next hne => exact fun heq => hne (Option.some.inj heq).symm
    · exact hs
  | dropAttempt => exact ⟨hacc, fun _ _ _ _ _ h => nomatch h⟩
  | refresh now => exact hs.of_tab (DisplayTab.accounted_terminalSnapshotForUi hE now hacc)
  | resize columns rows cellWidth cellHeight accepted =>
    exact hs.of_tab (DisplayTab.eases_resizeTerminalWithMetrics hE columns rows cellWidth cellHeight
      accepted hacc).1
  | scroll lines => exact hs.of_tab (DisplayTab.eases_scrollTerminal hE lines hacc).1
  | scrollToBottom => exact hs.of_tab (DisplayTab.eases_scrollTerminalToBottom hE hacc).1
  | applySettings scrollbackLines osc52Clipboard =>
    exact hs.of_tab (DisplayTab.eases_applyScrollbackSetting hE scrollbackLines osc52Clipboard
      hacc).1

/-- A tab that was just opened, before its first connection attempt. -/
structure Fresh (s : MonitoredTab σ) : Prop where
  model : ∀ m, s.tab.terminal = some m → m.snapshotLines = []
  flag : s.tab.outputFramePending = false
  monitors : s.monitors = ∅

theorem Fresh.sound (h : s.Fresh) : s.Sound E where
  accounted m hm := .inl (h.model m hm)
  retired _ id monitor hlookup := by
    rw [h.monitors, AList.lookup_empty] at hlookup
    exact nomatch hlookup

/-- Processed output does not stay hidden. -/
structure Presents (E : Emulator σ) (s : MonitoredTab σ) : Prop where
  /-- The flag is set only while a monitor has a deadline, ... -/
  deferred : s.Deferred
  /-- ... which lifts it, outside a synchronized update. -/
  lifted : ∀ id monitor now preparedAt,
    (s.tab.synchronizedOutputPending E preparedAt).2 = false →
      (s.present E id monitor now preparedAt).tab.outputFramePending = false
  /-- Once no monitor has output to present, the UI gets the current screen. -/
  shown : (∀ id monitor, s.monitors.lookup id = some monitor →
      monitor.presentation.hasPendingOutput = false) →
    ∀ now m, (s.tab.synchronizedOutputPending E now).2 = false →
      (s.tab.synchronizedOutputPending E now).1.terminal = some m →
      ∃ snapshot, (s.tab.terminalSnapshotForUi E now).2 = some snapshot ∧
        snapshot.lines.map (·.runs) = (E.rows m.term).map (fun cells => (styledLine cells).runs) ∧
        snapshot.frame.cursor = E.cursor m.term

theorem Sound.presents_iff (hE : E.ReportsDamage) (hs : s.Sound E) : s.Presents E ↔ s.Deferred := by
  refine ⟨fun h => h.deferred, fun h => ⟨h, fun id monitor now preparedAt hheld => ?_,
    fun hidle now m hheld hm => ?_⟩⟩
  · show (s.tab.prepareTerminalOutputSnapshot E preparedAt).1.outputFramePending = false
    rw [DisplayTab.outputFramePending_prepare, hheld, Bool.false_and]
  · have hflag : s.tab.outputFramePending = false := by
      rw [Bool.eq_false_iff]
      intro hset
      obtain ⟨id, monitor, hlookup, hpending⟩ := h hset
      exact Bool.noConfusion ((hidle id monitor hlookup).symm.trans hpending)
    exact DisplayTab.terminalSnapshotForUi_current hE hs.accounted hflag hheld hm

/-- **Runs.**  From a tab that was just opened, processed output never stays hidden exactly when
    every step is safe. -/
theorem presents_throughout_iff (E : Emulator σ) (hE : E.ReportsDamage) (s : MonitoredTab σ)
    (hs : s.Fresh) (ops : List MonitorOp) :
    Transition.Throughout (apply E) s (Presents E) ops ↔
      Transition.AllSafe (apply E) s (Safe E) ops := by
  have hsound (pre : List MonitorOp) : (pre.foldl (apply E) s).Sound E := by
    induction pre using List.reverseRecOn with
    | nil => exact hs.sound
    | append_singleton pre op ih =>
      rw [List.foldl_append]
      exact ih.apply hE op
  refine Transition.throughout_iff_allSafe ?_ fun pre op _ hpresents => ?_
  · exact (hs.sound.presents_iff hE).mpr fun hset => nomatch hs.flag.symm.trans hset
  · rw [((hsound pre).apply hE op).presents_iff hE]
    exact step_deferred_iff hE (hsound pre) hpresents.deferred op

/-- A Telnet tab that was just opened. -/
def opened : MonitoredTab Teletype where
  tab := DisplayState.opened.tab
  kind := .direct
  attempt := none
  monitors := ∅

theorem opened_fresh : opened.Fresh where
  model := DisplayState.opened_fresh.model
  flag := rfl
  monitors := rfl

/-- Output and the disconnect after it are taken from the queue before the deadline. -/
def queuedDisconnect : List MonitorOp :=
  [.startAttempt 1, .refresh 0, .event 1 (.output 1 2 0 [104, 105] true), .event 1 .disconnected]

/-- The output was parsed, no monitor has a deadline, and the UI still gets the empty screen. -/
theorem queuedDisconnect_hidden : ¬∀ (σ : Type) (E : Emulator σ), E.ReportsDamage →
    ∀ s : MonitoredTab σ, s.Fresh → ∀ ops,
      Transition.Throughout (apply E) s (Presents E) ops := by
  intro h
  have hpresents := h Teletype Teletype.emulator Teletype.reportsDamage opened opened_fresh
    queuedDisconnect queuedDisconnect (List.prefix_refl _)
  have hset : (queuedDisconnect.foldl (apply Teletype.emulator) opened).tab.outputFramePending =
      true := by decide
  have hidle : (queuedDisconnect.foldl (apply Teletype.emulator) opened).monitors.values.all
      (fun monitor => !monitor.presentation.hasPendingOutput) = true := by decide
  obtain ⟨id, monitor, hlookup, hpending⟩ := hpresents.deferred hset
  have hnone := List.all_eq_true.mp hidle monitor (AssocMap.mem_values.mpr ⟨id, hlookup⟩)
  rw [hpending] at hnone
  exact nomatch hnone

theorem presents_throughout_iff_queuedDisconnect :
    Transition.Throughout (apply Teletype.emulator) opened (Presents Teletype.emulator)
        queuedDisconnect ↔
      Transition.AllSafe (apply Teletype.emulator) opened (Safe Teletype.emulator)
        queuedDisconnect :=
  presents_throughout_iff Teletype.emulator Teletype.reportsDamage opened opened_fresh
    queuedDisconnect

end MonitoredTab

end AxSsh
