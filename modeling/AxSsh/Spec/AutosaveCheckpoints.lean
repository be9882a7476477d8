import AxSsh.Native.WorkspaceAutosave
import Mathlib.Order.Monotone.Defs

/-!
# No change waits for long

The schedule keeps the time of the oldest change that no checkpoint covers, of the last change, and
of the last checkpoint.  `Tracked` says so for the state in front of each observation, and the
bounds on how long a change waits follow from it.

The writer has always dealt with the value it has seen, and it ends only when it has seen the last
one.

## Key results
- `Observations.tracked`: what the schedule keeps, along any sequence of observations
- `AutosaveWriter.Faithful.step`: one step of the writer or of a sender
- `autosave_keeps_up`: changes are covered in time, and the file ends with the last snapshot
-/

namespace AxSsh

/-- Layouts and the times at which they are observed. -/
structure Observations where
  layout : ℕ → WorkspaceSnapshot
  time : ℕ → ℕ
  mono : Monotone time

namespace Observations

variable (o : Observations)

/-- The schedule in front of an observation. -/
def schedule : ℕ → CheckpointSchedule
  | 0 => {}
  | n + 1 => ((schedule n).observe (o.layout n) (o.time n)).1

def answer (n : ℕ) : Bool := ((o.schedule n).observe (o.layout n) (o.time n)).2

def Change (n : ℕ) : Prop := n = 0 ∨ o.layout n ≠ o.layout (n - 1)

/-- A change up to observation `n` that no checkpoint in front of `n` covers. -/
structure Uncovered (n j : ℕ) : Prop where
  le : j ≤ n
  change : o.Change j
  uncovered : ∀ k, j ≤ k → k < n → o.answer k = false

/-- The layout has been unchanged for the quiet period. -/
def Quiet (n : ℕ) : Prop :=
  ∃ c ≤ n, o.Change c ∧ (∀ k, c < k → k ≤ n → ¬o.Change k) ∧ quietPeriod ≤ o.time n - o.time c

/-! ## What the schedule keeps -/

/-- The last index below `n` with a property. -/
def LastBelow (P : ℕ → Prop) (n j : ℕ) : Prop := j < n ∧ P j ∧ ∀ k, j < k → k < n → ¬P k

/-- The schedule in front of observation `n`. -/
structure Tracked (n : ℕ) (s : CheckpointSchedule) : Prop where
  observed : s.observed = if n = 0 then none else some (o.layout (n - 1))
  clean : s.dirtySince = none → ∀ j < n, ¬o.Uncovered n j
  dirty : ∀ t, s.dirtySince = some t →
    ∃ j < n, o.Uncovered n j ∧ o.time j = t ∧ ∀ i, i < n → o.Uncovered n i → j ≤ i
  change : 0 < n → ∃ c, LastBelow o.Change n c ∧ s.lastChange = some (o.time c)
  fresh : s.lastCheckpoint = none → ∀ k < n, o.answer k = false
  checkpoint : ∀ t, s.lastCheckpoint = some t →
    ∃ k, LastBelow (o.answer · = true) n k ∧ o.time k = t

/-- The schedule that has noticed the layout of observation `n`. -/
structure Noticed (n : ℕ) (s : CheckpointSchedule) : Prop where
  observed : s.observed = some (o.layout n)
  clean : s.dirtySince = none → ∀ j, ¬o.Uncovered n j
  dirty : ∀ t, s.dirtySince = some t →
    ∃ j, o.Uncovered n j ∧ o.time j = t ∧ ∀ i, o.Uncovered n i → j ≤ i
  change : ∃ c, LastBelow o.Change (n + 1) c ∧ s.lastChange = some (o.time c)

variable {o} {n : ℕ} {s : CheckpointSchedule}

/-- The change of an observation itself is not covered in front of it. -/
theorem Change.uncovered (h : o.Change n) : o.Uncovered n n :=
  ⟨Nat.le_refl n, h, fun _ hle hlt => absurd hle (Nat.not_le.mpr hlt)⟩

theorem Tracked.notice_iff (h : o.Tracked n s) :
    s.observed ≠ some (o.layout n) ↔ o.Change n := by
  rw [h.observed, Change]
  by_cases hn : n = 0
  · simp [hn]
  · simp only [hn, ↓reduceIte, ne_eq, Option.some.injEq, false_or]
    exact not_congr eq_comm

theorem Tracked.notice (h : o.Tracked n s) :
    o.Noticed n (s.notice (o.layout n) (o.time n)) := by
  unfold CheckpointSchedule.notice
  by_cases hchange : o.Change n
  · rw [if_pos (h.notice_iff.mpr hchange)]
    refine ⟨rfl, nofun, ?_, ⟨n, ⟨Nat.lt_succ_self n, hchange, fun _ hlt hle => by omega⟩, rfl⟩⟩
    intro t ht
    cases hdirty : s.dirtySince with
    | none =>
      -- this change is the oldest one
      rw [hdirty] at ht
      refine ⟨n, hchange.uncovered, Option.some.inj ht, fun i hi => ?_⟩
      by_contra hlt
      exact h.clean hdirty i (Nat.not_le.mp hlt) hi
    | some first =>
      rw [hdirty] at ht
      obtain ⟨j, hjn, hj, htime, hleast⟩ := h.dirty first hdirty
      refine ⟨j, hj, htime.trans (Option.some.inj ht), fun i hi => ?_⟩
      obtain hlt | rfl := Nat.lt_or_eq_of_le hi.le
      · exact hleast i hlt hi
      · exact Nat.le_of_lt hjn
  · rw [if_neg fun hne => hchange (h.notice_iff.mp hne)]
    -- without a change nothing is uncovered at `n` itself
    have hlt {i : ℕ} (hi : o.Uncovered n i) : i < n :=
      Nat.lt_of_le_of_ne hi.le fun heq => hchange (heq ▸ hi.change)
    have hpos : 0 < n := Nat.pos_of_ne_zero fun hn => hchange (.inl hn)
    refine ⟨?_, fun hnone i hi => h.clean hnone i (hlt hi) hi, ?_, ?_⟩
    · exact not_not.mp fun hne => hchange (h.notice_iff.mp hne)
    · intro t ht
      obtain ⟨j, -, hj, htime, hleast⟩ := h.dirty t ht
      exact ⟨j, hj, htime, fun i hi => hleast i (hlt hi) hi⟩
    · obtain ⟨c, ⟨hcn, hc, hlast⟩, htime⟩ := h.change hpos
      refine ⟨c, ⟨by omega, hc, fun k hck hkn => ?_⟩, htime⟩
      obtain hkn | rfl := Nat.lt_succ_iff_lt_or_eq.mp hkn
      · exact hlast k hck hkn
      · exact hchange

theorem notice_lastCheckpoint (s : CheckpointSchedule) (layout : WorkspaceSnapshot) (now : ℕ) :
    (s.notice layout now).lastCheckpoint = s.lastCheckpoint := by
  unfold CheckpointSchedule.notice
  split <;> rfl

theorem answer_eq (n : ℕ) :
    o.answer n = (((o.schedule n).notice (o.layout n) (o.time n)).dirtyDue (o.time n) ||
      (o.schedule n).textDue (o.time n)) := by
  have htext : ((o.schedule n).notice (o.layout n) (o.time n)).textDue (o.time n) =
      (o.schedule n).textDue (o.time n) := by
    rw [CheckpointSchedule.textDue, notice_lastCheckpoint, CheckpointSchedule.textDue]
  rw [← htext, answer, CheckpointSchedule.observe]
  split
  · next h => exact h.symm
  · next h => exact (Bool.not_eq_true _ ▸ h).symm

theorem schedule_succ (n : ℕ) :
    o.schedule (n + 1) =
      if o.answer n = true then
        { (o.schedule n).notice (o.layout n) (o.time n) with
          dirtySince := none, lastCheckpoint := some (o.time n) }
      else (o.schedule n).notice (o.layout n) (o.time n) := by
  rw [schedule, answer, CheckpointSchedule.observe]
  dsimp only
  split <;> rfl

theorem Uncovered.of_succ {j : ℕ} (h : o.Uncovered (n + 1) j) (hj : j < n + 1) :
    o.Uncovered n j ∧ o.answer n = false :=
  ⟨⟨Nat.le_of_lt_succ hj, h.change, fun k hle hlt => h.uncovered k hle (Nat.lt_succ_of_lt hlt)⟩,
    h.uncovered n (Nat.le_of_lt_succ hj) (Nat.lt_succ_self n)⟩

theorem Uncovered.succ {j : ℕ} (h : o.Uncovered n j) (hanswer : o.answer n = false) :
    o.Uncovered (n + 1) j := by
  refine ⟨Nat.le_succ_of_le h.le, h.change, fun k hle hlt => ?_⟩
  obtain hlt | rfl := Nat.lt_succ_iff_lt_or_eq.mp hlt
  · exact h.uncovered k hle hlt
  · exact hanswer

theorem LastBelow.succ {P : ℕ → Prop} {j : ℕ} (h : LastBelow P n j) (hn : ¬P n) :
    LastBelow P (n + 1) j := by
  refine ⟨Nat.lt_succ_of_lt h.1, h.2.1, fun k hlt hle => ?_⟩
  obtain hle | rfl := Nat.lt_succ_iff_lt_or_eq.mp hle
  · exact h.2.2 k hlt hle
  · exact hn

theorem lastBelow_self {P : ℕ → Prop} (h : P n) : LastBelow P (n + 1) n :=
  ⟨Nat.lt_succ_self n, h, fun _ hlt hle => absurd hlt (Nat.not_lt.mpr (Nat.le_of_lt_succ hle))⟩

theorem LastBelow.unique {P : ℕ → Prop} {i j : ℕ} (hi : LastBelow P n i) (hj : LastBelow P n j) :
    i = j := by
  obtain hlt | heq | hlt := Nat.lt_trichotomy i j
  · exact absurd hj.2.1 (hi.2.2 j hlt hj.1)
  · exact heq
  · exact absurd hi.2.1 (hj.2.2 i hlt hi.1)

/-- An observation keeps track. -/
theorem Tracked.step (h : o.Tracked n (o.schedule n)) :
    o.Tracked (n + 1) (o.schedule (n + 1)) := by
  have hnoticed := h.notice
  have hcheckpoint := notice_lastCheckpoint (o.schedule n) (o.layout n) (o.time n)
  rw [schedule_succ]
  by_cases hanswer : o.answer n = true
  · rw [if_pos hanswer]
    refine ⟨hnoticed.observed, fun _ j hj hun => ?_, nofun, fun _ => hnoticed.change, nofun, ?_⟩
    · rw [(hun.of_succ hj).2] at hanswer
      exact nomatch hanswer
    · intro t ht
      exact ⟨n, lastBelow_self hanswer, Option.some.inj ht⟩
  · rw [if_neg hanswer]
    have hfalse : o.answer n = false := Bool.not_eq_true _ ▸ hanswer
    refine ⟨hnoticed.observed, ?_, ?_, fun _ => hnoticed.change, ?_, ?_⟩
    · exact fun hnone j hj hun => hnoticed.clean hnone j (hun.of_succ hj).1
    · intro t ht
      obtain ⟨j, hj, htime, hleast⟩ := hnoticed.dirty t ht
      exact ⟨j, Nat.lt_succ_of_le hj.le, hj.succ hfalse, htime,
        fun i hi hun => hleast i (hun.of_succ hi).1⟩
    · intro hnone k hk
      rw [hcheckpoint] at hnone
      obtain hk | rfl := Nat.lt_succ_iff_lt_or_eq.mp hk
      · exact h.fresh hnone k hk
      · exact hfalse
    · intro t ht
      rw [hcheckpoint] at ht
      obtain ⟨k, hk, htime⟩ := h.checkpoint t ht
      exact ⟨k, hk.succ hanswer, htime⟩

theorem tracked (o : Observations) (n : ℕ) : o.Tracked n (o.schedule n) := by
  induction n with
  | zero =>
    exact ⟨rfl, fun _ j hj => absurd hj (Nat.not_lt_zero j), nofun,
      fun hpos => absurd hpos (Nat.lt_irrefl 0), fun _ k hk => absurd hk (Nat.not_lt_zero k), nofun⟩
  | succ n ih => exact ih.step

/-! ## How long a change waits -/

theorem elapsed_some {t delay now : ℕ} :
    CheckpointSchedule.elapsed (some t) delay now = true ↔ delay ≤ now - t := by
  simp [CheckpointSchedule.elapsed]

theorem dirtyDue_iff (h : o.Noticed n s) :
    s.dirtyDue (o.time n) = true ↔
      (∃ j, o.Uncovered n j ∧ maxDirtyDelay ≤ o.time n - o.time j) ∨
      (∃ j, o.Uncovered n j) ∧ o.Quiet n := by
  obtain ⟨c, hc, hlast⟩ := h.change
  have hquiet : CheckpointSchedule.elapsed s.lastChange quietPeriod (o.time n) = true ↔
      o.Quiet n := by
    rw [hlast, elapsed_some]
    constructor
    · exact fun hle => ⟨c, Nat.le_of_lt_succ hc.1, hc.2.1,
        fun k hlt hle => hc.2.2 k hlt (Nat.lt_succ_of_le hle), hle⟩
    · rintro ⟨c', hc'n, hc', hnone, hle⟩
      rwa [hc.unique ⟨Nat.lt_succ_of_le hc'n, hc', fun k hlt hle => hnone k hlt (by omega)⟩]
  rw [CheckpointSchedule.dirtyDue, Bool.or_eq_true, Bool.and_eq_true, hquiet]
  cases hdirty : s.dirtySince with
  | none =>
    have hnone : ∀ j, ¬o.Uncovered n j := h.clean hdirty
    simp [CheckpointSchedule.elapsed, hnone]
  | some t =>
    obtain ⟨j, hj, htime, hleast⟩ := h.dirty t hdirty
    have hoverdue : maxDirtyDelay ≤ o.time n - t ↔
        ∃ i, o.Uncovered n i ∧ maxDirtyDelay ≤ o.time n - o.time i := by
      constructor
      · exact fun hle => ⟨j, hj, htime ▸ hle⟩
      · rintro ⟨i, hi, hle⟩
        -- the oldest change waits longest
        have hmono := o.mono (hleast i hi)
        omega
    rw [elapsed_some, hoverdue]
    exact or_congr_right (and_congr_left fun _ => ⟨fun _ => ⟨j, hj⟩, fun _ => rfl⟩)

theorem textDue_iff (n : ℕ) :
    (o.schedule n).textDue (o.time n) = true ↔
      ∃ k, LastBelow (o.answer · = true) n k ∧ textCheckpointInterval ≤ o.time n - o.time k := by
  have htracked := o.tracked n
  rw [CheckpointSchedule.textDue]
  cases hlast : (o.schedule n).lastCheckpoint with
  | none =>
    have hfresh := htracked.fresh hlast
    constructor
    · nofun
    · rintro ⟨k, ⟨hk, hanswer, -⟩, -⟩
      rw [hfresh k hk] at hanswer
      exact nomatch hanswer
  | some t =>
    obtain ⟨k, hk, rfl⟩ := htracked.checkpoint t hlast
    rw [elapsed_some]
    constructor
    · exact fun hle => ⟨k, hk, hle⟩
    · rintro ⟨k', hk', hle⟩
      rwa [hk.unique hk']

/-- **When a checkpoint is due.** -/
theorem answer_iff (n : ℕ) :
    o.answer n = true ↔
      (∃ j, o.Uncovered n j ∧ maxDirtyDelay ≤ o.time n - o.time j) ∨
      ((∃ j, o.Uncovered n j) ∧ o.Quiet n) ∨
      ∃ k, LastBelow (o.answer · = true) n k ∧ textCheckpointInterval ≤ o.time n - o.time k := by
  rw [answer_eq, Bool.or_eq_true, dirtyDue_iff (o.tracked n).notice, textDue_iff, or_assoc]

/-- A change is covered by the time some observation is due. -/
theorem covered_of_due {j : ℕ} (hjn : j ≤ n) (hj : o.Change j)
    (hdue : o.Uncovered n j → o.answer n = true) : ∃ k, j ≤ k ∧ k ≤ n ∧ o.answer k = true := by
  by_cases hbefore : ∃ k, j ≤ k ∧ k < n ∧ o.answer k = true
  · obtain ⟨k, hjk, hkn, hk⟩ := hbefore
    exact ⟨k, hjk, Nat.le_of_lt hkn, hk⟩
  · refine ⟨n, hjn, Nat.le_refl n, hdue ⟨hjn, hj, fun k hjk hkn => ?_⟩⟩
    by_contra htrue
    exact hbefore ⟨k, hjk, hkn, Bool.not_eq_false _ ▸ htrue⟩

end Observations

/-! ## The writer -/

/-- The writer beside its senders, with any file in front of it. -/
def autosaveWriter : Transition AutosaveWriter AutosaveEvent where
  init w := ∃ file, w = { file }
  step w event w' := w.step event = some w'

def AutosaveEvent.sent : AutosaveEvent → Option WorkspaceSnapshot
  | .send snapshot => some snapshot
  | _ => none

/-- The snapshot sent last. -/
def lastSent (events : List AutosaveEvent) : Option WorkspaceSnapshot :=
  (events.filterMap AutosaveEvent.sent).getLast?

namespace AutosaveWriter

/-- What the writer has done about the value it has seen. -/
def Settled (w : AutosaveWriter) : Prop :=
  match w.position with
  | .waiting => w.channel.seen = true → w.channel.value = none ∨ w.lastWritten = w.channel.value
  | .changed => True
  | .saving snapshot => w.channel.seen = true → w.channel.value = some snapshot
  | .ended => w.senderOpen = false ∧
      (w.channel.value = none ∨ w.lastWritten = w.channel.value)

/-- The file holds what was written last, and the writer is done with what it has seen. -/
structure Faithful (w : AutosaveWriter) (sent : Option WorkspaceSnapshot) : Prop where
  latest : w.channel.value = sent
  written : ∀ snapshot, w.lastWritten = some snapshot → w.file = some snapshot
  settled : w.Settled

theorem faithful_init (file : Option WorkspaceSnapshot) :
    Faithful { file } none := ⟨rfl, nofun, fun _ => .inl rfl⟩

variable {w w' : AutosaveWriter} {sent : Option WorkspaceSnapshot}

theorem Faithful.send (h : w.Faithful sent) (hopen : w.senderOpen = true)
    (snapshot : WorkspaceSnapshot) :
    Faithful { w with channel := ⟨some snapshot, false⟩ } (some snapshot) := by
  refine ⟨rfl, h.written, ?_⟩
  have hsettled := h.settled
  unfold Settled at hsettled ⊢
  cases hat : w.position with
  | waiting => simp
  | changed => trivial
  | saving s => simp
  | ended =>
    rw [hat] at hsettled
    exact absurd (hsettled.1.symm.trans hopen) (by decide)

theorem Faithful.close (h : w.Faithful sent) : Faithful { w with senderOpen := false } sent := by
  refine ⟨h.latest, h.written, ?_⟩
  have hsettled := h.settled
  unfold Settled at hsettled ⊢
  cases hat : w.position with
  | waiting | changed | saving s =>
    rw [hat] at hsettled
    exact hsettled
  | ended =>
    rw [hat] at hsettled
    exact ⟨rfl, hsettled.2⟩

/-- The writer ends with everything seen. -/
theorem Faithful.changedReturns (h : w.Faithful sent) (hat : w.position = .waiting)
    (hstep : w.changedReturns = some w') : w'.Faithful sent := by
  have hsettled := h.settled
  unfold Settled at hsettled
  rw [hat] at hsettled
  unfold AutosaveWriter.changedReturns at hstep
  split at hstep
  · cases hstep
    exact ⟨h.latest, h.written, trivial⟩
  · next hseen =>
    split at hstep
    · exact nomatch hstep
    · next hclosed =>
      cases hstep
      refine ⟨h.latest, h.written, Bool.not_eq_true _ ▸ hclosed, ?_⟩
      exact hsettled (Watch.seen_of_not_hasChanged (Bool.not_eq_true _ ▸ hseen))

theorem Faithful.borrowAndUpdate (h : w.Faithful sent) : w.borrowAndUpdate.Faithful sent := by
  have hlatest := h.latest
  unfold AutosaveWriter.borrowAndUpdate Watch.borrowAndUpdate
  dsimp only
  cases hvalue : w.channel.value with
  | none => exact ⟨hlatest, h.written, fun _ => .inl hvalue⟩
  | some snapshot =>
    dsimp only
    split
    · next heq => exact ⟨hlatest, h.written, fun _ => .inr (heq.trans hvalue.symm)⟩
    · exact ⟨hlatest, h.written, fun _ => hvalue⟩

theorem Faithful.saved (h : w.Faithful sent) {snapshot : WorkspaceSnapshot}
    (hat : w.position = .saving snapshot) :
    Faithful { w with
      position := .waiting, lastWritten := some snapshot, file := some snapshot } sent := by
  have hsettled := h.settled
  unfold Settled at hsettled
  rw [hat] at hsettled
  exact ⟨h.latest, fun _ heq => heq, fun hseen => .inr (hsettled hseen).symm⟩

/-- One step of the writer or of a sender, with no save that fails. -/
theorem Faithful.step (h : w.Faithful sent) {event : AutosaveEvent}
    (hstep : w.step event = some w') (hok : ∀ replaced, event ≠ .saveFailed replaced) :
    w'.Faithful (event.sent.or sent) := by
  cases event with
  | send snapshot =>
    simp only [AutosaveWriter.step, Option.ite_none_right_eq_some] at hstep
    obtain ⟨hopen, heq⟩ := hstep
    cases heq
    exact h.send hopen snapshot
  | close =>
    cases hstep
    exact h.close
  | changedReturns =>
    simp only [AutosaveWriter.step] at hstep
    split at hstep
    · next hat => exact h.changedReturns hat hstep
    · exact nomatch hstep
  | borrowAndUpdate =>
    simp only [AutosaveWriter.step] at hstep
    split at hstep
    · cases hstep
      exact h.borrowAndUpdate
    · exact nomatch hstep
  | saved =>
    simp only [AutosaveWriter.step] at hstep
    split at hstep
    · next snapshot hat =>
      cases hstep
      exact h.saved hat
    · exact nomatch hstep
  | saveFailed replaced => exact absurd rfl (hok replaced)

theorem lastSent_cons (event : AutosaveEvent) (events : List AutosaveEvent) :
    lastSent (event :: events) = (lastSent events).or event.sent := by
  unfold lastSent
  cases hsent : event.sent with
  | none =>
    rw [List.filterMap_cons_none hsent]
    exact (Option.or_none).symm
  | some snapshot =>
    rw [List.filterMap_cons_some hsent, List.getLast?_cons]
    cases (events.filterMap AutosaveEvent.sent).getLast? <;> rfl

/-- Any run without a failing save. -/
theorem Faithful.run {events : List AutosaveEvent} (hrun : autosaveWriter.Run w events w')
    (h : w.Faithful sent) (hok : ∀ replaced, .saveFailed replaced ∉ events) :
    w'.Faithful ((lastSent events).or sent) := by
  induction hrun generalizing sent with
  | nil w => exact h
  | @cons w₁ w₂ w₃ event events hstep _ ih =>
    have hnext := h.step hstep fun replaced heq => hok replaced (heq ▸ List.mem_cons_self)
    have hrest := ih hnext fun replaced hmem => hok replaced (List.mem_cons_of_mem _ hmem)
    rwa [← Option.or_assoc, ← lastSent_cons] at hrest

/-- **The writer ends with the last snapshot in the file.** -/
theorem file_of_ended {file : Option WorkspaceSnapshot} {events : List AutosaveEvent}
    {snapshot : WorkspaceSnapshot} (hrun : autosaveWriter.Run { file } events w)
    (hok : ∀ replaced, .saveFailed replaced ∉ events) (hended : w.position = .ended)
    (hlast : lastSent events = some snapshot) : w.file = some snapshot := by
  have h := (faithful_init file).run hrun hok
  have hsettled := h.settled
  unfold Settled at hsettled
  rw [hended] at hsettled
  have hvalue : w.channel.value = some snapshot := by rw [h.latest, hlast]; rfl
  rw [hvalue] at hsettled
  exact h.written snapshot (hsettled.2.resolve_left nofun)

/-- A snapshot that is sent while another one is about to be read takes its place. -/
example :
    let events : List AutosaveEvent := [.send { version := 1 }, .changedReturns,
      .send { version := 2 }, .borrowAndUpdate, .close, .saved, .changedReturns]
    (events.foldlM AutosaveWriter.step {}).map (fun w => (w.position, w.file)) =
      some (.ended, some { version := 2 }) := by decide

end AutosaveWriter

/-! ## Both together -/

theorem autosave_keeps_up :
    (∀ o : Observations,
      (∀ n, o.answer n = false → ∀ j, o.Uncovered n j → o.time n - o.time j < maxDirtyDelay) ∧
      (∀ n j, j ≤ n → o.Change j →
        (o.Quiet n ∨ ∃ i, o.Uncovered n i ∧ maxDirtyDelay ≤ o.time n - o.time i) →
        ∃ k, j ≤ k ∧ k ≤ n ∧ o.answer k = true) ∧
      ∀ n k, k < n → o.answer k = true → (∀ i, k < i → i < n → o.answer i = false) →
        textCheckpointInterval ≤ o.time n - o.time k → o.answer n = true) ∧
    ∀ (file : Option WorkspaceSnapshot) (events : List AutosaveEvent) (w : AutosaveWriter)
      (snapshot : WorkspaceSnapshot),
      autosaveWriter.Run { file } events w → (∀ replaced, .saveFailed replaced ∉ events) →
      w.position = .ended → lastSent events = some snapshot →
      w.senderOpen = false ∧ w.file = some snapshot := by
  refine ⟨fun o => ⟨?_, ?_, ?_⟩, ?_⟩
  · intro n hanswer j hj
    by_contra hlong
    have hdue := (o.answer_iff n).mpr (.inl ⟨j, hj, Nat.not_lt.mp hlong⟩)
    exact absurd (hdue.symm.trans hanswer) (by decide)
  · rintro n j hjn hj (hquiet | hoverdue)
    · exact o.covered_of_due hjn hj fun hun => (o.answer_iff n).mpr (.inr (.inl ⟨⟨j, hun⟩, hquiet⟩))
    · exact o.covered_of_due hjn hj fun _ => (o.answer_iff n).mpr (.inl hoverdue)
  · intro n k hkn hk hnone hlong
    refine (o.answer_iff n).mpr (.inr (.inr ⟨k, ⟨hkn, hk, fun i hki hin => ?_⟩, hlong⟩))
    exact fun htrue => absurd (htrue.symm.trans (hnone i hki hin)) (by decide)
  · intro file events w snapshot hrun hok hended hlast
    have hsettled := ((AutosaveWriter.faithful_init file).run hrun hok).settled
    unfold AutosaveWriter.Settled at hsettled
    rw [hended] at hsettled
    exact ⟨hsettled.1, AutosaveWriter.file_of_ended hrun hok hended hlast⟩

end AxSsh
