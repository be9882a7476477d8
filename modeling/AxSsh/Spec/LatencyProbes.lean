import AxSsh.ForStd.History
import AxSsh.Native.LatencyMonitor

/-!
# Latency probes

What every schedule of a latency monitor keeps to, read off the history of its run: which requests
were sent, which replies came in and what `next_event` returned.

## Key results
- `step_effect`: what one step can do
- `Tracked`, `Timely`, `Following`: how the fields of the monitor follow from the history
- `allowed_step`: every entry of the history is allowed by the entries before it
- `held_reply_step`: the branches that can be taken before the one of a reply
- `latency_monitor_probes`: what holds in every reachable state
-/

namespace AxSsh

open History

/-! ## Reading the history -/

/-- The events that end a probe. -/
def LatencyEvent.completes : LatencyEvent → Bool
  | .measured .. | .unavailable => true
  | .timedOut | .expired => false

def LatencyReply.event : LatencyReply → Nat → LatencyEvent
  | .ok roundTrip, time => .measured roundTrip time
  | .error, _ => .unavailable

def LatencyLabel.takes : LatencyLabel → Bool
  | .take _ => true
  | _ => false

def LatencyLabel.changes : LatencyLabel → Bool
  | .setForeground _ => true
  | _ => false

namespace LatencyEntry

def request? : LatencyEntry → Option Nat
  | .sent _ | .read _ => none
  | .started request _ | .replied request _ => some request
  | .returned request _ _ => request

/-- The entry reports the reply of `request`. -/
def completes (request : Nat) : LatencyEntry → Bool
  | .returned held event _ => held == some request && event.completes
  | _ => false

def timesOut (request : Nat) : LatencyEntry → Bool
  | .returned held event _ => held == some request && event == .timedOut
  | _ => false

/-- When the entry reports a reply. -/
def completion? : LatencyEntry → Option Nat
  | .returned _ event time => if event.completes then some time else none
  | _ => none

end LatencyEntry

namespace LatencySystem

def Completed (request : Nat) (log : List LatencyEntry) : Prop :=
  ∃ e ∈ log, e.completes request = true

def TimedOut (request : Nat) (log : List LatencyEntry) : Prop :=
  ∃ e ∈ log, e.timesOut request = true

def Started (request : Nat) (log : List LatencyEntry) : Prop :=
  ∃ time, LatencyEntry.started request time ∈ log

/-- The foreground state that the monitor read last. -/
def lastRead : List LatencyEntry → Option Bool
  | [] => none
  | .read foreground :: _ => some foreground
  | _ :: past => lastRead past

/-- The current foreground state. -/
def lastSent : List LatencyEntry → Option Bool
  | [] => none
  | .sent foreground :: _ => some foreground
  | _ :: past => lastSent past

/-- The foreground state changed after the monitor read it last. -/
def changeUnread : List LatencyEntry → Bool
  | [] => false
  | .sent _ :: _ => true
  | .read _ :: _ => false
  | _ :: past => changeUnread past

/-- Every completion in `past` was at least the interval of `foreground` before `time`. -/
def Spaced (foreground : Bool) (time : Nat) (past : List LatencyEntry) : Prop :=
  ∀ e ∈ past, ∀ completion ∈ e.completion?, completion + probeInterval foreground ≤ time

structure StartAllowed (request time : Nat) (past : List LatencyEntry) : Prop where
  fresh : ¬Started request past
  alone : ∀ earlier, Started earlier past → Completed earlier past
  spaced : ∀ foreground ∈ lastRead past, Spaced foreground time past
  current : changeUnread past = false → lastRead past = lastSent past
  available : ∀ held t, LatencyEntry.returned held .unavailable t ∉ past

structure ReplyAllowed (request : Nat) (past : List LatencyEntry) : Prop where
  started : Started request past
  once : ∀ reply, LatencyEntry.replied request reply ∉ past

/-- The event of a reply: the reply came in, and no event was returned for it. -/
structure ReportAllowed (held : Option Nat) (reply : LatencyReply) (request : Nat)
    (past : List LatencyEntry) : Prop where
  held : held = some request
  replied : LatencyEntry.replied request reply ∈ past
  once : ¬Completed request past

structure TimeOutAllowed (held : Option Nat) (request : Nat) (past : List LatencyEntry) : Prop where
  held : held = some request
  started : Started request past
  pending : ¬Completed request past
  once : ¬TimedOut request past

/-- What the history must hold when `next_event` returns an event. -/
def ReturnAllowed (held : Option Nat) (time : Nat) (past : List LatencyEntry) :
    LatencyEvent → Prop
  | .measured roundTrip measuredAt =>
    measuredAt = time ∧ ∃ request, ReportAllowed held (.ok roundTrip) request past
  | .unavailable => ∃ request, ReportAllowed held .error request past
  | .timedOut => ∃ request, TimeOutAllowed held request past
  | .expired => True

def Allowed : LatencyEntry → List LatencyEntry → Prop
  | .sent _, _ | .read _, _ => True
  | .started request time, past => StartAllowed request time past
  | .replied request _, past => ReplyAllowed request past
  | .returned held event time, past => ReturnAllowed held time past event

section Entries

variable {log : List LatencyEntry} {e : LatencyEntry} {request : Nat}

@[simp] theorem completed_cons :
    Completed request (e :: log) ↔ e.completes request = true ∨ Completed request log := by
  simp [Completed]

@[simp] theorem timedOut_cons :
    TimedOut request (e :: log) ↔ e.timesOut request = true ∨ TimedOut request log := by
  simp [TimedOut]

@[simp] theorem started_cons :
    Started request (e :: log) ↔ (∃ time, .started request time = e) ∨ Started request log := by
  simp [Started, exists_or]

theorem Completed.cons (h : Completed request log) (e : LatencyEntry) :
    Completed request (e :: log) :=
  completed_cons.mpr (.inr h)

theorem request?_of_completes (h : e.completes request = true) : e.request? = some request := by
  cases e with
  | returned held event time =>
    simp only [LatencyEntry.completes, Bool.and_eq_true, beq_iff_eq] at h
    exact h.1
  | _ => cases h

theorem request?_of_timesOut (h : e.timesOut request = true) : e.request? = some request := by
  cases e with
  | returned held event time =>
    simp only [LatencyEntry.timesOut, Bool.and_eq_true, beq_iff_eq] at h
    exact h.1
  | _ => cases h

@[simp] theorem completes_event (reply : LatencyReply) (time : Nat) :
    (reply.event time).completes = true := by
  cases reply <;> rfl

end Entries

variable {s s' : LatencySystem}

/-! ## What one step can do -/

inductive Effect (s : LatencySystem) : LatencySystem → Prop
  | moved (now : Nat) (control : NextEvent) (senderDropped foregroundRx : Bool) (h : s.now ≤ now) :
    Effect s { s with now, control, senderDropped, monitor := { s.monitor with foregroundRx } }
  | sent (foreground : Bool) :
    Effect s { s with channel := ⟨foreground, false⟩, log := .sent foreground :: s.log }
  | read :
    Effect s { s with
      monitor := s.monitor.onChanged s.channel.value
      channel := s.channel.markSeen
      control := .loopHead
      log := .read s.channel.value :: s.log }
  | started (h : s.monitor.probeDue s.now = true) :
    Effect s { s with
      monitor := s.monitor.startProbe s.requests s.now
      control := .selecting
      requests := s.requests + 1
      inFlight := s.inFlight ++ [s.requests]
      log := .started s.requests s.now :: s.log }
  | replied (request : Nat) (rest : List Nat) (reply : LatencyReply)
      (h : s.inFlight = request :: rest) :
    Effect s { s with
      inFlight := rest
      monitor := s.monitor.receive request reply
      log := .replied request reply :: s.log }
  | completed (request : Nat) (reply : LatencyReply)
      (h : s.monitor.probe = some ⟨request, some reply⟩) :
    Effect s (s.returns (s.monitor.onReply reply s.now).1 (reply.event s.now))
  | timedOut (probe : LatencyProbe) (h : s.monitor.probe = some probe)
      (htimedOut : s.monitor.timedOut = false) :
    Effect s (s.returns (s.monitor.onDeadline s.now) .timedOut)
  | expired : Effect s (s.returns s.monitor.onExpires .expired)

theorem onReply_event (m : LatencyMonitor) (reply : LatencyReply) (now : Nat) :
    (m.onReply reply now).2 = reply.event now := by
  cases reply <;> rfl

theorem effect_setLatencyForeground (foreground : Bool) :
    Effect s (s.setLatencyForeground foreground) := by
  unfold setLatencyForeground
  by_cases h : s.channel.borrow = foreground
  · -- an equal value is not sent
    have hvalue : s.channel.value = foreground := h
    have hsame : s.channel.sendIfModified
        (fun current => if current = foreground then none else some foreground) = s.channel := by
      simp [Watch.sendIfModified, hvalue]
    rw [hsame, if_pos h]
    exact .moved s.now s.control s.senderDropped s.monitor.foregroundRx (Nat.le_refl _)
  · have hvalue : ¬s.channel.value = foreground := h
    have hsent : s.channel.sendIfModified
        (fun current => if current = foreground then none else some foreground) =
          ⟨foreground, false⟩ := by
      simp [Watch.sendIfModified, hvalue]
    rw [hsent, if_neg h]
    exact .sent foreground

theorem effect_take {branch : LatencyBranch} (h : s.take branch = some s') : Effect s s' := by
  cases branch with
  | reply =>
    simp only [take] at h
    split at h
    · rename_i request reply hprobe
      cases h
      rw [onReply_event]
      exact .completed request reply hprobe
    · cases h
  | deadline =>
    simp only [take] at h
    split at h
    · rename_i hready
      cases h
      simp only [Bool.and_eq_true, Bool.not_eq_true', Option.isSome_iff_exists] at hready
      obtain ⟨⟨⟨probe, hprobe⟩, htimedOut⟩, -⟩ := hready
      exact .timedOut probe hprobe htimedOut
    · cases h
  | expires =>
    simp only [take] at h
    split at h <;> cases h
    exact .expired
  | nextProbe =>
    simp only [take] at h
    split at h <;> cases h
    exact .moved s.now .loopHead s.senderDropped s.monitor.foregroundRx (Nat.le_refl _)
  -- the channel has changed, or its sender has gone
  | changed =>
    simp only [take, takeChanged, Watch.borrowAndUpdate] at h
    split at h
    · split at h
      · cases h
        exact .read
      · split at h <;> cases h
        exact .moved s.now .loopHead s.senderDropped false (Nat.le_refl _)
    · cases h

theorem step_effect {label : LatencyLabel} (h : s.step label = some s') : Effect s s' := by
  have hnow : s.now ≤ s.now := Nat.le_refl _
  cases label with
  | tick elapsed =>
    cases h
    exact .moved _ s.control s.senderDropped s.monitor.foregroundRx (Nat.le_add_right _ elapsed)
  | setForeground foreground =>
    simp only [step] at h
    split at h <;> cases h
    exact effect_setLatencyForeground foreground
  | dropSender =>
    cases h
    exact .moved s.now s.control true s.monitor.foregroundRx hnow
  | answer reply =>
    simp only [step, answer] at h
    split at h <;> cases h
    rename_i request rest hflight
    exact .replied request rest reply hflight
  | call =>
    simp only [step] at h
    split at h <;> cases h
    exact .moved s.now .loopHead s.senderDropped s.monitor.foregroundRx hnow
  | dropFuture =>
    simp only [step] at h
    split at h <;> cases h
    exact .moved s.now .idle s.senderDropped s.monitor.foregroundRx hnow
  | enter =>
    -- entering the select starts a probe that is due, or finds none due
    simp only [step, enter] at h
    split at h
    · split at h <;> cases h
      · rename_i hdue
        exact .started hdue
      · exact .moved s.now .selecting s.senderDropped s.monitor.foregroundRx hnow
    · cases h
  | take branch =>
    simp only [step] at h
    split at h
    · exact effect_take h
    · cases h

/-! ## What the fields of the monitor say about the history -/

/-- The probe that the monitor holds: it was started, nothing was reported for it, and its reply
    is the one that came in. -/
structure Held (timedOut : Bool) (log : List LatencyEntry) (request : Nat)
    (reply : Option LatencyReply) : Prop where
  started : Started request log
  pending : ¬Completed request log
  replied : ∀ r, LatencyEntry.replied request r ∈ log ↔ reply = some r
  untimed : timedOut = false → ¬TimedOut request log

/-- The requests of the history are the one that the monitor holds and those that are done. -/
structure Tracked (s : LatencySystem) : Prop where
  inFlight : ∀ request rest, s.inFlight = request :: rest →
    s.monitor.probe = some ⟨request, none⟩ ∧ rest = []
  numbered : ∀ e ∈ s.log, ∀ request ∈ e.request?, request < s.requests
  held : ∀ request reply, s.monitor.probe = some ⟨request, reply⟩ →
    Held s.monitor.timedOut s.log request reply
  settled : ∀ request, Started request s.log →
    Completed request s.log ∨ ∃ reply, s.monitor.probe = some ⟨request, reply⟩

/-- The times of the monitor are those of the last completion. -/
structure Timely (s : LatencySystem) : Prop where
  past : s.monitor.lastCompletion ≤ s.now
  last : ∀ e ∈ s.log, ∀ completion ∈ e.completion?, completion ≤ s.monitor.lastCompletion
  spaced : Spaced s.monitor.foreground s.monitor.nextProbe s.log

/-- The monitor has the foreground state that it read last. -/
structure Following (s : LatencySystem) : Prop where
  read : lastRead s.log = some s.monitor.foreground
  sent : lastSent s.log = some s.channel.value
  seen : s.channel.seen = true → changeUnread s.log = false
  current : changeUnread s.log = false → lastRead s.log = lastSent s.log

/-- An error stops the monitor. -/
def Stopping (s : LatencySystem) : Prop :=
  ∀ held time, LatencyEntry.returned held .unavailable time ∈ s.log → s.monitor.stopped = true

theorem Following.step (h : Following s) (he : Effect s s') : Following s' := by
  obtain ⟨hread, hsent, hseen, hcurrent⟩ := h
  cases he with
  | moved => exact ⟨hread, hsent, hseen, hcurrent⟩
  | sent => exact ⟨hread, rfl, nofun, nofun⟩
  | read =>
    refine ⟨rfl, hsent, fun _ => rfl, fun _ => ?_⟩
    simp only [lastRead, lastSent]
    exact hsent.symm
  | started => exact ⟨hread, hsent, hseen, hcurrent⟩
  | replied request rest reply =>
    refine ⟨?_, hsent, hseen, hcurrent⟩
    simp only [lastRead, LatencyMonitor.receive]
    split <;> exact hread
  | completed request reply => cases reply <;> exact ⟨hread, hsent, hseen, hcurrent⟩
  | timedOut => exact ⟨hread, hsent, hseen, hcurrent⟩
  | expired => exact ⟨hread, hsent, hseen, hcurrent⟩

theorem Timely.step (h : Timely s) (he : Effect s s') : Timely s' := by
  obtain ⟨hpast, hlast, hspaced⟩ := h
  cases he with
  | moved now _ _ _ hnow => exact ⟨hpast.trans hnow, hlast, hspaced⟩
  | sent =>
    exact ⟨hpast, List.forall_mem_cons.mpr ⟨nofun, hlast⟩,
      List.forall_mem_cons.mpr ⟨nofun, hspaced⟩⟩
  | read =>
    refine ⟨hpast, List.forall_mem_cons.mpr ⟨nofun, hlast⟩,
      List.forall_mem_cons.mpr ⟨nofun, fun e he completion hc => ?_⟩⟩
    exact Nat.add_le_add_right (hlast e he completion hc) _
  | started =>
    exact ⟨hpast, List.forall_mem_cons.mpr ⟨nofun, hlast⟩,
      List.forall_mem_cons.mpr ⟨nofun, hspaced⟩⟩
  | replied request rest reply =>
    simp only [LatencyMonitor.receive]
    split <;> exact ⟨hpast, List.forall_mem_cons.mpr ⟨nofun, hlast⟩,
      List.forall_mem_cons.mpr ⟨nofun, hspaced⟩⟩
  | completed request reply =>
    -- the completions of the past are no later than now, and so is this one
    have hnow (completion : Nat) (e) (he : e ∈ LatencyEntry.returned
        (s.monitor.probe.map (·.request)) (reply.event s.now) s.now :: s.log)
        (hc : completion ∈ e.completion?) : completion ≤ s.now := by
      rcases List.mem_cons.mp he with rfl | he
      · simp only [LatencyEntry.completion?, completes_event, if_true, Option.mem_def,
          Option.some.injEq] at hc
        omega
      · exact (hlast e he completion hc).trans hpast
    cases reply <;>
      exact ⟨Nat.le_refl _, fun e he c hc => hnow c e he hc,
        fun e he c hc => Nat.add_le_add_right (hnow c e he hc) _⟩
  | timedOut =>
    exact ⟨hpast, List.forall_mem_cons.mpr ⟨nofun, hlast⟩,
      List.forall_mem_cons.mpr ⟨nofun, hspaced⟩⟩
  | expired =>
    exact ⟨hpast, List.forall_mem_cons.mpr ⟨nofun, hlast⟩,
      List.forall_mem_cons.mpr ⟨nofun, hspaced⟩⟩

theorem Stopping.step (h : Stopping s) (he : Effect s s') : Stopping s' := by
  cases he with
  | moved => exact h
  | sent | read | started | timedOut | expired =>
    intro held time hmem
    exact h held time (by simpa [returns] using hmem)
  | replied request rest reply =>
    intro held time hmem
    have hstopped := h held time (by simpa using hmem)
    simp only [LatencyMonitor.receive]
    split <;> exact hstopped
  | completed request reply =>
    intro held time hmem
    cases reply with
    | ok roundTrip => exact h held time (by simpa [returns, LatencyReply.event] using hmem)
    | error => rfl

theorem Held.cons {timedOut : Bool} {log : List LatencyEntry} {e : LatencyEntry} {request : Nat}
    {reply : Option LatencyReply} (h : Held timedOut log request reply)
    (hcompletes : e.completes request = false) (hreplied : ∀ r, .replied request r ≠ e)
    (htimesOut : timedOut = false → e.timesOut request = false) :
    Held timedOut (e :: log) request reply where
  started := started_cons.mpr (.inr h.started)
  pending := by simpa [hcompletes] using h.pending
  replied r := by simpa [hreplied r] using h.replied r
  untimed hfalse := by simpa [htimesOut hfalse] using h.untimed hfalse

/-- A request that was not sent yet has no entries. -/
theorem Tracked.unknown (h : Tracked s) :
    ¬Started s.requests s.log ∧ ¬Completed s.requests s.log ∧ ¬TimedOut s.requests s.log ∧
      ∀ r, LatencyEntry.replied s.requests r ∉ s.log := by
  have hnone {e : LatencyEntry} (he : e ∈ s.log) : e.request? ≠ some s.requests := fun heq =>
    absurd (h.numbered e he s.requests heq) (Nat.lt_irrefl _)
  refine ⟨fun ⟨_, he⟩ => hnone he rfl, fun ⟨_, he, hc⟩ => hnone he (request?_of_completes hc),
    fun ⟨_, he, ht⟩ => hnone he (request?_of_timesOut ht), fun _ he => hnone he rfl⟩

theorem Tracked.lt (h : Tracked s) {request : Nat} (hstarted : Started request s.log) :
    request < s.requests := by
  obtain ⟨time, he⟩ := hstarted
  exact h.numbered _ he request rfl

theorem probeDue_iff {m : LatencyMonitor} {now : Nat} :
    m.probeDue now = true ↔ m.probe = none ∧ m.stopped = false ∧ m.nextProbe ≤ now := by
  simp [LatencyMonitor.probeDue, and_assoc]

theorem Tracked.receive (h : Tracked s) {request : Nat} {rest : List Nat}
    (hflight : s.inFlight = request :: rest) (reply : LatencyReply) :
    s.monitor.receive request reply =
      { s.monitor with probe := some ⟨request, some reply⟩ } :=
  if_pos (h.inFlight request rest hflight).1

theorem Tracked.start (h : Tracked s) (hnone : s.monitor.probe = none) :
    Tracked { s with
      monitor := s.monitor.startProbe s.requests s.now
      control := .selecting
      requests := s.requests + 1
      inFlight := s.inFlight ++ [s.requests]
      log := .started s.requests s.now :: s.log } where
  inFlight request rest hflight := by
    -- nothing is in flight while no probe is held
    have hempty : s.inFlight = [] := by
      cases hs : s.inFlight with
      | nil => rfl
      | cons earlier others =>
        have hprobe := (h.inFlight earlier others hs).1
        rw [hnone] at hprobe
        cases hprobe
    simp only [hempty, List.nil_append, List.cons.injEq] at hflight
    obtain ⟨rfl, rfl⟩ := hflight
    exact ⟨rfl, rfl⟩
  numbered e he request hrequest := by
    rcases List.mem_cons.mp he with rfl | he
    · cases hrequest
      exact Nat.lt_succ_self _
    · exact Nat.lt_succ_of_lt (h.numbered e he request hrequest)
  held request reply hprobe := by
    cases hprobe
    obtain ⟨-, hcompleted, htimedOut, hreplied⟩ := h.unknown
    constructor
    · exact started_cons.mpr (.inl ⟨s.now, rfl⟩)
    · simpa [LatencyEntry.completes] using hcompleted
    · simpa using hreplied
    · simpa [LatencyEntry.timesOut] using fun _ => htimedOut
  settled request hstarted := by
    rcases started_cons.mp hstarted with ⟨time, heq⟩ | hstarted
    · cases heq
      exact .inr ⟨none, rfl⟩
    · rcases h.settled request hstarted with hcompleted | ⟨reply, hprobe⟩
      · exact .inl (hcompleted.cons _)
      · rw [hnone] at hprobe
        cases hprobe

theorem Tracked.reply (h : Tracked s) {request : Nat} {rest : List Nat} (reply : LatencyReply)
    (hflight : s.inFlight = request :: rest) :
    Tracked { s with
      inFlight := rest
      monitor := s.monitor.receive request reply
      log := .replied request reply :: s.log } := by
  rw [h.receive hflight]
  obtain ⟨hprobe, rfl⟩ := h.inFlight request rest hflight
  have hheld := h.held request none hprobe
  constructor
  -- only one probe is on its way, so none is left
  · intro other others hnil
    cases hnil
  · intro e he other hother
    rcases List.mem_cons.mp he with rfl | he
    · cases hother
      exact h.lt hheld.started
    · exact h.numbered e he other hother
  · intro other reply' heq
    cases heq
    constructor
    · exact started_cons.mpr (.inr hheld.started)
    · simpa [LatencyEntry.completes] using hheld.pending
    · intro r
      have hnew : LatencyEntry.replied request r ∉ s.log := by simp [hheld.replied]
      simp [hnew, eq_comm]
    · simpa [LatencyEntry.timesOut] using hheld.untimed
  · intro other hstarted
    have hstarted : Started other s.log := by simpa using hstarted
    -- the other requests were settled before
    rcases h.settled other hstarted with hcompleted | ⟨reply', hother⟩
    · exact .inl (hcompleted.cons _)
    · rw [hprobe] at hother
      cases hother
      exact .inr ⟨some reply, rfl⟩

theorem Tracked.complete (h : Tracked s) {request : Nat} {reply : LatencyReply}
    (hprobe : s.monitor.probe = some ⟨request, some reply⟩) :
    Tracked (s.returns (s.monitor.onReply reply s.now).1 (reply.event s.now)) := by
  have hheld := h.held request (some reply) hprobe
  have hnone : (s.monitor.onReply reply s.now).1.probe = none := by cases reply <;> rfl
  constructor
  · intro other others hflight
    have hwaiting := (h.inFlight other others hflight).1
    rw [hprobe] at hwaiting
    cases hwaiting
  · intro e he other hother
    rcases List.mem_cons.mp he with rfl | he
    · simp only [LatencyEntry.request?, hprobe, Option.map_some, Option.mem_def,
        Option.some.injEq] at hother
      exact hother ▸ h.lt hheld.started
    · exact h.numbered e he other hother
  · intro other reply' heq
    have hsome : (s.monitor.onReply reply s.now).1.probe = some ⟨other, reply'⟩ := heq
    rw [hnone] at hsome
    cases hsome
  · intro other hstarted
    have hstarted : Started other s.log := by simpa [returns] using hstarted
    rcases h.settled other hstarted with hcompleted | ⟨reply', hother⟩
    · exact .inl (hcompleted.cons _)
    · rw [hprobe] at hother
      cases hother
      simp [returns, hprobe, LatencyEntry.completes]

/-- An event that leaves the probe in place. -/
theorem Tracked.notice (h : Tracked s) {monitor : LatencyMonitor} {event : LatencyEvent}
    (hprobe : monitor.probe = s.monitor.probe) (hcompletes : event.completes = false)
    (htimedOut : monitor.timedOut = false → s.monitor.timedOut = false ∧ event ≠ .timedOut) :
    Tracked (s.returns monitor event) := by
  constructor
  · intro other others hflight
    exact ⟨hprobe.trans (h.inFlight other others hflight).1, (h.inFlight other others hflight).2⟩
  · intro e he other hother
    rcases List.mem_cons.mp he with rfl | he
    · simp only [LatencyEntry.request?, Option.mem_def, Option.map_eq_some_iff] at hother
      obtain ⟨probe, hheld, rfl⟩ := hother
      exact h.lt (h.held probe.request probe.reply hheld).started
    · exact h.numbered e he other hother
  · intro other reply' hother
    have hheld := h.held other reply' (hprobe.symm.trans hother)
    constructor
    · exact started_cons.mpr (.inr hheld.started)
    · simpa [returns, LatencyEntry.completes, hcompletes] using hheld.pending
    · simpa [returns] using hheld.replied
    · intro hfalse
      obtain ⟨huntimed, hevent⟩ := htimedOut hfalse
      simpa [returns, LatencyEntry.timesOut, hevent] using hheld.untimed huntimed
  · intro other hstarted
    have hstarted : Started other s.log := by simpa [returns] using hstarted
    rcases h.settled other hstarted with hcompleted | ⟨reply', hother⟩
    · exact .inl (hcompleted.cons _)
    · exact .inr ⟨reply', hprobe.trans hother⟩

theorem Tracked.step (h : Tracked s) (he : Effect s s') : Tracked s' := by
  cases he with
  | moved => exact ⟨h.inFlight, h.numbered, h.held, h.settled⟩
  | sent | read =>
    refine ⟨h.inFlight, List.forall_mem_cons.mpr ⟨nofun, h.numbered⟩, ?_, ?_⟩
    · intro request reply hprobe
      exact (h.held request reply hprobe).cons rfl nofun fun _ => rfl
    · intro request hstarted
      exact (h.settled request (by simpa using hstarted)).imp_left (·.cons _)
  | started hdue => exact h.start (probeDue_iff.mp hdue).1
  | replied request rest reply hflight => exact h.reply reply hflight
  | completed request reply hprobe => exact h.complete hprobe
  | timedOut => exact h.notice rfl rfl nofun
  | expired => exact h.notice rfl rfl fun hfalse => ⟨hfalse, nofun⟩

/-! ## The history of a run -/

structure Consistent (s : LatencySystem) : Prop where
  tracked : Tracked s
  timely : Timely s
  following : Following s
  stopping : Stopping s
  allowed : Always Allowed s.log

theorem Consistent.start_allowed (h : Consistent s) (hdue : s.monitor.probeDue s.now = true) :
    StartAllowed s.requests s.now s.log := by
  obtain ⟨hnone, hstopped, hnext⟩ := probeDue_iff.mp hdue
  constructor
  · exact h.tracked.unknown.1
  · intro earlier hstarted
    rcases h.tracked.settled earlier hstarted with hcompleted | ⟨reply, hprobe⟩
    · exact hcompleted
    · rw [hnone] at hprobe
      cases hprobe
  · intro foreground hread e he completion hc
    rw [h.following.read] at hread
    cases hread
    exact (h.timely.spaced e he completion hc).trans hnext
  · exact h.following.current
  · intro held time hmem
    rw [h.stopping held time hmem] at hstopped
    cases hstopped

theorem Consistent.report_allowed (h : Consistent s) {request : Nat} {reply : LatencyReply}
    (hprobe : s.monitor.probe = some ⟨request, some reply⟩) :
    ReportAllowed (s.monitor.probe.map (·.request)) reply request s.log := by
  have hheld := h.tracked.held request (some reply) hprobe
  exact ⟨by rw [hprobe]; rfl, (hheld.replied reply).mpr rfl, hheld.pending⟩

theorem Consistent.allowed_step (h : Consistent s) (he : Effect s s') :
    Always Allowed s'.log := by
  cases he with
  | moved => exact h.allowed
  | sent | read => exact ⟨trivial, h.allowed⟩
  | started hdue => exact ⟨h.start_allowed hdue, h.allowed⟩
  | replied request rest reply hflight =>
    have hheld := h.tracked.held request none (h.tracked.inFlight request rest hflight).1
    exact ⟨⟨hheld.started, by simp [hheld.replied]⟩, h.allowed⟩
  | completed request reply hprobe =>
    have hreport := h.report_allowed hprobe
    cases reply with
    | ok roundTrip => exact ⟨⟨rfl, request, hreport⟩, h.allowed⟩
    | error => exact ⟨⟨request, hreport⟩, h.allowed⟩
  | timedOut probe hprobe htimedOut =>
    have hheld := h.tracked.held probe.request probe.reply hprobe
    have hlast : TimeOutAllowed (s.monitor.probe.map (·.request)) probe.request s.log :=
      ⟨by rw [hprobe]; rfl, hheld.started, hheld.pending, hheld.untimed htimedOut⟩
    exact ⟨⟨probe.request, hlast⟩, h.allowed⟩
  | expired => exact ⟨trivial, h.allowed⟩

theorem Consistent.step (h : Consistent s) (he : Effect s s') : Consistent s' :=
  ⟨h.tracked.step he, h.timely.step he, h.following.step he, h.stopping.step he,
    h.allowed_step he⟩

theorem consistent_opened (now : Nat) (foreground : Bool) : Consistent (opened now foreground) where
  tracked := by
    refine ⟨nofun, ?_, nofun, ?_⟩ <;> simp [opened, Started, LatencyEntry.request?]
  timely := by
    refine ⟨Nat.le_refl _, ?_, ?_⟩ <;> simp [opened, Spaced, LatencyEntry.completion?]
  following := ⟨rfl, rfl, fun _ => rfl, fun _ => rfl⟩
  stopping held time hmem := by simp [opened] at hmem
  allowed := ⟨trivial, trivial, trivial⟩

theorem consistent_of_reachable (h : latencySystem.Reachable s) : Consistent s := by
  refine h.invariant ?_ fun s label s' hstep hs => hs.step (step_effect hstep)
  intro s ⟨now, foreground, heq⟩
  exact heq ▸ consistent_opened now foreground

theorem not_completed_of_allowed {e : LatencyEntry} {past : List LatencyEntry} {request : Nat}
    (h : Allowed e past) (he : e.completes request = true) : ¬Completed request past := by
  cases e with
  | returned held event time =>
    simp only [LatencyEntry.completes, Bool.and_eq_true, beq_iff_eq] at he
    obtain ⟨rfl, hevent⟩ := he
    cases event with
    | measured roundTrip measuredAt =>
      obtain ⟨-, other, hreport⟩ := h
      cases hreport.held
      exact hreport.once
    | unavailable =>
      obtain ⟨other, hreport⟩ := h
      cases hreport.held
      exact hreport.once
    | timedOut | expired => cases hevent
  | _ => cases he

theorem not_timedOut_of_allowed {e : LatencyEntry} {past : List LatencyEntry} {request : Nat}
    (h : Allowed e past) (he : e.timesOut request = true) : ¬TimedOut request past := by
  cases e with
  | returned held event time =>
    simp only [LatencyEntry.timesOut, Bool.and_eq_true, beq_iff_eq] at he
    obtain ⟨rfl, rfl⟩ := he
    obtain ⟨other, hlast⟩ := h
    cases hlast.held
    exact hlast.once
  | _ => cases he

theorem countP_completes_le_one {log : List LatencyEntry} (h : Always Allowed log)
    (request : Nat) : log.countP (·.completes request) ≤ 1 := by
  apply Always.countP_le_one
  refine h.mono fun e past hallowed he f hf hcompletes => ?_
  exact not_completed_of_allowed hallowed he ⟨f, hf, hcompletes⟩

theorem countP_timesOut_le_one {log : List LatencyEntry} (h : Always Allowed log)
    (request : Nat) : log.countP (·.timesOut request) ≤ 1 := by
  apply Always.countP_le_one
  refine h.mono fun e past hallowed he f hf htimesOut => ?_
  exact not_timedOut_of_allowed hallowed he ⟨f, hf, htimesOut⟩

/-- A reply that came in was reported, or the probe is ready with it. -/
def Answered (s : LatencySystem) : Prop :=
  ∀ request reply, LatencyEntry.replied request reply ∈ s.log →
    Completed request s.log ∨ s.monitor.probe = some ⟨request, some reply⟩

theorem Consistent.answered (h : Consistent s) : Answered s := by
  intro request reply hmem
  obtain ⟨newer, older, heq, hallowed⟩ := h.allowed.of_mem hmem
  have hstarted : Started request s.log := by
    obtain ⟨time, he⟩ := hallowed.started
    exact ⟨time, heq ▸ List.mem_append_right _ (List.mem_cons_of_mem _ he)⟩
  refine (h.tracked.settled request hstarted).imp_right fun ⟨reply', hprobe⟩ => ?_
  rw [hprobe, ((h.tracked.held request reply' hprobe).replied reply).mp hmem]

theorem Tracked.length_inFlight_le (h : Tracked s) : s.inFlight.length ≤ 1 := by
  cases hflight : s.inFlight with
  | nil => exact Nat.zero_le 1
  | cons request rest =>
    rw [(h.inFlight request rest hflight).2]
    exact Nat.le_refl 1

/-! ## A reply is reported soon -/

/-- How often a branch other than the one of the reply can be taken before a change is sent: the
    time-out starts the expiry again, and a receiver sees its last value before the end. -/
def otherBranches (s : LatencySystem) : Nat :=
  (if s.monitor.timedOut then 0 else 2) + (if s.monitor.expired then 0 else 1) +
    (if s.monitor.foregroundRx then if s.channel.seen then 1 else 2 else 0)

theorem otherBranches_le (s : LatencySystem) : s.otherBranches ≤ 5 := by
  unfold otherBranches
  split <;> split <;> split <;> (try split) <;> omega

/-- A branch that is taken while the probe is ready reports the reply, or is one of the few
    others. -/
theorem held_reply_take {request : Nat} {reply : LatencyReply} {branch : LatencyBranch}
    (hprobe : s.monitor.probe = some ⟨request, some reply⟩) (h : s.take branch = some s') :
    Completed request s'.log ∨
      s'.monitor.probe = s.monitor.probe ∧ s'.otherBranches < s.otherBranches := by
  cases branch with
  | reply =>
    simp only [take, hprobe, Option.some.injEq] at h
    subst h
    left
    simp [returns, hprobe, LatencyEntry.completes, onReply_event]
  | deadline =>
    simp only [take] at h
    split at h <;> cases h
    rename_i hready
    have htimedOut : s.monitor.timedOut = false := by simp_all
    refine .inr ⟨rfl, ?_⟩
    simp only [returns, otherBranches, LatencyMonitor.onDeadline]
    -- the branch fires once, so one fewer is left
    grind
  | expires =>
    simp only [take] at h
    split at h <;> cases h
    rename_i hready
    have hexpired : s.monitor.expired = false := by simp_all
    refine .inr ⟨rfl, ?_⟩
    simp only [returns, otherBranches, LatencyMonitor.onExpires]
    grind
  | nextProbe =>
    -- no probe is due while one is held
    simp [take, LatencyMonitor.probeDue, hprobe] at h
  | changed =>
    simp only [take, takeChanged, Watch.borrowAndUpdate] at h
    split at h
    · rename_i hrx
      split at h
      · rename_i hchanged
        cases h
        have hunseen : s.channel.seen = false := by simpa [Watch.hasChanged] using hchanged
        refine .inr ⟨rfl, ?_⟩
        simp [otherBranches, LatencyMonitor.onChanged, Watch.markSeen, hrx, hunseen]
      · split at h <;> cases h
        refine .inr ⟨rfl, ?_⟩
        simp only [otherBranches]
        grind
    · cases h

theorem otherBranches_setLatencyForeground (foreground : Bool) :
    (s.setLatencyForeground foreground).otherBranches ≤ s.otherBranches + 1 := by
  simp only [otherBranches, setLatencyForeground]
  grind

theorem held_reply_step {request : Nat} {reply : LatencyReply} {label : LatencyLabel}
    (ht : Tracked s) (hprobe : s.monitor.probe = some ⟨request, some reply⟩)
    (h : s.step label = some s') :
    Completed request s'.log ∨ s'.monitor.probe = s.monitor.probe ∧
      s'.otherBranches + label.takes.toNat ≤ s.otherBranches + label.changes.toNat := by
  cases label with
  | tick elapsed =>
    cases h
    exact .inr ⟨rfl, Nat.le_refl _⟩
  | setForeground foreground =>
    simp only [step] at h
    split at h <;> cases h
    exact .inr ⟨rfl, otherBranches_setLatencyForeground foreground⟩
  | dropSender =>
    cases h
    exact .inr ⟨rfl, Nat.le_refl _⟩
  | answer reply' =>
    -- the request was answered, so nothing is in flight
    simp only [step, answer] at h
    split at h <;> cases h
    rename_i other rest hflight
    have hwaiting := (ht.inFlight other rest hflight).1
    rw [hprobe] at hwaiting
    cases hwaiting
  | call =>
    simp only [step] at h
    split at h <;> cases h
    exact .inr ⟨rfl, Nat.le_refl _⟩
  | dropFuture =>
    simp only [step] at h
    split at h <;> cases h
    exact .inr ⟨rfl, Nat.le_refl _⟩
  | enter =>
    have hdue : ¬s.monitor.probeDue s.now = true := by simp [LatencyMonitor.probeDue, hprobe]
    simp only [step, enter, if_neg hdue] at h
    split at h <;> cases h
    exact .inr ⟨rfl, Nat.le_refl _⟩
  | take branch =>
    simp only [step] at h
    split at h
    · exact held_reply_take hprobe h
    · cases h

theorem Effect.log_suffix (h : Effect s s') : s.log <:+ s'.log := by
  cases h with
  | moved => exact List.suffix_rfl
  | _ => exact List.suffix_cons _ _

theorem Completed.step {request : Nat} (h : Completed request s.log) (he : Effect s s') :
    Completed request s'.log := by
  obtain ⟨e, hmem, hcompletes⟩ := h
  exact ⟨e, he.log_suffix.subset hmem, hcompletes⟩

theorem held_reply_run {request : Nat} {reply : LatencyReply} {labels : List LatencyLabel}
    (hrun : latencySystem.Run s labels s') (hs : Consistent s)
    (hprobe : s.monitor.probe = some ⟨request, some reply⟩) :
    Completed request s'.log ∨
      labels.countP (·.takes) ≤ s.otherBranches + labels.countP (·.changes) := by
  induction hrun with
  | nil => exact .inr (Nat.zero_le _)
  | cons hstep hrest ih =>
    have heffect := step_effect hstep
    rcases held_reply_step hs.tracked hprobe hstep with hcompleted | ⟨hsame, hfewer⟩
    · refine .inl (hrest.preserves (P := fun s => Completed request s.log) ?_ hcompleted)
      exact fun _ _ _ hst hc => Completed.step hc (step_effect hst)
    · refine (ih (hs.step heffect) (hsame.trans hprobe)).imp_right fun hle => ?_
      simp only [List.countP_cons] at hfewer ⊢
      grind

/-- The reply that the probe is ready with: its branch can be taken in every `select!`, and
    however the schedule goes on, at most five branches and one for every change come first. -/
def ReportsSoon (s : LatencySystem) : Prop :=
  ∀ request reply, s.monitor.probe = some ⟨request, some reply⟩ →
    (s.control = .selecting → ∃ s', s.step (.take .reply) = some s' ∧
      s'.log = .returned (some request) (reply.event s.now) s.now :: s.log) ∧
    ∀ labels s', latencySystem.Run s labels s' → Completed request s'.log ∨
      labels.countP (·.takes) ≤ 5 + labels.countP (·.changes)

theorem Consistent.reportsSoon (h : Consistent s) : ReportsSoon s := by
  intro request reply hprobe
  constructor
  · intro hselecting
    refine ⟨s.returns (s.monitor.onReply reply s.now).1 (reply.event s.now), ?_, ?_⟩
    · simp [LatencySystem.step, take, hselecting, hprobe, onReply_event]
    · simp [returns, hprobe]
  · intro labels s' hrun
    refine (held_reply_run hrun h hprobe).imp_right fun hle => ?_
    have hfew := s.otherBranches_le
    omega

/-! ## Every schedule -/

/-- In every schedule at most one request is in flight, a probe has at most one time-out and one
    event for its reply, each reply is reported once and soon, and a probe is only started where
    the history allows it. -/
theorem latency_monitor_probes (h : latencySystem.Reachable s) :
    s.inFlight.length ≤ 1 ∧
      (∀ request, s.log.countP (·.timesOut request) ≤ 1 ∧
        s.log.countP (·.completes request) ≤ 1) ∧
      Answered s ∧ ReportsSoon s ∧ Always Allowed s.log := by
  have hs := consistent_of_reachable h
  refine ⟨hs.tracked.length_inFlight_le, fun request => ?_, hs.answered, hs.reportsSoon, hs.allowed⟩
  exact ⟨countP_timesOut_le_one hs.allowed request, countP_completes_le_one hs.allowed request⟩

/-- The reply comes in after the time-out of its probe. -/
theorem lateReply_reported :
    ∃ s, latencySystem.Reachable s ∧
      s.log.countP (·.timesOut 0) = 1 ∧ s.log.countP (·.completes 0) = 1 ∧
      s.inFlight.length ≤ 1 ∧ Always Allowed s.log := by
  have hreach : latencySystem.Reachable _ := ⟨opened 0 true,
    [.call, .enter, .tick probeTimeout, .take .deadline, .answer (.ok 6000000000), .call, .enter,
      .take .reply], ⟨0, true, rfl⟩,
    .cons rfl <| .cons rfl <| .cons rfl <| .cons rfl <| .cons rfl <| .cons rfl <| .cons rfl <|
      .cons rfl <| .nil _⟩
  obtain ⟨hflight, -, -, -, hallowed⟩ := latency_monitor_probes hreach
  exact ⟨_, hreach, rfl, rfl, hflight, hallowed⟩

/-- A change that the monitor has not read yet when it starts a probe: the background interval is
    not over. -/
theorem unread_change_not_spaced :
    ¬∀ s, latencySystem.Reachable s → Always (fun e past => ∀ request time,
      e = .started request time → ∀ foreground ∈ lastSent past, Spaced foreground time past)
        s.log := by
  intro h
  have hreach : latencySystem.Reachable _ := ⟨opened 0 true,
    [.call, .enter, .answer (.ok 20000000), .take .reply, .setForeground false,
      .tick foregroundInterval, .call, .enter], ⟨0, true, rfl⟩,
    .cons rfl <| .cons rfl <| .cons rfl <| .cons rfl <| .cons rfl <| .cons rfl <| .cons rfl <|
      .cons rfl <| .nil _⟩
  have hspaced := (h _ hreach).1 1 foregroundInterval rfl false rfl
  have hlate : 0 + probeInterval false ≤ foregroundInterval :=
    hspaced (.returned (some 0) (.measured 20000000 0) 0)
      (List.mem_cons_of_mem _ List.mem_cons_self) 0 rfl
  exact absurd hlate (by decide)

end LatencySystem

end AxSsh
