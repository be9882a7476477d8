import AxSsh.Native.TransferControl

/-!
# Waits and permits of transfers

Whoever waits for a transfer to be cancelled or to run comes back once that is so and everybody
who changed a flag has called `notify_waiters`, in whatever order the parties take their steps: no
wake-up is lost.  The uploads that run are counted exactly, and no limit that was ever set is
exceeded.

## Key results
- `Wait.Ok.poll`, `Wait.Ok.follows`: what a wait relies on, over its own and the others' steps
- `Wait.rank_poll`: a wait that is due comes nearer to its end
- `run_waits`: every run of the parties
- `run_uploads`: every run of the uploads
-/

namespace AxSsh

namespace TransferControl

open Notify

/-! ## Waits -/

variable {c c' : TransferCancellation} {owed owed' : Nat}

def Cancelled.Ok (c : TransferCancellation) (owed : Nat) : Cancelled → Prop
  | subscribing => True
  | checking f => c.notify.Armed f owed True
  | waiting f => c.notify.Armed f owed (c.cancelled = false)
  | done => c.cancelled = true

/-- What a wait relies on: while its future is not ready, the flags are as it saw them. -/
def Running.Ok (c : TransferCancellation) (owed : Nat) : Running → Prop
  | recheckCancelled f => c.notify.Armed f owed True
  | recheckPaused f => c.notify.Armed f owed (c.cancelled = false)
  | selecting f wait =>
    c.notify.Armed f owed (c.cancelled = false ∧ c.paused = true) ∧ wait.Ok c owed
  | done false => c.cancelled = true
  | _ => True

def Wait.Ok (c : TransferCancellation) (owed : Nat) : Wait → Prop
  | cancelled wait => wait.Ok c owed
  | running wait => wait.Ok c owed

/-- A step of another party: an owed call, or a change that is followed by one. -/
structure Follows (c : TransferCancellation) (owed : Nat) (c' : TransferCancellation)
    (owed' : Nat) : Prop where
  cancelled : c.cancelled = true → c'.cancelled = true
  armed {f : Notified} {p : Prop} (q : Prop) : c.notify.Armed f owed p → c'.notify.Armed f owed' q

theorem Cancelled.Ok.follows {wait : Cancelled} (h : wait.Ok c owed) (hf : Follows c owed c' owed') :
    wait.Ok c' owed' := by
  cases wait with
  | subscribing => trivial
  | checking f => exact hf.armed _ h
  | waiting f => exact hf.armed _ h
  | done => exact hf.cancelled h

theorem Wait.Ok.follows {wait : Wait} (h : wait.Ok c owed) (hf : Follows c owed c' owed') :
    wait.Ok c' owed' := by
  cases wait with
  | cancelled wait => exact Cancelled.Ok.follows h hf
  | running wait =>
    cases wait with
    | recheckCancelled f => exact hf.armed _ h
    | recheckPaused f => exact hf.armed _ h
    | selecting f wait => exact ⟨hf.armed _ h.1, h.2.follows hf⟩
    | done running =>
      cases running with
      | false => exact hf.cancelled h
      | true => trivial
    | _ => trivial

theorem Cancelled.Ok.poll {wait : Cancelled} (h : wait.Ok c owed) : (wait.poll c).Ok c owed := by
  cases wait with
  | subscribing => exact armed_notified
  | checking f =>
    exact iteInduction (fun hc => hc) fun hc => Armed.look h (Bool.eq_false_iff.mpr hc)
  | waiting f => exact iteInduction (fun _ => trivial) fun _ => h
  | done => exact h

theorem Running.Ok.poll {wait : Running} (h : wait.Ok c owed) (branch : Branch) :
    (wait.poll c branch).Ok c owed := by
  cases wait with
  | checkCancelled => exact iteInduction (fun hc => hc) fun _ => trivial
  | checkPaused => exact iteInduction (fun _ => trivial) fun _ => trivial
  | subscribing => exact armed_notified
  | recheckCancelled f =>
    exact iteInduction (fun hc => hc) fun hc => Armed.look h (Bool.eq_false_iff.mpr hc)
  | recheckPaused f =>
    -- both looks were behind the making of the future
    refine iteInduction (fun hp => ⟨⟨h.made, fun hready howed => ?_⟩, trivial⟩) fun _ => trivial
    exact ⟨h.holds hready howed, hp⟩
  | selecting f wait =>
    cases branch with
    | notified => exact iteInduction (fun _ => trivial) fun _ => h
    | cancelled =>
      have hwait := Cancelled.Ok.poll h.2
      simp only [Running.poll]
      split
      · rename_i heq
        rwa [heq] at hwait
      · exact ⟨h.1, hwait⟩
  | done running => exact h

theorem Wait.Ok.poll {wait : Wait} (h : wait.Ok c owed) (branch : Branch) :
    (wait.poll c branch).Ok c owed := by
  cases wait with
  | cancelled wait => exact Cancelled.Ok.poll h
  | running wait => exact Running.Ok.poll h branch

/-! ## Progress -/

/-- What the wait waits for is so. -/
def Wait.Due (c : TransferCancellation) : Wait → Prop
  | cancelled _ => c.cancelled = true
  | running _ => c.cancelled = true ∨ c.paused = false

def Wait.isDone : Wait → Bool
  | cancelled .done | running (.done _) => true
  | _ => false

def Cancelled.rank : Cancelled → Nat
  | waiting _ => 3
  | subscribing => 2
  | checking _ => 1
  | done => 0

/-- How many steps are left at most, while the flags stay. -/
def Running.rank (paused : Bool) : Running → Nat
  | checkPaused => if paused then 7 else 1
  | subscribing => 6
  | recheckCancelled _ => 5
  | recheckPaused _ => 4
  | selecting _ _ => 3
  | checkCancelled => 2
  | done _ => 0

def Wait.rank (c : TransferCancellation) : Wait → Nat
  | cancelled wait => wait.rank
  | running wait => wait.rank c.paused

/-- The steps that a poll is sure to make. -/
def Branch.steps : Branch → Nat
  | notified => 1
  | cancelled => 0

theorem Cancelled.rank_poll {wait : Cancelled} (h : wait.Ok c 0) (hdue : c.cancelled = true) :
    (wait.poll c).rank ≤ wait.rank - 1 := by
  cases wait with
  | checking f => simp [Cancelled.poll, hdue, Cancelled.rank]
  | waiting f => simp [Cancelled.poll, h.ready (by simp [hdue]), Cancelled.rank]
  | _ => exact Nat.le_refl _

/-- A wait that is due leads on; the `select!` may stay where it is for its other branch. -/
theorem Running.rank_poll {wait : Running} (h : wait.Ok c 0)
    (hdue : c.cancelled = true ∨ c.paused = false) (branch : Branch) :
    (wait.poll c branch).rank c.paused ≤ wait.rank c.paused - branch.steps := by
  cases wait with
  | selecting f wait =>
    cases branch with
    | notified =>
      -- nobody owes a call, and so the future is ready
      have hready := h.1.ready fun hflags => by
        rw [hflags.1, hflags.2] at hdue
        exact hdue.elim nofun nofun
      simp [Running.poll, hready, Running.rank, Branch.steps]
    | cancelled =>
      simp only [Running.poll]
      split
      · exact Nat.zero_le _
      · exact Nat.le_refl _
  | checkCancelled =>
    cases hc : c.cancelled with
    | false =>
      have hpaused := hdue.resolve_left (ne_true_of_eq_false hc)
      cases branch <;> simp [Running.poll, hc, Running.rank, hpaused, Branch.steps]
    | true => cases branch <;> simp [Running.poll, hc, Running.rank, Branch.steps]
  | checkPaused =>
    cases hp : c.paused <;> cases branch <;> simp [Running.poll, hp, Running.rank, Branch.steps]
  | recheckCancelled f =>
    cases hc : c.cancelled <;> cases branch <;>
      simp [Running.poll, hc, Running.rank, Branch.steps]
  | recheckPaused f =>
    cases hp : c.paused <;> cases branch <;> simp [Running.poll, hp, Running.rank, Branch.steps]
  | subscribing => cases branch <;> simp [Running.poll, Running.rank, Branch.steps]
  | done running => exact Nat.zero_le _

theorem Wait.rank_poll {wait : Wait} (h : wait.Ok c 0) (hdue : wait.Due c) (branch : Branch) :
    (wait.poll c branch).Due c ∧ (wait.poll c branch).rank c ≤ wait.rank c - branch.steps := by
  cases wait with
  | cancelled wait =>
    refine ⟨hdue, Nat.le_trans (Cancelled.rank_poll h hdue) (Nat.sub_le_sub_left ?_ _)⟩
    cases branch <;> decide
  | running wait => exact ⟨hdue, Running.rank_poll h hdue branch⟩

theorem Wait.rank_le (wait : Wait) : wait.rank c ≤ 7 := by
  cases wait with
  | cancelled wait => cases wait <;> simp [Wait.rank, Cancelled.rank]
  | running wait => cases wait <;> cases hp : c.paused <;> simp [Wait.rank, Running.rank, hp]

theorem Wait.isDone_of_rank {wait : Wait} (h : wait.rank c = 0) : wait.isDone = true := by
  cases wait with
  | cancelled wait =>
    cases wait with
    | done => rfl
    | _ => cases h
  | running wait =>
    cases wait with
    | done running => rfl
    | checkPaused => cases hp : c.paused <;> simp [Wait.rank, Running.rank, hp] at h
    | _ => cases h

/-- A wait that is due comes back, whatever the order in which its futures are polled. -/
theorem Wait.foldl_isDone {wait : Wait} (h : wait.Ok c 0) (hdue : wait.Due c)
    (branches : List Branch) (hsteps : wait.rank c ≤ branches.count .notified) :
    (branches.foldl (Wait.poll c) wait).isDone = true := by
  induction branches generalizing wait with
  | nil => exact Wait.isDone_of_rank (Nat.le_zero.mp hsteps)
  | cons branch branches ih =>
    obtain ⟨hdue', hrank⟩ := Wait.rank_poll h hdue branch
    refine ih (h.poll branch) hdue' ?_
    cases branch with
    | notified =>
      rw [List.count_cons_self] at hsteps
      exact Nat.le_trans hrank (Nat.sub_le_of_le_add hsteps)
    | cancelled =>
      rw [List.count_cons_of_ne (by decide)] at hsteps
      exact Nat.le_trans hrank hsteps

/-! ## Runs -/

namespace Parties

variable {w : Parties}

def Ok (w : Parties) : Prop := ∀ wait ∈ w.waits, wait.Ok w.control w.notifying

theorem Ok.follows (h : w.Ok) {control : TransferCancellation} {notifying : Nat} {pausing : Nat}
    (hf : Follows w.control w.notifying control notifying) :
    { w with control, notifying, pausing }.Ok := fun wait hwait => (h wait hwait).follows hf

/-- A swap changes nothing, or a call is owed from now on. -/
theorem Ok.swap (h : w.Ok) {control : TransferCancellation} {changed : Bool}
    (hcancelled : w.control.cancelled = true → control.cancelled = true)
    (hnotify : control.notify = w.control.notify)
    (hsame : changed = false → control = w.control) : (w.swap changed control).Ok := by
  cases changed with
  | false =>
    rw [hsame rfl]
    exact h
  | true => exact h.follows ⟨hcancelled, fun _ harmed => hnotify ▸ harmed.owe⟩

theorem Ok.snoc (h : w.Ok) {wait : Wait} (hwait : wait.Ok w.control w.notifying) :
    { w with waits := w.waits ++ [wait] }.Ok :=
  List.forall_mem_append.mpr ⟨h, List.forall_mem_singleton.mpr hwait⟩

theorem Ok.step (h : w.Ok) (turn : PartyTurn) : (w.step turn).Ok := by
  cases turn with
  | cancel =>
    refine h.swap (fun _ => rfl) rfl fun hsame => ?_
    rw [Bool.not_eq_false'] at hsame
    rw [← hsame]
  | beginPause => exact iteInduction (fun _ => h) fun _ => h
  | pause =>
    refine iteInduction (fun _ => h) fun _ => Ok.swap (w := { w with pausing := _ }) h id rfl ?_
    intro hsame
    rw [Bool.not_eq_false'] at hsame
    rw [← hsame]
  | resume =>
    refine h.swap id rfl fun hsame => ?_
    rw [← hsame]
  | notify =>
    exact iteInduction (fun _ => h) fun _ => h.follows ⟨id, fun _ harmed => harmed.call⟩
  | awaitCancelled => exact h.snoc trivial
  | awaitRunning => exact h.snoc trivial
  | poll index branch =>
    simp only [Parties.step]
    split
    · exact h
    · rename_i wait hget
      intro other hother
      obtain hold | rfl := List.mem_or_eq_of_mem_set hother
      · exact h other hold
      · exact (h wait (List.mem_of_getElem? hget)).poll branch

theorem Ok.run (h : w.Ok) (turns : List PartyTurn) : (w.run turns).Ok :=
  List.foldlRecOn turns Parties.step h fun _ hw turn _ => hw.step turn

end Parties

/-- After any turns of the parties: who was told of a cancellation was told the truth, and once
    nobody owes a call, who waits for what is so comes back within seven polls of its future. -/
theorem run_waits (turns : List PartyTurn) :
    let w := Parties.run {} turns
    ∀ wait ∈ w.waits,
      (wait = .cancelled .done ∨ wait = .running (.done false) → w.control.cancelled = true) ∧
      (w.notifying = 0 → wait.Due w.control → ∀ branches : List Branch,
        7 ≤ branches.count .notified →
        (branches.foldl (Wait.poll w.control) wait).isDone = true) := by
  intro w wait hwait
  have hok : w.Ok := Parties.Ok.run (w := {}) (List.forall_mem_nil _) turns
  have h := hok wait hwait
  refine ⟨?_, fun hquiet hdue branches hsteps => ?_⟩
  · rintro (rfl | rfl) <;> exact h
  · rw [hquiet] at h
    exact Wait.foldl_isDone h hdue branches (Nat.le_trans wait.rank_le hsteps)

/-! ## Permits -/

namespace Uploads

variable {w : Uploads}

/-- The counter is the number of permits, and below a limit that was set. -/
structure Ok (w : Uploads) : Prop where
  active : w.limiter.active = w.calls.count .acquired
  bounded : ∃ limit ∈ w.limits, w.limiter.active ≤ limit
  limit : w.limiter.limit ∈ w.limits
  exchange : ∀ active, .exchange active ∈ w.calls → ∃ limit ∈ w.limits, active < limit

/-- A call or a permit takes its step. -/
theorem Ok.set (h : w.Ok) {index : Nat} {call next : Acquire} (hget : w.calls[index]? = some call)
    {active : Nat}
    (hactive : active + [call].count .acquired = w.limiter.active + [next].count .acquired)
    (hbounded : ∃ limit ∈ w.limits, active ≤ limit)
    (hexchange : ∀ seen, next = .exchange seen → ∃ limit ∈ w.limits, seen < limit) :
    { w with
      limiter := { w.limiter with active }
      calls := w.calls.set index next }.Ok := by
  obtain ⟨hlt, hcall⟩ := List.getElem?_eq_some_iff.mp hget
  refine ⟨?_, hbounded, h.limit, fun seen hseen => ?_⟩
  · have hcount := h.active
    have hpos : [call].count .acquired ≤ w.calls.count .acquired :=
      (List.singleton_sublist.mpr (List.mem_of_getElem? hget)).count_le _
    simp only [List.count_set hlt, hcall, List.count_singleton] at hcount hpos hactive ⊢
    omega
  · obtain hold | hnew := List.mem_or_eq_of_mem_set hseen
    · exact h.exchange seen hold
    · exact hexchange seen hnew.symm

theorem Ok.step (h : w.Ok) (turn : UploadTurn) : (w.step turn).Ok := by
  cases turn with
  | setLimit limit =>
    have hkeep {p : Nat → Prop} (hp : ∃ limit ∈ w.limits, p limit) :
        ∃ limit' ∈ max limit 1 :: w.limits, p limit' := by
      obtain ⟨old, hold, hp⟩ := hp
      exact ⟨old, List.mem_cons_of_mem _ hold, hp⟩
    exact ⟨h.active, hkeep h.bounded, List.mem_cons_self, fun seen hseen =>
      hkeep (h.exchange seen hseen)⟩
  | tryAcquire =>
    refine ⟨?_, h.bounded, h.limit, fun seen hseen => ?_⟩
    · simpa [Uploads.step] using h.active
    · exact h.exchange seen (by simpa [Uploads.step] using hseen)
  | poll index =>
    simp only [Uploads.step]
    split
    · exact h
    · rename_i call hget
      cases call with
      | loadActive => exact h.set hget rfl h.bounded nofun
      | loadLimit seen =>
        simp only [UploadLimiter.poll]
        split
        · exact h.set hget rfl h.bounded nofun
        · rename_i hlt
          refine h.set hget rfl h.bounded fun active heq => ?_
          cases heq
          exact ⟨_, h.limit, Nat.lt_of_not_le hlt⟩
      | exchange seen =>
        simp only [UploadLimiter.poll]
        split
        · rename_i heq
          -- the counter is what the call has seen, and so below the limit that it has seen
          obtain ⟨limit, hlimit, hlt⟩ := h.exchange seen (List.mem_of_getElem? hget)
          exact h.set hget (by rw [heq]; rfl) ⟨limit, hlimit, hlt⟩ nofun
        · exact h.set hget rfl h.bounded nofun
      | acquired =>
        obtain ⟨limit, hlimit, hle⟩ := h.bounded
        have hpos : 0 < w.limiter.active := by
          rw [h.active]
          exact List.count_pos_iff.mpr (List.mem_of_getElem? hget)
        exact h.set hget (Nat.sub_add_cancel hpos) ⟨limit, hlimit, Nat.le_trans (Nat.sub_le _ _) hle⟩
          nofun
      | refused => exact h.set hget rfl h.bounded nofun
      | released => exact h.set hget rfl h.bounded nofun

theorem Ok.run (h : w.Ok) (turns : List UploadTurn) : (w.run turns).Ok :=
  List.foldlRecOn turns Uploads.step h fun _ hw turn _ => hw.step turn

end Uploads

/-- After any turns of the uploads the counter is the number of permits that live, and some limit
    that was set is not exceeded. -/
theorem run_uploads (limit : Nat) (turns : List UploadTurn) :
    let w := Uploads.run { limiter := .new limit } turns
    w.limiter.active = w.calls.count .acquired ∧ (∃ limit ∈ w.limits, w.limiter.active ≤ limit) := by
  intro w
  have h : w.Ok := Uploads.Ok.run
    (w := { limiter := .new limit })
    ⟨rfl, ⟨_, List.mem_singleton_self _, Nat.zero_le _⟩, List.mem_singleton_self _, nofun⟩ turns
  exact ⟨h.active, h.bounded⟩

end TransferControl

end AxSsh
