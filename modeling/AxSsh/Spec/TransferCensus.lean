import AxSsh.ForStd.StepsVia
import Mathlib.Tactic.Basic

/-!
# The life of a transfer in the loop

An abstract machine for one transfer of the loop.  Its state is a census: how often the
transfer occurs in each container, how often it was started, and how many outcomes were
reported for it.  Its moves are what the loop can do with a transfer.  A `Sound` census has
the transfer in one place at most, and every move keeps it sound.

## Key results
- `Sound.moves`: moves keep a census sound
-/

namespace AxSsh

/-- How often a transfer occurs in each container of the loop, and in its histories. -/
@[ext] structure Census where
  /-- roots that wait for their discovery -/
  queuedRoot : Nat
  /-- roots with a discovery -/
  discovering : Nat
  /-- discoveries that run -/
  running : Nat
  /-- discoveries that run and have not sent their root -/
  unsent : Nat
  /-- discoveries that run and may still send their root -/
  selfSend : Nat
  /-- last messages of a discovery that are not handled -/
  finished : Nat
  /-- discovered files that are not handled -/
  message : Nat
  /-- queued downloads -/
  request : Nat
  /-- openings of a subsystem -/
  opening : Nat
  /-- openings that were cancelled -/
  dropped : Nat
  /-- handles whose task will still send its last event -/
  unreported : Nat
  /-- handles whose task is over, and whose last event nobody took -/
  lost : Nat
  /-- handles whose task has sent its last event -/
  reported : Nat
  /-- last events of tasks that are not handled -/
  event : Nat
  /-- queued uploads -/
  upload : Nat
  /-- uploads that wait for a decision -/
  conflict : Nat
  /-- uploads whose request is kept for a conflict -/
  activeUpload : Nat
  /-- queue slots -/
  slot : Nat
  /-- outcomes reported to the application -/
  outcome : Nat
  /-- refused commands, each reported as an outcome -/
  replied : Nat
  /-- starts of an opening, a download or an upload -/
  starts : Nat

namespace Census

/-- How often a transfer occurs on its way from a request to its last event. -/
def place (c : Census) : Nat :=
  c.message + c.request + c.opening + c.unreported + c.lost + c.event + c.upload + c.conflict

/-- A transfer is in one place at most; the handle of a task that reported is matched by an
    event; a queue slot is held exactly by an upload that is queued, waits or is active; a
    discovery has a task or a last message; and a transfer on its way is the root of a
    discovery only when it is a file that the discovery has sent. -/
structure Sound (c : Census) : Prop where
  place_le : c.place ≤ 1
  reported_le : c.reported ≤ c.event
  dropped_le : c.dropped ≤ c.opening
  slot_eq : c.upload + c.conflict + c.activeUpload = c.slot
  discovery_eq : c.finished + c.running = c.discovering
  root_le : c.queuedRoot + c.discovering + c.slot ≤ 1
  queuedRoot_le : c.queuedRoot + c.place ≤ 1
  unsent_place_le : c.unsent + c.place ≤ 1
  unsent_le : c.unsent ≤ c.running
  selfSend_place_le : c.selfSend + c.place ≤ 1
  selfSend_le : c.selfSend ≤ c.running

/-- The transfer is in no container. -/
structure Blank (c : Census) : Prop where
  queuedRoot : c.queuedRoot = 0
  discovering : c.discovering = 0
  place : c.place = 0
  slot : c.slot = 0

/-! ## Moves -/

/-- What kind of step a transfer takes. -/
inductive MoveKind where
  /-- it comes to the loop for the first time -/
  | enter
  /-- a discovered file is queued -/
  | adopt
  /-- a conflict sends it back to the queue, or to the user -/
  | retry
  /-- its last event is lost -/
  | lose
  /-- an outcome is reported that no place stands for -/
  | extra
  /-- a command about it is refused -/
  | reply
  /-- any other step -/
  | work
deriving DecidableEq, Repr

/-- The moves of a transfer. -/
inductive Move : MoveKind → Census → Census → Prop
  -- discovery
  | queueRoot {c : Census} : c.Blank → Move .enter c { c with queuedRoot := c.queuedRoot + 1 }
  | beginRoot {c : Census} (n : Nat) : c.Blank → n ≤ 1 → Move .enter c
      { c with discovering := 1, running := c.running + 1, unsent := c.unsent + 1,
               selfSend := c.selfSend + n }
  | dequeueRoot {c : Census} (n : Nat) : 0 < c.queuedRoot → n ≤ 1 → Move .work c
      { c with queuedRoot := c.queuedRoot - 1, discovering := 1, running := c.running + 1,
               unsent := c.unsent + 1, selfSend := c.selfSend + n }
  | dropRoot {c : Census} : Move .work c { c with queuedRoot := c.queuedRoot - 1 }
  | sendRoot {c : Census} : 0 < c.selfSend → Move .work c
      { c with unsent := 0, selfSend := 0, message := c.message + 1 }
  | sendOther {c : Census} : Move .work c { c with selfSend := 0 }
  | sendChild {c : Census} : c.Blank → Move .enter c { c with message := c.message + 1 }
  | endDiscovery {c : Census} : 0 < c.running → Move .work c
      { c with running := 0, unsent := 0, selfSend := 0, finished := c.finished + 1 }
  | finishDiscovery {c : Census} : 0 < c.finished → Move .work c
      { c with finished := c.finished - 1, discovering := 0 }
  | adopt {c : Census} : 0 < c.message → Move .adopt c
      { c with message := c.message - 1, request := c.request + 1 }
  | dropMessage {c : Census} : 0 < c.message → Move .work c
      { c with message := c.message - 1 }
  -- downloads
  | queueRequest {c : Census} : c.Blank → Move .enter c { c with request := c.request + 1 }
  | openRequest {c : Census} : 0 < c.request → Move .work c
      { c with request := c.request - 1, opening := 1, dropped := 0, starts := c.starts + 1 }
  | activate {c : Census} : c.dropped < c.opening → Move .work c
      { c with opening := 0, dropped := 0, unreported := c.unreported + 1,
               starts := c.starts + 1 }
  | failOpening {c : Census} : c.dropped < c.opening → Move .work c
      { c with opening := 0, dropped := 0, outcome := c.outcome + 1 }
  | joinDropped {c : Census} : 0 < c.dropped → Move .work c
      { c with opening := 0, dropped := 0 }
  -- uploads
  | queueUpload {c : Census} : c.Blank → Move .enter c
      { c with upload := c.upload + 1, slot := 1 }
  | startUpload {c : Census} : 0 < c.upload → Move .work c
      { c with upload := c.upload - 1, activeUpload := 1, unreported := c.unreported + 1,
               starts := c.starts + 1 }
  | resolve {c : Census} : 0 < c.conflict → Move .work c
      { c with conflict := 0, upload := c.upload + 1 }
  -- tasks
  | report {c : Census} : 0 < c.unreported → Move .work c
      { c with unreported := c.unreported - 1, reported := c.reported + 1,
               event := c.event + 1 }
  | lose {c : Census} : 0 < c.unreported → Move .lose c
      { c with unreported := c.unreported - 1, lost := c.lost + 1 }
  | reap {c : Census} (reported panicked : Nat) : reported ≤ c.reported →
      panicked ≤ c.unreported → Move .work c
      { c with reported, lost := 0, unreported := c.unreported - panicked,
               event := c.event + panicked }
  | settle {c : Census} : 0 < c.event → Move .work c
      { c with event := c.event - 1, reported := 0, activeUpload := 0, slot := 0,
               outcome := c.outcome + 1 }
  | requeue {c : Census} : 0 < c.event → 0 < c.activeUpload → Move .retry c
      { c with event := c.event - 1, reported := 0, activeUpload := 0,
               upload := c.upload + 1 }
  | await {c : Census} : 0 < c.event → 0 < c.activeUpload → Move .retry c
      { c with event := c.event - 1, reported := 0, activeUpload := 0, conflict := 1 }
  | ignoreConflict {c : Census} : 0 < c.event → c.activeUpload = 0 → Move .retry c
      { c with event := c.event - 1, reported := 0 }
  -- cancellation
  | cancelRoot {c : Census} : 0 < c.queuedRoot → Move .work c
      { c with queuedRoot := c.queuedRoot - 1, outcome := c.outcome + 1 }
  | cancelRequest {c : Census} : 0 < c.request → Move .work c
      { c with request := c.request - 1, outcome := c.outcome + 1 }
  | cancelUpload {c : Census} : 0 < c.upload → Move .work c
      { c with upload := c.upload - 1, slot := 0, outcome := c.outcome + 1 }
  | cancelConflict {c : Census} : 0 < c.conflict → Move .work c
      { c with conflict := 0, slot := 0, outcome := c.outcome + 1 }
  | cancelOpening {c : Census} : c.dropped < c.opening → Move .work c
      { c with dropped := 1, outcome := c.outcome + 1 }
  | extra {c : Census} : Move .extra c { c with outcome := c.outcome + 1 }
  | reply {c : Census} : Move .reply c { c with outcome := c.outcome + 1, replied := c.replied + 1 }

/-- A sound census stays sound. -/
theorem Sound.move {k : MoveKind} {c c' : Census} (h : c.Sound) (hm : Move k c c') :
    c'.Sound := by
  obtain ⟨h₁, h₂, h₃, h₄, h₅, h₆, h₇, h₈, h₉, h₁₀, h₁₁⟩ := h
  unfold place at h₁ h₇ h₈ h₁₀
  cases hm
  case queueRoot hb =>
    obtain ⟨b₁, b₂, b₃, b₄⟩ := hb
    unfold place at b₃
    constructor <;> simp only [place] <;> omega
  case beginRoot n hn hb =>
    obtain ⟨b₁, b₂, b₃, b₄⟩ := hb
    unfold place at b₃
    constructor <;> simp only [place] <;> omega
  case sendChild hb =>
    obtain ⟨b₁, b₂, b₃, b₄⟩ := hb
    unfold place at b₃
    constructor <;> simp only [place] <;> omega
  case queueRequest hb =>
    obtain ⟨b₁, b₂, b₃, b₄⟩ := hb
    unfold place at b₃
    constructor <;> simp only [place] <;> omega
  case queueUpload hb =>
    obtain ⟨b₁, b₂, b₃, b₄⟩ := hb
    unfold place at b₃
    constructor <;> simp only [place] <;> omega
  all_goals constructor <;> simp only [place] <;> omega

/-- Moves of the kinds that `P` allows. -/
abbrev Moves (P : MoveKind → Prop) : Census → Census → Prop := StepsVia Move P

/-- Moves keep a census sound. -/
theorem Sound.moves {P : MoveKind → Prop} {c c' : Census} (hm : Moves P c c') (h : c.Sound) :
    c'.Sound :=
  hm.preserves (fun _ _ _ _ hmove hs => hs.move hmove) h

/-- What is nowhere stays nowhere by ordinary moves. -/
theorem Blank.move {c c' : Census} (hc : c.Sound) (h : c.Blank) (hm : Move .work c c') :
    c'.Blank := by
  obtain ⟨b₁, b₂, b₃, b₄⟩ := h
  obtain ⟨_, h₂, h₃, _, h₅, _, _, _, _, _, h₁₁⟩ := hc
  unfold Census.place at b₃
  cases hm <;> constructor <;> simp only [Census.place] <;> omega

/-- Every upload whose request is kept has a task that will report, or an event. -/
structure Tight (c : Census) : Prop where
  lost : c.lost = 0
  activeUpload_le : c.activeUpload ≤ c.unreported + c.event

/-- Only a last event that is lost leaves a kept request behind. -/
theorem Tight.move {k : MoveKind} {c c' : Census} (h : c.Tight) (hk : k ≠ .lose)
    (hm : Move k c c') : c'.Tight := by
  obtain ⟨h₁, h₂⟩ := h
  cases hm <;> first | exact absurd rfl hk | constructor <;> simp only <;> omega

end Census

end AxSsh
