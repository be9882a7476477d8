import AxSsh.Native.LatencyMonitor

/-!
# The latency of a tab

`ConnectionLatency` of `app/state/latency.rs`, which takes the events of the latency monitor and
says what the tab shows.  The text of the wall clock beside it is left out.
-/

namespace AxSsh

inductive LatencyPhase where
  | measuring | measured | timedOut | stale | unavailable
deriving DecidableEq

inductive Quality where
  | good | moderate | high | poor
deriving DecidableEq

def Quality.forMicros (micros : Nat) : Quality :=
  if micros < 100000 then .good
  else if micros < 250000 then .moderate
  else if micros < 500000 then .high
  else .poor

def Quality.name : Quality → String
  | .good => "good"
  | .moderate => "moderate"
  | .high => "high"
  | .poor => "poor"

structure ConnectionLatency where
  phase : LatencyPhase := .measuring
  smoothedMicros : Option Nat := none
  quality : Option Quality := none
  candidate : Option Quality := none
  measuredAt : Option Nat := none
  observedAt : Option Nat := none

/-- `as_micros`, at most `u64::MAX`. -/
def asMicros (duration : Nat) : Nat := min (duration / 1000) 18446744073709551615

namespace ConnectionLatency

def recordSample (now sample measuredAt : Nat) (l : ConnectionLatency) : ConnectionLatency :=
  if l.measuredAt.any fun previous => measuredAt ≤ previous then l
  else if now - measuredAt ≥ sampleLifetime then { l with phase := .stale }
  else
    let sample := asMicros sample
    let fresh := l.phase = .measured ∧ l.observedAt.any fun at' => now - at' < sampleLifetime
    let smoothed :=
      if fresh then l.smoothedMicros.elim sample fun previous => (previous * 4 + sample) / 5
      else sample
    let quality := Quality.forMicros smoothed
    let settles := ¬fresh ∨ l.quality = some quality ∨ l.candidate = some quality
    { phase := .measured
      smoothedMicros := some smoothed
      quality := if settles then some quality else l.quality
      candidate := if settles then none else some quality
      measuredAt := some measuredAt
      observedAt := some measuredAt }

/-- The branches of `spawn_session_monitor` for the events of the latency monitor. -/
def handleEvent (l : ConnectionLatency) : Nat × LatencyEvent → ConnectionLatency
  | (now, .measured roundTrip measuredAt) => l.recordSample now roundTrip measuredAt
  | (now, .timedOut) => { l with phase := .timedOut, observedAt := some now, candidate := none }
  | (_, .expired) => { l with phase := .stale }
  | (_, .unavailable) => { l with phase := .unavailable }

/-- The state and the milliseconds of a `ConnectionLatencySnapshot`. -/
def snapshot (now : Nat) (l : ConnectionLatency) : String × Nat :=
  let expired := (l.phase = .measured ∨ l.phase = .timedOut) ∧
    l.observedAt.any fun at' => now - at' ≥ sampleLifetime
  let state :=
    if expired then "stale"
    else match l.phase with
      | .measuring => "measuring"
      | .measured => l.quality.elim "measuring" Quality.name
      | .timedOut => "timeout"
      | .stale => "stale"
      | .unavailable => "unavailable"
  (state, min ((l.smoothedMicros.getD 0 + 999) / 1000) 2147483647)

end ConnectionLatency

end AxSsh
