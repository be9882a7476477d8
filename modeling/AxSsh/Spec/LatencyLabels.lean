import AxSsh.Native.ConnectionLatency

/-!
# The latency a tab shows

The abstract side keeps the samples since the last interruption (a timeout, an expiry, a gap of 90
seconds).  While the newest one is recent, a tab shows their moving average, and the last band that
two averages in a row agree on.

## Key results
- `ConnectionLatency.snapshot_run`: what is shown after a run
-/

namespace AxSsh

/-- The samples since the last interruption in microseconds, the newest first. -/
structure Measurements where
  streak : List Nat := []
  newest : Option Nat := none

def Measurements.recent (now : Nat) (m : Measurements) : Bool :=
  m.newest.any fun at' => now - at' < sampleLifetime

def Measurements.handleEvent (m : Measurements) : Nat × LatencyEvent → Measurements
  | (now, .measured roundTrip measuredAt) =>
    if m.newest.any fun previous => measuredAt ≤ previous then m
    else if now - measuredAt ≥ sampleLifetime then { m with streak := [] }
    else
      { streak := asMicros roundTrip :: if m.recent now then m.streak else []
        newest := some measuredAt }
  | _ => { m with streak := [] }

namespace ConnectionLatency

def average : List Nat → Nat
  | [] => 0
  | sample :: rest => if rest = [] then sample else (average rest * 4 + sample) / 5

def band (samples : List Nat) : Quality := Quality.forMicros (average samples)

/-- The last band that two averages in a row agree on, else the one of the first sample. -/
def label : List Nat → Quality
  | [] => .good
  | sample :: rest =>
    if rest = [] ∨ band (sample :: rest) = band rest then band (sample :: rest) else label rest

theorem average_between {lo hi : Nat} {samples : List Nat} (hne : samples ≠ [])
    (h : ∀ sample ∈ samples, lo ≤ sample ∧ sample ≤ hi) :
    lo ≤ average samples ∧ average samples ≤ hi := by
  induction samples with
  | nil => exact absurd rfl hne
  | cons sample rest ih =>
    rw [List.forall_mem_cons] at h
    unfold average
    split
    · exact h.1
    · next hrest =>
      have hmean := ih hrest h.2
      omega

structure Represents (l : ConnectionLatency) (m : Measurements) : Prop where
  measuredAt : l.measuredAt = m.newest
  interrupted : m.streak = [] → l.phase ≠ .measured
  measured : m.streak ≠ [] → l.phase = .measured ∧ m.newest.isSome ∧ l.observedAt = m.newest ∧
    l.smoothedMicros = some (average m.streak) ∧ l.quality = some (label m.streak) ∧
    l.candidate = if band m.streak = label m.streak then none else some (band m.streak)

theorem Represents.handleEvent {l : ConnectionLatency} {m : Measurements} (h : l.Represents m)
    (event : Nat × LatencyEvent) : (l.handleEvent event).Represents (m.handleEvent event) := by
  obtain ⟨now, event⟩ := event
  cases event with
  | timedOut | expired | unavailable =>
    exact ⟨h.measuredAt, fun _ => by nofun, fun hne => absurd rfl hne⟩
  | measured roundTrip measuredAt =>
    simp only [ConnectionLatency.handleEvent, recordSample, Measurements.handleEvent, h.measuredAt]
    split
    · exact h
    split
    · exact ⟨rfl, fun _ => by nofun, fun hne => absurd rfl hne⟩
    refine ⟨rfl, nofun, fun _ => ⟨rfl, rfl, rfl, ?_⟩⟩
    unfold Measurements.recent
    by_cases hne : m.streak = []
    · simp [hne, h.interrupted hne, average, label, band]
    · obtain ⟨hphase, -, hobserved, hsmoothed, hquality, hcandidate⟩ := h.measured hne
      simp only [hphase, hobserved, hsmoothed, hquality, hcandidate, Option.elim_some, true_and]
      split
      · -- the candidate is the band of the average before, where that is not shown
        simp only [average, label, band, hne, if_false, false_or, Option.some.injEq]
        grind
      · next hold => simp [hold, average, label, band]

end ConnectionLatency

end AxSsh
