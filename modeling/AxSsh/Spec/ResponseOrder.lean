import Mathlib.Data.List.Nodup
import AxSsh.ForStd.Transition
import AxSsh.Spec.ResponseFlow

/-!
# Terminal responses: complete, bounded, in order

What a terminal session hands to the transport, over any sequence of output chunks, flushes of
held back output and layouts.  `WellAnswered` says that the responses left in the order of
their queries, that the queued and waiting responses fit the capacity, and that the first
layout answered every size request that waited for it exactly once.

The code counts the waiting text area requests and the waiting cell size requests against the
capacity in different ways, and answers cell size requests behind everything else in their
chunk, so this is not true of every session.  `Timely` is the exact condition on a step.

## Key results
- `step_session_invariant`: where the events, requests and responses of a session are
- `wellAnswered_throughout_iff`: a session is well answered exactly when its steps are timely
-/

namespace AxSsh

open TerminalModel

/-! ## Sessions -/

/-- What happens to a terminal, each step with what the library reports during it. -/
inductive TerminalOp where
  | process (bytes : List UInt8) (parsed : Parsed)
  | flushSynchronizedOutput (events : List (Nat × TermEvent))
  | setWindowSize (columns rows cellWidth cellHeight : UInt32)

/-- A terminal and what has become of the queries in its output. -/
structure ResponseSession where
  model : TerminalModel
  /-- All responses handed out so far. -/
  sent : List (Nat × String) := []
  /-- The responses of the last step. -/
  batch : List (Nat × String) := []
  /-- Requests that waited for the first layout and did not get one response from it. -/
  unanswered : List Nat := []
  /-- Where the next event that the library reports can be, at the earliest. -/
  reported : Nat := 0

/-- The size requests that wait for the first layout. -/
def TerminalModel.deferred (m : TerminalModel) : List Nat :=
  m.pendingTextAreaRequests.map Prod.fst ++ m.pendingCellSizeRequests

/-- The position behind the last reported event. -/
def reportedAfter (low : Nat) (events : List (Nat × TermEvent)) : Nat :=
  match events.getLast? with
  | some event => event.1 + 1
  | none => low

namespace ResponseSession

def handOut (s : ResponseSession) (result : TerminalModel × List (Nat × String)) :
    ResponseSession :=
  { s with model := result.1, sent := s.sent ++ result.2, batch := result.2 }

def step (s : ResponseSession) : TerminalOp → ResponseSession
  | .process bytes parsed =>
    { s.handOut (s.model.processWithResponses bytes parsed) with
      reported := reportedAfter s.reported parsed.events }
  | .flushSynchronizedOutput events =>
    { s.handOut (s.model.flushSynchronizedOutput events, []) with
      reported := reportedAfter s.reported events }
  | .setWindowSize columns rows cellWidth cellHeight =>
    let result := s.model.setWindowSize columns rows cellWidth cellHeight
    { s.handOut result with
      unanswered := s.unanswered ++
        if s.model.windowSize = none then
          s.model.deferred.filter fun pos => (result.2.map Prod.fst).count pos ≠ 1
        else [] }

/-- A new terminal. -/
def start (palette : TerminalQueryPalette) (osc52ClipboardEnabled : Bool) : ResponseSession :=
  { model := { queryPalette := palette, osc52ClipboardEnabled } }

/-- The formatter of a text area request makes a response of any size. -/
def Formats (event : Nat × TerminalProtocolEvent) : Prop :=
  match event.2 with
  | .textAreaSizeRequest formatter => ∀ windowSize, (protocolResponse (formatter windowSize)).isSome
  | _ => True

/-- The library reports each query once, in the order of the output. -/
structure ReportedInOrder (low high : Nat) (events : List (Nat × TermEvent)) : Prop where
  sorted : (events.map Prod.fst).Pairwise (· < ·)
  range : ∀ event ∈ events, low ≤ event.1 ∧ event.1 < high
  formats : ∀ event ∈ events.filterMap listened, Formats event

/-- What the library reports during a step: queries of the output so far, later ones than
    it has reported before. -/
def InOrder (s : ResponseSession) : TerminalOp → Prop
  | .process bytes parsed =>
    ReportedInOrder s.reported (s.model.observed + bytes.length) parsed.events
  | .flushSynchronizedOutput events => ReportedInOrder s.reported s.model.observed events
  | .setWindowSize .. => True

/-- The responses left in the order of their queries, the queued and waiting ones fit the
    capacity, and the first layout gave each waiting request one response. -/
structure WellAnswered (s : ResponseSession) : Prop where
  order : (s.sent.map Prod.fst).Pairwise (· < ·)
  bounded : s.model.protocolEvents.length + s.batch.length + s.model.deferred.length ≤
    protocolResponseCapacity
  complete : s.unanswered = []

/-- The condition on a step.
    - A chunk after the first layout: the queries in the event queue come after every query
      answered so far, and no cell size request of the chunk comes before one of them.
    - A chunk before it: the queries answered at once and the size requests that wait, the old
      ones and those the code keeps, fit the capacity together.
    - A flush: the events it queues and the waiting requests fit the capacity.
    - The first layout: every waiting request came after every query answered so far, and every
      text area request before every cell size request. -/
def Timely (s : ResponseSession) : TerminalOp → Prop
  | .process bytes parsed =>
    let queue := s.model.queued parsed.events
    let queries := s.model.answers parsed.colors queue
    let requests := s.model.cellSizeRequests bytes
    if s.model.windowSize = none then
      let texts :=
        fill protocolResponseCapacity s.model.pendingTextAreaRequests (textAreaRequests queue)
      let waiting := texts.length + s.model.pendingCellSizeRequests.length
      queries.length + waiting + min (protocolResponseCapacity - waiting) requests.length ≤
        protocolResponseCapacity
    else
      (∀ query ∈ queries, ∀ response ∈ s.sent, response.1 < query.1) ∧
        ∀ request ∈ requests.take (protocolResponseCapacity - queries.length),
          ∀ query ∈ queries, query.1 < request
  | .flushSynchronizedOutput events =>
    (s.model.queued events).length + s.model.deferred.length ≤ protocolResponseCapacity
  | .setWindowSize .. =>
    s.model.windowSize = none →
      (∀ pos ∈ s.model.deferred, ∀ response ∈ s.sent, response.1 < pos) ∧
        ∀ text ∈ s.model.pendingTextAreaRequests, ∀ cell ∈ s.model.pendingCellSizeRequests,
          text.1 < cell

/-- Where the events, requests and responses of a session are. -/
structure Invariant (s : ResponseSession) : Prop where
  queue_length : s.model.protocolEvents.length ≤ protocolResponseCapacity
  texts_length : s.model.pendingTextAreaRequests.length ≤ protocolResponseCapacity
  known : s.model.windowSize ≠ none →
    s.model.pendingTextAreaRequests = [] ∧ s.model.pendingCellSizeRequests = []
  queue_formats : ∀ event ∈ s.model.protocolEvents, Formats event
  texts_formats : ∀ request ∈ s.model.pendingTextAreaRequests, ∀ windowSize,
    (protocolResponse (request.2 windowSize)).isSome
  events_sorted : (s.model.pendingTextAreaRequests.map Prod.fst ++
    s.model.protocolEvents.map Prod.fst).Pairwise (· < ·)
  events_reported : ∀ p ∈ s.model.pendingTextAreaRequests.map Prod.fst ++
    s.model.protocolEvents.map Prod.fst, p < s.reported
  reported_le : s.reported ≤ s.model.observed
  cells_sorted : s.model.pendingCellSizeRequests.Pairwise (· < ·)
  cells_observed : ∀ p ∈ s.model.pendingCellSizeRequests, p < s.model.observed
  sent_observed : ∀ response ∈ s.sent, response.1 < s.model.observed
  /-- Before the first layout only the library's queries are answered. -/
  early : s.model.windowSize = none →
    (s.sent.map Prod.fst ++ s.model.protocolEvents.map Prod.fst).Pairwise (· < ·) ∧
      ∀ response ∈ s.sent, response.1 < s.reported

/-! ## What the library reports -/

section Reports

variable {low high : Nat} {events : List (Nat × TermEvent)}

theorem reportedAfter_spec (h : ReportedInOrder low high events) :
    low ≤ reportedAfter low events ∧ reportedAfter low events ≤ max low high ∧
      ∀ event ∈ events, event.1 < reportedAfter low events := by
  unfold reportedAfter
  cases hlast : events.getLast? with
  | none =>
    rw [List.getLast?_eq_none_iff.mp hlast]
    exact ⟨Nat.le_refl _, Nat.le_max_left _ _, fun _ hmem => nomatch hmem⟩
  | some last =>
    obtain ⟨front, rfl⟩ := List.getLast?_eq_some_iff.mp hlast
    have hrange := h.range last (List.mem_append_right _ List.mem_cons_self)
    refine ⟨by dsimp only; omega, by dsimp only; omega, fun event hmem => ?_⟩
    rcases List.mem_append.mp hmem with hfront | hback
    · -- the events before the last one are at earlier positions
      have hsorted := h.sorted
      rw [List.map_append, List.pairwise_append] at hsorted
      have := hsorted.2.2 event.1 (List.mem_map_of_mem hfront) last.1 List.mem_cons_self
      dsimp only
      omega
    · rw [List.mem_singleton.mp hback]
      exact Nat.lt_succ_self _

theorem map_fst_queued_sublist (m : TerminalModel) (events : List (Nat × TermEvent)) :
    ((m.queued events).map Prod.fst).Sublist
      (m.protocolEvents.map Prod.fst ++ events.map Prod.fst) := by
  have hlistened : ((events.filterMap listened).map Prod.fst).Sublist (events.map Prod.fst) := by
    refine map_fst_filterMap_sublist (fun e r h => ?_) events
    obtain ⟨_, _, rfl⟩ := Option.map_eq_some_iff.mp h
    rfl
  refine ((fill_sublist _ _ _).map Prod.fst).trans ?_
  rw [List.map_append]
  exact (List.Sublist.refl _).append hlistened

/-- What stands before the queue in order still does with the reported events in it. -/
theorem queued_sorted {m : TerminalModel} {l : List Nat}
    (hsorted : (l ++ m.protocolEvents.map Prod.fst).Pairwise (· < ·))
    (hlow : ∀ p ∈ l ++ m.protocolEvents.map Prod.fst, p < low)
    (h : ReportedInOrder low high events) :
    (l ++ (m.queued events).map Prod.fst).Pairwise (· < ·) ∧
      ∀ p ∈ l ++ (m.queued events).map Prod.fst, p < reportedAfter low events := by
  obtain ⟨hle, _, hlt⟩ := reportedAfter_spec h
  have hsub : (l ++ (m.queued events).map Prod.fst).Sublist
      (l ++ m.protocolEvents.map Prod.fst ++ events.map Prod.fst) := by
    rw [List.append_assoc]
    exact (List.Sublist.refl l).append (map_fst_queued_sublist m events)
  have hall : (l ++ m.protocolEvents.map Prod.fst ++ events.map Prod.fst).Pairwise (· < ·) := by
    refine List.pairwise_append.mpr ⟨hsorted, h.sorted, fun p hp q hq => ?_⟩
    obtain ⟨event, hevent, rfl⟩ := List.mem_map.mp hq
    have := hlow p hp
    have := (h.range event hevent).1
    omega
  refine ⟨hall.sublist hsub, fun p hp => ?_⟩
  rcases List.mem_append.mp (hsub.subset hp) with hp | hp
  · exact Nat.lt_of_lt_of_le (hlow p hp) hle
  · obtain ⟨event, hevent, rfl⟩ := List.mem_map.mp hp
    exact hlt event hevent

theorem queued_formats {m : TerminalModel} (hqueue : ∀ event ∈ m.protocolEvents, Formats event)
    (h : ReportedInOrder low high events) : ∀ event ∈ m.queued events, Formats event := by
  intro event hmem
  rcases List.mem_append.mp hmem with hmem | hmem
  · exact hqueue event hmem
  · exact h.formats event (List.mem_of_mem_take hmem)

/-- The text area requests of a queue have the formatters of its events. -/
theorem textAreaRequests_formats {queue : List (Nat × TerminalProtocolEvent)}
    (h : ∀ event ∈ queue, Formats event) : ∀ request ∈ textAreaRequests queue, ∀ windowSize,
      (protocolResponse (request.2 windowSize)).isSome := by
  intro request hmem
  obtain ⟨event, hevent, hrequest⟩ := List.mem_filterMap.mp hmem
  have hformats := h event hevent
  unfold Formats at hformats
  split at hrequest
  · rename_i formatter heq
    cases hrequest
    rw [heq] at hformats
    exact hformats
  · exact nomatch hrequest

end Reports

/-! ## One step -/

section Steps

variable {s : ResponseSession}

/-- The answers of a step come out of the queue in order. -/
private theorem answers_sorted {queue : List (Nat × TerminalProtocolEvent)} {l : List Nat}
    (h : (l ++ queue.map Prod.fst).Pairwise (· < ·)) (colors : Nat → Option Rgb) :
    (l ++ (s.model.answers colors queue).map Prod.fst).Pairwise (· < ·) :=
  h.sublist ((List.Sublist.refl l).append (map_fst_answers_sublist _ _ _))

private theorem Invariant.early_reported (h : s.Invariant) (hwindow : s.model.windowSize = none) :
    ∀ p ∈ s.sent.map Prod.fst ++ s.model.protocolEvents.map Prod.fst, p < s.reported := by
  intro p hp
  rcases List.mem_append.mp hp with hp | hp
  · obtain ⟨response, hresponse, rfl⟩ := List.mem_map.mp hp
    exact (h.early hwindow).2 response hresponse
  · exact h.events_reported p (List.mem_append_right _ hp)

private theorem process_invariant (h : s.Invariant) {bytes : List UInt8} {parsed : Parsed}
    (hin : s.InOrder (.process bytes parsed)) : (s.step (.process bytes parsed)).Invariant := by
  have hreports : ReportedInOrder s.reported (s.model.observed + bytes.length) parsed.events := hin
  obtain ⟨hle, hmax, _⟩ := reportedAfter_spec hreports
  have hreported := h.reported_le
  have hnow : reportedAfter s.reported parsed.events ≤ s.model.observed + bytes.length := by omega
  obtain ⟨hsorted, hafter⟩ := queued_sorted h.events_sorted h.events_reported hreports
  obtain ⟨hcellsorted, hcellrange⟩ :=
    observe_sorted s.model.windowOperationQueries s.model.observed bytes
  have hanswered : ∀ response ∈ s.model.answers parsed.colors (s.model.queued parsed.events),
      response.1 < reportedAfter s.reported parsed.events := fun response hmem =>
    hafter _ (List.mem_append_right _
      ((map_fst_answers_sublist _ _ _).subset (List.mem_map_of_mem hmem)))
  have hobserved : ∀ p, p < reportedAfter s.reported parsed.events ∨ p < s.model.observed →
      p < s.model.observed + bytes.length := by
    rintro p (hp | hp) <;> omega
  cases hwindow : s.model.windowSize with
  | none =>
    obtain ⟨hresponses, hprocessed, htexts, hcells⟩ :=
      processWithResponses_unknown hwindow bytes parsed
    obtain ⟨hearly, hsent⟩ := h.early hwindow
    obtain ⟨hsentsorted, _⟩ := queued_sorted hearly (h.early_reported hwindow) hreports
    -- the requests that wait now waited before or come from the queue
    have hkept : ((fill protocolResponseCapacity s.model.pendingTextAreaRequests
        (textAreaRequests (s.model.queued parsed.events))).map Prod.fst).Sublist
          (s.model.pendingTextAreaRequests.map Prod.fst ++
            (s.model.queued parsed.events).map Prod.fst) := by
      have hfill := (fill_sublist protocolResponseCapacity s.model.pendingTextAreaRequests
        (textAreaRequests (s.model.queued parsed.events))).map Prod.fst
      rw [List.map_append] at hfill
      exact hfill.trans ((List.Sublist.refl _).append (map_fst_textAreaRequests_sublist _))
    have hsentnow : ∀ response ∈ (s.step (.process bytes parsed)).sent,
        response.1 < reportedAfter s.reported parsed.events := by
      intro response hmem
      rcases List.mem_append.mp hmem with hmem | hmem
      · exact Nat.lt_of_lt_of_le (hsent response hmem) hle
      · rw [hresponses] at hmem
        exact hanswered response hmem
    refine ⟨?_, ?_, ?_, ?_, ?_, ?_, ?_, ?_, ?_, ?_, ?_, ?_⟩
    all_goals simp only [step, handOut, hprocessed.observed, hprocessed.events, hprocessed.window,
      htexts, hcells, List.map_nil, List.append_nil]
    · exact Nat.zero_le _
    · exact length_fill_le h.texts_length _
    · exact fun hknown => absurd hwindow hknown
    · exact List.forall_mem_nil _
    · intro request hmem
      rcases List.mem_append.mp hmem with hmem | hmem
      · exact h.texts_formats request hmem
      · exact textAreaRequests_formats (queued_formats h.queue_formats hreports) request
          (List.mem_of_mem_take hmem)
    · exact hsorted.sublist hkept
    · exact fun p hp => hafter p (hkept.subset hp)
    · exact hnow
    · refine List.pairwise_append.mpr ⟨h.cells_sorted, hcellsorted.sublist (List.take_sublist _ _),
        fun p hp q hq => ?_⟩
      have := h.cells_observed p hp
      have := (hcellrange q (List.mem_of_mem_take hq)).1
      omega
    · intro p hp
      rcases List.mem_append.mp hp with hp | hp
      · exact hobserved p (.inr (h.cells_observed p hp))
      · exact (hcellrange p (List.mem_of_mem_take hp)).2
    · exact fun response hmem => hobserved _ (.inl (hsentnow response hmem))
    · intro _
      refine ⟨?_, hsentnow⟩
      rw [hresponses, List.map_append]
      exact answers_sorted hsentsorted _
  | some windowSize =>
    obtain ⟨hresponses, hprocessed, htexts, hcells⟩ :=
      processWithResponses_known hwindow bytes parsed
    obtain ⟨hnotexts, hnocells⟩ := h.known (by rw [hwindow]; exact Option.some_ne_none _)
    refine ⟨?_, ?_, ?_, ?_, ?_, ?_, ?_, ?_, ?_, ?_, ?_, ?_⟩
    all_goals simp only [step, handOut, hprocessed.observed, hprocessed.events, hprocessed.window,
      htexts, hcells, hnotexts, hnocells, List.map_nil, List.append_nil]
    · exact Nat.zero_le _
    · exact Nat.zero_le _
    · exact fun _ => ⟨trivial, trivial⟩
    · exact List.forall_mem_nil _
    · exact List.forall_mem_nil _
    · exact .nil
    · exact List.forall_mem_nil _
    · exact hnow
    · exact .nil
    · exact List.forall_mem_nil _
    · intro response hmem
      rcases List.mem_append.mp hmem with hmem | hmem
      · exact hobserved _ (.inr (h.sent_observed response hmem))
      · rw [hresponses] at hmem
        rcases List.mem_append.mp hmem with hmem | hmem
        · exact hobserved _ (.inl (hanswered response hmem))
        · have hpos := List.mem_map_of_mem (f := Prod.fst) hmem
          rw [map_fst_cellSizeResponses] at hpos
          exact (hcellrange _ (List.mem_of_mem_take hpos)).2
    · exact fun hnone => absurd (hwindow.symm.trans hnone) (Option.some_ne_none _)

private theorem flush_invariant (h : s.Invariant) {events : List (Nat × TermEvent)}
    (hin : s.InOrder (.flushSynchronizedOutput events)) :
    (s.step (.flushSynchronizedOutput events)).Invariant := by
  have hreports : ReportedInOrder s.reported s.model.observed events := hin
  obtain ⟨hle, hmax, _⟩ := reportedAfter_spec hreports
  have hreported := h.reported_le
  obtain ⟨hsorted, hafter⟩ := queued_sorted h.events_sorted h.events_reported hreports
  have hqueue : (s.model.flushSynchronizedOutput events) =
      { s.model with protocolEvents := s.model.queued events } := sendEvents_eq s.model events
  refine ⟨?_, ?_, ?_, ?_, ?_, ?_, ?_, ?_, ?_, ?_, ?_, ?_⟩
  all_goals simp only [step, handOut, hqueue, List.append_nil]
  · exact length_fill_le h.queue_length _
  · exact h.texts_length
  · exact h.known
  · exact queued_formats h.queue_formats hreports
  · exact h.texts_formats
  · exact hsorted
  · exact hafter
  · omega
  · exact h.cells_sorted
  · exact h.cells_observed
  · exact h.sent_observed
  · intro hwindow
    obtain ⟨hearly, hsent⟩ := h.early hwindow
    obtain ⟨hsentsorted, _⟩ := queued_sorted hearly (h.early_reported hwindow) hreports
    exact ⟨hsentsorted, fun response hmem => Nat.lt_of_lt_of_le (hsent response hmem) hle⟩

/-- The responses of the first layout are those of waiting requests. -/
private theorem layout_responses (h : s.Invariant) (columns rows cellWidth cellHeight : UInt32)
    {response : Nat × String}
    (hmem : response ∈ (s.model.setWindowSize columns rows cellWidth cellHeight).2) :
    response.1 ∈ s.model.deferred := by
  cases hwindow : s.model.windowSize with
  | none =>
    have hpos := List.mem_map_of_mem (f := Prod.fst) hmem
    rw [setWindowSize_unknown hwindow columns rows cellWidth cellHeight h.texts_formats] at hpos
    rcases List.mem_append.mp hpos with hpos | hpos
    · exact List.mem_append_left _ hpos
    · exact List.mem_append_right _ (List.mem_of_mem_take hpos)
  | some windowSize =>
    obtain ⟨htexts, hcells⟩ := h.known (by rw [hwindow]; exact Option.some_ne_none _)
    rw [setWindowSize_known htexts hcells] at hmem
    exact nomatch hmem

private theorem deferred_observed (h : s.Invariant) :
    ∀ p ∈ s.model.deferred, p < s.model.observed := by
  intro p hp
  rcases List.mem_append.mp hp with hp | hp
  · exact Nat.lt_of_lt_of_le (h.events_reported p (List.mem_append_left _ hp)) h.reported_le
  · exact h.cells_observed p hp

private theorem layout_invariant (h : s.Invariant) (columns rows cellWidth cellHeight : UInt32) :
    (s.step (.setWindowSize columns rows cellWidth cellHeight)).Invariant := by
  obtain ⟨hobserved, hevents, hwindow, hpending⟩ :=
    setWindowSize_fst s.model columns rows cellWidth cellHeight
  -- a known window answers the requests that waited for it
  have hempty : (s.model.setWindowSize columns rows cellWidth cellHeight).1.pendingTextAreaRequests
        = [] ∧
      (s.model.setWindowSize columns rows cellWidth cellHeight).1.pendingCellSizeRequests = [] := by
    rcases hpending with hsame | hempty
    · rw [hsame] at hwindow ⊢
      exact h.known hwindow
    · exact hempty
  have hqueue := (List.sublist_append_right (s.model.pendingTextAreaRequests.map Prod.fst)
    (s.model.protocolEvents.map Prod.fst))
  constructor
  all_goals simp only [step, handOut, hobserved, hevents, hempty.1, hempty.2, List.map_nil,
    List.nil_append]
  · exact h.queue_length
  · exact Nat.zero_le _
  · exact fun _ => ⟨trivial, trivial⟩
  · exact h.queue_formats
  · exact List.forall_mem_nil _
  · exact h.events_sorted.sublist hqueue
  · exact fun p hp => h.events_reported p (hqueue.subset hp)
  · exact h.reported_le
  · exact .nil
  · exact List.forall_mem_nil _
  · intro response hmem
    rcases List.mem_append.mp hmem with hmem | hmem
    · exact h.sent_observed response hmem
    · exact deferred_observed h _ (layout_responses h columns rows cellWidth cellHeight hmem)
  · exact fun hnone => absurd hnone hwindow

/-- Every step keeps track of the events, requests and responses. -/
theorem step_session_invariant (h : s.Invariant) {op : TerminalOp} (hin : s.InOrder op) :
    (s.step op).Invariant := by
  cases op with
  | process => exact process_invariant h hin
  | flushSynchronizedOutput => exact flush_invariant h hin
  | setWindowSize => exact layout_invariant h _ _ _ _

/-- A chunk after the first layout. -/
private theorem process_known_iff (h : s.Invariant) (hanswered : s.WellAnswered)
    {bytes : List UInt8} {parsed : Parsed} (hin : s.InOrder (.process bytes parsed))
    (hwindow : s.model.windowSize ≠ none) :
    (s.step (.process bytes parsed)).WellAnswered ↔ s.Timely (.process bytes parsed) := by
  obtain ⟨windowSize, hsome⟩ := Option.ne_none_iff_exists'.mp hwindow
  obtain ⟨hresponses, hprocessed, htexts, hcells⟩ := processWithResponses_known hsome bytes parsed
  obtain ⟨hnotexts, hnocells⟩ := h.known hwindow
  have hreports : ReportedInOrder s.reported (s.model.observed + bytes.length) parsed.events := hin
  obtain ⟨hsorted, _⟩ := queued_sorted h.events_sorted h.events_reported hreports
  obtain ⟨hcellsorted, hcellrange⟩ :=
    observe_sorted s.model.windowOperationQueries s.model.observed bytes
  have hqueries : ((s.model.answers parsed.colors (s.model.queued parsed.events)).map
      Prod.fst).Pairwise (· < ·) :=
    answers_sorted (l := []) (List.pairwise_append.mp hsorted).2.1 _
  have hlength : (s.model.answers parsed.colors (s.model.queued parsed.events)).length ≤
      protocolResponseCapacity :=
    Nat.le_trans (List.length_filterMap_le _ _) (length_fill_le h.queue_length _)
  have hsent : (s.step (.process bytes parsed)).sent.map Prod.fst = s.sent.map Prod.fst ++
      ((s.model.answers parsed.colors (s.model.queued parsed.events)).map Prod.fst ++
        (s.model.cellSizeRequests bytes).take (protocolResponseCapacity -
          (s.model.answers parsed.colors (s.model.queued parsed.events)).length)) := by
    simp only [step, handOut, hresponses, List.map_append, map_fst_cellSizeResponses]
  unfold Timely
  dsimp only
  rw [if_neg hwindow]
  constructor
  · intro hafter
    have horder := hafter.order
    rw [hsent, List.pairwise_append, List.pairwise_append] at horder
    obtain ⟨_, ⟨_, _, hcross⟩, hlate⟩ := horder
    refine ⟨fun query hquery response hresponse => ?_, fun request hrequest query hquery => ?_⟩
    · exact hlate _ (List.mem_map_of_mem hresponse) _
        (List.mem_append_left _ (List.mem_map_of_mem hquery))
    · exact hcross _ (List.mem_map_of_mem hquery) _ hrequest
  · rintro ⟨hlate, hcross⟩
    refine ⟨?_, ?_, hanswered.complete⟩
    · rw [hsent, List.pairwise_append, List.pairwise_append]
      refine ⟨hanswered.order, ⟨hqueries, hcellsorted.sublist (List.take_sublist _ _), ?_⟩, ?_⟩
      · intro p hp q hq
        obtain ⟨query, hquery, rfl⟩ := List.mem_map.mp hp
        exact hcross q hq query hquery
      · intro p hp q hq
        obtain ⟨response, hresponse, rfl⟩ := List.mem_map.mp hp
        rcases List.mem_append.mp hq with hq | hq
        · obtain ⟨query, hquery, rfl⟩ := List.mem_map.mp hq
          exact hlate query hquery response hresponse
        · -- the requests of a chunk come after everything answered before it
          have := h.sent_observed response hresponse
          have := (hcellrange q (List.mem_of_mem_take hq)).1
          omega
    · simp only [step, handOut, TerminalModel.deferred, hresponses, hprocessed.events, htexts,
        hcells, hnotexts, hnocells, List.length_append, length_cellSizeResponses, List.length_take,
        List.length_nil, List.map_nil]
      omega

/-- A chunk before the first layout. -/
private theorem process_unknown_iff (h : s.Invariant) (hanswered : s.WellAnswered)
    {bytes : List UInt8} {parsed : Parsed} (hin : s.InOrder (.process bytes parsed))
    (hwindow : s.model.windowSize = none) :
    (s.step (.process bytes parsed)).WellAnswered ↔ s.Timely (.process bytes parsed) := by
  obtain ⟨hresponses, hprocessed, htexts, hcells⟩ :=
    processWithResponses_unknown hwindow bytes parsed
  have hreports : ReportedInOrder s.reported (s.model.observed + bytes.length) parsed.events := hin
  obtain ⟨hsorted, _⟩ := queued_sorted (h.early hwindow).1 (h.early_reported hwindow) hreports
  have horder : ((s.step (.process bytes parsed)).sent.map Prod.fst).Pairwise (· < ·) := by
    simp only [step, handOut, hresponses, List.map_append]
    exact answers_sorted hsorted _
  have hbounded : (s.step (.process bytes parsed)).model.protocolEvents.length +
        (s.step (.process bytes parsed)).batch.length +
        (s.step (.process bytes parsed)).model.deferred.length ≤ protocolResponseCapacity ↔
      s.Timely (.process bytes parsed) := by
    unfold Timely
    dsimp only
    rw [if_pos hwindow]
    simp only [step, handOut, TerminalModel.deferred, hresponses, hprocessed.events, htexts,
      hcells, List.length_append, List.length_take, List.length_nil, List.length_map]
    omega
  exact ⟨fun hafter => hbounded.mp hafter.bounded,
    fun htimely => ⟨horder, hbounded.mpr htimely, hanswered.complete⟩⟩

private theorem flush_iff (hanswered : s.WellAnswered) (events : List (Nat × TermEvent)) :
    (s.step (.flushSynchronizedOutput events)).WellAnswered ↔
      s.Timely (.flushSynchronizedOutput events) := by
  have hqueue : (s.model.flushSynchronizedOutput events) =
      { s.model with protocolEvents := s.model.queued events } := sendEvents_eq s.model events
  have hbounded : (s.step (.flushSynchronizedOutput events)).model.protocolEvents.length +
        (s.step (.flushSynchronizedOutput events)).batch.length +
        (s.step (.flushSynchronizedOutput events)).model.deferred.length ≤
          protocolResponseCapacity ↔ s.Timely (.flushSynchronizedOutput events) := by
    simp only [Timely, step, handOut, hqueue, TerminalModel.deferred, List.length_nil,
      Nat.add_zero]
  have hsent : (s.step (.flushSynchronizedOutput events)).sent = s.sent := List.append_nil _
  exact ⟨fun hafter => hbounded.mp hafter.bounded,
    fun htimely => ⟨hsent ▸ hanswered.order, hbounded.mpr htimely, hanswered.complete⟩⟩

/-- A layout. -/
private theorem layout_iff (h : s.Invariant) (hanswered : s.WellAnswered)
    (columns rows cellWidth cellHeight : UInt32) :
    (s.step (.setWindowSize columns rows cellWidth cellHeight)).WellAnswered ↔
      s.Timely (.setWindowSize columns rows cellWidth cellHeight) := by
  obtain ⟨_, hevents, _, hpending⟩ :=
    setWindowSize_fst s.model columns rows cellWidth cellHeight
  have hbefore := hanswered.bounded
  cases hwindow : s.model.windowSize with
  | some windowSize =>
    have hknown : s.model.windowSize ≠ none := by rw [hwindow]; exact Option.some_ne_none _
    obtain ⟨htexts, hcells⟩ := h.known hknown
    have hresponses := setWindowSize_known htexts hcells columns rows cellWidth cellHeight
    have hdeferred :
        (s.model.setWindowSize columns rows cellWidth cellHeight).1.deferred = [] := by
      unfold TerminalModel.deferred
      rcases hpending with hsame | ⟨ht, hc⟩
      · rw [hsame, htexts, hcells]
        rfl
      · rw [ht, hc]
        rfl
    refine ⟨fun _ hnone => absurd hnone hknown, fun _ => ⟨?_, ?_, ?_⟩⟩
    · simp only [step, handOut, hresponses, List.append_nil]
      exact hanswered.order
    · simp only [step, handOut, hresponses, hevents, hdeferred, List.length_nil]
      omega
    · simp only [step, handOut, if_neg hknown, List.append_nil]
      exact hanswered.complete
  | none =>
    have htextslen : (s.model.pendingTextAreaRequests.map Prod.fst).length =
      s.model.pendingTextAreaRequests.length := List.length_map _
    unfold TerminalModel.deferred at hbefore
    rw [List.length_append, htextslen] at hbefore
    -- what waits fits, so all of it is answered
    have hresponses : (s.model.setWindowSize columns rows cellWidth cellHeight).2.map Prod.fst =
        s.model.deferred := by
      rw [setWindowSize_unknown hwindow columns rows cellWidth cellHeight h.texts_formats,
        List.take_of_length_le (by omega)]
      rfl
    have hlength : (s.model.setWindowSize columns rows cellWidth cellHeight).2.length =
        s.model.pendingTextAreaRequests.length + s.model.pendingCellSizeRequests.length := by
      rw [← List.length_map (f := Prod.fst), hresponses, TerminalModel.deferred,
        List.length_append, htextslen]
    have hdeferred :
        (s.model.setWindowSize columns rows cellWidth cellHeight).1.deferred = [] := by
      unfold TerminalModel.deferred
      rcases hpending with hsame | ⟨ht, hc⟩
      · have hset := (setWindowSize_fst s.model columns rows cellWidth cellHeight).2.2.1
        rw [hsame] at hset
        exact absurd hwindow hset
      · rw [ht, hc]
        rfl
    have hsent : (s.step (.setWindowSize columns rows cellWidth cellHeight)).sent.map Prod.fst =
        s.sent.map Prod.fst ++ (s.model.pendingTextAreaRequests.map Prod.fst ++
          s.model.pendingCellSizeRequests) := by
      simp only [step, handOut, List.map_append, hresponses]
      rfl
    constructor
    · intro hafter _
      have horder := hafter.order
      rw [hsent, List.pairwise_append, List.pairwise_append] at horder
      obtain ⟨_, ⟨_, _, hcross⟩, hlate⟩ := horder
      refine ⟨fun pos hpos response hresponse => ?_, fun text htext cell hcell => ?_⟩
      · exact hlate _ (List.mem_map_of_mem hresponse) _ hpos
      · exact hcross _ (List.mem_map_of_mem htext) _ hcell
    · intro htimely
      obtain ⟨hlate, hcross⟩ := htimely hwindow
      have hwaiting : s.model.deferred.Pairwise (· < ·) := by
        refine List.pairwise_append.mpr
          ⟨(List.pairwise_append.mp h.events_sorted).1, h.cells_sorted, fun p hp q hq => ?_⟩
        obtain ⟨text, htext, rfl⟩ := List.mem_map.mp hp
        exact hcross text htext q hq
      refine ⟨?_, ?_, ?_⟩
      · rw [hsent]
        refine List.pairwise_append.mpr ⟨hanswered.order, hwaiting, fun p hp q hq => ?_⟩
        obtain ⟨response, hresponse, rfl⟩ := List.mem_map.mp hp
        exact hlate q hq response hresponse
      · simp only [step, handOut, hevents, hdeferred, hlength, List.length_nil]
        omega
      · simp only [step, handOut, if_pos hwindow, hresponses, hanswered.complete, List.nil_append,
          List.filter_eq_nil_iff, decide_eq_true_eq, not_not]
        -- positions in order are distinct
        exact fun pos hpos => List.count_eq_one_of_mem
          (hwaiting.imp fun hlt => Nat.ne_of_lt hlt) hpos

/-- A step of a well answered session keeps it so exactly when it is timely. -/
theorem step_wellAnswered_iff (h : s.Invariant) (hanswered : s.WellAnswered) {op : TerminalOp}
    (hin : s.InOrder op) : (s.step op).WellAnswered ↔ s.Timely op := by
  cases op with
  | process =>
    by_cases hwindow : s.model.windowSize = none
    · exact process_unknown_iff h hanswered hin hwindow
    · exact process_known_iff h hanswered hin hwindow
  | flushSynchronizedOutput events => exact flush_iff hanswered events
  | setWindowSize columns rows cellWidth cellHeight =>
    exact layout_iff h hanswered columns rows cellWidth cellHeight

end Steps

/-! ## Whole sessions -/

theorem start_invariant (palette : TerminalQueryPalette) (enabled : Bool) :
    (start palette enabled).Invariant where
  queue_length := Nat.zero_le _
  texts_length := Nat.zero_le _
  known := fun _ => ⟨rfl, rfl⟩
  queue_formats := List.forall_mem_nil _
  texts_formats := List.forall_mem_nil _
  events_sorted := .nil
  events_reported := List.forall_mem_nil _
  reported_le := Nat.le_refl _
  cells_sorted := .nil
  cells_observed := List.forall_mem_nil _
  sent_observed := List.forall_mem_nil _
  early := fun _ => ⟨.nil, List.forall_mem_nil _⟩

theorem start_wellAnswered (palette : TerminalQueryPalette) (enabled : Bool) :
    (start palette enabled).WellAnswered := ⟨.nil, Nat.zero_le _, rfl⟩

/-- Where the library reports the queries in order, the invariant holds throughout. -/
theorem session_invariant {palette : TerminalQueryPalette} {enabled : Bool}
    {ops : List TerminalOp} (hin : Transition.AllSafe step (start palette enabled) InOrder ops) :
    (ops.foldl step (start palette enabled)).Invariant :=
  hin.preserves (start_invariant palette enabled) fun _ _ h hop => step_session_invariant h hop

/-- A session is well answered throughout exactly when all its steps are timely, provided the
    terminal library reports the queries in the order of the output. -/
theorem wellAnswered_throughout_iff {palette : TerminalQueryPalette} {enabled : Bool}
    {ops : List TerminalOp} (hin : Transition.AllSafe step (start palette enabled) InOrder ops) :
    Transition.Throughout step (start palette enabled) WellAnswered ops ↔
      Transition.AllSafe step (start palette enabled) Timely ops := by
  refine Transition.throughout_iff_allSafe (start_wellAnswered palette enabled) ?_
  intro pre op hpre hanswered
  have hinvariant : (pre.foldl step (start palette enabled)).Invariant :=
    session_invariant (fun pre' op' hpre' =>
      hin pre' op' (hpre'.trans ((List.prefix_append pre [op]).trans hpre)))
  exact step_wellAnswered_iff hinvariant hanswered (hin pre op hpre)

/-- The formatter of `CSI 14 t`. -/
def textAreaResponse (windowSize : WindowSize) : String :=
  s!"\x1b[4;{windowSize.numLines.toNat * windowSize.cellHeight.toNat};{
    windowSize.numCols.toNat * windowSize.cellWidth.toNat}t"

theorem textAreaResponse_isSome (windowSize : WindowSize) :
    (protocolResponse (textAreaResponse windowSize)).isSome := by
  have hdigits (m n : UInt16) : (m.toNat * n.toNat).repr.utf8ByteSize ≤ 4 * 10 := by
    refine utf8ByteSize_repr_le (by decide) ?_
    have hm := m.toNat_lt
    have hn := n.toNat_lt
    calc m.toNat * n.toNat ≤ 2 ^ 16 * 2 ^ 16 :=
          Nat.mul_le_mul (Nat.le_of_lt hm) (Nat.le_of_lt hn)
      _ < 10 ^ 10 := by decide
  have hheight := hdigits windowSize.numLines windowSize.cellHeight
  have hwidth := hdigits windowSize.numCols windowSize.cellWidth
  have hsize : (textAreaResponse windowSize).utf8ByteSize =
      4 + (windowSize.numLines.toNat * windowSize.cellHeight.toNat).repr.utf8ByteSize + 1 +
        (windowSize.numCols.toNat * windowSize.cellWidth.toNat).repr.utf8ByteSize + 1 := by
    unfold textAreaResponse
    simp only [String.utf8ByteSize_append]
    rfl
  exact protocolResponse_isSome (by omega) (by unfold maxProtocolResponseBytes; omega)

/-- Sixteen cell size requests and then one text area request, before the first layout. -/
def crowded : List TerminalOp :=
  [.process (List.replicate 16 [0x1b, 91, 49, 54, 116]).flatten ⟨[], fun _ => none⟩,
    .process [0x1b, 91, 49, 52, 116]
      ⟨[(84, .textAreaSizeRequest textAreaResponse)], fun _ => none⟩,
    .setWindowSize 80 24 9 18]

/-- A terminal whose base colors are all black. -/
def blackTerminal : ResponseSession :=
  start ⟨Vector.replicate 16 ⟨0, 0, 0⟩, ⟨0, 0, 0⟩, ⟨0, 0, 0⟩, ⟨0, 0, 0⟩⟩ false

theorem crowded_inOrder : Transition.AllSafe step blackTerminal InOrder crowded := by
  refine Transition.allSafe_cons_iff.mpr ⟨?_, Transition.allSafe_cons_iff.mpr
    ⟨?_, Transition.allSafe_cons_iff.mpr ⟨trivial, Transition.allSafe_nil⟩⟩⟩
  · exact ⟨.nil, List.forall_mem_nil _, List.forall_mem_nil _⟩
  · refine ⟨List.pairwise_singleton _ _, ?_, ?_⟩
    · exact List.forall_mem_singleton.mpr ⟨Nat.zero_le _, by decide⟩
    · exact List.forall_mem_singleton.mpr textAreaResponse_isSome

/-- The text area request is accepted although sixteen requests wait.  It is answered before
    all of them, and the last of them is never answered. -/
theorem crowded_not_wellAnswered : Transition.AllSafe step blackTerminal InOrder crowded ∧
    ((crowded.take 2).foldl step blackTerminal).model.deferred.length = 17 ∧
    (crowded.foldl step blackTerminal).unanswered = [79] ∧
    ¬Transition.Throughout step blackTerminal WellAnswered crowded := by
  have hlost : (crowded.foldl step blackTerminal).unanswered = [79] := by decide
  refine ⟨crowded_inOrder, by decide, hlost, fun h => ?_⟩
  have hcomplete := (h crowded (List.prefix_refl _)).complete
  rw [hlost] at hcomplete
  exact nomatch hcomplete

theorem wellAnswered_throughout_iff_crowded :
    Transition.Throughout step blackTerminal WellAnswered crowded ↔
      Transition.AllSafe step blackTerminal Timely crowded :=
  wellAnswered_throughout_iff crowded_inOrder

end ResponseSession

end AxSsh
