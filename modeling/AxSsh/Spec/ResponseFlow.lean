import Mathlib.Algebra.Ring.Nat
import AxSsh.Native.TerminalResponses

/-!
# What one chunk of output answers

The response flow of `TerminalModel`, one lemma for each operation: which events a bounded
queue holds, which responses they get, and which requests are left to wait.

## Key results
- `processWithResponses_known` / `processWithResponses_unknown`: what one chunk does
- `setWindowSize_unknown` / `setWindowSize_known`: what a layout answers
- `observe_sorted`: the tracker finds the requests of a chunk in order
-/

namespace AxSsh

/-! ## Bounded lists -/

section Fill

universe u v

variable {α : Type u} {β : Type v}

/-- `l` with as many of `xs` behind it as the capacity has room for. -/
def fill (capacity : Nat) (l xs : List α) : List α := l ++ xs.take (capacity - l.length)

theorem fill_nil (capacity : Nat) (l : List α) : fill capacity l [] = l := by
  rw [fill, List.take_nil, List.append_nil]

/-- Elements are put behind the list one by one, as long as there is room. -/
theorem fill_cons (capacity : Nat) (l : List α) (x : α) (xs : List α) :
    fill capacity l (x :: xs) = fill capacity (if l.length < capacity then l ++ [x] else l) xs := by
  split
  · rename_i h
    obtain ⟨n, hn⟩ : ∃ n, capacity - l.length = n + 1 := ⟨capacity - l.length - 1, by omega⟩
    have hrest : capacity - (l ++ [x]).length = n := by
      rw [List.length_append, List.length_singleton]
      omega
    rw [fill, fill, hn, hrest, List.take_succ_cons, List.append_assoc, List.singleton_append]
  · rename_i h
    have hnone : capacity - l.length = 0 := by omega
    rw [fill, fill, hnone, List.take_zero, List.take_zero]

theorem fill_append (capacity : Nat) (l xs ys : List α) :
    fill capacity l (xs ++ ys) = fill capacity (fill capacity l xs) ys := by
  induction xs generalizing l with
  | nil => rw [List.nil_append, fill_nil]
  | cons x xs ih => rw [List.cons_append, fill_cons, fill_cons, ih]

theorem length_fill_le {capacity : Nat} {l : List α} (h : l.length ≤ capacity) (xs : List α) :
    (fill capacity l xs).length ≤ capacity := by
  rw [fill, List.length_append, List.length_take]
  omega

theorem fill_sublist (capacity : Nat) (l xs : List α) : (fill capacity l xs).Sublist (l ++ xs) :=
  (List.Sublist.refl l).append (List.take_sublist _ xs)

end Fill

namespace TerminalModel

/-! ## What one chunk does -/

/-- Push an event into the queue, when the listener makes something of it. -/
def listened (event : Nat × TermEvent) : Option (Nat × TerminalProtocolEvent) :=
  (protocolEvent event.2).map (event.1, ·)

theorem sendEvents_eq (m : TerminalModel) (events : List (Nat × TermEvent)) :
    m.sendEvents events = { m with
      protocolEvents :=
        fill protocolResponseCapacity m.protocolEvents (events.filterMap listened) } := by
  unfold sendEvents
  induction events generalizing m with
  | nil => rw [List.filterMap_nil, fill_nil]; rfl
  | cons event events ih =>
    rw [List.foldl_cons, ih, List.filterMap_cons]
    unfold sendEvent listened
    cases protocolEvent event.2 with
    | none => rfl
    | some sent =>
      dsimp only [Option.map_some]
      rw [fill_cons]
      split <;> rfl

/-- The response an event gets at once. -/
def responseTo (windowSize : Option WindowSize) (palette : TerminalQueryPalette)
    (colors : Nat → Option Rgb) : TerminalProtocolEvent → Option String
  | .ptyWrite response => protocolResponse response
  | .colorRequest index formatter =>
    protocolResponse (formatter ((colors index).getD (defaultQueryColor index palette)))
  | .textAreaSizeRequest formatter =>
    windowSize.bind fun windowSize => protocolResponse (formatter windowSize)
  | _ => none

/-- The events of a queue that get a response at once, with the response. -/
def answers (m : TerminalModel) (colors : Nat → Option Rgb)
    (queue : List (Nat × TerminalProtocolEvent)) : List (Nat × String) :=
  queue.filterMap fun event =>
    (responseTo m.windowSize m.queryPalette colors event.2).map (event.1, ·)

/-- The text area requests of a queue. -/
def textAreaRequests (queue : List (Nat × TerminalProtocolEvent)) :
    List (Nat × (WindowSize → String)) :=
  queue.filterMap fun event => match event.2 with
    | .textAreaSizeRequest formatter => some (event.1, formatter)
    | _ => none

/-- What draining the queue leaves of the part of the model that answers queries. -/
structure Drained (m m' : TerminalModel) (queue : List (Nat × TerminalProtocolEvent)) : Prop where
  observed : m'.observed = m.observed
  events : m'.protocolEvents = m.protocolEvents
  palette : m'.queryPalette = m.queryPalette
  window : m'.windowSize = m.windowSize
  cells : m'.pendingCellSizeRequests = m.pendingCellSizeRequests
  tracker : m'.windowOperationQueries = m.windowOperationQueries
  texts : m'.pendingTextAreaRequests =
    if m.windowSize = none then
      fill protocolResponseCapacity m.pendingTextAreaRequests (textAreaRequests queue)
    else m.pendingTextAreaRequests

/-- One event: its response, and the request it leaves behind. -/
private theorem handleProtocolEvent_spec (colors : Nat → Option Rgb) (m : TerminalModel)
    (responses : List (Nat × String)) (pos : Nat) (event : TerminalProtocolEvent) :
    (handleProtocolEvent colors m responses pos event).2 =
        responses ++ answers m colors [(pos, event)] ∧
      Drained m (handleProtocolEvent colors m responses pos event).1 [(pos, event)] := by
  have hnone : ∀ queue, textAreaRequests queue = [] → m.pendingTextAreaRequests =
      if m.windowSize = none then
        fill protocolResponseCapacity m.pendingTextAreaRequests (textAreaRequests queue)
      else m.pendingTextAreaRequests := by
    intro queue hqueue
    rw [hqueue, fill_nil, ite_self]
  have hsame : ∀ queue, textAreaRequests queue = [] → Drained m m queue :=
    fun queue hqueue => ⟨rfl, rfl, rfl, rfl, rfl, rfl, hnone queue hqueue⟩
  cases event with
  | ptyWrite response =>
    simp only [handleProtocolEvent, answers, responseTo, List.filterMap_cons, List.filterMap_nil]
    cases protocolResponse response with
    | none => exact ⟨(List.append_nil _).symm, hsame _ rfl⟩
    | some response => exact ⟨rfl, hsame _ rfl⟩
  | colorRequest index formatter =>
    simp only [handleProtocolEvent, answers, responseTo, List.filterMap_cons, List.filterMap_nil]
    cases protocolResponse _ with
    | none => exact ⟨(List.append_nil _).symm, hsame _ rfl⟩
    | some response => exact ⟨rfl, hsame _ rfl⟩
  | textAreaSizeRequest formatter =>
    simp only [handleProtocolEvent, answers, responseTo, List.filterMap_cons, List.filterMap_nil]
    cases hwindow : m.windowSize with
    | none =>
      -- the request waits for the first layout, if there is room for it
      have htexts : fill protocolResponseCapacity m.pendingTextAreaRequests
          (textAreaRequests [(pos, .textAreaSizeRequest formatter)]) =
            if m.pendingTextAreaRequests.length < protocolResponseCapacity then
              m.pendingTextAreaRequests ++ [(pos, formatter)]
            else m.pendingTextAreaRequests := (fill_cons _ _ _ _).trans (fill_nil _ _)
      dsimp only [Option.bind_none, Option.map_none]
      split
      · rename_i hroom
        refine ⟨(List.append_nil _).symm, rfl, rfl, rfl, hwindow.symm, rfl, rfl, ?_⟩
        rw [if_pos hwindow, htexts, if_pos hroom]
      · rename_i hroom
        refine ⟨(List.append_nil _).symm, rfl, rfl, rfl, rfl, rfl, rfl, ?_⟩
        rw [if_pos hwindow, htexts, if_neg hroom]
    | some windowSize =>
      have hknown : Drained m m [(pos, .textAreaSizeRequest formatter)] := by
        refine ⟨rfl, rfl, rfl, rfl, rfl, rfl, ?_⟩
        rw [if_neg (by rw [hwindow]; exact Option.some_ne_none _)]
      dsimp only [Option.bind_some]
      cases protocolResponse (formatter windowSize) with
      | none => exact ⟨(List.append_nil _).symm, hknown⟩
      | some response => exact ⟨rfl, hknown⟩
  | title | resetTitle | bell =>
    exact ⟨(List.append_nil _).symm, rfl, rfl, rfl, rfl, rfl, rfl, hnone _ rfl⟩
  | clipboardStore | clipboardLoad =>
    simp only [handleProtocolEvent]
    split
    · exact ⟨(List.append_nil _).symm, rfl, rfl, rfl, rfl, rfl, rfl, hnone _ rfl⟩
    · exact ⟨(List.append_nil _).symm, hsame _ rfl⟩

private theorem answers_congr {m m' : TerminalModel} (hw : m'.windowSize = m.windowSize)
    (hp : m'.queryPalette = m.queryPalette) (colors : Nat → Option Rgb)
    (queue : List (Nat × TerminalProtocolEvent)) :
    m'.answers colors queue = m.answers colors queue := by
  rw [answers, answers, hw, hp]

/-- The queue: its responses, and the requests it leaves behind. -/
theorem drainEvents_spec (colors : Nat → Option Rgb) (m : TerminalModel)
    (responses : List (Nat × String)) (queue : List (Nat × TerminalProtocolEvent)) :
    (drainEvents colors m responses queue).2 = responses ++ m.answers colors queue ∧
      Drained m (drainEvents colors m responses queue).1 queue := by
  induction queue generalizing m responses with
  | nil =>
    refine ⟨(List.append_nil _).symm, rfl, rfl, rfl, rfl, rfl, rfl, ?_⟩
    rw [textAreaRequests, List.filterMap_nil, fill_nil, ite_self]
    rfl
  | cons event queue ih =>
    obtain ⟨pos, event⟩ := event
    obtain ⟨hresponses, hfirst⟩ := handleProtocolEvent_spec colors m responses pos event
    obtain ⟨hrest, hlast⟩ := ih (handleProtocolEvent colors m responses pos event).1
      (handleProtocolEvent colors m responses pos event).2
    -- the first event changes neither the window nor the palette
    rw [answers_congr hfirst.window hfirst.palette] at hrest
    constructor
    · have happend : m.answers colors ((pos, event) :: queue) =
          m.answers colors [(pos, event)] ++ m.answers colors queue :=
        List.filterMap_append (l := [(pos, event)])
      rw [happend, ← List.append_assoc, ← hresponses]
      exact hrest
    · refine ⟨hlast.observed.trans hfirst.observed, hlast.events.trans hfirst.events,
        hlast.palette.trans hfirst.palette, hlast.window.trans hfirst.window,
        hlast.cells.trans hfirst.cells, hlast.tracker.trans hfirst.tracker, ?_⟩
      refine hlast.texts.trans ?_
      rw [hfirst.window, hfirst.texts]
      split
      · have happend : textAreaRequests ((pos, event) :: queue) =
            textAreaRequests [(pos, event)] ++ textAreaRequests queue :=
          List.filterMap_append (l := [(pos, event)])
        rw [happend, fill_append]
      · rfl

/-- What the bounded queue holds when a chunk or a flush has been parsed. -/
def queued (m : TerminalModel) (events : List (Nat × TermEvent)) :
    List (Nat × TerminalProtocolEvent) :=
  fill protocolResponseCapacity m.protocolEvents (events.filterMap listened)

/-- The positions at which the cell size requests of a chunk end. -/
def cellSizeRequests (m : TerminalModel) (bytes : List UInt8) : List Nat :=
  (m.windowOperationQueries.observe m.observed bytes).2

private theorem utf8ByteSize_le (s : String) : s.utf8ByteSize ≤ 4 * s.length := by
  have hchars : ∀ l : List Char, (String.ofList l).utf8ByteSize ≤ 4 * l.length := by
    intro l
    induction l with
    | nil => exact Nat.le_of_eq rfl
    | cons c l ih =>
      have hcons : String.ofList (c :: l) = String.singleton c ++ String.ofList l := by simp
      have hc := c.utf8Size_le_four
      rw [hcons, String.utf8ByteSize_append, String.utf8ByteSize_singleton, List.length_cons]
      omega
  have := hchars s.toList
  rwa [String.ofList_toList, String.length_toList] at this

theorem utf8ByteSize_repr_le {n k : Nat} (hk : 0 < k) (h : n < 10 ^ k) :
    n.repr.utf8ByteSize ≤ 4 * k := by
  have hlength := (Nat.length_repr_le_iff hk).mpr h
  have := utf8ByteSize_le n.repr
  omega

/-- A response that is neither empty nor too long is allowed. -/
theorem protocolResponse_isSome {response : String} (hpos : 0 < response.utf8ByteSize)
    (hle : response.utf8ByteSize ≤ maxProtocolResponseBytes) :
    (protocolResponse response).isSome := by
  have hne : response ≠ "" := by
    intro hempty
    rw [hempty] at hpos
    exact absurd hpos (Nat.lt_irrefl 0)
  unfold protocolResponse
  rw [if_pos ⟨hne, hle⟩]
  rfl

/-- Every cell size has a response that is allowed: both numbers have at most five digits. -/
theorem cellSizeResponse_isSome (windowSize : WindowSize) :
    (cellSizeResponse windowSize).isSome := by
  have hdigits (n : UInt16) : n.toNat.repr.utf8ByteSize ≤ 4 * 5 :=
    utf8ByteSize_repr_le (by decide) (by have := n.toNat_lt; omega)
  have hheight := hdigits windowSize.cellHeight
  have hwidth := hdigits windowSize.cellWidth
  have hsize : s!"\x1b[6;{windowSize.cellHeight.toNat};{windowSize.cellWidth.toNat}t".utf8ByteSize =
      4 + windowSize.cellHeight.toNat.repr.utf8ByteSize + 1 +
        windowSize.cellWidth.toNat.repr.utf8ByteSize + 1 := by
    simp only [String.utf8ByteSize_append]
    rfl
  exact protocolResponse_isSome (by omega) (by unfold maxProtocolResponseBytes; omega)

/-- Each request gets one response. -/
theorem map_fst_cellSizeResponses (windowSize : WindowSize) (requests : List Nat) :
    (cellSizeResponses windowSize requests).map Prod.fst = requests := by
  obtain ⟨response, hresponse⟩ := Option.isSome_iff_exists.mp (cellSizeResponse_isSome windowSize)
  unfold cellSizeResponses
  rw [hresponse]
  induction requests with
  | nil => rfl
  | cons pos requests ih =>
    rw [List.filterMap_cons, Option.map_some]
    exact congrArg (pos :: ·) ih

theorem length_cellSizeResponses (windowSize : WindowSize) (requests : List Nat) :
    (cellSizeResponses windowSize requests).length = requests.length := by
  rw [← List.length_map (f := Prod.fst), map_fst_cellSizeResponses]

private theorem handleCellSizeRequests_known {m : TerminalModel} {windowSize : WindowSize}
    (h : m.windowSize = some windowSize) (requests : List Nat) (responses : List (Nat × String)) :
    m.handleCellSizeRequests requests responses =
      (m, responses ++ cellSizeResponses windowSize
        (requests.take (protocolResponseCapacity - responses.length))) := by
  unfold handleCellSizeRequests
  split
  · rename_i hnone
    rw [List.length_eq_zero_iff.mp hnone, List.take_nil]
    exact congrArg _ (List.append_nil _).symm
  · rw [h]
    dsimp only
    rw [Nat.min_comm, ← List.take_eq_take_min]

private theorem handleCellSizeRequests_unknown {m : TerminalModel} (h : m.windowSize = none)
    (requests : List Nat) (responses : List (Nat × String)) :
    m.handleCellSizeRequests requests responses =
      ({ m with
        pendingCellSizeRequests := m.pendingCellSizeRequests ++ requests.take
          (protocolResponseCapacity -
            (m.pendingTextAreaRequests.length + m.pendingCellSizeRequests.length)) },
        responses) := by
  unfold handleCellSizeRequests
  split
  · rename_i hnone
    rw [List.length_eq_zero_iff.mp hnone, List.take_nil, List.append_nil]
  · rw [h]
    dsimp only
    rw [Nat.min_comm, ← List.take_eq_take_min]

/-- What processing a chunk leaves, whatever it answers. -/
structure Processed (m m' : TerminalModel) (bytes : List UInt8) : Prop where
  observed : m'.observed = m.observed + bytes.length
  events : m'.protocolEvents = []
  window : m'.windowSize = m.windowSize

/-- The model when the output of a chunk has been parsed. -/
private theorem processWithResponses_eq (m : TerminalModel) (bytes : List UInt8)
    (parsed : Parsed) : ∃ m' : TerminalModel,
    m.processWithResponses bytes parsed = m'.handleCellSizeRequests (m.cellSizeRequests bytes)
        (m.answers parsed.colors (m.queued parsed.events)) ∧
      Processed m m' bytes ∧ m'.pendingCellSizeRequests = m.pendingCellSizeRequests ∧
      m'.pendingTextAreaRequests =
        if m.windowSize = none then
          fill protocolResponseCapacity m.pendingTextAreaRequests
            (textAreaRequests (m.queued parsed.events))
        else m.pendingTextAreaRequests := by
  -- the model when the bytes have been observed and nothing was parsed yet
  let m₁ : TerminalModel := { m with
    windowOperationQueries := (m.windowOperationQueries.observe m.observed bytes).1
    observed := m.observed + bytes.length }
  have hsent := sendEvents_eq m₁ parsed.events
  obtain ⟨hresponses, hdrained⟩ := drainEvents_spec parsed.colors
    { m₁.sendEvents parsed.events with protocolEvents := [] } []
    (m₁.sendEvents parsed.events).protocolEvents
  rw [List.nil_append] at hresponses
  have hqueue : (m₁.sendEvents parsed.events).protocolEvents = m.queued parsed.events := by
    rw [hsent]
    rfl
  -- the answers depend on the window and the cells only, which the events leave alone
  have hanswers : answers { m₁.sendEvents parsed.events with protocolEvents := [] } parsed.colors
      (m₁.sendEvents parsed.events).protocolEvents =
        m.answers parsed.colors (m.queued parsed.events) := by
    rw [hqueue]
    exact answers_congr (by rw [hsent]) (by rw [hsent]) _ _
  refine ⟨((m₁.sendEvents parsed.events).drainProtocolEvents parsed.colors).1, ?_,
    ⟨?_, hdrained.events, ?_⟩, ?_, ?_⟩
  · exact congrArg (fun responses => handleCellSizeRequests _ (m.cellSizeRequests bytes) responses)
      (hresponses.trans hanswers)
  · exact hdrained.observed.trans (by rw [hsent])
  · exact hdrained.window.trans (by rw [hsent])
  · exact hdrained.cells.trans (by rw [hsent])
  · refine hdrained.texts.trans ?_
    rw [hqueue, hsent]

/-- A chunk that is processed after the first layout. -/
theorem processWithResponses_known {m : TerminalModel} {windowSize : WindowSize}
    (hwindow : m.windowSize = some windowSize) (bytes : List UInt8) (parsed : Parsed) :
    let answered := m.answers parsed.colors (m.queued parsed.events)
    let m' := (m.processWithResponses bytes parsed).1
    (m.processWithResponses bytes parsed).2 = answered ++ cellSizeResponses windowSize
        ((m.cellSizeRequests bytes).take (protocolResponseCapacity - answered.length)) ∧
      Processed m m' bytes ∧ m'.pendingTextAreaRequests = m.pendingTextAreaRequests ∧
      m'.pendingCellSizeRequests = m.pendingCellSizeRequests := by
  obtain ⟨m', heq, hprocessed, hcells, htexts⟩ := processWithResponses_eq m bytes parsed
  rw [heq, handleCellSizeRequests_known (hprocessed.window.trans hwindow)]
  rw [if_neg (by rw [hwindow]; exact Option.some_ne_none _)] at htexts
  exact ⟨rfl, hprocessed, htexts, hcells⟩

/-- A chunk that is processed before the first layout. -/
theorem processWithResponses_unknown {m : TerminalModel} (hwindow : m.windowSize = none)
    (bytes : List UInt8) (parsed : Parsed) :
    let queue := m.queued parsed.events
    let m' := (m.processWithResponses bytes parsed).1
    let texts := fill protocolResponseCapacity m.pendingTextAreaRequests (textAreaRequests queue)
    (m.processWithResponses bytes parsed).2 = m.answers parsed.colors queue ∧
      Processed m m' bytes ∧ m'.pendingTextAreaRequests = texts ∧
      m'.pendingCellSizeRequests = m.pendingCellSizeRequests ++ (m.cellSizeRequests bytes).take
        (protocolResponseCapacity - (texts.length + m.pendingCellSizeRequests.length)) := by
  obtain ⟨m', heq, hprocessed, hcells, htexts⟩ := processWithResponses_eq m bytes parsed
  rw [heq, handleCellSizeRequests_unknown (hprocessed.window.trans hwindow)]
  rw [if_pos hwindow] at htexts
  refine ⟨rfl, ⟨hprocessed.observed, hprocessed.events, hprocessed.window⟩, htexts, ?_⟩
  rw [htexts, hcells]

/-- The first layout answers the text area requests that wait, then the cell size requests. -/
theorem setWindowSize_unknown {m : TerminalModel} (hwindow : m.windowSize = none)
    (columns rows cellWidth cellHeight : UInt32)
    (hformats : ∀ request ∈ m.pendingTextAreaRequests, ∀ windowSize,
      (protocolResponse (request.2 windowSize)).isSome) :
    (m.setWindowSize columns rows cellWidth cellHeight).2.map Prod.fst =
      m.pendingTextAreaRequests.map Prod.fst ++ m.pendingCellSizeRequests.take
        (protocolResponseCapacity - m.pendingTextAreaRequests.length) := by
  have htexts : ∀ (windowSize : WindowSize) (requests : List (Nat × (WindowSize → String))),
      (∀ request ∈ requests, ∀ windowSize, (protocolResponse (request.2 windowSize)).isSome) →
      (requests.filterMap fun request =>
        (protocolResponse (request.2 windowSize)).map (request.1, ·)).map Prod.fst =
          requests.map Prod.fst := by
    intro windowSize requests hall
    induction requests with
    | nil => rfl
    | cons request requests ih =>
      obtain ⟨hrequest, hrequests⟩ := List.forall_mem_cons.mp hall
      obtain ⟨response, hresponse⟩ := Option.isSome_iff_exists.mp (hrequest windowSize)
      rw [List.filterMap_cons, hresponse]
      exact congrArg (request.1 :: ·) (ih hrequests)
  unfold setWindowSize
  dsimp only
  rw [if_neg (by rw [hwindow]; exact (Option.some_ne_none _).symm), List.map_append,
    map_fst_cellSizeResponses, htexts _ _ hformats]
  congr 1
  rw [Nat.min_comm, ← List.take_eq_take_min, ← List.length_map (f := Prod.fst), htexts _ _ hformats,
    List.length_map]

theorem setWindowSize_known {m : TerminalModel} (htexts : m.pendingTextAreaRequests = [])
    (hcells : m.pendingCellSizeRequests = []) (columns rows cellWidth cellHeight : UInt32) :
    (m.setWindowSize columns rows cellWidth cellHeight).2 = [] := by
  unfold setWindowSize
  dsimp only
  split
  · rfl
  · rw [htexts, hcells]
    rfl

theorem setWindowSize_fst (m : TerminalModel) (columns rows cellWidth cellHeight : UInt32) :
    let m' := (m.setWindowSize columns rows cellWidth cellHeight).1
    m'.observed = m.observed ∧ m'.protocolEvents = m.protocolEvents ∧ m'.windowSize ≠ none ∧
      (m' = m ∨ m'.pendingTextAreaRequests = [] ∧ m'.pendingCellSizeRequests = []) := by
  unfold setWindowSize
  dsimp only
  split
  · rename_i hsame
    exact ⟨rfl, rfl, by rw [hsame]; exact Option.some_ne_none _, .inl rfl⟩
  · exact ⟨rfl, rfl, Option.some_ne_none _, .inr ⟨rfl, rfl⟩⟩

/-! ## Positions -/

/-- Dropping entries and changing values keeps the order of the positions. -/
theorem map_fst_filterMap_sublist {α β : Type} {f : Nat × α → Option (Nat × β)}
    (h : ∀ e r, f e = some r → r.1 = e.1) (l : List (Nat × α)) :
    ((l.filterMap f).map Prod.fst).Sublist (l.map Prod.fst) := by
  induction l with
  | nil => exact List.Sublist.refl _
  | cons e l ih =>
    rw [List.map_cons]
    cases he : f e with
    | none =>
      rw [List.filterMap_cons_none he]
      exact ih.cons _
    | some r =>
      rw [List.filterMap_cons_some he, List.map_cons, h e r he]
      exact ih.cons_cons _

theorem map_fst_answers_sublist (m : TerminalModel) (colors : Nat → Option Rgb)
    (queue : List (Nat × TerminalProtocolEvent)) :
    ((m.answers colors queue).map Prod.fst).Sublist (queue.map Prod.fst) := by
  refine map_fst_filterMap_sublist (fun e r h => ?_) queue
  obtain ⟨_, _, rfl⟩ := Option.map_eq_some_iff.mp h
  rfl

theorem map_fst_textAreaRequests_sublist (queue : List (Nat × TerminalProtocolEvent)) :
    ((textAreaRequests queue).map Prod.fst).Sublist (queue.map Prod.fst) := by
  refine map_fst_filterMap_sublist (fun e r h => ?_) queue
  split at h
  · cases h
    rfl
  · exact nomatch h

/-- The requests that the tracker finds in a chunk end in it, one after the other. -/
theorem observe_sorted (t : WindowOperationQueryTracker) (pos : Nat) (bytes : List UInt8) :
    (t.observe pos bytes).2.Pairwise (· < ·) ∧
      ∀ p ∈ (t.observe pos bytes).2, pos ≤ p ∧ p < pos + bytes.length := by
  induction bytes generalizing t pos with
  | nil => exact ⟨.nil, fun _ h => nomatch h⟩
  | cons byte bytes ih =>
    obtain ⟨hsorted, hrange⟩ := ih (t.observeByte byte).1 (pos + 1)
    rw [WindowOperationQueryTracker.observe, List.length_cons]
    dsimp only
    split
    · refine ⟨List.pairwise_cons.mpr ⟨fun p hp => ?_, hsorted⟩, fun p hp => ?_⟩
      · have := hrange p hp
        omega
      · rcases List.mem_cons.mp hp with rfl | hp
        · omega
        · have := hrange p hp
          omega
    · refine ⟨hsorted, fun p hp => ?_⟩
      have := hrange p hp
      omega

end TerminalModel

end AxSsh
