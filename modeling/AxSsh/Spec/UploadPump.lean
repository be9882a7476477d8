import AxSsh.Native.UploadPublication

/-!
# The bytes of an upload

What the reader read is in three places: in the writes that were taken off the window, in the
window, and in the channel with the chunk that is being sent.  Every chunk is written at the sum
of the lengths before it, and a write leaves the window only when it was acknowledged.  So when
the loop ends well, all bytes are written.

## Key results
- `Upload.Pumping.push`, `Upload.Pumping.pop`: the two ends of the window
- `Upload.Pumping.setStage`: a request in the window
- `Upload.Pumping.read`, `Upload.Pumping.sendChunk`: the reader
- `Upload.Pumping.complete`: at the end of the loop all bytes are written
-/

namespace AxSsh

/-! ## Reading the trace -/

/-- The chunks the reader read, in their order. -/
def reads : List UploadEvent → List (List UInt8)
  | [] => []
  | .read chunk :: past => reads past ++ [chunk]
  | _ :: past => reads past

/-- The inspections of a target, the newest first. -/
def inspections : List UploadEvent → List (RemotePath × Option RemoteUploadFingerprint)
  | [] => []
  | .inspected path found :: past => (path, found) :: inspections past
  | _ :: past => inspections past

/-- Chunks with their offsets in a file, from `offset` on. -/
def placed (offset : Nat) : List (List UInt8) → List (Nat × List UInt8)
  | [] => []
  | chunk :: chunks => (offset, chunk) :: placed (offset + chunk.length) chunks

theorem placed_append (offset : Nat) (xs ys : List (List UInt8)) :
    placed offset (xs ++ ys) = placed offset xs ++ placed (offset + xs.flatten.length) ys := by
  induction xs generalizing offset with
  | nil => simp [placed]
  | cons x xs ih =>
    rw [List.cons_append, placed, placed, ih, List.cons_append, List.flatten_cons,
      List.length_append, Nat.add_assoc]

/-- All source bytes were written: every chunk that was read is acknowledged at its offset, and
together they are the whole file. -/
def Written (total : Nat) (past : List UploadEvent) : Prop :=
  (∀ p ∈ placed 0 (reads past), .acknowledged p.1 p.2 ∈ past) ∧ (reads past).flatten.length = total

theorem reads_cons_of_ne {event : UploadEvent} {past : List UploadEvent}
    (h : ∀ chunk, event ≠ .read chunk) : reads (event :: past) = reads past := by
  cases event with
  | read chunk => exact absurd rfl (h chunk)
  | _ => rfl

theorem inspections_cons_of_ne {event : UploadEvent} {past : List UploadEvent}
    (h : ∀ path found, event ≠ .inspected path found) :
    inspections (event :: past) = inspections past := by
  cases event with
  | inspected path found => exact absurd rfl (h path found)
  | _ => rfl

theorem Written.cons {total : Nat} {past : List UploadEvent} (h : Written total past)
    {event : UploadEvent} (he : ∀ chunk, event ≠ .read chunk) : Written total (event :: past) := by
  unfold Written
  rw [reads_cons_of_ne he]
  exact ⟨fun p hp => List.mem_cons_of_mem _ (h.1 p hp), h.2⟩

/-- Chunks that are not empty and have no bytes are none. -/
theorem eq_nil_of_flatten_length {chunks : List (List UInt8)} (hne : ∀ c ∈ chunks, c ≠ [])
    (h : chunks.flatten.length = 0) : chunks = [] := by
  cases chunks with
  | nil => rfl
  | cons c chunks =>
    rw [List.flatten_cons, List.length_append] at h
    have hc := List.length_pos_iff.mpr (hne c List.mem_cons_self)
    omega

/-- A list does not change in what `f` sees when an entry is replaced by one that looks alike. -/
theorem map_set_of_eq {α β : Type} (f : α → β) {l : List α} {i : Nat} {x : α} (y : α)
    (hx : l[i]? = some x) (hf : f y = f x) : (l.set i y).map f = l.map f := by
  rw [List.map_set, hf]
  apply List.ext_getElem?
  intro j
  rw [List.getElem?_set]
  split
  · next hij =>
    subst hij
    rw [List.getElem?_map, hx]
    split
    · rfl
    · next hlen =>
      rw [List.length_map] at hlen
      rw [List.getElem?_eq_none (by omega)] at hx
      cases hx
  · rfl

/-- The chunk that waits for room in the channel. -/
def ReaderStage.pending : ReaderStage → List (List UInt8)
  | .sending (.ok chunk) => [chunk]
  | _ => []

namespace Upload

variable {request : UploadRequest} {s : Upload}

/-! ## The window between the reader and the server -/

/-- The chunks in the channel of the reader. -/
def queued (chunks : List (Except UploadError (List UInt8))) : List (List UInt8) :=
  chunks.flatMap fun
    | .ok chunk => [chunk]
    | .error _ => []

/-- The chunks in the window. -/
def inWindow (s : Upload) : List (List UInt8) := s.window.map PendingWrite.chunk

/-- What the reader has read is counted. -/
structure ReaderInv (request : UploadRequest) (past : List UploadEvent) (offset : Nat) : Prop where
  offset_eq : offset = (reads past).flatten.length
  offset_le : offset ≤ request.totalBytes
  ne_nil : ∀ chunk ∈ reads past, chunk ≠ []

theorem ReaderInv.cons {past : List UploadEvent} {offset : Nat}
    (h : ReaderInv request past offset) {event : UploadEvent} (he : ∀ chunk, event ≠ .read chunk) :
    ReaderInv request (event :: past) offset := by
  have hreads : reads (event :: past) = reads past := reads_cons_of_ne he
  exact ⟨hreads ▸ h.offset_eq, h.offset_le, hreads ▸ h.ne_nil⟩

/-- The loop runs, and the chunks `finished` were taken off the window. -/
structure Pumping (s : Upload) (finished : List (List UInt8)) : Prop where
  reads_eq : reads s.trace = finished ++ s.inWindow ++ queued s.chunks ++ s.reader.pending
  offset_eq : s.offset = finished.flatten.length
  nextOffset_eq : s.nextOffset = (finished ++ s.inWindow).flatten.length
  acknowledged : ∀ p ∈ placed 0 finished, .acknowledged p.1 p.2 ∈ s.trace
  window_placed : s.window.map (fun w => (w.offset, w.chunk)) = placed s.offset s.inWindow
  settled : ∀ w ∈ s.window, w.stage = .settled (.ok ()) → .acknowledged w.offset w.chunk ∈ s.trace
  open_eq : s.chunksOpen = true

variable {finished : List (List UInt8)}

/-- An event that reads nothing, in another phase. -/
theorem Pumping.note (h : Pumping s finished) {event : UploadEvent}
    (he : ∀ chunk, event ≠ .read chunk) : Pumping (s.note event) finished where
  reads_eq := (reads_cons_of_ne he).trans h.reads_eq
  offset_eq := h.offset_eq
  nextOffset_eq := h.nextOffset_eq
  acknowledged p hp := List.mem_cons_of_mem _ (h.acknowledged p hp)
  window_placed := h.window_placed
  settled w hw hs := List.mem_cons_of_mem _ (h.settled w hw hs)
  open_eq := h.open_eq

theorem Pumping.setPhase (h : Pumping s finished) (phase : UploadPhase) :
    Pumping { s with phase } finished :=
  ⟨h.reads_eq, h.offset_eq, h.nextOffset_eq, h.acknowledged, h.window_placed, h.settled, h.open_eq⟩

/-- When the loop has taken all bytes off the window, they are written. -/
theorem Pumping.complete (h : Pumping s finished)
    (hr : ReaderInv request s.trace s.readerOffset) (hoffset : ¬s.offset < request.totalBytes) :
    Written request.totalBytes s.trace ∧ s.readerOffset = request.totalBytes := by
  have hreads : reads s.trace = finished ++ (s.inWindow ++ queued s.chunks ++ s.reader.pending) := by
    rw [h.reads_eq, List.append_assoc, List.append_assoc, List.append_assoc]
  have hlen := hr.offset_eq
  rw [hreads, List.flatten_append, List.length_append, ← h.offset_eq] at hlen
  have hle := hr.offset_le
  have hrest : s.inWindow ++ queued s.chunks ++ s.reader.pending = [] := by
    apply eq_nil_of_flatten_length
    · exact fun c hc => hr.ne_nil c (hreads ▸ List.mem_append_right _ hc)
    · omega
  rw [hrest, List.append_nil] at hreads
  refine ⟨⟨?_, ?_⟩, by omega⟩
  · rw [hreads]
    exact h.acknowledged
  · rw [hreads, ← h.offset_eq]
    omega

/-! ### The ends of the window -/

/-- A chunk goes from the channel into the window. -/
theorem Pumping.push {chunk : List UInt8} {chunks : List (Except UploadError (List UInt8))}
    (h : Pumping s finished) (hchunks : s.chunks = .ok chunk :: chunks) :
    Pumping { s with
      chunks
      window := s.window ++ [{ offset := s.nextOffset, chunk }]
      nextOffset := s.nextOffset + chunk.length } finished := by
  have hnext : s.nextOffset = s.offset + s.inWindow.flatten.length := by
    rw [h.nextOffset_eq, h.offset_eq, List.flatten_append, List.length_append]
  constructor
  · have hreads := h.reads_eq
    simp only [hchunks, queued, List.flatMap_cons] at hreads
    simp only [inWindow, List.map_append, List.map_cons, List.map_nil, queued]
    rw [hreads, inWindow]
    simp only [List.append_assoc]
  · exact h.offset_eq
  · simp only [inWindow, List.map_append, List.map_cons, List.map_nil]
    rw [← List.append_assoc, List.flatten_append, List.length_append, ← inWindow,
      ← h.nextOffset_eq]
    simp
  · exact h.acknowledged
  · simp only [inWindow, List.map_append, List.map_cons, List.map_nil, placed_append, placed]
    rw [h.window_placed, ← inWindow, hnext]
  · intro w hw hs
    rcases List.mem_append.mp hw with hold | hnew
    · exact h.settled w hold hs
    · obtain rfl := List.mem_singleton.mp hnew
      cases hs
  · exact h.open_eq

/-- The front of the window was acknowledged and is taken off. -/
theorem Pumping.pop {write : PendingWrite} {window : List PendingWrite} (h : Pumping s finished)
    (hwindow : s.window = write :: window) (hstage : write.stage = .settled (.ok ())) :
    Pumping { s with window, offset := s.offset + write.chunk.length }
      (finished ++ [write.chunk]) := by
  have hin : s.inWindow = write.chunk :: window.map PendingWrite.chunk := by
    rw [inWindow, hwindow, List.map_cons]
  have hplaced := h.window_placed
  rw [hin, hwindow, List.map_cons, placed] at hplaced
  obtain ⟨hfirst, hrest⟩ := List.cons.inj hplaced
  have hofs : write.offset = s.offset := congrArg Prod.fst hfirst
  constructor
  · rw [show reads s.trace = _ from h.reads_eq, hin]
    simp [inWindow]
  · simp [h.offset_eq]
  · rw [show s.nextOffset = _ from h.nextOffset_eq, hin]
    simp [inWindow]
  · intro p hp
    rw [placed_append] at hp
    rcases List.mem_append.mp hp with hold | hnew
    · exact h.acknowledged p hold
    · -- The chunk stands where the chunks before it end, which is where it was written.
      obtain rfl := List.mem_singleton.mp hnew
      have hack := h.settled write (hwindow ▸ List.mem_cons_self) hstage
      rw [hofs, h.offset_eq] at hack
      simpa using hack
  · exact hrest
  · exact fun w hw hs => h.settled w (hwindow ▸ List.mem_cons_of_mem _ hw) hs
  · exact h.open_eq

/-! ### A request in the window -/

theorem Pumping.setStage {index : Nat} {write : PendingWrite} {stage : WriteStage}
    (h : Pumping s finished) (hwrite : s.window[index]? = some write)
    (hstage : stage = .settled (.ok ()) → .acknowledged write.offset write.chunk ∈ s.trace) :
    Pumping (s.setStage index write stage) finished := by
  have hchunks : (s.setStage index write stage).inWindow = s.inWindow :=
    map_set_of_eq PendingWrite.chunk { write with stage } hwrite rfl
  constructor
  · rw [hchunks]
    exact h.reads_eq
  · exact h.offset_eq
  · rw [hchunks]
    exact h.nextOffset_eq
  · exact h.acknowledged
  · rw [hchunks]
    exact (map_set_of_eq (fun w => (w.offset, w.chunk)) { write with stage } hwrite rfl).trans
      h.window_placed
  · intro w hw hs
    rcases List.mem_or_eq_of_mem_set hw with hold | rfl
    · exact h.settled w hold hs
    · exact hstage hs
  · exact h.open_eq

/-! ### The reader -/

theorem Pumping.setReader {reader : ReaderStage} (h : Pumping s finished)
    (hpending : reader.pending = s.reader.pending) : Pumping { s with reader } finished where
  reads_eq := by
    rw [show reads s.trace = _ from h.reads_eq, ← hpending]
    rfl
  offset_eq := h.offset_eq
  nextOffset_eq := h.nextOffset_eq
  acknowledged := h.acknowledged
  window_placed := h.window_placed
  settled := h.settled
  open_eq := h.open_eq

theorem Pumping.read {chunk : List UInt8} (h : Pumping s finished) (hreader : s.reader = .reading)
    (offset : Nat) :
    Pumping { s.note (.read chunk) with reader := .sending (.ok chunk), readerOffset := offset }
      finished where
  reads_eq := by
    have hreads := h.reads_eq
    rw [hreader] at hreads
    show reads s.trace ++ [chunk] = _
    rw [hreads]
    simp [ReaderStage.pending, inWindow, Upload.note]
  offset_eq := h.offset_eq
  nextOffset_eq := h.nextOffset_eq
  acknowledged p hp := List.mem_cons_of_mem _ (h.acknowledged p hp)
  window_placed := h.window_placed
  settled w hw hs := List.mem_cons_of_mem _ (h.settled w hw hs)
  open_eq := h.open_eq

/-- The reader puts an item into the channel. -/
theorem Pumping.sendChunk (h : Pumping s finished) : Pumping s.sendChunk finished := by
  unfold Upload.sendChunk
  split
  · next item hreader =>
    rw [if_pos h.open_eq]
    have hreads := h.reads_eq
    rw [hreader] at hreads
    split
    · cases item with
      | ok chunk =>
        refine ⟨?_, h.offset_eq, h.nextOffset_eq, h.acknowledged, h.window_placed, h.settled,
          h.open_eq⟩
        rw [show reads s.trace = _ from hreads]
        simp [ReaderStage.pending, inWindow, queued]
      | error error =>
        refine ⟨?_, h.offset_eq, h.nextOffset_eq, h.acknowledged, h.window_placed, h.settled,
          h.open_eq⟩
        rw [show reads s.trace = _ from hreads]
        simp [ReaderStage.pending, inWindow, queued]
    · exact h
  · exact h

end Upload

end AxSsh
