import AxSsh.ForStd.Mealy
import AxSsh.ForStd.Packets
import AxSsh.Native.PcmConverter
import AxSsh.Spec.ProfileChecks

/-!
# Microphone packets do not depend on fragmentation

The frames of a recording are a stream that silence follows, and the resampler sees its blocks one
after the other, whether `push` fills them or `finish`.  What is sent is the resampled stream without
the initial delay, cut off at the target.

## Key results
- `emitFrames_spec`, `process_spec`: what one block adds to the packets
- `pushFrame_spec`: the buffer holds the stream up to the frames pushed so far
- `finishLoop_spec`: the flush ends with the target
- `record_packets`: the packets of a recording
-/

namespace AxSsh.Audio

open Packets

theorem AudioFormat.validate_spec {format : AudioFormat} (h : format.validate = .ok ()) :
    50 ≤ format.sampleRate ∧ 0 < format.channels := by
  obtain ⟨_, hrate, hchannels⟩ := Except.bind_eq_ok_iff.mp h
  rw [bailIf_eq_ok_iff, Bool.not_eq_false', decide_eq_true_eq] at hrate hchannels
  simp only [List.mem_cons, List.not_mem_nil, or_false] at hrate hchannels
  omega

theorem chunksExact_flatten {S : Type} {size : Nat} (hsize : 0 < size) {frames : List (List S)}
    (h : ∀ frame ∈ frames, frame.length = size) : chunksExact size frames.flatten = frames := by
  induction frames with
  | nil => simp [chunksExact]
  | cons frame frames ih =>
    obtain ⟨hframe, hframes⟩ := List.forall_mem_cons.mp h
    have hlength : (frame :: frames).flatten.length / size = frames.flatten.length / size + 1 := by
      rw [List.flatten_cons, List.length_append, hframe, Nat.add_comm, Nat.add_div_right _ hsize]
    rw [chunksExact, hlength, List.range_succ_eq_map, List.map_cons, List.map_map]
    have hhead : ((frame :: frames).flatten.drop (0 * size)).take size = frame := by
      simp [← hframe]
    have htail (i : Nat) : ((frame :: frames).flatten.drop ((i + 1) * size)).take size =
        (frames.flatten.drop (i * size)).take size := by
      rw [List.flatten_cons, Nat.add_mul, Nat.one_mul, Nat.add_comm, ← List.drop_drop, ← hframe,
        List.drop_left]
    rw [hhead]
    simp only [Function.comp_def, Nat.succ_eq_add_one, htail]
    exact congrArg (frame :: ·) (ih hframes)

/-! ## The resampled stream -/

section Stream

variable {S R : Type}

/-- What the library documents for one pair of rates: every full block succeeds and gives a fixed
number of frames, at the exact ratio of the rates. -/
structure Resampler.Documented (resampler : Resampler S R) (rate : Nat) (format : AudioFormat)
    (outputFrames : Nat) : Prop where
  inputFrames_pos : 0 < resampler.inputFrames
  outputFrames_pos : 0 < outputFrames
  ratio : outputFrames * rate = resampler.inputFrames * format.sampleRate
  process : ∀ state block, block.length = resampler.inputFrames →
    (∀ frame ∈ block, frame.length = format.channels) →
    ∃ state' frames, resampler.processIntoBuffer state block = .ok (state', frames) ∧
      frames.length = outputFrames ∧ ∀ frame ∈ frames, frame.length = format.channels

/-- The library as a machine over full blocks. -/
def Resampler.step (resampler : Resampler S R) (state : R) (block : List (List S)) :
    R × List (List S) :=
  match resampler.processIntoBuffer state block with
  | .ok result => result
  | .error _ => (state, [])

/-- The frames of a recording and the silence after them. -/
def streamOf (silence : S) (format : AudioFormat) (frames : List (List S)) (i : Nat) : List S :=
  frames.getD i (List.replicate format.channels silence)

/-- The first blocks of a stream. -/
def Resampler.blocks (resampler : Resampler S R) (stream : Nat → List S) (n : Nat) :
    List (List (List S)) :=
  (List.range n).map fun i =>
    (List.range resampler.inputFrames).map fun j => stream (i * resampler.inputFrames + j)

/-- What the library makes of these blocks. -/
def Resampler.resampled (resampler : Resampler S R) (stream : Nat → List S) (n : Nat) :
    List (List S) :=
  Mealy.outputs resampler.step resampler.start (resampler.blocks stream n)

def Resampler.stateAfter (resampler : Resampler S R) (stream : Nat → List S) (n : Nat) : R :=
  Mealy.finalState resampler.step resampler.start (resampler.blocks stream n)

variable {resampler : Resampler S R} {rate : Nat} {format : AudioFormat} {perBlock : Nat}
variable (hdoc : resampler.Documented rate format perBlock) {stream : Nat → List S}
variable (hstream : ∀ i, (stream i).length = format.channels)

theorem Resampler.blocks_succ (n : Nat) :
    resampler.blocks stream (n + 1) = resampler.blocks stream n ++
      [(List.range resampler.inputFrames).map fun j =>
        stream (n * resampler.inputFrames + j)] := by
  simp [Resampler.blocks, List.range_succ]

include hdoc hstream

/-- The next block succeeds and extends the resampled stream. -/
theorem Resampler.process_block (n : Nat) :
    ∃ frames, resampler.processIntoBuffer (resampler.stateAfter stream n)
        ((List.range resampler.inputFrames).map fun j =>
          stream (n * resampler.inputFrames + j)) =
          .ok (resampler.stateAfter stream (n + 1), frames) ∧
      resampler.resampled stream (n + 1) = resampler.resampled stream n ++ frames ∧
      frames.length = perBlock ∧ ∀ frame ∈ frames, frame.length = format.channels := by
  obtain ⟨state', frames, hprocess, hlength, hframes⟩ := hdoc.process
    (resampler.stateAfter stream n)
    ((List.range resampler.inputFrames).map fun j => stream (n * resampler.inputFrames + j))
    (by simp) (by simp [hstream])
  have hstep : resampler.step (resampler.stateAfter stream n)
      ((List.range resampler.inputFrames).map fun j =>
        stream (n * resampler.inputFrames + j)) = (state', frames) := by
    rw [Resampler.step, hprocess]
  refine ⟨frames, ?_, ?_, hlength, hframes⟩
  · rw [hprocess, Resampler.stateAfter, Resampler.blocks_succ, Mealy.finalState_append,
      ← Resampler.stateAfter, Mealy.finalState, List.foldl_cons, hstep]
    rfl
  · rw [Resampler.resampled, Resampler.blocks_succ, Mealy.outputs_append, ← Resampler.resampled,
      ← Resampler.stateAfter, Mealy.outputs, hstep]
    simp [Mealy.outputs]

theorem Resampler.length_resampled (n : Nat) :
    (resampler.resampled stream n).length = n * perBlock := by
  induction n with
  | zero => simp [Resampler.resampled, Resampler.blocks, Mealy.outputs]
  | succ n ih =>
    obtain ⟨frames, -, happend, hlength, -⟩ := Resampler.process_block hdoc hstream n
    rw [happend, List.length_append, ih, hlength, Nat.succ_mul]

theorem Resampler.resampled_isPrefix {n n' : Nat} (h : n ≤ n') :
    resampler.resampled stream n <+: resampler.resampled stream n' := by
  induction h with
  | refl => exact List.prefix_rfl
  | step _ ih =>
    obtain ⟨frames, -, happend, -⟩ := Resampler.process_block hdoc hstream _
    exact ih.trans (happend ▸ List.prefix_append _ _)

/-- Once there are enough frames, more blocks change nothing. -/
theorem Resampler.take_resampled_eq {delay target n n' : Nat}
    (h : target ≤ ((resampler.resampled stream n).drop delay).length)
    (h' : target ≤ ((resampler.resampled stream n').drop delay).length) :
    ((resampler.resampled stream n).drop delay).take target =
      ((resampler.resampled stream n').drop delay).take target := by
  rcases Nat.le_total n n' with hle | hle
  · obtain ⟨rest, hrest⟩ := (Resampler.resampled_isPrefix hdoc hstream hle).drop delay
    rw [← hrest, List.take_append_of_le_length h]
  · obtain ⟨rest, hrest⟩ := (Resampler.resampled_isPrefix hdoc hstream hle).drop delay
    rw [← hrest, List.take_append_of_le_length h']

end Stream

namespace PcmConverter

variable {S R : Type} {silence : S} {quantize : S → BitVec 16}
variable {accepts : List (List UInt8) → List UInt8 → Bool}

/-! ## Packets -/

theorem length_frameBytes (frame : List S) :
    (frameBytes quantize frame).length = 2 * frame.length := by
  induction frame with
  | nil => rfl
  | cons sample frame ih =>
    rw [frameBytes, List.flatMap_cons, List.length_append, ← frameBytes, ih, List.length_cons]
    simp only [leBytes, List.length_cons, List.length_nil]
    omega

/-- The frames in the packets, of which the last packet still has room. -/
structure Holds (quantize : S → BitVec 16) (c : PcmConverter S R) (emitted : List (List S)) :
    Prop where
  count : c.outputFrames = emitted.length
  filled : Filled c.format.packetBytes (2 * c.format.channels)
    (emitted.flatMap (frameBytes quantize)) c.sent c.packet

theorem unit_dvd (format : AudioFormat) : 2 * format.channels ∣ format.packetBytes :=
  ⟨format.sampleRate / 50, by rw [AudioFormat.packetBytes]; ring⟩

/-- What a limit leaves of more frames. -/
def upTo (limit : Option Nat) (emitted : Nat) (frames : List (List S)) : List (List S) :=
  match limit with
  | none => frames
  | some limit => frames.take (limit - emitted)

theorem upTo_cons {limit : Option Nat} {emitted : Nat} {frame : List S} {frames : List (List S)}
    (h : limit.any (· ≤ emitted) = false) :
    upTo limit emitted (frame :: frames) = frame :: upTo limit (emitted + 1) frames := by
  cases limit with
  | none => rfl
  | some limit =>
    simp only [Option.any_some, decide_eq_false_iff_not, Nat.not_le] at h
    obtain ⟨room, hroom⟩ := Nat.exists_eq_add_of_lt h
    rw [upTo, upTo, hroom, show emitted + room + 1 - emitted = room + 1 by omega,
      show emitted + room + 1 - (emitted + 1) = room by omega, List.take_succ_cons]

theorem emitFrames_keep {limit : Option Nat} {c : PcmConverter S R} {frame : List S}
    {frames : List (List S)} (hskip : ¬0 < c.skip)
    (hlimit : limit.any (· ≤ c.outputFrames) = false) :
    emitFrames quantize accepts limit c (frame :: frames) =
      ((if (c.packet ++ frameBytes quantize frame).length = c.format.packetBytes then
          sendPacket accepts { c with
            packet := c.packet ++ frameBytes quantize frame
            outputFrames := c.outputFrames + 1 }
        else .ok { c with
          packet := c.packet ++ frameBytes quantize frame
          outputFrames := c.outputFrames + 1 }).bind fun c =>
        emitFrames quantize accepts limit c frames) := by
  rw [emitFrames, if_neg hskip, if_neg (by simp [hlimit])]
  split
  · rename_i hfull
    rw [if_pos hfull]
    rfl
  · rename_i hfull
    rw [if_neg hfull]
    rfl

variable (haccepts : ∀ sent packet, accepts sent packet = true)

include haccepts

/-- A frame goes into the packet, which is sent when that fills it. -/
theorem emitFrame_spec {c : PcmConverter S R} {emitted : List (List S)}
    (h : c.Holds quantize emitted) {frame : List S} (hframe : frame.length = c.format.channels) :
    ∃ packet sent,
      (if (c.packet ++ frameBytes quantize frame).length = c.format.packetBytes then
          sendPacket accepts { c with
            packet := c.packet ++ frameBytes quantize frame
            outputFrames := c.outputFrames + 1 }
        else .ok { c with
          packet := c.packet ++ frameBytes quantize frame
          outputFrames := c.outputFrames + 1 }) =
        .ok { c with packet, sent, outputFrames := c.outputFrames + 1 } ∧
      Holds quantize { c with packet, sent, outputFrames := c.outputFrames + 1 }
        (emitted ++ [frame]) := by
  have hcount : c.outputFrames + 1 = (emitted ++ [frame]).length := by simp [h.count]
  have hbytes : (emitted ++ [frame]).flatMap (frameBytes quantize) =
      emitted.flatMap (frameBytes quantize) ++ frameBytes quantize frame := by simp
  split
  · rename_i hfull
    refine ⟨[], c.sent ++ [c.packet ++ frameBytes quantize frame], ?_, hcount, ?_⟩
    · rw [sendPacket, if_pos (haccepts ..)]
    · rw [hbytes]
      exact h.filled.write_full hfull
  · rename_i hfull
    refine ⟨c.packet ++ frameBytes quantize frame, c.sent, rfl, hcount, ?_⟩
    rw [hbytes]
    exact h.filled.write (unit_dvd c.format) (by rw [length_frameBytes, hframe]) hfull

/-- The loop skips the delay, keeps frames up to the limit, and changes nothing else. -/
theorem emitFrames_spec (limit : Option Nat) {c : PcmConverter S R} {emitted : List (List S)}
    (h : c.Holds quantize emitted) (frames : List (List S))
    (hframes : ∀ frame ∈ frames, frame.length = c.format.channels) :
    ∃ packet sent outputFrames,
      emitFrames quantize accepts limit c frames =
        .ok { c with skip := c.skip - frames.length, packet, sent, outputFrames } ∧
      Holds quantize { c with skip := c.skip - frames.length, packet, sent, outputFrames }
        (emitted ++ upTo limit emitted.length (frames.drop c.skip)) := by
  induction frames generalizing c emitted with
  | nil =>
    refine ⟨c.packet, c.sent, c.outputFrames, rfl, ?_⟩
    cases limit <;> simpa [upTo] using h
  | cons frame frames ih =>
    obtain ⟨hframe, hframes⟩ := List.forall_mem_cons.mp hframes
    by_cases hskip : 0 < c.skip
    · -- one more frame of the delay
      obtain ⟨packet, sent, outputFrames, heq, hholds⟩ :=
        ih (c := { c with skip := c.skip - 1 }) ⟨h.count, h.filled⟩ hframes
      have hdrop : (frame :: frames).drop c.skip = frames.drop (c.skip - 1) := by
        obtain ⟨skip, hskip⟩ := Nat.exists_eq_succ_of_ne_zero hskip.ne'
        rw [hskip, List.drop_succ_cons, Nat.succ_sub_one]
      have hleft : c.skip - 1 - frames.length = c.skip - (frame :: frames).length := by
        rw [List.length_cons]
        omega
      rw [emitFrames, if_pos hskip, hdrop, ← hleft]
      exact ⟨packet, sent, outputFrames, heq, hholds⟩
    · have hzero : c.skip = 0 := by omega
      have hsame : c.skip - (frame :: frames).length = c.skip := by omega
      cases hlimit : limit.any (· ≤ c.outputFrames) with
      | true =>
        refine ⟨c.packet, c.sent, c.outputFrames, ?_, ?_⟩
        · rw [emitFrames, if_neg hskip, if_pos hlimit, hsame]
        · cases limit with
          | none => cases hlimit
          | some limit =>
            simp only [Option.any_some, decide_eq_true_eq] at hlimit
            have hnone : limit - emitted.length = 0 := by
              rw [h.count] at hlimit
              omega
            rw [hsame, upTo, hnone, List.take_zero, List.append_nil]
            exact h
      | false =>
        obtain ⟨packet, sent, hsend, hholds⟩ := emitFrame_spec haccepts h hframe
        obtain ⟨packet', sent', outputFrames, heq, hholds'⟩ := ih hholds hframes
        rw [emitFrames_keep hskip hlimit, hsend]
        rw [h.count] at hlimit
        simp only [hzero, Nat.zero_sub, List.drop_zero, List.length_append, List.length_singleton,
          List.append_assoc, List.singleton_append] at hholds' heq ⊢
        rw [upTo_cons hlimit]
        exact ⟨packet', sent', outputFrames, heq, hholds'⟩

/-! ## Blocks -/

/-- The first blocks of a stream have been converted. -/
structure Consumed (quantize : S → BitVec 16) (stream : Nat → List S) (limit : Option Nat)
    (c : PcmConverter S R) (n : Nat) : Prop where
  state : c.state = c.resampler.stateAfter stream n
  skip : c.skip = c.resampler.outputDelay - (c.resampler.resampled stream n).length
  holds : c.Holds quantize
    (upTo limit 0 ((c.resampler.resampled stream n).drop c.resampler.outputDelay))

omit haccepts in
/-- The input buffer has no part in what was converted. -/
theorem Consumed.withInput {stream : Nat → List S} {limit : Option Nat} {c : PcmConverter S R}
    {n : Nat} (h : Consumed quantize stream limit c n) (input : List (List S))
    (filled inputFrames : Nat) :
    Consumed quantize stream limit { c with input, filled, inputFrames } n :=
  ⟨h.state, h.skip, ⟨h.holds.count, h.holds.filled⟩⟩

omit haccepts in
/-- Keeping frames up to a limit in two steps. -/
theorem upTo_append {limit : Option Nat} {frames more : List (List S)}
    (h : ∀ bound ∈ limit, (upTo limit 0 frames).length < bound) :
    upTo limit 0 frames ++ upTo limit (upTo limit 0 frames).length more =
      upTo limit 0 (frames ++ more) := by
  cases limit with
  | none => rfl
  | some bound =>
    have hlt := h bound rfl
    simp only [upTo, Nat.sub_zero, List.length_take] at hlt ⊢
    have hall : frames.take bound = frames := List.take_of_length_le (by omega)
    rw [hall, List.take_append, hall, show min bound frames.length = frames.length by omega]

theorem process_spec {rate perBlock n : Nat} {stream : Nat → List S} {limit : Option Nat}
    {c : PcmConverter S R} (hdoc : c.resampler.Documented rate c.format perBlock)
    (hstream : ∀ i, (stream i).length = c.format.channels) (h : Consumed quantize stream limit c n)
    (hroom : ∀ bound ∈ limit, c.outputFrames < bound)
    (hinput : c.input = (List.range c.resampler.inputFrames).map fun j =>
      stream (n * c.resampler.inputFrames + j)) :
    ∃ state skip packet sent outputFrames,
      process quantize accepts limit c =
        .ok { c with state, filled := 0, skip, packet, sent, outputFrames } ∧
      Consumed quantize stream limit
        { c with state, filled := 0, skip, packet, sent, outputFrames } (n + 1) := by
  obtain ⟨frames, hprocess, happend, -, hframes⟩ := Resampler.process_block hdoc hstream n
  obtain ⟨packet, sent, outputFrames, hemit, hholds⟩ := emitFrames_spec haccepts limit
    (c := { c with state := c.resampler.stateAfter stream (n + 1), filled := 0 })
    ⟨h.holds.count, h.holds.filled⟩ frames hframes
  refine ⟨c.resampler.stateAfter stream (n + 1), c.skip - frames.length, packet, sent,
    outputFrames, ?_, rfl, ?_, ?_⟩
  · rw [process, hinput, h.state, hprocess, ← hinput]
    exact hemit
  · simp only
    rw [happend, List.length_append, h.skip, Nat.sub_sub]
  · simp only
    rw [happend, List.drop_append, ← upTo_append fun bound hbound => h.holds.count ▸ hroom bound hbound,
      ← h.skip]
    exact hholds

/-! ## Pushing -/

/-- The buffer holds the frames of the stream since its last full block. -/
structure Pushed (quantize : S → BitVec 16) (resampler : Resampler S R) (format : AudioFormat)
    (rate : Nat) (stream : Nat → List S) (c : PcmConverter S R) (pushed : Nat) : Prop where
  sameResampler : c.resampler = resampler
  sameFormat : c.format = format
  sameRate : c.inputRate = rate
  consumed : Consumed quantize stream none c (pushed / resampler.inputFrames)
  filled : c.filled = pushed % resampler.inputFrames
  count : c.inputFrames = pushed
  buffer : c.input.length = resampler.inputFrames
  content : ∀ j < pushed % resampler.inputFrames,
    c.input[j]? = some (stream (pushed / resampler.inputFrames * resampler.inputFrames + j))

section Pushing

variable {resampler : Resampler S R} {format : AudioFormat} {rate perBlock : Nat}
variable {stream : Nat → List S} (hdoc : resampler.Documented rate format perBlock)
variable (hstream : ∀ i, (stream i).length = format.channels)

include hdoc hstream

theorem pushFrame_spec {c : PcmConverter S R} {pushed : Nat}
    (h : c.Pushed quantize resampler format rate stream pushed) :
    ∃ c', pushFrame quantize accepts c (stream pushed) = .ok c' ∧
      c'.Pushed quantize resampler format rate stream (pushed + 1) := by
  obtain ⟨rfl, rfl, rfl, hconsumed, hfilled, hcount, hbuffer, hcontent⟩ := h
  have hpos := hdoc.inputFrames_pos
  have hdiv := Nat.div_add_mod' pushed c.resampler.inputFrames
  have hlt := Nat.mod_lt pushed hpos
  -- the frame goes behind those of its block
  have hset : ∀ j < pushed % c.resampler.inputFrames + 1,
      (c.input.set c.filled (stream pushed))[j]? =
        some (stream (pushed / c.resampler.inputFrames * c.resampler.inputFrames + j)) := by
    intro j hj
    by_cases heq : j = c.filled
    · subst heq
      rw [List.getElem?_set_self (by omega), hfilled, hdiv]
    · rw [List.getElem?_set_ne (Ne.symm heq)]
      exact hcontent j (by omega)
  unfold pushFrame
  simp only
  split
  · rename_i hfull
    have hinput : c.input.set c.filled (stream pushed) =
        (List.range c.resampler.inputFrames).map fun j =>
          stream (pushed / c.resampler.inputFrames * c.resampler.inputFrames + j) := by
      refine List.ext_getElem? fun j => ?_
      by_cases hj : j < c.resampler.inputFrames
      · rw [hset j (by omega), List.getElem?_map, List.getElem?_range hj, Option.map_some]
      · rw [List.getElem?_eq_none (by simpa [hbuffer] using hj),
          List.getElem?_eq_none (by simpa using hj)]
    have hblock : pushed + 1 = (pushed / c.resampler.inputFrames + 1) * c.resampler.inputFrames := by
      rw [Nat.succ_mul]
      omega
    have hnext : (pushed + 1) / c.resampler.inputFrames = pushed / c.resampler.inputFrames + 1 := by
      rw [hblock]
      exact Nat.mul_div_cancel _ hpos
    have hempty : (pushed + 1) % c.resampler.inputFrames = 0 := by
      rw [hblock]
      exact Nat.mul_mod_left ..
    obtain ⟨state, skip, packet, sent, outputFrames, hprocess, hconsumed'⟩ :=
      process_spec haccepts (c := { c with
          input := c.input.set c.filled (stream pushed)
          filled := c.filled + 1
          inputFrames := c.inputFrames + 1 })
        hdoc hstream (hconsumed.withInput ..) (fun _ h => nomatch h) hinput
    refine ⟨_, hprocess, rfl, rfl, rfl, ?_, hempty.symm, congrArg (· + 1) hcount, ?_, ?_⟩
    · rw [hnext]
      exact hconsumed'
    · simpa using hbuffer
    · rw [hempty]
      exact nofun
  · rename_i hpartial
    have hroom : pushed % c.resampler.inputFrames + 1 < c.resampler.inputFrames := by omega
    have hblock : pushed + 1 = pushed / c.resampler.inputFrames * c.resampler.inputFrames +
        (pushed % c.resampler.inputFrames + 1) := by omega
    have hsame : (pushed + 1) / c.resampler.inputFrames = pushed / c.resampler.inputFrames := by
      rw [hblock, Nat.mul_comm, Nat.mul_add_div hpos, Nat.div_eq_of_lt hroom, Nat.add_zero]
    have hnext : (pushed + 1) % c.resampler.inputFrames = pushed % c.resampler.inputFrames + 1 := by
      rw [hblock, Nat.mul_comm, Nat.mul_add_mod, Nat.mod_eq_of_lt hroom]
    refine ⟨_, rfl, rfl, rfl, rfl, ?_, ?_, congrArg (· + 1) hcount, ?_, ?_⟩
    · rw [hsame]
      exact hconsumed.withInput ..
    · rw [hnext, hfilled]
    · simpa using hbuffer
    · rw [hnext, hsame]
      exact hset

theorem foldlM_pushFrame_spec {c : PcmConverter S R} {pushed : Nat}
    (h : c.Pushed quantize resampler format rate stream pushed) (frames : List (List S))
    (hframes : ∀ i, (hi : i < frames.length) → stream (pushed + i) = frames[i]) :
    ∃ c', frames.foldlM (pushFrame quantize accepts) c = .ok c' ∧
      c'.Pushed quantize resampler format rate stream (pushed + frames.length) := by
  induction frames generalizing c pushed with
  | nil => exact ⟨c, rfl, h⟩
  | cons frame frames ih =>
    obtain ⟨c', hpush, h'⟩ := pushFrame_spec haccepts hdoc hstream h
    have hframe : stream pushed = frame := hframes 0 (by simp)
    obtain ⟨c'', hrest, h''⟩ := ih h' fun i hi => by
      have hnext := hframes (i + 1) (by simpa using hi)
      rwa [show pushed + (i + 1) = pushed + 1 + i by omega] at hnext
    refine ⟨c'', ?_, ?_⟩
    · rw [List.foldlM_cons, ← hframe, hpush]
      exact hrest
    · rw [List.length_cons, show pushed + (frames.length + 1) = pushed + 1 + frames.length by omega]
      exact h''

/-- Several calls of `push` consume their frames one after the other. -/
theorem foldlM_push_spec (hchannels : 0 < format.channels) {c : PcmConverter S R} {pushed : Nat}
    (h : c.Pushed quantize resampler format rate stream pushed) (pushes : List (List (List S)))
    (hframes : ∀ i, (hi : i < pushes.flatten.length) → stream (pushed + i) = pushes.flatten[i]) :
    ∃ c', (pushes.map List.flatten).foldlM (push quantize accepts) c = .ok c' ∧
      c'.Pushed quantize resampler format rate stream (pushed + pushes.flatten.length) := by
  induction pushes generalizing c pushed with
  | nil => exact ⟨c, rfl, h⟩
  | cons frames pushes ih =>
    have hfirst : ∀ i, (hi : i < frames.length) → stream (pushed + i) = frames[i] := by
      intro i hi
      rw [hframes i (by simp; omega)]
      simp [List.getElem_append_left, hi]
    obtain ⟨c', hpush, h'⟩ := foldlM_pushFrame_spec haccepts hdoc hstream h frames hfirst
    obtain ⟨c'', hrest, h''⟩ := ih h' fun i hi => by
      have hnext := hframes (frames.length + i) (by simpa using hi)
      rw [show pushed + (frames.length + i) = pushed + frames.length + i by omega] at hnext
      rw [hnext]
      simp [List.getElem_append_right]
    have hchunks : chunksExact c.format.channels frames.flatten = frames := by
      rw [h.sameFormat]
      refine chunksExact_flatten hchannels fun frame hframe => ?_
      obtain ⟨i, hi, rfl⟩ := List.mem_iff_getElem.mp hframe
      rw [← hfirst i hi]
      exact hstream _
    refine ⟨c'', ?_, ?_⟩
    · rw [List.map_cons, List.foldlM_cons, push, hchunks, hpush]
      exact hrest
    · rw [List.flatten_cons, List.length_append, ← Nat.add_assoc]
      exact h''

end Pushing

/-! ## Finishing -/

theorem finishLoop_spec {rate perBlock target : Nat} {stream : Nat → List S}
    {c : PcmConverter S R} {n : Nat} (hdoc : c.resampler.Documented rate c.format perBlock)
    (hstream : ∀ i, (stream i).length = c.format.channels)
    (hsilent : ∀ i, (n + 1) * c.resampler.inputFrames ≤ i → stream i = c.silentFrame silence)
    (h : Consumed quantize stream (some target) c n)
    (hinput : c.input = (List.range c.resampler.inputFrames).map fun j =>
      stream (n * c.resampler.inputFrames + j))
    {fuel : Nat} (hfuel : c.resampler.outputDelay + target ≤ n + fuel) :
    ∃ c' n', finishLoop silence quantize accepts target (fuel + 1) c = some (.ok c') ∧
      c'.format = c.format ∧
      target ≤ ((c.resampler.resampled stream n').drop c.resampler.outputDelay).length ∧
      c'.Holds quantize
        (((c.resampler.resampled stream n').drop c.resampler.outputDelay).take target) := by
  have hcount : c.outputFrames =
      min target ((c.resampler.resampled stream n).drop c.resampler.outputDelay).length := by
    rw [h.holds.count, upTo, Nat.sub_zero, List.length_take]
  induction fuel generalizing c n with
  | zero =>
    -- so many blocks have been converted that the target is reached
    have hlength := Resampler.length_resampled hdoc hstream n
    have hmany : n ≤ n * perBlock := Nat.le_mul_of_pos_right n hdoc.outputFrames_pos
    have hreached : target ≤
        ((c.resampler.resampled stream n).drop c.resampler.outputDelay).length := by
      rw [List.length_drop, hlength]
      omega
    refine ⟨c, n, ?_, rfl, hreached, h.holds⟩
    rw [finishLoop, if_neg (by omega)]
  | succ fuel ih =>
    rw [finishLoop]
    by_cases hmore : c.outputFrames < target
    · obtain ⟨state, skip, packet, sent, outputFrames, hprocess, hconsumed⟩ :=
        process_spec haccepts hdoc hstream h (fun bound hbound => by
          obtain rfl := Option.mem_some_iff.mp hbound
          exact hmore) hinput
      -- the next block is silence alone
      have hblock : List.replicate c.input.length (c.silentFrame silence) =
          (List.range c.resampler.inputFrames).map fun j =>
            stream ((n + 1) * c.resampler.inputFrames + j) := by
        have hlength : c.input.length = c.resampler.inputFrames := by simp [hinput]
        rw [eq_comm, List.eq_replicate_iff, hlength]
        refine ⟨by simp, fun frame hframe => ?_⟩
        obtain ⟨j, -, rfl⟩ := List.mem_map.mp hframe
        exact hsilent _ (Nat.le_add_right ..)
      obtain ⟨c', n', hloop, hformat, hreached, hholds⟩ := ih
        (c := { c with
          state, filled := 0, skip, packet, sent, outputFrames
          input := List.replicate c.input.length (c.silentFrame silence) })
        (n := n + 1) hdoc hstream
        (fun i hi => hsilent i ((Nat.mul_le_mul_right _ (by omega)).trans hi))
        (hconsumed.withInput ..) hblock (by simp only; omega) (by
          have hnext := hconsumed.holds.count
          rwa [upTo, Nat.sub_zero, List.length_take] at hnext)
      refine ⟨c', n', ?_, hformat, hreached, hholds⟩
      rw [if_pos hmore, hprocess]
      exact hloop
    · refine ⟨c, n, ?_, rfl, by omega, h.holds⟩
      rw [if_neg hmore]

/-- The last packet is padded and sent. -/
theorem closePacket_spec {c : PcmConverter S R} {emitted : List (List S)}
    (h : c.Holds quantize emitted) :
    ∃ c' padding, closePacket accepts c = .ok c' ∧ padding < c.format.packetBytes ∧
      c'.sent.flatten = emitted.flatMap (frameBytes quantize) ++ List.replicate padding 0 ∧
      ∀ packet ∈ c'.sent, packet.length = c.format.packetBytes := by
  obtain ⟨padding, hpadding, hflatten, hsized⟩ := h.filled.close 0
  rw [closePacket]
  split
  · rename_i hpacket
    rw [if_pos hpacket] at hflatten hsized
    exact ⟨c, padding, rfl, hpadding, hflatten, hsized⟩
  · rename_i hpacket
    rw [if_neg hpacket] at hflatten hsized
    rw [List.take_of_length_le h.filled.room.le, sendPacket, if_pos (haccepts ..)]
    exact ⟨_, padding, rfl, hpadding, hflatten, hsized⟩

/-! ## Recordings -/

section Recording

variable {resampler : Resampler S R} {format : AudioFormat} {rate perBlock : Nat}
variable (hdoc : resampler.Documented rate format perBlock)

include hdoc

omit haccepts hdoc in
theorem length_streamOf {frames : List (List S)}
    (hframes : ∀ frame ∈ frames, frame.length = format.channels) (i : Nat) :
    (streamOf silence format frames i).length = format.channels := by
  rw [streamOf, List.getD_eq_getElem?_getD]
  cases h : frames[i]? with
  | none => simp
  | some frame => exact hframes frame (List.mem_of_getElem? h)

/-- After the last frame pushed the target is flushed, and nothing more. -/
theorem finish_spec (hrate : 0 < rate) {frames : List (List S)}
    (hframes : ∀ frame ∈ frames, frame.length = format.channels) {c : PcmConverter S R}
    (h : c.Pushed quantize resampler format rate (streamOf silence format frames) frames.length)
    {fuel : Nat}
    (hfuel : resampler.outputDelay + frames.length * format.sampleRate / rate < fuel) :
    ∃ c' n padding, finish silence quantize accepts fuel c = some (.ok c') ∧
      padding < format.packetBytes ∧
      (∀ packet ∈ c'.sent, packet.length = format.packetBytes) ∧
      frames.length * format.sampleRate / rate ≤ ((resampler.resampled
        (streamOf silence format frames) n).drop resampler.outputDelay).length ∧
      c'.sent.flatten = (((resampler.resampled (streamOf silence format frames) n).drop
        resampler.outputDelay).take (frames.length * format.sampleRate / rate)).flatMap
          (frameBytes quantize) ++ List.replicate padding 0 := by
  obtain ⟨rfl, rfl, rfl, hconsumed, hfilled, hcount, hbuffer, hcontent⟩ := h
  have hpos := hdoc.inputFrames_pos
  have hdiv := Nat.div_add_mod' frames.length c.resampler.inputFrames
  have hstream : ∀ i, (streamOf silence c.format frames i).length = c.format.channels :=
    length_streamOf hframes
  have hsilent (i : Nat) (hi : frames.length ≤ i) :
      streamOf silence c.format frames i = c.silentFrame silence := by
    rw [streamOf, List.getD_eq_getElem?_getD, List.getElem?_eq_none hi, silentFrame,
      Option.getD_none]
  -- the block that is being filled is completed by silence
  have hblock : c.input.take c.filled ++
      List.replicate (c.input.length - c.filled) (c.silentFrame silence) =
        (List.range c.resampler.inputFrames).map fun j => streamOf silence c.format frames
          (frames.length / c.resampler.inputFrames * c.resampler.inputFrames + j) := by
    have hlt := Nat.mod_lt frames.length hpos
    refine List.ext_getElem? fun j => ?_
    rw [List.getElem?_append, List.getElem?_take, List.length_take, List.getElem?_replicate,
      List.getElem?_map]
    by_cases hj : j < c.resampler.inputFrames
    · rw [List.getElem?_range hj, Option.map_some]
      by_cases hfirst : j < frames.length % c.resampler.inputFrames
      · rw [if_pos (by omega), if_pos (by omega)]
        exact hcontent j hfirst
      · rw [if_neg (by omega), if_pos (by omega), hsilent _ (by omega)]
    · rw [if_neg (by omega), if_neg (by omega), List.getElem?_eq_none (by simpa using hj)]
      rfl
  -- the full blocks give no more than the target
  have hratio : ((c.resampler.resampled (streamOf silence c.format frames)
      (frames.length / c.resampler.inputFrames)).drop c.resampler.outputDelay).length ≤
        frames.length * c.format.sampleRate / c.inputRate := by
    rw [List.length_drop, Resampler.length_resampled hdoc hstream]
    refine (Nat.sub_le _ _).trans ((Nat.le_div_iff_mul_le hrate).mpr ?_)
    calc frames.length / c.resampler.inputFrames * perBlock * c.inputRate
        = frames.length / c.resampler.inputFrames * c.resampler.inputFrames * c.format.sampleRate := by
          rw [Nat.mul_assoc, hdoc.ratio, Nat.mul_assoc]
      _ ≤ frames.length * c.format.sampleRate := Nat.mul_le_mul_right _ (by omega)
  have hlimited : Consumed quantize (streamOf silence c.format frames)
      (some (frames.length * c.format.sampleRate / c.inputRate)) c
      (frames.length / c.resampler.inputFrames) := by
    refine ⟨hconsumed.state, hconsumed.skip, ?_⟩
    rw [upTo, Nat.sub_zero, List.take_of_length_le hratio]
    exact hconsumed.holds
  obtain ⟨fuel, rfl⟩ : ∃ fuel', fuel = fuel' + 1 := Nat.exists_eq_succ_of_ne_zero (by omega)
  have hbound : c.resampler.outputDelay + frames.length * c.format.sampleRate / c.inputRate ≤
      frames.length / c.resampler.inputFrames + fuel :=
    (Nat.le_of_lt_succ hfuel).trans (Nat.le_add_left ..)
  obtain ⟨c', n, hloop, hformat, hreached, hholds⟩ := finishLoop_spec haccepts
    (c := { c with input := c.input.take c.filled ++
      List.replicate (c.input.length - c.filled) (c.silentFrame silence) })
    (n := frames.length / c.resampler.inputFrames) hdoc hstream
    (fun i hi => hsilent i (by
      have hnext := Nat.lt_mul_div_succ frames.length hpos
      rw [Nat.mul_comm] at hnext
      exact hnext.le.trans hi))
    (hlimited.withInput ..) hblock hbound
  obtain ⟨c'', padding, hclose, hpadding, hflatten, hsized⟩ := closePacket_spec haccepts hholds
  rw [hformat] at hpadding hsized
  refine ⟨c'', n, padding, ?_, hpadding, hsized, hreached, hflatten⟩
  have htarget : c.inputFrames * c.format.sampleRate / c.inputRate =
      frames.length * c.format.sampleRate / c.inputRate := by rw [hcount]
  unfold finish
  dsimp only
  rw [htarget, hloop]
  simp only [Option.map_some, Except.bind, hclose]

end Recording

end PcmConverter

/-- However the frames of a recording are cut into pushes, the packets are the same: full packets
with the resampled frames after the delay, up to the target, and padding in the last one. -/
theorem record_packets {S R : Type} (silence : S) (quantize : S → BitVec 16)
    (accepts : List (List UInt8) → List UInt8 → Bool)
    (fft : Nat → Nat → Nat → Nat → Except String (Resampler S R)) (rate : Nat)
    (format : AudioFormat) (resampler : Resampler S R) (perBlock : Nat)
    (hformat : format.validate = .ok ()) (hrate : 0 < rate)
    (hfft : fft rate format.sampleRate 960 format.channels = .ok resampler)
    (hdoc : resampler.Documented rate format perBlock)
    (haccepts : ∀ sent packet, accepts sent packet = true) (frames : List (List S))
    (hframes : ∀ frame ∈ frames, frame.length = format.channels) :
    let target := frames.length * format.sampleRate / rate
    let converted := fun blocks => ((resampler.resampled (streamOf silence format frames)
      blocks).drop resampler.outputDelay).take target
    ∃ packets padding,
      (∀ pushes : List (List (List S)), pushes.flatten = frames →
        ∀ fuel, resampler.outputDelay + target < fuel →
          PcmConverter.record silence quantize accepts fft rate format fuel
            (pushes.map List.flatten) = some (.ok packets)) ∧
      (∀ packet ∈ packets, packet.length = format.packetBytes) ∧ padding < format.packetBytes ∧
      ∀ blocks, resampler.outputDelay + target ≤ blocks → (converted blocks).length = target ∧
        packets.flatten = (converted blocks).flatMap (PcmConverter.frameBytes quantize) ++
          List.replicate padding 0 := by
  intro target converted
  obtain ⟨hsampleRate, hchannels⟩ := AudioFormat.validate_spec hformat
  have hstream : ∀ i, (streamOf silence format frames i).length = format.channels :=
    PcmConverter.length_streamOf hframes
  have hpackets : 0 < format.packetBytes := by
    have hframesPerPacket : 0 < format.sampleRate / 50 := Nat.div_pos hsampleRate (by omega)
    rw [AudioFormat.packetBytes]
    positivity
  have henough (blocks : Nat) (hblocks : resampler.outputDelay + target ≤ blocks) :
      target ≤ ((resampler.resampled (streamOf silence format frames) blocks).drop
        resampler.outputDelay).length := by
    have hmany : blocks ≤ blocks * perBlock := Nat.le_mul_of_pos_right _ hdoc.outputFrames_pos
    rw [List.length_drop, Resampler.length_resampled hdoc hstream]
    omega
  -- one recording, from the first push to the end of `finish`
  have hrun (pushes : List (List (List S))) (hpushes : pushes.flatten = frames) (fuel : Nat)
      (hfuel : resampler.outputDelay + target < fuel) : ∃ packets padding,
        PcmConverter.record silence quantize accepts fft rate format fuel
          (pushes.map List.flatten) = some (.ok packets) ∧
        (∀ packet ∈ packets, packet.length = format.packetBytes) ∧ padding < format.packetBytes ∧
        ∀ blocks, resampler.outputDelay + target ≤ blocks →
          packets.flatten = (converted blocks).flatMap (PcmConverter.frameBytes quantize) ++
            List.replicate padding 0 := by
    obtain ⟨c, hnew, hstart⟩ : ∃ c, PcmConverter.new silence fft rate format = .ok c ∧
        c.Pushed quantize resampler format rate (streamOf silence format frames) 0 := by
      refine ⟨_, by rw [PcmConverter.new, hfft]; rfl, rfl, rfl, rfl, ?_, by simp, rfl, by simp,
        by simp⟩
      have hnone : PcmConverter.upTo none 0 ((resampler.resampled
          (streamOf silence format frames) 0).drop resampler.outputDelay) = [] := by
        simp [PcmConverter.upTo, Resampler.resampled, Resampler.blocks, Mealy.outputs]
      rw [Nat.zero_div]
      refine ⟨rfl, rfl, ?_⟩
      simp only [hnone]
      exact ⟨rfl, Filled.nil hpackets⟩
    obtain ⟨c', hpush, hpushed⟩ := PcmConverter.foldlM_push_spec haccepts hdoc hstream hchannels
      hstart pushes fun i hi => by
        subst hpushes
        rw [Nat.zero_add, streamOf, List.getD_eq_getElem?_getD, List.getElem?_eq_getElem hi,
          Option.getD_some]
    rw [hpushes, Nat.zero_add] at hpushed
    obtain ⟨c'', n, padding, hfinish, hpadding, hsized, hreached, hflatten⟩ :=
      PcmConverter.finish_spec haccepts hdoc hrate hframes hpushed hfuel
    refine ⟨c''.sent, padding, ?_, hsized, hpadding, fun blocks hblocks => ?_⟩
    · rw [PcmConverter.record, hnew]
      simp only [Except.bind, hpush, hfinish, Option.map_some, Except.map]
    · rw [hflatten, Resampler.take_resampled_eq hdoc hstream hreached (henough blocks hblocks)]
  obtain ⟨packets, padding, -, hsized, hpadding, hflatten⟩ :=
    hrun [frames] (by simp) (resampler.outputDelay + target + 1) (by omega)
  refine ⟨packets, padding, fun pushes hpushes fuel hfuel => ?_, hsized, hpadding,
    fun blocks hblocks => ⟨?_, hflatten blocks hblocks⟩⟩
  · -- the packets are determined by the frames they hold
    obtain ⟨packets', padding', hrecord, hsized', hpadding', hflatten'⟩ :=
      hrun pushes hpushes fuel hfuel
    rw [hrecord, packets_unique hsized' hsized hpadding' hpadding (hflatten' _ le_rfl)
      (hflatten _ le_rfl)]
  · rw [List.length_take]
    exact min_eq_left (henough blocks hblocks)

/-- A resampler for equal rates: one channel through a delay line. -/
def delayLine : Resampler (BitVec 16) (List (BitVec 16)) where
  inputFrames := 960
  outputDelay := 480
  start := List.replicate 480 0
  processIntoBuffer state block :=
    let samples := state ++ block.map (·.headD 0)
    .ok (samples.drop 960, (samples.take 960).map ([·]))

theorem delayLine_documented : delayLine.Documented 8000 ⟨8000, 1⟩ 960 := by
  refine ⟨by decide, by decide, rfl, fun state block hblock _ => ⟨_, _, rfl, ?_, ?_⟩⟩
  · have hlength : block.length = 960 := hblock
    simp [hlength]
  · intro frame hframe
    obtain ⟨sample, -, rfl⟩ := List.mem_map.mp hframe
    rfl

theorem threeFrames_packets :
    ∃ packets, (∀ pushes : List (List (List (BitVec 16))), pushes.flatten = [[1], [2], [3]] →
        PcmConverter.record 0 id (fun _ _ => true) (fun _ _ _ _ => .ok delayLine) 8000 ⟨8000, 1⟩ 500
          (pushes.map List.flatten) = some (.ok packets)) ∧
      ∀ packet ∈ packets, packet.length = 320 := by
  obtain ⟨packets, _, hrecord, hsized, -⟩ := record_packets 0 id (fun _ _ => true)
    (fun _ _ _ _ => .ok delayLine) 8000 ⟨8000, 1⟩ delayLine 960 (by decide) (by decide) rfl
    delayLine_documented (fun _ _ => rfl) [[1], [2], [3]] (by simp)
  exact ⟨packets, fun pushes hpushes => hrecord pushes hpushes 500 (by decide), hsized⟩

end AxSsh.Audio
