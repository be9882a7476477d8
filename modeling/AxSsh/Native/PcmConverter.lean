import AxSsh.Native.Workspace

/-!
# Microphone packets

`PcmConverter` of `audio.rs`, which resamples the blocks of the microphone and sends them as packets
of PCM, and the formats it is opened for.

A frame is the list of the samples of its channels, and a buffer is the list of its frames.  The
resampler is a library, `quantize` rounds a sample to 16 bits, and `accepts` is whether the channel
takes a packet after those it has.  Counts are natural numbers.
-/

namespace AxSsh.Audio

structure AudioFormat where
  sampleRate : Nat
  channels : Nat
deriving DecidableEq, Repr

namespace AudioFormat

def validate (format : AudioFormat) : Except String Unit := do
  bailIf (!decide (format.sampleRate ∈ [8000, 16000, 22050, 24000, 32000, 44100, 48000, 96000,
    192000])) "unsupported audio sample rate"
  bailIf (!decide (format.channels ∈ [1, 2, 4, 6, 8])) "unsupported audio channel count"

def packetBytes (format : AudioFormat) : Nat := format.sampleRate / 50 * format.channels * 2

end AudioFormat

/-- The resampler library, with a state of type `R`. -/
structure Resampler (S R : Type) where
  inputFrames : Nat
  outputDelay : Nat
  start : R
  /-- `process_into_buffer`: the frames it produced for a block. -/
  processIntoBuffer : R → List (List S) → Except String (R × List (List S))

structure PcmConverter (S R : Type) where
  resampler : Resampler S R
  state : R
  input : List (List S)
  filled : Nat
  packet : List UInt8
  format : AudioFormat
  inputRate : Nat
  inputFrames : Nat
  outputFrames : Nat
  skip : Nat
  /-- What the channel `pcm` has taken. -/
  sent : List (List UInt8)

/-- `chunks_exact`. -/
def chunksExact {S : Type} (size : Nat) (samples : List S) : List (List S) :=
  (List.range (samples.length / size)).map fun i => (samples.drop (i * size)).take size

def leBytes (value : BitVec 16) : List UInt8 :=
  [UInt8.ofNat (value.toNat % 256), UInt8.ofNat (value.toNat / 256)]

namespace PcmConverter

variable {S R : Type} (silence : S) (quantize : S → BitVec 16)
variable (accepts : List (List UInt8) → List UInt8 → Bool)

/-- `Fft::new` of the library may fail. -/
def new (fft : Nat → Nat → Nat → Nat → Except String (Resampler S R)) (rate : Nat)
    (format : AudioFormat) : Except String (PcmConverter S R) := do
  let resampler ← fft rate format.sampleRate 960 format.channels
  return {
    resampler
    state := resampler.start
    input := List.replicate resampler.inputFrames (List.replicate format.channels silence)
    filled := 0
    packet := []
    format
    inputRate := rate
    inputFrames := 0
    outputFrames := 0
    skip := resampler.outputDelay
    sent := [] }

def sendPacket (c : PcmConverter S R) : Except String (PcmConverter S R) :=
  if accepts c.sent c.packet then .ok { c with packet := [], sent := c.sent ++ [c.packet] }
  else .error "audio receiver is too slow or stopped"

def frameBytes (frame : List S) : List UInt8 := frame.flatMap fun sample => leBytes (quantize sample)

/-- The loop of `process` over the frames that were produced. -/
def emitFrames (limit : Option Nat) (c : PcmConverter S R) :
    List (List S) → Except String (PcmConverter S R)
  | [] => .ok c
  | frame :: frames =>
    if 0 < c.skip then emitFrames limit { c with skip := c.skip - 1 } frames
    else if limit.any (· ≤ c.outputFrames) then .ok c
    else do
      let c := {
        c with
        packet := c.packet ++ frameBytes quantize frame
        outputFrames := c.outputFrames + 1 }
      let c ← if c.packet.length = c.format.packetBytes then sendPacket accepts c else .ok c
      emitFrames limit c frames

def process (limit : Option Nat) (c : PcmConverter S R) : Except String (PcmConverter S R) := do
  let (state, produced) ← c.resampler.processIntoBuffer c.state c.input
  emitFrames quantize accepts limit { c with state, filled := 0 } produced

/-- The body of the loop of `push`. -/
def pushFrame (c : PcmConverter S R) (frame : List S) : Except String (PcmConverter S R) :=
  let c := {
    c with
    input := c.input.set c.filled frame
    filled := c.filled + 1
    inputFrames := c.inputFrames + 1 }
  if c.filled = c.resampler.inputFrames then process quantize accepts none c else .ok c

def push (c : PcmConverter S R) (samples : List S) : Except String (PcmConverter S R) :=
  (chunksExact c.format.channels samples).foldlM (pushFrame quantize accepts) c

def silentFrame (c : PcmConverter S R) : List S := List.replicate c.format.channels silence

/-- The loop of `finish`; there is no result when the fuel runs out. -/
def finishLoop (target : Nat) : Nat → PcmConverter S R → Option (Except String (PcmConverter S R))
  | 0, _ => none
  | fuel + 1, c =>
    if c.outputFrames < target then
      match process quantize accepts (some target) c with
      | .error e => some (.error e)
      | .ok c =>
        finishLoop target fuel
          { c with input := List.replicate c.input.length (c.silentFrame silence) }
    else some (.ok c)

/-- `resize` to a packet, and sending it unless there is nothing in it. -/
def closePacket (c : PcmConverter S R) : Except String (PcmConverter S R) :=
  if c.packet = [] then .ok c
  else
    sendPacket accepts { c with
      packet := c.packet.take c.format.packetBytes
        ++ List.replicate (c.format.packetBytes - c.packet.length) 0 }

def finish (fuel : Nat) (c : PcmConverter S R) : Option (Except String (PcmConverter S R)) :=
  let target := c.inputFrames * c.format.sampleRate / c.inputRate
  let c := { c with input := c.input.take c.filled
    ++ List.replicate (c.input.length - c.filled) (c.silentFrame silence) }
  (finishLoop silence quantize accepts target fuel c).map fun result =>
    result.bind (closePacket accepts)

/-- The packets of a recording that arrives in several calls of `push`. -/
def record (fft : Nat → Nat → Nat → Nat → Except String (Resampler S R)) (rate : Nat)
    (format : AudioFormat) (fuel : Nat) (pushes : List (List S)) :
    Option (Except String (List (List UInt8))) :=
  match (new silence fft rate format).bind fun c => pushes.foldlM (push quantize accepts) c with
  | .error e => some (.error e)
  | .ok c => (finish silence quantize accepts fuel c).map fun result => result.map (·.sent)

end PcmConverter

end AxSsh.Audio
