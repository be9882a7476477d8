import Mathlib.Algebra.Ring.Nat
import Mathlib.Data.List.Basic

/-!
# Telnet framing

`TelnetFrameBuffer` of `telnet.rs`: the bytes of a Telnet connection cut into the frames
that the protocol parser reads, with what has arrived of an unfinished frame kept for the
next call.
-/

namespace AxSsh

/-! ## Command bytes -/

namespace OpCommand

def iac : UInt8 := 255
def dont : UInt8 := 254
def «do» : UInt8 := 253
def wont : UInt8 := 252
def will : UInt8 := 251
def sb : UInt8 := 250
def se : UInt8 := 240

/-- The commands that are followed by an option: `WILL | WONT | DO | DONT`. -/
def negotiates (command : UInt8) : Bool :=
  command == will || command == wont || command == «do» || command == dont

end OpCommand

open OpCommand

def maxProtocolFrameBytes : Nat := 64 * 1024

inductive InboundFrame where
  | parser (bytes : List UInt8)
  | literalData (bytes : List UInt8)
deriving DecidableEq, Repr

structure TelnetFrameBuffer where
  pending : List UInt8 := []
deriving DecidableEq, Repr

/-- The loop of `subnegotiation_frame_length`, with the bytes from `index` on. -/
def scanSubnegotiation (index : Nat) : List UInt8 → Option Nat
  | first :: second :: rest =>
    if first ≠ iac then scanSubnegotiation (index + 1) (second :: rest)
    else if second = iac then scanSubnegotiation (index + 2) rest
    else if second = se then some (index + 2)
    else scanSubnegotiation (index + 2) rest
  | _ => none

def subnegotiationFrameLength (buffer : List UInt8) : Option Nat :=
  scanSubnegotiation 2 (buffer.drop 2)

namespace TelnetFrameBuffer

/-- `split_to(length)` as a frame for the parser. -/
def splitParser (pending : List UInt8) (length : Nat) : InboundFrame × List UInt8 :=
  (.parser (pending.take length), pending.drop length)

/-- One round of the loop in `receive`: a frame and the bytes behind it, or nothing when the
    loop breaks. -/
def nextFrame : List UInt8 → Option (InboundFrame × List UInt8)
  | [] => none
  | first :: rest =>
    let pending := first :: rest
    -- `position(..).unwrap_or(len)` is what `findIdx` returns
    if first ≠ iac then some (splitParser pending (pending.findIdx (· == iac)))
    else match rest with
      | [] => none
      | second :: behind =>
        if second = iac then some (.literalData [iac], behind)
        else if negotiates second then
          if pending.length < 3 then none else some (splitParser pending 3)
        else if second = sb then (subnegotiationFrameLength pending).map (splitParser pending)
        else some (splitParser pending 2)

theorem length_splitParser_lt {pending : List UInt8} {length : Nat} (hne : pending ≠ [])
    (h : 0 < length) : (splitParser pending length).2.length < pending.length := by
  have := List.length_pos_iff.mpr hne
  simp only [splitParser, List.length_drop]
  omega

theorem le_of_scanSubnegotiation {index length : Nat} {bytes : List UInt8}
    (h : scanSubnegotiation index bytes = some length) : index + 2 ≤ length := by
  induction index, bytes using scanSubnegotiation.induct with
  | case1 index first second rest hfirst ih =>
    rw [scanSubnegotiation, if_pos hfirst] at h
    have := ih h
    omega
  | case2 index first rest hfirst ih =>
    rw [scanSubnegotiation, if_neg hfirst, if_pos rfl] at h
    have := ih h
    omega
  | case3 index first rest hfirst hiac =>
    rw [scanSubnegotiation, if_neg hfirst, if_neg hiac, if_pos rfl] at h
    cases h
    omega
  | case4 index first second rest hfirst hiac hse ih =>
    rw [scanSubnegotiation, if_neg hfirst, if_neg hiac, if_neg hse] at h
    have := ih h
    omega
  | case5 bytes index hshort =>
    match bytes with
    | [] => exact nomatch h
    | [_] => exact nomatch h
    | first :: second :: rest => exact absurd rfl (hshort first second rest)

/-- A round of the loop takes at least one byte. -/
theorem length_nextFrame_lt {pending rest : List UInt8} {frame : InboundFrame}
    (h : nextFrame pending = some (frame, rest)) : rest.length < pending.length := by
  cases pending with
  | nil => exact nomatch h
  | cons first bytes =>
    have hne : first :: bytes ≠ [] := List.cons_ne_nil first bytes
    simp only [nextFrame] at h
    split at h
    · rename_i hfirst
      have hpos : 0 < (first :: bytes).findIdx (· == iac) := by
        rw [List.findIdx_cons, beq_eq_false_iff_ne.mpr hfirst]
        exact Nat.succ_pos _
      cases h
      exact length_splitParser_lt hne hpos
    · split at h
      · exact nomatch h
      · split at h
        · cases h
          simp only [List.length_cons]
          omega
        · split at h
          · split at h
            · exact nomatch h
            · cases h
              exact length_splitParser_lt hne (by decide : 0 < 3)
          · split at h
            · obtain ⟨length, hlength, hsplit⟩ := Option.map_eq_some_iff.mp h
              have := le_of_scanSubnegotiation hlength
              cases hsplit
              exact length_splitParser_lt hne (by omega)
            · cases h
              exact length_splitParser_lt hne (by decide : 0 < 2)

/-- The loop of `receive`: the frames at the front of the bytes, and what stays pending. -/
def drain (pending : List UInt8) : List InboundFrame × List UInt8 :=
  match h : nextFrame pending with
  | none => ([], pending)
  | some (frame, rest) =>
    have : rest.length < pending.length := length_nextFrame_lt h
    (frame :: (drain rest).1, (drain rest).2)
termination_by pending.length

/-- A call that fails leaves the buffer as it was. -/
def receive (buffer : TelnetFrameBuffer) (data : List UInt8) :
    Except String (List InboundFrame × TelnetFrameBuffer) :=
  let buffered := buffer.pending.length + data.length
  if 2 ^ 64 ≤ buffered then .error "Telnet protocol frame length overflow"
  else if ¬buffered ≤ maxProtocolFrameBytes then
    .error s!"Telnet protocol frame exceeds {maxProtocolFrameBytes} bytes"
  else
    let (frames, pending) := drain (buffer.pending ++ data)
    .ok (frames, { pending })

/-- The frames of several calls; the worker stops at the first one that fails. -/
def receiveAll (buffer : TelnetFrameBuffer) :
    List (List UInt8) → Except String (List InboundFrame × TelnetFrameBuffer)
  | [] => .ok ([], buffer)
  | data :: chunks => do
    let (frames, buffer) ← buffer.receive data
    let (later, buffer) ← buffer.receiveAll chunks
    pure (frames ++ later, buffer)

end TelnetFrameBuffer

end AxSsh
