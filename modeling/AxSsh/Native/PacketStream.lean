import Mathlib.Algebra.Ring.Nat
import AxSsh.Native.SftpTypes

/-!
# Packet-limited stream

`PacketLimitedStream` of `sftp.rs`: a reader that passes on whole SFTP packets only.  It
collects a packet in its own buffer, checks the length in its header, and copies the packet
to the caller once it is complete.

The inner stream is the list of answers its polls still have to give.  A poll that asks for
fewer bytes than an answer holds gets a part of it and the rest stays first in the list, so
the list stands for every way of cutting the bytes into reads.
-/

namespace AxSsh

def maxPacketBytes : Nat := 256 * 1024

/-- One answer of the inner stream; `data []` is its end. -/
inductive InnerRead where
  | pending
  | failed
  | data (bytes : List UInt8)
deriving DecidableEq, Repr

/-- Poll the inner stream for at most `room` bytes. -/
def pollInner (room : Nat) : List InnerRead → InnerRead × List InnerRead
  | [] => (.pending, [])
  | .data bytes :: reads =>
    if bytes.length ≤ room then (.data bytes, reads)
    else (.data (bytes.take room), .data (bytes.drop room) :: reads)
  | read :: reads => (read, reads)

/-- `u32::from_be_bytes`. -/
def fromBeBytes (bytes : List UInt8) : Nat := bytes.foldl (fun n byte => n * 256 + byte.toNat) 0

inductive PacketError where
  | inner
  | unexpectedEof (message : String)
  | invalidData (message : String)
deriving DecidableEq, Repr

inductive PacketPoll where
  | pending
  | ready
  | failed (error : PacketError)
deriving DecidableEq, Repr

structure PacketLimitedStream where
  packet : List UInt8 := List.replicate 4 0
  packetFilled : Nat := 0
  packetEmitted : Nat := 0
  packetTarget : Option Nat := none
  failed : Bool := false
deriving DecidableEq, Repr

/-- What a poll leaves behind: its answer, the bytes it put into the caller's buffer, and
    what is left of the two streams. -/
structure PacketRead where
  poll : PacketPoll
  output : List UInt8
  stream : PacketLimitedStream
  reads : List InnerRead
deriving DecidableEq, Repr

namespace PacketLimitedStream

/-- `Vec::resize(target, 0)`. -/
def resizePacket (packet : List UInt8) (target : Nat) : List UInt8 :=
  packet.take target ++ List.replicate (target - packet.length) 0

/-- Store bytes the inner stream put after the filled part of the packet. -/
def fill (s : PacketLimitedStream) (bytes : List UInt8) : PacketLimitedStream :=
  { s with
    packet := s.packet.take s.packetFilled ++ bytes ++
      s.packet.drop (s.packetFilled + bytes.length)
    packetFilled := s.packetFilled + bytes.length }

/-- The length in the header of a packet, when it is allowed. -/
def packetLen (packet : List UInt8) : Except PacketError Nat :=
  let packetLen := fromBeBytes (packet.take 4)
  if packetLen = 0 then .error (.invalidData "SFTP packet payload cannot be empty")
  else if maxPacketBytes < packetLen then
    .error (.invalidData
      s!"SFTP packet length {packetLen} exceeds the {maxPacketBytes}-byte limit")
  else .ok packetLen

/-- The stream after its header announced `packetLen` bytes. -/
def expect (s : PacketLimitedStream) (packetLen : Nat) : PacketLimitedStream :=
  { s with
    packet := resizePacket s.packet (4 + packetLen), packetTarget := some (4 + packetLen) }

/-- The stream after its packet was copied out up to `finish`. -/
def emitTo (s : PacketLimitedStream) (target finish : Nat) : PacketLimitedStream :=
  if finish = target then
    { s with
      packet := resizePacket s.packet 4, packetFilled := 0, packetEmitted := 0,
      packetTarget := none }
  else { s with packetEmitted := finish }

/-- How the first half of a round of `poll_read` ends: with the answer of the poll, with a
    packet or header that still lacks bytes, or with one that is there. -/
inductive Collected where
  | answer (read : PacketRead)
  | again (stream : PacketLimitedStream) (reads : List InnerRead)
  | full (stream : PacketLimitedStream) (reads : List InnerRead)

/-- The first half of a round of `poll_read`: read what the header or the packet lacks.
    `output` is what this poll has put into the caller's buffer. -/
def collect (s : PacketLimitedStream) (reads : List InnerRead) (output : List UInt8) :
    Collected :=
  let target := s.packetTarget.getD 4
  if s.packetFilled < target then
    match pollInner (target - s.packetFilled) reads with
    | (.pending, reads) =>
      .answer ⟨if output.isEmpty then .pending else .ready, output, s, reads⟩
    | (.failed, reads) => .answer ⟨.failed .inner, output, { s with failed := true }, reads⟩
    | (.data [], reads) =>
      if s.packetFilled = 0 ∧ s.packetTarget = none then .answer ⟨.ready, output, s, reads⟩
      else
        .answer ⟨.failed (.unexpectedEof "SFTP stream ended inside a packet"), output,
          { s with failed := true }, reads⟩
    | (.data bytes, reads) =>
      let s := s.fill bytes
      if s.packetFilled < target then .again s reads else .full s reads
  else .full s reads

/-- The second half of a round: check a header that is there, or copy out what the caller has
    room for of a packet that is there. -/
def advance (s : PacketLimitedStream) (room : Nat) (output : List UInt8) :
    Except PacketError (PacketLimitedStream × Nat × List UInt8) :=
  match s.packetTarget with
  | none =>
    match packetLen s.packet with
    | .error error => .error error
    | .ok packetLen => .ok (s.expect packetLen, room, output)
  | some target =>
    let count := min room (target - s.packetEmitted)
    let finish := s.packetEmitted + count
    .ok (s.emitTo target finish, room - count,
      output ++ (s.packet.take finish).drop s.packetEmitted)

/-- The loop of `poll_read`, for at most `fuel` rounds; `room` is what remains of the
    caller's buffer. -/
def pollLoop (s : PacketLimitedStream) (reads : List InnerRead) (room : Nat)
    (output : List UInt8) : Nat → Option PacketRead
  | 0 => none
  | fuel + 1 =>
    if room = 0 then some ⟨.ready, output, s, reads⟩
    else
      match s.collect reads output with
      | .answer read => some read
      | .again s reads => s.pollLoop reads room output fuel
      | .full s reads =>
        match s.advance room output with
        | .error error => some ⟨.failed error, output, { s with failed := true }, reads⟩
        | .ok (s, room, output) => s.pollLoop reads room output fuel

/-- The bytes the inner stream still has to give. -/
def bytesLeft (reads : List InnerRead) : Nat :=
  (reads.map fun | .data bytes => bytes.length | _ => 0).sum

/-- `poll_read` into a buffer with room for `room` bytes.  A round reads a byte, copies one
    out or checks a header, so the rounds are bounded. -/
def pollRead (s : PacketLimitedStream) (reads : List InnerRead) (room : Nat) :
    Option PacketRead :=
  if s.failed then some ⟨.ready, [], s, reads⟩
  else s.pollLoop reads room [] (2 * bytesLeft reads + 2 * room + 2)

/-- Poll with one buffer after the other.  The caller has the bytes of the polls that were
    ready. -/
def readAll (s : PacketLimitedStream) (reads : List InnerRead) :
    List Nat → Option (List UInt8 × PacketLimitedStream × List InnerRead)
  | [] => some ([], s, reads)
  | room :: rooms =>
    match s.pollRead reads room with
    | none => none
    | some read =>
      (read.stream.readAll read.reads rooms).map fun (delivered, rest) =>
        (match read.poll with | .ready => read.output ++ delivered | _ => delivered, rest)

end PacketLimitedStream

end AxSsh
