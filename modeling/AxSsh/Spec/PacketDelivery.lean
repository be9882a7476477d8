import AxSsh.ForStd.Framing
import AxSsh.Native.PacketStream

/-!
# Delivery of SFTP packets

What the packet-limited stream delivers, against what `Framing.due` says it should.  A poll
either hands out the next bytes that are due, or it fails; a failed poll loses the bytes it
had already put into the caller's buffer.  `Overruns` says when that happens: a defect ends
the burst the poll reads, the burst has bytes, and the buffer is larger than the burst.

## Key results
- `PacketLimitedStream.pollLoop_spec`: one poll, by induction on its rounds
- `PacketLimitedStream.readAll_spec`: a sequence of polls loses nothing unless one overruns
- `PacketLimitedStream.delivers_valid_packets_iff`: the same from a fresh stream
-/

namespace AxSsh

open Framing (Verdict Symbol)

/-- How the SFTP byte stream is cut into packets. -/
def packetFrame (bytes : List UInt8) : Verdict :=
  if bytes.length < 4 then .incomplete
  else
    let packetLen := fromBeBytes (bytes.take 4)
    if packetLen = 0 ∨ maxPacketBytes < packetLen then .invalid
    else if bytes.length < 4 + packetLen then .incomplete
    else .complete

/-- The events of one answer of the inner stream. -/
def InnerRead.symbols : InnerRead → List (Symbol UInt8)
  | .pending => [.pending]
  | .failed => [.error]
  | .data [] => [.eof]
  | .data bytes => bytes.map .byte

def symbols (reads : List InnerRead) : List (Symbol UInt8) := reads.flatMap InnerRead.symbols

/-- The complete valid packets before the first invalid or truncated one. -/
def validBytes (reads : List InnerRead) : List UInt8 :=
  Framing.due packetFrame [] (symbols reads)

/-! ## The inner stream -/

theorem symbols_cons (read : InnerRead) (reads : List InnerRead) :
    symbols (read :: reads) = read.symbols ++ symbols reads := List.flatMap_cons

theorem symbols_data {bytes : List UInt8} (h : bytes ≠ []) :
    (InnerRead.data bytes).symbols = bytes.map .byte := by
  cases bytes with
  | nil => exact absurd rfl h
  | cons b bytes => rfl

/-- Bytes that were read are gone from the stream, and there was room for them. -/
theorem of_pollInner_data {room : Nat} {reads reads' : List InnerRead} {bytes : List UInt8}
    (h : pollInner room reads = (.data bytes, reads')) (hne : bytes ≠ []) :
    bytes.length ≤ room ∧ symbols reads = bytes.map .byte ++ symbols reads' ∧
      PacketLimitedStream.bytesLeft reads =
        bytes.length + PacketLimitedStream.bytesLeft reads' := by
  cases reads with
  | nil => exact nomatch h
  | cons read reads =>
    cases read with
    | pending => exact nomatch h
    | failed => exact nomatch h
    | data all =>
      simp only [pollInner] at h
      split at h
      · rename_i hle
        cases h
        refine ⟨hle, ?_, rfl⟩
        rw [symbols_cons, symbols_data hne]
      -- there was more than room: the rest is read next
      · rename_i hgt
        cases h
        have hall : all ≠ [] := fun he => hgt (by rw [he]; exact Nat.zero_le room)
        have hrest : all.drop room ≠ [] := by
          intro he
          have hlen := congrArg List.length he
          rw [List.length_drop, List.length_nil] at hlen
          omega
        refine ⟨List.length_take_le _ _, ?_, ?_⟩
        · rw [symbols_cons, symbols_cons, symbols_data hall, symbols_data hrest,
            ← List.append_assoc, ← List.map_append, List.take_append_drop]
        · simp only [PacketLimitedStream.bytesLeft, List.map_cons, List.sum_cons,
            List.length_take, List.length_drop]
          omega

theorem of_pollInner_eof {room : Nat} {reads reads' : List InnerRead}
    (h : pollInner room reads = (.data [], reads')) (hroom : 0 < room) :
    symbols reads = .eof :: symbols reads' := by
  cases reads with
  | nil => exact nomatch h
  | cons read reads =>
    cases read with
    | pending => exact nomatch h
    | failed => exact nomatch h
    | data all =>
      simp only [pollInner] at h
      split at h
      · cases h
        rfl
      · rename_i hgt
        obtain ⟨htake, _⟩ := Prod.mk.inj h
        have hlen := congrArg List.length (InnerRead.data.inj htake)
        rw [List.length_take, List.length_nil] at hlen
        omega

theorem of_pollInner_failed {room : Nat} {reads reads' : List InnerRead}
    (h : pollInner room reads = (.failed, reads')) :
    symbols reads = .error :: symbols reads' := by
  cases reads with
  | nil => exact nomatch h
  | cons read reads =>
    cases read with
    | pending => exact nomatch h
    | failed => cases h; rfl
    | data all =>
      simp only [pollInner] at h
      split at h <;> exact nomatch h

theorem of_pollInner_pending {room : Nat} {reads reads' : List InnerRead}
    (h : pollInner room reads = (.pending, reads')) :
    symbols reads = .pending :: symbols reads' ∨ symbols reads = [] ∧ symbols reads' = [] := by
  cases reads with
  | nil => cases h; exact .inr ⟨rfl, rfl⟩
  | cons read reads =>
    cases read with
    | pending => cases h; exact .inl rfl
    | failed => exact nomatch h
    | data all =>
      simp only [pollInner] at h
      split at h <;> exact nomatch h

/-! ## Headers and frames -/

theorem packetFrame_short {bytes : List UInt8} (h : bytes.length < 4) :
    packetFrame bytes = .incomplete := if_pos h

namespace PacketLimitedStream

theorem packetLen_bounds {bytes : List UInt8} {len : Nat} (h : packetLen bytes = .ok len) :
    0 < len ∧ len ≤ maxPacketBytes ∧ fromBeBytes (bytes.take 4) = len := by
  simp only [packetLen] at h
  split at h
  · exact nomatch h
  · split at h
    · exact nomatch h
    · cases h
      omega

theorem packetLen_congr {bytes bytes' : List UInt8} (h : bytes.take 4 = bytes'.take 4) :
    packetLen bytes = packetLen bytes' := by
  simp only [packetLen, h]

/-- Under an accepted header, a packet is complete when all its bytes are there. -/
theorem packetFrame_of_ok {bytes : List UInt8} {len : Nat} (hlong : 4 ≤ bytes.length)
    (h : packetLen bytes = .ok len) :
    packetFrame bytes = if bytes.length < 4 + len then .incomplete else .complete := by
  obtain ⟨hpos, hmax, hlen⟩ := packetLen_bounds h
  simp only [packetFrame, hlen]
  rw [if_neg (by omega), if_neg (by omega)]

/-- A header that is refused makes the packet invalid. -/
theorem packetFrame_of_error {bytes : List UInt8} {error : PacketError}
    (hlong : 4 ≤ bytes.length) (h : packetLen bytes = .error error) :
    packetFrame bytes = .invalid := by
  simp only [packetLen] at h
  simp only [packetFrame]
  rw [if_neg (by omega)]
  split at h
  · rename_i hzero
    rw [if_pos (.inl hzero)]
  · split at h
    · rename_i hmax
      rw [if_pos (.inr hmax)]
    · exact nomatch h

/-! ## States of the stream -/

/-- The bytes of the packet that have arrived. -/
def held (s : PacketLimitedStream) : List UInt8 := s.packet.take s.packetFilled

/-- Between two rounds the buffer holds a part of a header, or a packet under an accepted
    header, which is copied out only when it is whole. -/
structure Wf (s : PacketLimitedStream) : Prop where
  size : s.packet.length = s.packetTarget.getD 4
  header : s.packetTarget = none → s.packetFilled < 4 ∧ s.packetEmitted = 0
  body : ∀ target, s.packetTarget = some target → ∃ len, target = 4 + len ∧
    packetLen s.packet = .ok len ∧ 4 ≤ s.packetFilled ∧ s.packetFilled ≤ target ∧
    s.packetEmitted < target ∧ (s.packetFilled < target → s.packetEmitted = 0)

/-- What a reader should still get: the rest of a whole packet, then what is due. -/
def due (s : PacketLimitedStream) (reads : List InnerRead) : List UInt8 :=
  if s.failed then []
  else if s.packetTarget = some s.packetFilled then
    s.packet.drop s.packetEmitted ++ Framing.due packetFrame [] (symbols reads)
  else Framing.due packetFrame s.held (symbols reads)

/-- What a reader can get before the inner stream next pauses, and whether a defect comes
    next. -/
def burst (s : PacketLimitedStream) (reads : List InnerRead) : List UInt8 × Bool :=
  if s.packetTarget = some s.packetFilled then
    (s.packet.drop s.packetEmitted ++ (Framing.burst packetFrame [] (symbols reads)).1,
      (Framing.burst packetFrame [] (symbols reads)).2)
  else Framing.burst packetFrame s.held (symbols reads)

/-- A round handed out `bytes` and left `s'` and `reads'`. -/
structure Yields (s : PacketLimitedStream) (reads : List InnerRead) (bytes : List UInt8)
    (s' : PacketLimitedStream) (reads' : List InnerRead) : Prop where
  due : s.due reads = bytes ++ s'.due reads'
  burst : s.burst reads = (bytes ++ (s'.burst reads').1, (s'.burst reads').2)

theorem new_wf : Wf {} where
  size := rfl
  header _ := ⟨by decide, rfl⟩
  body _ h := nomatch h

theorem due_of_failed {s : PacketLimitedStream} (h : s.failed = true) (reads : List InnerRead) :
    s.due reads = [] := if_pos h

/-- Before a defect, what comes in one burst is all that is due. -/
theorem due_eq_burst {s : PacketLimitedStream} {reads : List InnerRead} (hf : s.failed = false)
    (h : (s.burst reads).2 = true) : s.due reads = (s.burst reads).1 := by
  simp only [burst] at h ⊢
  simp only [due, hf, Bool.false_eq_true, if_false]
  split
  · rename_i hwhole
    rw [if_pos hwhole] at h
    rw [Framing.due_eq_burst h]
  · rename_i hpart
    rw [if_neg hpart] at h
    exact Framing.due_eq_burst h

theorem Wf.filled_le {s : PacketLimitedStream} (h : s.Wf) : s.packetFilled ≤ s.packet.length := by
  rw [h.size]
  cases htarget : s.packetTarget with
  | none => exact (h.header htarget).1.le
  | some target =>
    obtain ⟨_, _, _, _, hle, _⟩ := h.body target htarget
    exact hle

theorem Wf.length_held {s : PacketLimitedStream} (h : s.Wf) : s.held.length = s.packetFilled := by
  rw [held, List.length_take, Nat.min_eq_left h.filled_le]

/-- The header is among the bytes that have arrived. -/
theorem packetLen_held {s : PacketLimitedStream} (hlong : 4 ≤ s.packetFilled) :
    packetLen s.held = packetLen s.packet := by
  refine packetLen_congr ?_
  rw [held, List.take_take, Nat.min_eq_left hlong]

/-- A packet is held as incomplete as long as bytes lack. -/
theorem Wf.within {s : PacketLimitedStream} (h : s.Wf) {bytes : List UInt8}
    (hle : s.packetFilled + bytes.length ≤ s.packetTarget.getD 4) :
    Framing.Within packetFrame s.held bytes := by
  rintro l r rfl _ hr
  have hrpos : 0 < r.length := List.length_pos_iff.mpr hr
  rw [List.length_append] at hle
  have hlen : (s.held ++ l).length = s.packetFilled + l.length := by
    rw [List.length_append, h.length_held]
  cases htarget : s.packetTarget with
  | none =>
    rw [htarget] at hle
    exact packetFrame_short (by simp only [Option.getD_none] at hle; omega)
  | some target =>
    obtain ⟨len, rfl, hok, hlong, _⟩ := h.body target htarget
    rw [htarget, Option.getD_some] at hle
    have hheader : packetLen (s.held ++ l) = .ok len := by
      rw [← hok, ← packetLen_held hlong]
      refine packetLen_congr ?_
      rw [List.take_append_of_le_length (by rw [h.length_held]; exact hlong)]
    rw [packetFrame_of_ok (by omega) hheader, if_pos (by omega)]

/-! ## Reading into the buffer -/

theorem packet_fill {s : PacketLimitedStream} (h : s.Wf) {bytes : List UInt8}
    (hle : s.packetFilled + bytes.length ≤ s.packetTarget.getD 4) :
    (s.fill bytes).packet.length = s.packet.length ∧ (s.fill bytes).held = s.held ++ bytes := by
  have hsize := h.size
  have hfilled := h.filled_le
  constructor
  · simp only [fill, List.length_append, List.length_take, List.length_drop]
    omega
  · simp only [held, fill]
    rw [List.take_append_of_le_length (by
      rw [List.length_append, List.length_take]
      omega)]
    refine List.take_of_length_le ?_
    rw [List.length_append, List.length_take]
    omega

/-- More bytes under an accepted header keep the state in order. -/
theorem Wf.fill {s : PacketLimitedStream} (h : s.Wf) {bytes : List UInt8}
    (hle : s.packetFilled + bytes.length ≤ s.packetTarget.getD 4)
    (hheader : s.packetTarget = none → s.packetFilled + bytes.length < 4)
    (hlack : s.packetFilled < s.packetTarget.getD 4) : (s.fill bytes).Wf := by
  obtain ⟨hsize, hheld⟩ := packet_fill h hle
  constructor
  · rw [hsize]
    exact h.size
  · exact fun htarget => ⟨hheader htarget, (h.header htarget).2⟩
  · intro target htarget
    have htarget' : s.packetTarget = some target := htarget
    obtain ⟨len, htl, hok, hlong, _, hemitted, hzero⟩ := h.body target htarget'
    rw [htarget', Option.getD_some] at hle hlack
    have hlong' : 4 ≤ (s.fill bytes).packetFilled := Nat.le_add_right_of_le hlong
    refine ⟨len, htl, ?_, hlong', hle, hemitted, fun _ => hzero hlack⟩
    rw [← hok, ← packetLen_held hlong', ← packetLen_held hlong, hheld]
    refine packetLen_congr ?_
    rw [List.take_append_of_le_length (by rw [h.length_held]; exact hlong)]

/-- The ways the first half of a round ends. -/
theorem collect_cases (s : PacketLimitedStream) (reads : List InnerRead) (output : List UInt8) :
    (s.packetTarget.getD 4 ≤ s.packetFilled ∧ s.collect reads output = .full s reads) ∨
    (s.packetFilled < s.packetTarget.getD 4 ∧
      ((∃ reads', (symbols reads = .pending :: symbols reads' ∨
            symbols reads = [] ∧ symbols reads' = []) ∧ s.collect reads output =
          .answer ⟨if output.isEmpty then .pending else .ready, output, s, reads'⟩) ∨
        (∃ error reads', (symbols reads = .error :: symbols reads' ∨
            symbols reads = .eof :: symbols reads' ∧
              ¬(s.packetFilled = 0 ∧ s.packetTarget = none)) ∧ s.collect reads output =
          .answer ⟨.failed error, output, { s with failed := true }, reads'⟩) ∨
        (∃ reads', symbols reads = .eof :: symbols reads' ∧ s.packetFilled = 0 ∧
          s.packetTarget = none ∧
          s.collect reads output = .answer ⟨.ready, output, s, reads'⟩) ∨
        ∃ bytes reads', bytes ≠ [] ∧ s.packetFilled + bytes.length ≤ s.packetTarget.getD 4 ∧
          symbols reads = bytes.map .byte ++ symbols reads' ∧
          bytesLeft reads = bytes.length + bytesLeft reads' ∧ s.collect reads output =
            if s.packetFilled + bytes.length < s.packetTarget.getD 4 then
              .again (s.fill bytes) reads'
            else .full (s.fill bytes) reads')) := by
  by_cases hlack : s.packetFilled < s.packetTarget.getD 4
  · refine .inr ⟨hlack, ?_⟩
    simp only [collect, if_pos hlack]
    -- what one poll of the inner stream can bring
    cases hpoll : pollInner (s.packetTarget.getD 4 - s.packetFilled) reads with
    | mk read reads' =>
      cases read with
      | pending => exact .inl ⟨reads', of_pollInner_pending hpoll, rfl⟩
      | failed => exact .inr (.inl ⟨_, reads', .inl (of_pollInner_failed hpoll), rfl⟩)
      | data bytes =>
        cases bytes with
        | nil =>
          have heof := of_pollInner_eof hpoll (by omega)
          by_cases hclean : s.packetFilled = 0 ∧ s.packetTarget = none
          · exact .inr (.inr (.inl ⟨reads', heof, hclean.1, hclean.2, if_pos hclean⟩))
          · exact .inr (.inl ⟨_, reads', .inr ⟨heof, hclean⟩, if_neg hclean⟩)
        | cons b bytes =>
          obtain ⟨hle, hsymbols, hleft⟩ := of_pollInner_data hpoll (List.cons_ne_nil b bytes)
          exact .inr (.inr (.inr ⟨b :: bytes, reads', List.cons_ne_nil b bytes, by omega,
            hsymbols, hleft, rfl⟩))
  · refine .inl ⟨not_lt.mp hlack, ?_⟩
    simp only [collect, if_neg hlack]

/-! ## Rounds -/

theorem not_whole {s : PacketLimitedStream} (hlack : s.packetFilled < s.packetTarget.getD 4) :
    ¬s.packetTarget = some s.packetFilled := by
  intro he
  rw [he, Option.getD_some] at hlack
  exact lt_irrefl _ hlack

theorem due_part {s : PacketLimitedStream} (hf : s.failed = false)
    (hlack : s.packetFilled < s.packetTarget.getD 4) (reads : List InnerRead) :
    s.due reads = Framing.due packetFrame s.held (symbols reads) := by
  simp only [due, hf, Bool.false_eq_true, if_false, if_neg (not_whole hlack)]

theorem burst_part {s : PacketLimitedStream} (hlack : s.packetFilled < s.packetTarget.getD 4)
    (reads : List InnerRead) :
    s.burst reads = Framing.burst packetFrame s.held (symbols reads) :=
  if_neg (not_whole hlack)

theorem due_whole {s : PacketLimitedStream} (hf : s.failed = false)
    (hwhole : s.packetTarget = some s.packetFilled) (reads : List InnerRead) :
    s.due reads = s.packet.drop s.packetEmitted ++
      Framing.due packetFrame [] (symbols reads) := by
  simp only [due, hf, Bool.false_eq_true, if_false, if_pos hwhole]

theorem burst_whole {s : PacketLimitedStream} (hwhole : s.packetTarget = some s.packetFilled)
    (reads : List InnerRead) :
    s.burst reads = (s.packet.drop s.packetEmitted ++
      (Framing.burst packetFrame [] (symbols reads)).1,
      (Framing.burst packetFrame [] (symbols reads)).2) :=
  if_pos hwhole

/-- A pause takes nothing from what is due. -/
theorem due_pause {s : PacketLimitedStream} {reads reads' : List InnerRead}
    (h : symbols reads = .pending :: symbols reads' ∨ symbols reads = [] ∧ symbols reads' = []) :
    Framing.due packetFrame s.held (symbols reads) =
        Framing.due packetFrame s.held (symbols reads') ∧
      Framing.burst packetFrame s.held (symbols reads) = ([], false) := by
  rcases h with h | ⟨h, h'⟩
  · rw [h]
    exact ⟨rfl, rfl⟩
  · rw [h, h']
    exact ⟨rfl, rfl⟩

/-- Bytes within a header or a packet are held. -/
theorem yields_fill {s : PacketLimitedStream} (h : s.Wf) (hf : s.failed = false)
    {bytes : List UInt8} {reads reads' : List InnerRead} (hne : bytes ≠ [])
    (hlt : s.packetFilled + bytes.length < s.packetTarget.getD 4)
    (hsymbols : symbols reads = bytes.map .byte ++ symbols reads') :
    s.Yields reads [] (s.fill bytes) reads' := by
  have hlack : s.packetFilled < s.packetTarget.getD 4 := by omega
  have hheld := (packet_fill h hlt.le).2
  have hwf := h.fill hlt.le (fun htarget => by rw [htarget] at hlt; exact hlt) hlack
  have hlack' : (s.fill bytes).packetFilled < (s.fill bytes).packetTarget.getD 4 := hlt
  have hframe : packetFrame (s.held ++ bytes) = .incomplete := by
    rw [← hheld]
    -- before the header is whole, and within the payload
    cases htarget : s.packetTarget with
    | none =>
      refine packetFrame_short ?_
      rw [hwf.length_held]
      exact (hwf.header htarget).1
    | some target =>
      obtain ⟨len, rfl, hok, hlong, _⟩ := hwf.body target htarget
      have hlt' : (s.fill bytes).packetFilled < 4 + len := by
        rw [htarget, Option.getD_some] at hlt
        exact hlt
      rw [packetFrame_of_ok (by rw [hwf.length_held]; exact hlong)
        (by rw [packetLen_held hlong]; exact hok), hwf.length_held, if_pos hlt']
  have hf' : (s.fill bytes).failed = false := hf
  constructor
  · rw [due_part hf hlack, due_part hf' hlack', hsymbols,
      Framing.due_chunk hne (h.within hlt.le), hframe, hheld]
    rfl
  · rw [burst_part hlack, burst_part hlack', hsymbols,
      Framing.burst_chunk hne (h.within hlt.le), hframe, hheld]
    rfl

/-- The last bytes of a packet make it whole. -/
theorem yields_fill_whole {s : PacketLimitedStream} (h : s.Wf) (hf : s.failed = false)
    {bytes : List UInt8} {reads reads' : List InnerRead} {target : Nat} (hne : bytes ≠ [])
    (htarget : s.packetTarget = some target) (heq : s.packetFilled + bytes.length = target)
    (hsymbols : symbols reads = bytes.map .byte ++ symbols reads') :
    (s.fill bytes).Wf ∧ (s.fill bytes).packetTarget = some (s.fill bytes).packetFilled ∧
      s.Yields reads [] (s.fill bytes) reads' := by
  have hle : s.packetFilled + bytes.length ≤ s.packetTarget.getD 4 := by
    rw [htarget, Option.getD_some]
    exact heq.le
  have hbytes : 0 < bytes.length := List.length_pos_iff.mpr hne
  have hlack : s.packetFilled < s.packetTarget.getD 4 := by omega
  obtain ⟨hsize, hheld⟩ := packet_fill h hle
  have hwf := h.fill hle (fun hnone => nomatch htarget.symm.trans hnone) hlack
  have hwhole : (s.fill bytes).packetTarget = some (s.fill bytes).packetFilled := by
    rw [← heq] at htarget
    exact htarget
  -- nothing of a packet is emitted before it is whole
  have hemitted : (s.fill bytes).packetEmitted = 0 := by
    obtain ⟨_, _, _, _, _, _, hzero⟩ := h.body target htarget
    exact hzero (by rw [htarget, Option.getD_some] at hlack; exact hlack)
  have hpacket : (s.fill bytes).packet = s.held ++ bytes := by
    rw [← hheld, held, List.take_of_length_le]
    rw [hwf.size, hwhole, Option.getD_some]
  have hframe : packetFrame (s.held ++ bytes) = .complete := by
    obtain ⟨len, rfl, hok, hlong, _⟩ := hwf.body target htarget
    have hlen : (s.held ++ bytes).length = 4 + len := by
      rw [List.length_append, h.length_held]
      exact heq
    rw [← hpacket] at hlen ⊢
    rw [packetFrame_of_ok (by omega) hok, if_neg (by omega)]
  have hf' : (s.fill bytes).failed = false := hf
  refine ⟨hwf, hwhole, ?_, ?_⟩
  · rw [due_part hf hlack, due_whole hf' hwhole, hsymbols,
      Framing.due_chunk hne (h.within hle), hframe, hemitted, hpacket]
    rfl
  · rw [burst_part hlack, burst_whole hwhole, hsymbols,
      Framing.burst_chunk hne (h.within hle), hframe, hemitted, hpacket]
    rfl

/-- The last bytes of a header: it is refused, or the packet under it is awaited. -/
theorem header_full {s : PacketLimitedStream} (h : s.Wf) (hf : s.failed = false)
    {bytes : List UInt8} {reads reads' : List InnerRead} (hne : bytes ≠ [])
    (htarget : s.packetTarget = none) (heq : s.packetFilled + bytes.length = 4)
    (hsymbols : symbols reads = bytes.map .byte ++ symbols reads') (room : Nat)
    (output : List UInt8) :
    (∃ error, (s.fill bytes).advance room output = .error error ∧ s.burst reads = ([], true)) ∨
    ∃ s', (s.fill bytes).advance room output = .ok (s', room, output) ∧ s'.Wf ∧
      s'.failed = false ∧ s'.packetTarget ≠ none ∧ s.Yields reads [] s' reads' := by
  have hle : s.packetFilled + bytes.length ≤ s.packetTarget.getD 4 := by
    rw [htarget, Option.getD_none]
    exact heq.le
  have hbytes : 0 < bytes.length := List.length_pos_iff.mpr hne
  have hlack : s.packetFilled < s.packetTarget.getD 4 := by omega
  obtain ⟨hsize, hheld⟩ := packet_fill h hle
  have hfour : (s.fill bytes).packet.length = 4 := by
    rw [hsize, h.size, htarget, Option.getD_none]
  have hfilled : (s.fill bytes).packetFilled = 4 := heq
  have hpacket : (s.fill bytes).packet = s.held ++ bytes := by
    rw [← hheld, held, List.take_of_length_le]
    omega
  have hnone : (s.fill bytes).packetTarget = none := htarget
  -- the four bytes of the length decide between an error and a packet to come
  cases hlen : packetLen (s.fill bytes).packet with
  | error error =>
    have hframe : packetFrame (s.held ++ bytes) = .invalid := by
      rw [← hpacket]
      exact packetFrame_of_error (by omega) hlen
    refine .inl ⟨error, by simp only [advance, hnone, hlen], ?_⟩
    rw [burst_part hlack, hsymbols, Framing.burst_chunk hne (h.within hle), hframe]
  | ok len =>
    obtain ⟨hpos, _, _⟩ := packetLen_bounds hlen
    have hframe : packetFrame (s.held ++ bytes) = .incomplete := by
      rw [← hpacket, packetFrame_of_ok (by omega) hlen, if_pos (by omega)]
    -- the buffer grows to the whole packet and keeps the header
    have hresize : (resizePacket (s.fill bytes).packet (4 + len)).take 4 =
        (s.fill bytes).packet := by
      have htake : (s.fill bytes).packet.take (4 + len) = (s.fill bytes).packet :=
        List.take_of_length_le (by omega)
      rw [resizePacket, htake, List.take_append_of_le_length hfour.ge,
        List.take_of_length_le hfour.le]
    have hf' : ((s.fill bytes).expect len).failed = false := hf
    have hlack' : ((s.fill bytes).expect len).packetFilled <
        ((s.fill bytes).expect len).packetTarget.getD 4 := by
      show s.packetFilled + bytes.length < 4 + len
      omega
    have hheld' : ((s.fill bytes).expect len).held = s.held ++ bytes := by
      show List.take (s.fill bytes).packetFilled (resizePacket _ _) = _
      rw [hfilled, hresize, hpacket]
    refine .inr ⟨(s.fill bytes).expect len, by simp only [advance, hnone, hlen], ?_, hf', ?_, ?_⟩
    · constructor
      · simp only [expect, resizePacket, Option.getD_some, List.length_append, List.length_take,
          List.length_replicate]
        omega
      · exact fun hn => nomatch hn
      · intro target ht
        cases ht
        refine ⟨len, rfl, ?_, hfilled.ge, hlack'.le, ?_, fun _ => (h.header htarget).2⟩
        · rw [← hlen]
          refine packetLen_congr ?_
          rw [List.take_of_length_le hfour.le]
          exact hresize
        · show s.packetEmitted < 4 + len
          have := (h.header htarget).2
          omega
    · exact fun hn => nomatch hn
    · constructor
      · rw [due_part hf hlack, due_part hf' hlack', hsymbols,
          Framing.due_chunk hne (h.within hle), hframe, hheld']
        rfl
      · rw [burst_part hlack, burst_part hlack', hsymbols,
          Framing.burst_chunk hne (h.within hle), hframe, hheld']
        rfl

/-- A whole packet is copied out as far as there is room. -/
theorem advance_whole {s : PacketLimitedStream} (h : s.Wf) (hf : s.failed = false)
    (hwhole : s.packetTarget = some s.packetFilled) {room : Nat} (hroom : 0 < room)
    (output : List UInt8) (reads : List InnerRead) :
    ∃ s' bytes, s.advance room output = .ok (s', room - bytes.length, output ++ bytes) ∧
      0 < bytes.length ∧ bytes.length ≤ room ∧ s'.Wf ∧ s'.failed = false ∧
      s.Yields reads bytes s' reads := by
  obtain ⟨len, hlen, hok, hlong, _, hemitted, _⟩ := h.body _ hwhole
  have hsize : s.packet.length = s.packetFilled := by rw [h.size, hwhole, Option.getD_some]
  have hcount : ((s.packet.take (s.packetEmitted + min room (s.packetFilled - s.packetEmitted))).drop
      s.packetEmitted).length = min room (s.packetFilled - s.packetEmitted) := by
    rw [List.length_drop, List.length_take]
    omega
  refine ⟨s.emitTo s.packetFilled (s.packetEmitted + min room (s.packetFilled - s.packetEmitted)),
    (s.packet.take (s.packetEmitted + min room (s.packetFilled - s.packetEmitted))).drop
      s.packetEmitted, ?_, by omega, by omega, ?_⟩
  · rw [hcount]
    simp only [advance, hwhole]
  -- the whole packet is handed out, or a part of it
  · by_cases hend : s.packetEmitted + min room (s.packetFilled - s.packetEmitted) = s.packetFilled
    · rw [hend, List.take_of_length_le hsize.le]
      have hnew : s.emitTo s.packetFilled s.packetFilled =
          { s with
            packet := resizePacket s.packet 4, packetFilled := 0, packetEmitted := 0,
            packetTarget := none } := if_pos rfl
      have hf' : (s.emitTo s.packetFilled s.packetFilled).failed = false := by rw [hnew]; exact hf
      have hlack : (s.emitTo s.packetFilled s.packetFilled).packetFilled <
          (s.emitTo s.packetFilled s.packetFilled).packetTarget.getD 4 := by
        rw [hnew]
        show 0 < 4
        omega
      refine ⟨?_, hf', ?_, ?_⟩
      · rw [hnew]
        constructor
        · simp only [resizePacket, Option.getD_none, List.length_append, List.length_take,
            List.length_replicate]
          omega
        · exact fun _ => ⟨Nat.zero_lt_succ 3, rfl⟩
        · exact fun _ hn => nomatch hn
      · rw [due_whole hf hwhole, due_part hf' hlack, hnew]
        rfl
      · rw [burst_whole hwhole, burst_part hlack, hnew]
        rfl
    · have hnew : s.emitTo s.packetFilled
            (s.packetEmitted + min room (s.packetFilled - s.packetEmitted)) =
          { s with
            packetEmitted := s.packetEmitted + min room (s.packetFilled - s.packetEmitted) } :=
        if_neg hend
      rw [hnew]
      -- what is handed out and what is left make up what was due
      have hsplit : (s.packet.take
            (s.packetEmitted + min room (s.packetFilled - s.packetEmitted))).drop s.packetEmitted ++
          s.packet.drop (s.packetEmitted + min room (s.packetFilled - s.packetEmitted)) =
          s.packet.drop s.packetEmitted := by
        rw [List.drop_take, Nat.add_sub_cancel_left, ← List.drop_drop, List.take_append_drop]
      refine ⟨?_, hf, ?_, ?_⟩
      · constructor
        · exact h.size
        · exact fun hnone => nomatch hwhole.symm.trans hnone
        · intro target ht
          have ht' : s.packetTarget = some target := ht
          rw [hwhole] at ht'
          cases ht'
          refine ⟨len, hlen, hok, hlong, le_rfl, ?_, fun hlt => absurd hlt (lt_irrefl _)⟩
          show s.packetEmitted + min room (s.packetFilled - s.packetEmitted) < s.packetFilled
          omega
      · rw [due_whole hf hwhole]
        simp only [due, hf, hwhole, Bool.false_eq_true, if_false, if_true]
        rw [← List.append_assoc, hsplit]
      · rw [burst_whole hwhole]
        simp only [burst, hwhole, if_true]
        rw [← List.append_assoc, hsplit]

/-! ## One poll -/

/-- How the rest of a poll ends that has put `output` into the caller's buffer and has room
    for `room` bytes more: it fails when a defect comes before the buffer is full, and else
    it hands out the next bytes that are due. -/
def PollEnds (s : PacketLimitedStream) (reads : List InnerRead) (room : Nat)
    (output : List UInt8) (read : PacketRead) : Prop :=
  (((s.burst reads).2 = true ∧ (s.burst reads).1.length < room) ∧ read.stream.failed = true ∧
      ∃ error, read.poll = .failed error) ∨
    (¬((s.burst reads).2 = true ∧ (s.burst reads).1.length < room) ∧ read.stream.Wf ∧
      read.stream.failed = false ∧ (read.poll = .ready ∨ read.poll = .pending ∧ read.output = []) ∧
      ∃ bytes, read.output = output ++ bytes ∧ s.due reads = bytes ++ read.stream.due read.reads)

/-- A round that hands out bytes leaves the rest to the rounds after it. -/
theorem Yields.pollEnds {s s' : PacketLimitedStream} {reads reads' : List InnerRead}
    {bytes output : List UInt8} {room : Nat} {read : PacketRead}
    (h : s.Yields reads bytes s' reads') (hle : bytes.length ≤ room)
    (hread : s'.PollEnds reads' (room - bytes.length) (output ++ bytes) read) :
    s.PollEnds reads room output read := by
  have hburst : ((s.burst reads).2 = true ∧ (s.burst reads).1.length < room) ↔
      ((s'.burst reads').2 = true ∧ (s'.burst reads').1.length < room - bytes.length) := by
    rw [h.burst, List.length_append]
    constructor
    · exact fun ⟨hdefect, hlt⟩ => ⟨hdefect, by omega⟩
    · exact fun ⟨hdefect, hlt⟩ => ⟨hdefect, by omega⟩
  rcases hread with ⟨hover, hfailed, herror⟩ | ⟨hover, hwf, hf, hpoll, more, houtput, hdue⟩
  · exact .inl ⟨hburst.mpr hover, hfailed, herror⟩
  · refine .inr ⟨fun hover' => hover (hburst.mp hover'), hwf, hf, hpoll, bytes ++ more, ?_, ?_⟩
    · rw [houtput, List.append_assoc]
    · rw [h.due, hdue, List.append_assoc]

/-- The rounds that remain are fewer than this. -/
def work (s : PacketLimitedStream) (reads : List InnerRead) (room : Nat) : Nat :=
  2 * bytesLeft reads + 2 * room + (if s.packetTarget = none then 1 else 0)

theorem work_fill (s : PacketLimitedStream) (bytes : List UInt8) (reads : List InnerRead)
    (room : Nat) : (s.fill bytes).work reads room = s.work reads room := rfl

/-- The end of a poll that a defect ends before anything else comes. -/
theorem pollEnds_failed {s stream : PacketLimitedStream} {reads reads' : List InnerRead}
    {room : Nat} (hroom : room ≠ 0) (hburst : s.burst reads = ([], true))
    (hstream : stream.failed = true) (output : List UInt8) (error : PacketError) :
    s.PollEnds reads room output ⟨.failed error, output, stream, reads'⟩ := by
  refine .inl ⟨?_, hstream, error, rfl⟩
  rw [hburst]
  exact ⟨rfl, Nat.pos_of_ne_zero hroom⟩

/-- The end of a poll that finds nothing to read. -/
theorem pollEnds_idle {s : PacketLimitedStream} {reads reads' : List InnerRead} {room : Nat}
    {output : List UInt8} {poll : PacketPoll} (h : s.Wf) (hf : s.failed = false)
    (hburst : (s.burst reads).2 = false) (hdue : s.due reads = s.due reads')
    (hpoll : poll = .ready ∨ poll = .pending ∧ output = []) :
    s.PollEnds reads room output ⟨poll, output, s, reads'⟩ := by
  refine .inr ⟨?_, h, hf, hpoll, [], (List.append_nil output).symm, hdue⟩
  rw [hburst]
  exact fun hover => nomatch hover.1

/-- A round that copies out of a whole packet, and what comes after it. -/
theorem pollEnds_whole {s : PacketLimitedStream} {reads : List InnerRead} {room fuel : Nat}
    (output : List UInt8) (h : s.Wf) (hf : s.failed = false)
    (hwhole : s.packetTarget = some s.packetFilled) (hroom : room ≠ 0)
    (hfuel : s.work reads room < fuel + 1)
    (ih : ∀ (s : PacketLimitedStream) (reads : List InnerRead) (room : Nat)
      (output : List UInt8), s.Wf → s.failed = false → s.work reads room < fuel →
      ∃ read, s.pollLoop reads room output fuel = some read ∧ s.PollEnds reads room output read) :
    ∃ s' room' output' read, s.advance room output = .ok (s', room', output') ∧
      s'.pollLoop reads room' output' fuel = some read ∧ s.PollEnds reads room output read := by
  obtain ⟨s', bytes, hadvance, hpos, hle, hwf, hf', hyields⟩ :=
    advance_whole h hf hwhole (Nat.pos_of_ne_zero hroom) output reads
  have hwork : s'.work reads (room - bytes.length) < fuel := by
    simp only [work, hwhole, reduceCtorEq, if_false] at hfuel ⊢
    split <;> omega
  obtain ⟨read, hloop, hread⟩ :=
    ih s' reads (room - bytes.length) (output ++ bytes) hwf hf' hwork
  exact ⟨s', _, _, read, hadvance, hloop, hyields.pollEnds hle hread⟩

/-- One poll, by induction on its rounds. -/
theorem pollLoop_spec (fuel : Nat) (s : PacketLimitedStream) (reads : List InnerRead)
    (room : Nat) (output : List UInt8) (h : s.Wf) (hf : s.failed = false)
    (hfuel : s.work reads room < fuel) :
    ∃ read, s.pollLoop reads room output fuel = some read ∧ s.PollEnds reads room output read := by
  induction fuel generalizing s reads room output with
  | zero => exact absurd hfuel (Nat.not_lt_zero _)
  | succ fuel ih =>
    by_cases hroom : room = 0
    · refine ⟨⟨.ready, output, s, reads⟩, by rw [pollLoop, if_pos hroom], .inr ⟨?_, h, hf, .inl rfl,
        [], (List.append_nil output).symm, rfl⟩⟩
      rw [hroom]
      exact fun hover => Nat.not_lt_zero _ hover.2
    rw [pollLoop, if_neg hroom]
    rcases collect_cases s reads output with ⟨hge, hcollect⟩ | ⟨hlack, hrest⟩
    · -- the packet was whole before this round
      have hwhole : s.packetTarget = some s.packetFilled := by
        cases htarget : s.packetTarget with
        | none =>
          rw [htarget, Option.getD_none] at hge
          have := (h.header htarget).1
          omega
        | some target =>
          obtain ⟨_, _, _, _, hle, _⟩ := h.body target htarget
          rw [htarget, Option.getD_some] at hge
          rw [Nat.le_antisymm hge hle]
      obtain ⟨s', room', output', read, hadvance, hloop, hread⟩ :=
        pollEnds_whole output h hf hwhole hroom hfuel ih
      refine ⟨read, ?_, hread⟩
      simp only [hcollect, hadvance, hloop]
    · rcases hrest with ⟨reads', hpause, hcollect⟩ | ⟨error, reads', hdefect, hcollect⟩ |
        ⟨reads', heof, hzero, hnone, hcollect⟩ | ⟨bytes, reads', hne, hle, hsymbols, hleft, hcollect⟩
      · obtain ⟨hdue, hburst⟩ := due_pause (s := s) hpause
        refine ⟨_, by rw [hcollect], pollEnds_idle h hf ?_ ?_ ?_⟩
        · rw [burst_part hlack, hburst]
        · rw [due_part hf hlack, due_part hf hlack, hdue]
        · cases output with
          | nil => exact .inr ⟨rfl, rfl⟩
          | cons b output => exact .inl rfl
      · refine ⟨_, by rw [hcollect], pollEnds_failed hroom ?_ rfl output error⟩
        rw [burst_part hlack]
        rcases hdefect with herror | ⟨heof, hinside⟩
        · rw [herror]
          rfl
        · have hheld : s.held ≠ [] := by
            intro he
            have hfilled := h.length_held
            rw [he, List.length_nil] at hfilled
            refine hinside ⟨hfilled.symm, ?_⟩
            cases htarget : s.packetTarget with
            | none => rfl
            | some target =>
              obtain ⟨_, _, _, hlong, _⟩ := h.body target htarget
              omega
          rw [heof, Framing.burst, List.isEmpty_eq_false_iff.mpr hheld]
          rfl
      · have hheld : s.held = [] := by rw [held, hzero, List.take_zero]
        refine ⟨_, by rw [hcollect], pollEnds_idle h hf ?_ ?_ (.inl rfl)⟩
        · rw [burst_part hlack, heof, hheld]
          rfl
        · rw [due_part hf hlack, due_part hf hlack, heof, hheld]
          rfl
      · have hbytes : 0 < bytes.length := List.length_pos_iff.mpr hne
        by_cases hlt : s.packetFilled + bytes.length < s.packetTarget.getD 4
        · -- the header or the packet still lacks bytes
          have hwf := h.fill hle (fun hnone => by rw [hnone] at hlt; exact hlt) hlack
          have hwork : (s.fill bytes).work reads' room < fuel := by
            rw [work_fill]
            simp only [work, hleft] at hfuel ⊢
            omega
          obtain ⟨read, hloop, hread⟩ := ih (s.fill bytes) reads' room output hwf hf hwork
          have hyields := yields_fill h hf hne hlt hsymbols
          refine ⟨read, ?_, hyields.pollEnds (Nat.zero_le room) ?_⟩
          · simp only [hcollect, if_pos hlt, hloop]
          · rw [List.append_nil]
            exact hread
        · rw [if_neg hlt] at hcollect
          cases htarget : s.packetTarget with
          | none =>
            have heq : s.packetFilled + bytes.length = 4 := by
              rw [htarget, Option.getD_none] at hle hlt
              omega
            rcases header_full h hf hne htarget heq hsymbols room output with
              ⟨error, hadvance, hburst⟩ | ⟨s', hadvance, hwf, hf', hsome, hyields⟩
            · have hend : ({ s.fill bytes with failed := true } : PacketLimitedStream).failed = true :=
                rfl
              refine ⟨⟨.failed error, output, { s.fill bytes with failed := true }, reads'⟩, ?_,
                pollEnds_failed hroom hburst hend output error⟩
              simp only [hcollect, hadvance]
            · have hwork : s'.work reads' room < fuel := by
                simp only [work, hleft, if_neg hsome] at hfuel ⊢
                omega
              obtain ⟨read, hloop, hread⟩ := ih s' reads' room output hwf hf' hwork
              refine ⟨read, ?_, hyields.pollEnds (Nat.zero_le room) ?_⟩
              · simp only [hcollect, hadvance, hloop]
              · rw [List.append_nil]
                exact hread
          | some target =>
            have heq : s.packetFilled + bytes.length = target := by
              rw [htarget, Option.getD_some] at hle hlt
              omega
            obtain ⟨hwf, hwhole, hyields⟩ := yields_fill_whole h hf hne htarget heq hsymbols
            have hwork : (s.fill bytes).work reads' room < fuel + 1 := by
              rw [work_fill]
              simp only [work, hleft] at hfuel ⊢
              omega
            obtain ⟨s', room', output', read, hadvance, hloop, hread⟩ :=
              pollEnds_whole output hwf hf hwhole hroom hwork ih
            refine ⟨read, ?_, hyields.pollEnds (Nat.zero_le room) ?_⟩
            · simp only [hcollect, hadvance, hloop]
            · rw [List.append_nil]
              exact hread

/-! ## A sequence of polls -/

/-- A poll into room for `room` bytes would put valid bytes into the buffer and then meet a
    defect before the buffer is full. -/
def Overruns (s : PacketLimitedStream) (reads : List InnerRead) (room : Nat) : Prop :=
  s.failed = false ∧ (s.burst reads).2 = true ∧ (s.burst reads).1 ≠ [] ∧
    (s.burst reads).1.length < room

/-- No poll of the sequence overruns. -/
def Lossless (s : PacketLimitedStream) (reads : List InnerRead) : List Nat → Prop
  | [] => True
  | room :: rooms => ¬s.Overruns reads room ∧
    ∀ read, s.pollRead reads room = some read → read.stream.Lossless read.reads rooms

/-- Nothing is left to deliver: the stream has failed, or the inner stream has no answer left
    and no packet is waiting. -/
def AtEnd (s : PacketLimitedStream) (reads : List InnerRead) : Prop :=
  s.failed = true ∨ reads = [] ∧ s.packetTarget ≠ some s.packetFilled

theorem AtEnd.due {s : PacketLimitedStream} {reads : List InnerRead} (h : s.AtEnd reads) :
    s.due reads = [] := by
  rcases h with hfailed | ⟨rfl, hpart⟩
  · exact due_of_failed hfailed reads
  · simp only [PacketLimitedStream.due, if_neg hpart]
    split <;> rfl

/-- The bytes a poll returns to its caller: a poll that fails returns an error instead. -/
def returned (read : PacketRead) : List UInt8 :=
  match read.poll with
  | .ready => read.output
  | _ => []

theorem readAll_cons (s : PacketLimitedStream) (reads : List InnerRead) (room : Nat)
    (rooms : List Nat) {read : PacketRead} (h : s.pollRead reads room = some read) :
    s.readAll reads (room :: rooms) = (read.stream.readAll read.reads rooms).map
      fun (delivered, rest) => (returned read ++ delivered, rest) := by
  simp only [readAll, h, returned]
  cases read.poll <;> rfl

/-- A poll returns the next bytes that are due, unless it overruns: then the bytes it read
    are lost, and nothing comes after them. -/
theorem pollRead_spec {s : PacketLimitedStream} (h : s.Wf ∨ s.failed = true)
    (reads : List InnerRead) (room : Nat) : ∃ read, s.pollRead reads room = some read ∧
      (read.stream.Wf ∨ read.stream.failed = true) ∧
      (¬s.Overruns reads room → s.due reads = returned read ++ read.stream.due read.reads) ∧
      (s.Overruns reads room →
        returned read = [] ∧ read.stream.due read.reads = [] ∧ s.due reads ≠ []) := by
  cases hfailed : s.failed with
  | true =>
    refine ⟨_, by rw [pollRead, if_pos hfailed], .inr hfailed, fun _ => rfl, fun hover => ?_⟩
    exact nomatch hfailed.symm.trans hover.1
  | false =>
    have hwf : s.Wf := h.resolve_right (by rw [hfailed]; exact Bool.false_ne_true)
    -- the fuel of the loop is above its measure
    have hfuel : s.work reads room < 2 * bytesLeft reads + 2 * room + 2 := by
      rw [work]
      split <;> omega
    obtain ⟨read, hloop, hread⟩ := pollLoop_spec _ s reads room [] hwf hfailed hfuel
    have hnot : ¬(s.failed = true) := by rw [hfailed]; exact Bool.false_ne_true
    refine ⟨read, by rw [pollRead, if_neg hnot, hloop], ?_⟩
    -- the loop overruns into a defect, or it returns what was due first
    rcases hread with ⟨⟨hdefect, hlt⟩, hend, error, hpoll⟩ |
      ⟨hover, hwf', _, hpoll, bytes, houtput, hdue⟩
    · have hlost : s.due reads = (s.burst reads).1 := due_eq_burst hfailed hdefect
      have hnone : returned read = [] := by rw [returned, hpoll]
      have hafter : read.stream.due read.reads = [] := due_of_failed hend read.reads
      refine ⟨.inr hend, fun hover => ?_, fun hover => ⟨hnone, hafter, ?_⟩⟩
      · rw [hnone, hafter, hlost]
        by_contra hne
        exact hover ⟨hfailed, hdefect, hne, hlt⟩
      · rw [hlost]
        exact hover.2.2.1
    · have hreturned : returned read = bytes := by
        rw [List.nil_append] at houtput
        rcases hpoll with hready | ⟨hpending, hempty⟩
        · rw [returned, hready, houtput]
        · rw [returned, hpending, ← houtput, hempty]
      refine ⟨.inl hwf', fun _ => ?_, fun hover' => absurd ⟨hover'.2.1, hover'.2.2.2⟩ hover⟩
      rw [hreturned, hdue]

/-- A sequence of polls delivers what is due, in order, and loses nothing exactly when none
    of them overruns. -/
theorem readAll_spec (rooms : List Nat) {s : PacketLimitedStream} (h : s.Wf ∨ s.failed = true)
    (reads : List InnerRead) : ∃ delivered stream reads',
      s.readAll reads rooms = some (delivered, stream, reads') ∧
      delivered ++ stream.due reads' <+: s.due reads ∧
      (delivered ++ stream.due reads' = s.due reads ↔ s.Lossless reads rooms) := by
  induction rooms generalizing s reads with
  | nil => exact ⟨[], s, reads, rfl, List.prefix_rfl, iff_of_true rfl trivial⟩
  | cons room rooms ih =>
    obtain ⟨read, hpoll, hwf, hkeep, hlose⟩ := pollRead_spec h reads room
    obtain ⟨delivered, stream, reads', hall, hprefix, hiff⟩ := ih hwf read.reads
    have hlossless : s.Lossless reads (room :: rooms) ↔
        ¬s.Overruns reads room ∧ read.stream.Lossless read.reads rooms := by
      rw [Lossless]
      refine and_congr_right fun _ => ⟨fun hrest => hrest read hpoll, fun hrest read' hpoll' => ?_⟩
      cases Option.some.inj (hpoll.symm.trans hpoll')
      exact hrest
    refine ⟨returned read ++ delivered, stream, reads', ?_, ?_, ?_⟩
    · rw [readAll_cons s reads room rooms hpoll, hall]
      rfl
    -- after an overrun nothing is delivered any more
    · by_cases hover : s.Overruns reads room
      · obtain ⟨hnone, hafter, _⟩ := hlose hover
        rw [hafter, List.prefix_nil] at hprefix
        rw [hnone, List.nil_append, hprefix]
        exact List.nil_prefix
      · rw [hkeep hover, List.append_assoc]
        exact (List.prefix_append_right_inj _).mpr hprefix
    · rw [hlossless, List.append_assoc]
      by_cases hover : s.Overruns reads room
      · obtain ⟨hnone, hafter, hsome⟩ := hlose hover
        rw [hafter, List.prefix_nil] at hprefix
        rw [hnone, List.nil_append, hprefix]
        exact iff_of_false hsome.symm fun hall' => hall'.1 hover
      · rw [hkeep hover, List.append_cancel_left_eq, hiff]
        exact ⟨fun hrest => ⟨hover, hrest⟩, fun hall' => hall'.2⟩

/-! ## The fresh stream -/

/-- Whatever the inner reads and the buffers, the polls deliver a part of the valid packets
    from the first byte on, and together with what the stream still holds they deliver all of
    it exactly when no poll overruns.  At the end of the stream nothing is still held. -/
theorem delivers_valid_packets_iff (reads : List InnerRead) (rooms : List Nat) :
    ∃ delivered stream reads', readAll {} reads rooms = some (delivered, stream, reads') ∧
      delivered <+: validBytes reads ∧
      (delivered ++ stream.due reads' = validBytes reads ↔ Lossless {} reads rooms) ∧
      (stream.AtEnd reads' → (delivered = validBytes reads ↔ Lossless {} reads rooms)) := by
  obtain ⟨delivered, stream, reads', hall, hprefix, hiff⟩ := readAll_spec rooms (.inl new_wf) reads
  refine ⟨delivered, stream, reads', hall, (List.prefix_append _ _).trans hprefix, hiff, ?_⟩
  intro hend
  rw [hend.due, List.append_nil] at hiff
  exact hiff

/-- One answer that holds a whole packet and the start of an invalid one, read into a buffer
    that has room for both: the packet is lost. -/
theorem packet_lost_with_later_error :
    (readAll {} [.data [0, 0, 0, 1, 7, 0, 0, 0, 0]] [16]).map
        (fun (delivered, stream, reads') => (delivered, stream.failed, reads')) =
      some ([], true, []) ∧
    validBytes [.data [0, 0, 0, 1, 7, 0, 0, 0, 0]] = [0, 0, 0, 1, 7] := by
  decide

end PacketLimitedStream

end AxSsh
