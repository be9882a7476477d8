import Mathlib.Data.List.Flatten
import Mathlib.Algebra.Order.Group.Nat

/-!
# Packets of one size

A payload that is written in units of one length and sent in packets of one size.  What was sent and
the packet being filled are the payload so far, and at the end the last packet is padded.

## Key results
- `Filled.write`: one more unit
- `Filled.close`: the packets after padding
- `packets_unique`: the payload decides the packets
-/

universe u

namespace Packets

variable {A : Type u} {size unit : Nat} {payload : List A} {sent : List (List A)} {packet : List A}

/-- The payload so far is in full packets and one that still has room. -/
structure Filled (size unit : Nat) (payload : List A) (sent : List (List A)) (packet : List A) :
    Prop where
  content : sent.flatten ++ packet = payload
  sized : ∀ p ∈ sent, p.length = size
  room : packet.length < size
  aligned : unit ∣ packet.length

theorem Filled.nil (h : 0 < size) : Filled (A := A) size unit [] [] [] :=
  ⟨rfl, nofun, h, Nat.dvd_zero unit⟩

/-- A unit fits into the packet, and may fill it. -/
theorem Filled.length_add_le (h : Filled size unit payload sent packet) (hunit : unit ∣ size) :
    packet.length + unit ≤ size := by
  have hroom := h.room
  have hle := Nat.le_of_dvd (by omega) (Nat.dvd_sub hunit h.aligned)
  omega

theorem Filled.write_full (h : Filled size unit payload sent packet) {bytes : List A}
    (hfull : (packet ++ bytes).length = size) :
    Filled size unit (payload ++ bytes) (sent ++ [packet ++ bytes]) [] := by
  refine ⟨by simp [← h.content], ?_, (Nat.zero_le _).trans_lt h.room, Nat.dvd_zero unit⟩
  intro p hp
  rcases List.mem_append.mp hp with hp | hp
  · exact h.sized p hp
  · rw [List.mem_singleton.mp hp, hfull]

theorem Filled.write (h : Filled size unit payload sent packet) (hunit : unit ∣ size)
    {bytes : List A} (hbytes : bytes.length = unit) (hfull : (packet ++ bytes).length ≠ size) :
    Filled size unit (payload ++ bytes) sent (packet ++ bytes) := by
  have hle := h.length_add_le hunit
  rw [List.length_append, hbytes] at hfull
  refine ⟨by simp [← h.content], h.sized, ?_, ?_⟩
  · rw [List.length_append, hbytes]
    omega
  · rw [List.length_append, hbytes]
    exact Nat.dvd_add h.aligned (Nat.dvd_refl unit)

/-- The last packet is padded, and there is none when the payload fills the packets before it. -/
theorem Filled.close (h : Filled size unit payload sent packet) (pad : A) :
    ∃ padding < size,
      (if packet = [] then sent
        else sent ++ [packet ++ List.replicate (size - packet.length) pad]).flatten =
          payload ++ List.replicate padding pad ∧
      ∀ p ∈ (if packet = [] then sent
        else sent ++ [packet ++ List.replicate (size - packet.length) pad]), p.length = size := by
  have hroom := h.room
  split
  · rename_i hpacket
    refine ⟨0, by omega, ?_, h.sized⟩
    simp [← h.content, hpacket]
  · rename_i hpacket
    have hlength : 0 < packet.length := List.length_pos_iff.mpr hpacket
    refine ⟨size - packet.length, by omega, by simp [← h.content], fun p hp => ?_⟩
    rcases List.mem_append.mp hp with hp | hp
    · exact h.sized p hp
    · rw [List.mem_singleton.mp hp, List.length_append, List.length_replicate]
      omega

/-- Packets of one size with less than a packet of padding are determined by their payload. -/
theorem packets_unique {packets packets' : List (List A)} {padding padding' : Nat} {pad : A}
    (hsized : ∀ p ∈ packets, p.length = size) (hsized' : ∀ p ∈ packets', p.length = size)
    (hpadding : padding < size) (hpadding' : padding' < size)
    (hflatten : packets.flatten = payload ++ List.replicate padding pad)
    (hflatten' : packets'.flatten = payload ++ List.replicate padding' pad) :
    packets = packets' := by
  have hlength {packets : List (List A)} (h : ∀ p ∈ packets, p.length = size) :
      packets.map List.length = List.replicate packets.length size := by
    rw [List.eq_replicate_iff]
    refine ⟨by simp, fun n hn => ?_⟩
    obtain ⟨p, hp, rfl⟩ := List.mem_map.mp hn
    exact h p hp
  have hcount : packets.length * size = payload.length + padding := by
    have hlen := congrArg List.length hflatten
    rwa [List.length_flatten, hlength hsized, List.sum_replicate_nat, List.length_append,
      List.length_replicate] at hlen
  have hcount' : packets'.length * size = payload.length + padding' := by
    have hlen := congrArg List.length hflatten'
    rwa [List.length_flatten, hlength hsized', List.sum_replicate_nat,
      List.length_append, List.length_replicate] at hlen
  -- one packet more would be all padding
  have hsame : packets.length = packets'.length := by
    rcases Nat.lt_trichotomy packets.length packets'.length with hlt | heq | hlt
    · have := Nat.mul_le_mul_right size hlt
      rw [Nat.succ_mul] at this
      omega
    · exact heq
    · have := Nat.mul_le_mul_right size hlt
      rw [Nat.succ_mul] at this
      omega
  have hpad : padding = padding' := by
    rw [hsame] at hcount
    omega
  rw [List.eq_iff_flatten_eq]
  exact ⟨by rw [hflatten, hflatten', hpad], by rw [hlength hsized, hlength hsized', hsame]⟩

end Packets
