import Mathlib.Data.List.Basic

/-!
# The UTF-8 encoding of a text

A text is encoded character by character.  The encoding can be taken apart again: a text whose
encoding begins with that of a character begins with the character, and where the rest of an
encoding begins with a first byte, it is the encoding of a rest of the text.

## Key results
- `flatMap_utf8_eq_append`: the first character
- `exists_boundary`: the boundaries of characters
- `mem_of_mem_flatMap`: a byte that is a character stands for it only
-/

namespace Utf8

open String (utf8EncodeChar)

/-- No encoding of a character begins another. -/
theorem char_eq_of_append {c d : Char} {rest rest' : List UInt8}
    (h : utf8EncodeChar c ++ rest = utf8EncodeChar d ++ rest') : c = d := by
  have hc := @ByteArray.utf8DecodeChar?_utf8EncodeChar_append rest.toByteArray c
  have hd := @ByteArray.utf8DecodeChar?_utf8EncodeChar_append rest'.toByteArray d
  rw [← List.toByteArray_append] at hc hd
  rw [h, hd] at hc
  exact (Option.some.inj hc).symm

theorem flatMap_utf8_eq_append {text : List Char} {c : Char} {rest : List UInt8}
    (h : text.flatMap utf8EncodeChar = utf8EncodeChar c ++ rest) :
    ∃ text', text = c :: text' ∧ text'.flatMap utf8EncodeChar = rest := by
  cases text with
  | nil =>
    have hnil := (List.append_eq_nil_iff.mp h.symm).1
    exact absurd hnil String.utf8EncodeChar_ne_nil
  | cons d text =>
    rw [List.flatMap_cons] at h
    obtain rfl := char_eq_of_append h
    exact ⟨text, rfl, List.append_cancel_left h⟩

/-- An encoding has its first byte at the front only. -/
theorem eq_nil_of_isUTF8FirstByte {c : Char} {before after : List UInt8} {b : UInt8}
    (h : utf8EncodeChar c = before ++ b :: after) (hb : b.IsUTF8FirstByte) : before = [] := by
  have hlt : before.length < (utf8EncodeChar c).length := by
    rw [h, List.length_append, List.length_cons]
    omega
  have hget : (utf8EncodeChar c)[before.length] = b := by simp [h]
  rw [← hget, UInt8.isUTF8FirstByte_getElem_utf8EncodeChar] at hb
  exact List.length_eq_zero_iff.mp hb

theorem exists_boundary {text : List Char} {before after : List UInt8} {b : UInt8}
    (h : text.flatMap utf8EncodeChar = before ++ b :: after) (hb : b.IsUTF8FirstByte) :
    ∃ rest, rest <:+ text ∧ rest.flatMap utf8EncodeChar = b :: after := by
  induction text generalizing before with
  | nil => simp at h
  | cons c text ih =>
    rw [List.flatMap_cons, List.append_eq_append_iff] at h
    obtain ⟨tail, -, htail⟩ | ⟨tail, hc, htail⟩ := h
    · obtain ⟨rest, hrest, heq⟩ := ih htail
      exact ⟨rest, hrest.trans (List.suffix_cons c text), heq⟩
    · cases tail with
      | nil => exact ⟨text, List.suffix_cons c text, htail.symm⟩
      | cons b' tail =>
        rw [List.cons_append, List.cons.injEq] at htail
        obtain ⟨rfl, rfl⟩ := htail
        -- the boundary is inside the encoding of `c`, so in front of it
        have hnil := eq_nil_of_isUTF8FirstByte hc hb
        refine ⟨c :: text, List.suffix_rfl, ?_⟩
        rw [List.flatMap_cons, hc, hnil, List.nil_append, List.cons_append]

theorem utf8EncodeChar_eq_cons (c : Char) :
    ∃ b after, utf8EncodeChar c = b :: after ∧ b.IsUTF8FirstByte := by
  cases h : utf8EncodeChar c with
  | nil => exact absurd h String.utf8EncodeChar_ne_nil
  | cons b after =>
    have hlt : 0 < (utf8EncodeChar c).length := by
      rw [h]
      exact Nat.succ_pos _
    have hfirst := (@UInt8.isUTF8FirstByte_getElem_utf8EncodeChar c 0 hlt).mpr rfl
    simp only [h, List.getElem_cons_zero] at hfirst
    exact ⟨b, after, rfl, hfirst⟩

/-- The bytes below 128 are those of the characters of one byte. -/
theorem toNat_eq_of_mem {c : Char} {b : UInt8} (hb : b ∈ utf8EncodeChar c) (hlt : b.toNat < 128) :
    utf8EncodeChar c = [b] ∧ c.toNat = b.toNat := by
  have hmax : c.val.toNat < 1114112 := by
    have hvalid := c.valid
    simp only [UInt32.isValidChar, Nat.isValidChar] at hvalid
    omega
  unfold utf8EncodeChar at hb ⊢
  dsimp only at hb ⊢
  split at hb
  · rename_i hc
    rw [List.mem_singleton] at hb
    subst hb
    refine ⟨if_pos hc, ?_⟩
    have hsize : c.val.toNat < UInt8.size := by
      rw [show UInt8.size = 256 from rfl]
      omega
    rw [UInt8.toNat_ofNat_of_lt' hsize]
    rfl
  · split at hb
    · simp only [List.mem_cons, List.not_mem_nil, or_false] at hb
      obtain rfl | rfl := hb <;> simp at hlt <;> omega
    · split at hb
      · simp only [List.mem_cons, List.not_mem_nil, or_false] at hb
        obtain rfl | rfl | rfl := hb <;> simp at hlt <;> omega
      · simp only [List.mem_cons, List.not_mem_nil, or_false] at hb
        obtain rfl | rfl | rfl | rfl := hb <;> simp at hlt <;> omega

/-- A byte that encodes a character on its own stands in an encoding for that character only. -/
theorem mem_of_mem_flatMap {text : List Char} {c : Char} {b : UInt8} (hc : utf8EncodeChar c = [b])
    (h : b ∈ text.flatMap utf8EncodeChar) : c ∈ text := by
  have hfirst : b.IsUTF8FirstByte := by
    have hlt : 0 < (utf8EncodeChar c).length := by
      rw [hc]
      exact Nat.one_pos
    have hget := (@UInt8.isUTF8FirstByte_getElem_utf8EncodeChar c 0 hlt).mpr rfl
    simpa only [hc, List.getElem_cons_zero] using hget
  obtain ⟨before, after, hsplit⟩ := List.append_of_mem h
  obtain ⟨rest, hrest, heq⟩ := exists_boundary hsplit hfirst
  have hhead : rest.flatMap utf8EncodeChar = utf8EncodeChar c ++ after := by rw [heq, hc]; rfl
  obtain ⟨text', rfl, -⟩ := flatMap_utf8_eq_append hhead
  exact hrest.subset List.mem_cons_self

end Utf8
