import AxSsh.ForStd.Utf8
import AxSsh.Native.TerminalPaste
import Mathlib.Data.List.Chain

/-!
# What a paste carries

A text is read in one way as line breaks, ESC characters and other characters, where a line feed
directly behind a carriage return belongs to the same line break.  `encode_paste` sends one CR for
each line break, the other characters as they are, and nothing for an ESC.

An ESC between the two halves of a CRLF makes two line breaks of it.  At any other place it leaves
the pasted characters as they were.

## Key results
- `pasteReading_iff`: the items of a text
- `normalizePaste_eq_flatMap`: what is sent for them
- `EscapesInserted.normalizePaste_eq`: inserted ESC characters
-/

namespace AxSsh

inductive LineBreak where
  | crlf
  | cr
  | lf
deriving DecidableEq, Repr

inductive PasteItem where
  | lineBreak (kind : LineBreak)
  | escape
  | other (c : Char) (h : c ≠ '\x1b' ∧ c ≠ '\r' ∧ c ≠ '\n')
deriving DecidableEq

def LineBreak.text : LineBreak → List Char
  | .crlf => ['\r', '\n']
  | .cr => ['\r']
  | .lf => ['\n']

/-- How an item is written in a text. -/
def PasteItem.text : PasteItem → List Char
  | .lineBreak kind => kind.text
  | .escape => ['\x1b']
  | .other c _ => [c]

/-- What is sent for an item. -/
def PasteItem.pasted : PasteItem → List Char
  | .lineBreak _ => ['\r']
  | .escape => []
  | .other c _ => [c]

/-- The items of a text.  A carriage return and a line feed next to each other are one of them. -/
structure PasteReading (text : List Char) (items : List PasteItem) : Prop where
  spells : text = items.flatMap PasteItem.text
  apart : items.IsChain fun a b => ¬(a = .lineBreak .cr ∧ b = .lineBreak .lf)

/-- A text with ESC characters put in anywhere. -/
inductive EscapesInserted : List Char → List Char → Prop
  | nil : EscapesInserted [] []
  | keep (c : Char) {text text' : List Char} (h : EscapesInserted text text') :
      EscapesInserted (c :: text) (c :: text')
  | insert {text text' : List Char} (h : EscapesInserted text text') :
      EscapesInserted text ('\x1b' :: text')

/-- The number of carriage returns with a line feed directly behind them. -/
def crlfs (text : List Char) : Nat := (text.zip text.tail).count ('\r', '\n')

/-! ## Items -/

/-- A character on its own. -/
def PasteItem.single (c : Char) : PasteItem :=
  if hesc : c = '\x1b' then .escape
  else if hcr : c = '\r' then .lineBreak .cr
  else if hlf : c = '\n' then .lineBreak .lf
  else .other c ⟨hesc, hcr, hlf⟩

def readItems : List Char → List PasteItem
  | [] => []
  | [c] => [.single c]
  | c :: next :: rest =>
    if c = '\r' ∧ next = '\n' then .lineBreak .crlf :: readItems rest
    else .single c :: readItems (next :: rest)

theorem PasteItem.text_single (c : Char) : (PasteItem.single c).text = [c] := by
  unfold PasteItem.single
  split
  · next h => rw [h]; rfl
  · split
    · next h => rw [h]; rfl
    · split
      · next h => rw [h]; rfl
      · rfl

/-- Every item but a CRLF is a character. -/
theorem PasteItem.eq_single {item : PasteItem} (h : item ≠ .lineBreak .crlf) :
    ∃ c, item = .single c := by
  cases item with
  | lineBreak kind =>
    cases kind with
    | crlf => exact absurd rfl h
    | cr => exact ⟨'\r', by decide⟩
    | lf => exact ⟨'\n', by decide⟩
  | escape => exact ⟨'\x1b', by decide⟩
  | other c hc =>
    refine ⟨c, ?_⟩
    rw [PasteItem.single, dif_neg hc.1, dif_neg hc.2.1, dif_neg hc.2.2]

theorem PasteItem.single_eq_cr_iff {c : Char} : PasteItem.single c = .lineBreak .cr ↔ c = '\r' := by
  constructor
  · intro h
    have htext := congrArg PasteItem.text h
    rw [PasteItem.text_single] at htext
    exact List.head_eq_of_cons_eq htext
  · rintro rfl
    decide

theorem PasteItem.single_eq_lf_iff {c : Char} : PasteItem.single c = .lineBreak .lf ↔ c = '\n' := by
  constructor
  · intro h
    have htext := congrArg PasteItem.text h
    rw [PasteItem.text_single] at htext
    exact List.head_eq_of_cons_eq htext
  · rintro rfl
    decide

theorem readItems_crlf (rest : List Char) :
    readItems ('\r' :: '\n' :: rest) = .lineBreak .crlf :: readItems rest := by
  rw [readItems, if_pos ⟨rfl, rfl⟩]

theorem readItems_cons {c : Char} {rest : List Char}
    (h : ¬(c = '\r' ∧ rest.head? = some '\n')) :
    readItems (c :: rest) = .single c :: readItems rest := by
  cases rest with
  | nil => rfl
  | cons next rest => rw [readItems, if_neg fun hboth => h ⟨hboth.1, congrArg some hboth.2⟩]

/-- The reading begins with a line feed only where the text does. -/
private theorem head?_of_readItems_head? {text : List Char}
    (h : (readItems text).head? = some (.lineBreak .lf)) : text.head? = some '\n' := by
  have hsingle {c : Char} (hc : some (PasteItem.single c) = some (.lineBreak .lf)) : c = '\n' :=
    PasteItem.single_eq_lf_iff.mp (Option.some.inj hc)
  fun_cases readItems text with
  | case1 => exact nomatch h
  | case2 c => exact congrArg some (hsingle h)
  | case3 c next rest hcrlf =>
    rw [hcrlf.1, hcrlf.2, readItems_crlf] at h
    exact nomatch h
  | case4 c next rest hcrlf =>
    rw [readItems, if_neg hcrlf] at h
    exact congrArg some (hsingle h)

theorem pasteReading_readItems (text : List Char) : PasteReading text (readItems text) := by
  fun_induction readItems text with
  | case1 => exact ⟨rfl, .nil⟩
  | case2 c => exact ⟨by rw [List.flatMap_singleton, PasteItem.text_single], .singleton _⟩
  | case3 c next rest hcrlf ih =>
    obtain ⟨rfl, rfl⟩ := hcrlf
    constructor
    · rw [List.flatMap_cons, ← ih.spells]
      rfl
    · exact List.IsChain.cons ih.apart fun b _ hab => nomatch hab.1
  | case4 c next rest hcrlf ih =>
    constructor
    · rw [List.flatMap_cons, ← ih.spells, PasteItem.text_single]
      rfl
    · refine List.IsChain.cons ih.apart fun b hb hab => hcrlf ?_
      rw [hab.2] at hb
      exact ⟨PasteItem.single_eq_cr_iff.mp hab.1, Option.some.inj (head?_of_readItems_head? hb)⟩

/-- An item of a reading is what its characters say, given what follows. -/
private theorem readItems_text_append (item : PasteItem) (rest : List Char)
    (h : item = .lineBreak .cr → rest.head? ≠ some '\n') :
    readItems (item.text ++ rest) = item :: readItems rest := by
  by_cases hcrlf : item = .lineBreak .crlf
  · subst hcrlf
    exact readItems_crlf rest
  · obtain ⟨c, rfl⟩ := PasteItem.eq_single hcrlf
    rw [PasteItem.text_single, List.singleton_append]
    exact readItems_cons fun hboth => h (PasteItem.single_eq_cr_iff.mpr hboth.1) hboth.2

/-- Only a line feed is written with a line feed in front. -/
private theorem text_head?_of_ne_lf {item : PasteItem} (h : item ≠ .lineBreak .lf)
    (rest : List Char) : (item.text ++ rest).head? ≠ some '\n' := by
  by_cases hcrlf : item = .lineBreak .crlf
  · subst hcrlf
    nofun
  · obtain ⟨c, rfl⟩ := PasteItem.eq_single hcrlf
    rw [PasteItem.text_single]
    exact fun heq => h (PasteItem.single_eq_lf_iff.mpr (Option.some.inj heq))

/-- **A text has one reading.** -/
theorem pasteReading_iff {text : List Char} {items : List PasteItem} :
    PasteReading text items ↔ items = readItems text := by
  constructor
  · rintro ⟨rfl, hapart⟩
    induction items with
    | nil => rfl
    | cons item items ih =>
      rw [List.flatMap_cons, readItems_text_append, ← ih hapart.tail]
      rintro rfl
      cases items with
      | nil => nofun
      | cons next items =>
        have hne : next ≠ .lineBreak .lf := fun heq => hapart.rel ⟨rfl, heq⟩
        rw [List.flatMap_cons]
        exact text_head?_of_ne_lf hne _
  · rintro rfl
    exact pasteReading_readItems text

/-! ## What is sent -/

theorem normalizePaste_crlf (rest : List Char) :
    normalizePaste ('\r' :: '\n' :: rest) = '\r' :: normalizePaste rest := rfl

theorem normalizePaste_cons {c : Char} {rest : List Char}
    (h : ¬(c = '\r' ∧ rest.head? = some '\n')) :
    normalizePaste (c :: rest) = (PasteItem.single c).pasted ++ normalizePaste rest := by
  rw [normalizePaste.eq_def, PasteItem.single]
  dsimp only
  split
  · rfl
  · split
    · next hcr =>
      cases rest with
      | nil => rfl
      | cons next rest =>
        -- the character behind the carriage return is no line feed
        have hnext : next ≠ '\n' := fun heq => h ⟨hcr, congrArg some heq⟩
        simp only [if_neg hnext]
        rfl
    · split <;> rfl

/-- A CRLF is sent as its line feed alone would be. -/
theorem normalizePaste_crlf_eq_lf (rest : List Char) :
    normalizePaste ('\r' :: '\n' :: rest) = normalizePaste ('\n' :: rest) := by
  rw [normalizePaste_crlf, normalizePaste_cons fun h => absurd h.1 (by decide)]
  rfl

/-- **The pasted characters, item by item.** -/
theorem normalizePaste_eq_flatMap (text : List Char) :
    normalizePaste text = (readItems text).flatMap PasteItem.pasted := by
  fun_induction readItems text with
  | case1 => rfl
  | case2 c =>
    rw [normalizePaste_cons (by simp), List.flatMap_singleton]
    exact List.append_nil _
  | case3 c next rest hcrlf ih =>
    obtain ⟨rfl, rfl⟩ := hcrlf
    rw [normalizePaste_crlf, ih]
    rfl
  | case4 c next rest hcrlf ih =>
    rw [normalizePaste_cons fun h => hcrlf ⟨h.1, by simpa using h.2⟩, ih, List.flatMap_cons]

theorem PasteItem.pasted_clean {item : PasteItem} {c : Char} (h : c ∈ item.pasted) :
    c ≠ '\x1b' ∧ c ≠ '\n' := by
  cases item with
  | lineBreak kind =>
    rw [List.mem_singleton.mp h]
    decide
  | escape => exact nomatch h
  | other d hd =>
    rw [List.mem_singleton.mp h]
    exact ⟨hd.1, hd.2.2⟩

theorem normalizePaste_clean {text : List Char} {c : Char} (h : c ∈ normalizePaste text) :
    c ≠ '\x1b' ∧ c ≠ '\n' := by
  rw [normalizePaste_eq_flatMap] at h
  obtain ⟨item, -, hc⟩ := List.mem_flatMap.mp h
  exact PasteItem.pasted_clean hc

/-! ## Inserted ESC characters -/

theorem crlfs_crlf (rest : List Char) : crlfs ('\r' :: '\n' :: rest) = crlfs ('\n' :: rest) + 1 := by
  simp [crlfs]

theorem crlfs_cons {c : Char} {rest : List Char} (h : ¬(c = '\r' ∧ rest.head? = some '\n')) :
    crlfs (c :: rest) = crlfs rest := by
  cases rest with
  | nil => rfl
  | cons next rest =>
    have hne : ((c, next) == ('\r', '\n')) = false := by
      simpa using fun heq => mt (fun hn => h ⟨heq, congrArg some hn⟩) id
    simp only [crlfs, List.tail_cons, List.zip_cons_cons, List.count_cons, hne]
    rfl

theorem EscapesInserted.head? {text text' : List Char} (h : EscapesInserted text text')
    (hhead : text'.head? = some '\n') : text.head? = some '\n' := by
  cases h with
  | nil => exact hhead
  | keep c h => exact hhead
  | insert h => exact absurd (Option.some.inj hhead) (by decide)

/-- Each CRLF that an inserted ESC takes apart sends one CR more, and without any nothing is
    changed. -/
theorem EscapesInserted.normalizePaste_eq {text text' : List Char}
    (h : EscapesInserted text text') :
    crlfs text' ≤ crlfs text ∧
    (normalizePaste text').length + crlfs text' = (normalizePaste text).length + crlfs text ∧
    (crlfs text' = crlfs text → normalizePaste text' = normalizePaste text) := by
  induction h with
  | nil => exact ⟨Nat.le_refl _, rfl, fun _ => rfl⟩
  | @insert text text' h ih =>
    have hesc : ¬('\x1b' = '\r' ∧ text'.head? = some '\n') := fun heq => absurd heq.1 (by decide)
    rw [crlfs_cons hesc, normalizePaste_cons hesc]
    exact ih
  | @keep c text text' h ih =>
    obtain ⟨hle, hlength, heq⟩ := ih
    by_cases hcrlf' : c = '\r' ∧ text'.head? = some '\n'
    · -- the two halves are still next to each other
      obtain ⟨rest', rfl⟩ := List.head?_eq_some_iff.mp hcrlf'.2
      obtain ⟨rest, rfl⟩ := List.head?_eq_some_iff.mp (h.head? hcrlf'.2)
      obtain ⟨rfl, -⟩ := hcrlf'
      rw [crlfs_crlf, crlfs_crlf, normalizePaste_crlf_eq_lf, normalizePaste_crlf_eq_lf]
      exact ⟨by omega, by omega, fun hsame => heq (by omega)⟩
    · rw [crlfs_cons hcrlf', normalizePaste_cons hcrlf']
      by_cases hcrlf : c = '\r' ∧ text.head? = some '\n'
      · obtain ⟨rest, rfl⟩ := List.head?_eq_some_iff.mp hcrlf.2
        obtain ⟨rfl, -⟩ := hcrlf
        have hsent : ((PasteItem.single '\r').pasted ++ normalizePaste text').length =
            (normalizePaste text').length + 1 := by
          rw [PasteItem.single_eq_cr_iff.mpr rfl]
          rfl
        rw [crlfs_crlf, normalizePaste_crlf_eq_lf, hsent]
        exact ⟨by omega, by omega, fun hsame => by omega⟩
      · rw [crlfs_cons hcrlf, normalizePaste_cons hcrlf, List.length_append, List.length_append]
        exact ⟨hle, by omega, fun hsame => by rw [heq hsame]⟩

/-! ## The encoded paste -/

theorem encodePaste_eq_some {text : List Char} {bracketed : Bool} {sent : List UInt8}
    (h : encodePaste text bracketed = some sent) :
    sent = (if bracketed then pasteStart else []) ++
      (normalizePaste text).flatMap String.utf8EncodeChar ++
      if bracketed then pasteEnd else [] := by
  simp only [encodePaste, Option.ite_none_left_eq_some, Option.some.injEq] at h
  exact h.2.2.symm

/-- Neither an ESC nor a LF is sent between the wrappers. -/
theorem payload_clean {text : List Char} {c : Char} {b : UInt8}
    (hc : String.utf8EncodeChar c = [b]) (h : c = '\x1b' ∨ c = '\n') :
    b ∉ (normalizePaste text).flatMap String.utf8EncodeChar := by
  intro hmem
  obtain ⟨hesc, hlf⟩ := normalizePaste_clean (Utf8.mem_of_mem_flatMap hc hmem)
  exact h.elim hesc hlf

theorem encodePaste_clean (text : List Char) (bracketed : Bool) :
    (∃! items, PasteReading text items) ∧
    (∀ items sent, PasteReading text items → encodePaste text bracketed = some sent →
      ∃ payload, payload = (items.flatMap PasteItem.pasted).flatMap String.utf8EncodeChar ∧
        sent = (if bracketed then pasteStart else []) ++ payload ++
          (if bracketed then pasteEnd else []) ∧
        0x1b ∉ payload ∧ 0x0a ∉ payload) ∧
    ∀ text', EscapesInserted text text' → crlfs text' = crlfs text →
      encodePaste text' bracketed = encodePaste text bracketed := by
  refine ⟨⟨readItems text, pasteReading_readItems text, fun items h => pasteReading_iff.mp h⟩, ?_, ?_⟩
  · intro items sent hitems hsent
    rw [pasteReading_iff.mp hitems, ← normalizePaste_eq_flatMap]
    exact ⟨_, rfl, encodePaste_eq_some hsent, payload_clean (by decide) (.inl rfl),
      payload_clean (by decide) (.inr rfl)⟩
  · intro text' hins hcrlfs
    rw [encodePaste, encodePaste, hins.normalizePaste_eq.2.2 hcrlfs]

/-- An ESC between a CR and its LF. -/
theorem encodePaste_split_crlf :
    EscapesInserted ['\r', '\n'] ['\r', '\x1b', '\n'] ∧
    encodePaste ['\r', '\n'] false = some [13] ∧
    encodePaste ['\r', '\x1b', '\n'] false = some [13, 13] := by
  refine ⟨.keep _ (.insert (.keep _ .nil)), ?_, ?_⟩
  · have hreturn : normalizePaste ['\r', '\n'] = ['\r'] := by decide
    rw [encodePaste, hreturn]
    rfl
  · have hreturns : normalizePaste ['\r', '\x1b', '\n'] = ['\r', '\r'] := by decide
    rw [encodePaste, hreturns]
    rfl

end AxSsh
