import AxSsh.ForStd.Tokenizer
import AxSsh.Native.Telnet

/-!
# Telnet framing does not depend on the chunks

A Telnet stream is a sequence of tokens: bytes of data, escaped `0xFF` bytes, and control
frames.  Each token is settled by its own bytes, so `telnetTokens` is a streaming tokenizer,
and the frames of `TelnetFrameBuffer` are its tokens with runs of data put together.

## Key results
- `nextFrame_wire`, `isControl_of_nextFrame`: the control frames are read from their own bytes
- `drain_tokens`: the frames of a buffer are the tokens of its bytes
- `receiveAll_framing`: cut into any chunks, a stream gives the same frames and nothing is lost
-/

namespace AxSsh

open OpCommand

/-! ## Frames -/

/-- The bytes between `IAC SB` and `IAC SE`: an `IAC` among them comes with the byte it
    escapes, which is not `SE`. -/
inductive Escaped : List UInt8 → Prop
  | nil : Escaped []
  | byte {b : UInt8} {body : List UInt8} : b ≠ iac → Escaped body → Escaped (b :: body)
  | pair {c : UInt8} {body : List UInt8} : c ≠ se → Escaped body → Escaped (iac :: c :: body)

namespace InboundFrame

/-- The bytes a frame was read from: a literal `0xFF` is sent as `IAC IAC`. -/
def wire : InboundFrame → List UInt8
  | parser bytes => bytes
  | literalData bytes => bytes.flatMap fun b => if b = iac then [iac, iac] else [b]

/-- A frame that starts with `IAC`. -/
inductive IsControl : InboundFrame → Prop
  | literal : IsControl (literalData [iac])
  | command {c : UInt8} : c ≠ iac → negotiates c = false → c ≠ sb → IsControl (parser [iac, c])
  | negotiation {c : UInt8} (option : UInt8) : negotiates c = true →
      IsControl (parser [iac, c, option])
  | subnegotiation {body : List UInt8} : Escaped body →
      IsControl (parser (iac :: sb :: body ++ [iac, se]))

/-- What a stream is cut into: data without `IAC`, or one control frame. -/
inductive IsFrame : InboundFrame → Prop
  | data {bytes : List UInt8} : bytes ≠ [] → iac ∉ bytes → IsFrame (parser bytes)
  | control {frame : InboundFrame} : IsControl frame → IsFrame frame

end InboundFrame

open InboundFrame

/-- The start of a control frame that has not arrived whole. -/
def Unfinished (pending : List UInt8) : Prop :=
  ∃ frame rest, IsControl frame ∧ rest ≠ [] ∧ frame.wire = pending ++ rest

/-! ## The end of a subnegotiation -/

section Subnegotiation

variable {index length : Nat} {bytes body : List UInt8}

theorem scanSubnegotiation_of_ne {b : UInt8} (h : b ≠ iac) (rest : List UInt8) :
    scanSubnegotiation index (b :: rest) = scanSubnegotiation (index + 1) rest := by
  cases rest with
  | nil => rfl
  | cons second rest => rw [scanSubnegotiation, if_pos h]

theorem scanSubnegotiation_pair {c : UInt8} (h : c ≠ se) (rest : List UInt8) :
    scanSubnegotiation index (iac :: c :: rest) = scanSubnegotiation (index + 2) rest := by
  rw [scanSubnegotiation, if_neg (not_not_intro rfl), if_neg h, ite_self]

/-- The scan ends behind the first `IAC SE` that is not escaped. -/
theorem scanSubnegotiation_escaped (h : Escaped body) (x : List UInt8) :
    scanSubnegotiation index (body ++ iac :: se :: x) = some (index + body.length + 2) := by
  induction h generalizing index with
  | nil => rfl
  | byte hb _ ih =>
    rw [List.cons_append, scanSubnegotiation_of_ne hb, ih, List.length_cons]
    congr 1
    omega
  | pair hc _ ih =>
    rw [List.cons_append, List.cons_append, scanSubnegotiation_pair hc, ih, List.length_cons,
      List.length_cons]
    congr 1
    omega

/-- What the scan has passed over when it ends, or when it runs out of bytes. -/
def Scanned (index : Nat) (bytes : List UInt8) : Prop :=
  (∃ body x, Escaped body ∧ bytes = body ++ iac :: se :: x ∧
    scanSubnegotiation index bytes = some (index + body.length + 2)) ∨
  (∃ body, Escaped body ∧ (bytes = body ∨ bytes = body ++ [iac]) ∧
    scanSubnegotiation index bytes = none)

private theorem Scanned.byte {b : UInt8} (hb : b ≠ iac) (h : Scanned (index + 1) bytes) :
    Scanned index (b :: bytes) := by
  unfold Scanned
  rw [scanSubnegotiation_of_ne hb]
  rcases h with ⟨body, x, hbody, hbytes, hscan⟩ | ⟨body, hbody, hbytes, hscan⟩
  · refine .inl ⟨b :: body, x, .byte hb hbody, by rw [hbytes]; rfl, ?_⟩
    rw [hscan, List.length_cons]
    congr 1
    omega
  · refine .inr ⟨b :: body, .byte hb hbody, ?_, hscan⟩
    rcases hbytes with h | h
    · exact .inl (by rw [h])
    · exact .inr (by rw [h]; rfl)

private theorem Scanned.pair {c : UInt8} (hc : c ≠ se) (h : Scanned (index + 2) bytes) :
    Scanned index (iac :: c :: bytes) := by
  unfold Scanned
  rw [scanSubnegotiation_pair hc]
  rcases h with ⟨body, x, hbody, hbytes, hscan⟩ | ⟨body, hbody, hbytes, hscan⟩
  · refine .inl ⟨iac :: c :: body, x, .pair hc hbody, by rw [hbytes]; rfl, ?_⟩
    rw [hscan, List.length_cons, List.length_cons]
    congr 1
    omega
  · refine .inr ⟨iac :: c :: body, .pair hc hbody, ?_, hscan⟩
    rcases hbytes with h | h
    · exact .inl (by rw [h])
    · exact .inr (by rw [h]; rfl)

theorem scanSubnegotiation_scanned (index : Nat) (bytes : List UInt8) : Scanned index bytes := by
  induction index, bytes using scanSubnegotiation.induct with
  | case1 index first second rest hfirst ih => exact .byte hfirst ih
  | case2 index first rest hfirst ih =>
    obtain rfl : first = iac := not_not.mp hfirst
    exact .pair (by decide) ih
  | case3 index first rest hfirst hiac =>
    obtain rfl : first = iac := not_not.mp hfirst
    exact .inl ⟨[], rest, .nil, rfl, rfl⟩
  | case4 index first second rest hfirst hiac hse ih =>
    obtain rfl : first = iac := not_not.mp hfirst
    exact .pair hse ih
  | case5 bytes index hshort =>
    rcases bytes with _ | ⟨b, _ | ⟨second, rest⟩⟩
    · exact .inr ⟨[], .nil, .inl rfl, rfl⟩
    · by_cases hb : b = iac
      · exact .inr ⟨[], .nil, .inr (by rw [hb]; rfl), rfl⟩
      · exact .inr ⟨[b], .byte hb .nil, .inl rfl, rfl⟩
    · exact absurd rfl (hshort b second rest)

end Subnegotiation

/-! ## One frame -/

namespace TelnetFrameBuffer

section OneFrame

variable {pending rest : List UInt8} {frame : InboundFrame}

private theorem nextFrame_iac (second : UInt8) (behind : List UInt8) :
    nextFrame (iac :: second :: behind) =
      if second = iac then some (.literalData [iac], behind)
      else if negotiates second then
        if behind = [] then none else some (splitParser (iac :: second :: behind) 3)
      else if second = sb then
        (scanSubnegotiation 2 behind).map (splitParser (iac :: second :: behind))
      else some (.parser [iac, second], behind) := by
  cases behind with
  | nil => simp [nextFrame, splitParser, subnegotiationFrameLength]
  | cons third behind =>
    have hlength : ¬behind.length + 1 + 1 + 1 < 3 := by omega
    simp [nextFrame, splitParser, subnegotiationFrameLength, hlength]

/-- A control frame is read from its own bytes, whatever follows. -/
theorem nextFrame_wire (h : IsControl frame) (x : List UInt8) :
    nextFrame (frame.wire ++ x) = some (frame, x) := by
  cases h with
  | literal => rfl
  | @command c hiac hneg hsb =>
    have := nextFrame_iac c x
    rwa [if_neg hiac, hneg, if_neg Bool.false_ne_true, if_neg hsb] at this
  | @negotiation c option hneg =>
    have hiac : c ≠ iac := fun h => by rw [h] at hneg; exact nomatch hneg
    have := nextFrame_iac c (option :: x)
    rwa [if_neg hiac, if_pos hneg, if_neg (List.cons_ne_nil option x)] at this
  | @subnegotiation body hbody =>
    have := nextFrame_iac sb (body ++ iac :: se :: x)
    rw [if_neg (by decide), if_neg (by decide), if_pos rfl, scanSubnegotiation_escaped hbody,
      Option.map_some] at this
    rw [wire, List.append_assoc, List.cons_append, List.cons_append, List.cons_append,
      List.cons_append, List.nil_append, this]
    -- the frame ends where the scan did
    have hlength : 2 + body.length + 2 = (iac :: sb :: body ++ [iac, se]).length := by
      simp only [List.cons_append, List.length_cons, List.length_append, List.length_nil]
      omega
    have hsplit : iac :: sb :: (body ++ iac :: se :: x) = iac :: sb :: body ++ [iac, se] ++ x := by
      simp only [List.cons_append, List.append_assoc, List.nil_append]
    rw [splitParser, hlength, hsplit, List.take_left, List.drop_left]

/-- What a buffer that starts with `IAC` gives is a control frame, and its bytes. -/
theorem isControl_of_nextFrame (h : nextFrame (iac :: pending) = some (frame, rest)) :
    IsControl frame ∧ iac :: pending = frame.wire ++ rest := by
  cases pending with
  | nil => exact nomatch h
  | cons second behind =>
    rw [nextFrame_iac] at h
    split at h
    -- the second byte decides: a literal, a negotiation, a subnegotiation, or a command
    · rename_i hsecond
      cases h
      exact ⟨.literal, by rw [hsecond]; rfl⟩
    · rename_i hiac
      split at h
      · rename_i hneg
        cases behind with
        | nil => exact nomatch h
        | cons option behind =>
          rw [if_neg (List.cons_ne_nil option behind)] at h
          cases h
          exact ⟨.negotiation option hneg, rfl⟩
      · rename_i hneg
        split at h
        · rename_i hsb
          rcases scanSubnegotiation_scanned 2 behind with
            ⟨body, x, hbody, hbytes, hscan⟩ | ⟨_, _, _, hscan⟩
          · rw [hscan, Option.map_some] at h
            -- the frame that was cut off is read back from its own bytes
            have hread := nextFrame_wire (.subnegotiation hbody) x
            have hsplit : iac :: second :: behind =
                (parser (iac :: sb :: body ++ [iac, se])).wire ++ x := by
              rw [hsb, hbytes, wire]
              simp only [List.cons_append, List.append_assoc, List.nil_append]
            rw [← hsplit, nextFrame_iac, if_neg hiac, if_neg hneg, if_pos hsb, hscan,
              Option.map_some, h] at hread
            cases hread
            exact ⟨.subnegotiation hbody, hsplit⟩
          · rw [hscan] at h
            exact nomatch h
        · rename_i hsb
          cases h
          exact ⟨.command hiac (Bool.eq_false_iff.mpr hneg) hsb, rfl⟩

/-- What a buffer that starts with data gives is the data up to the next `IAC`. -/
theorem data_of_nextFrame {first : UInt8} (hfirst : first ≠ iac)
    (h : nextFrame (first :: pending) = some (frame, rest)) :
    ∃ data, frame = .parser data ∧ data ≠ [] ∧ iac ∉ data ∧ first :: pending = data ++ rest := by
  simp only [nextFrame] at h
  rw [if_pos hfirst] at h
  cases h
  refine ⟨_, rfl, ?_, ?_, (List.take_append_drop _ _).symm⟩
  · rw [List.findIdx_cons, beq_eq_false_iff_ne.mpr hfirst]
    exact List.cons_ne_nil _ _
  · intro hmem
    obtain ⟨i, hi, hget⟩ := List.mem_take_iff_getElem.mp hmem
    have hlt : i < (first :: pending).findIdx (· == iac) := by omega
    have hnot := List.not_of_lt_findIdx hlt
    rw [hget] at hnot
    exact absurd hnot (by decide)

/-- A buffer that gives no frame is empty or the start of a control frame. -/
theorem unfinished_of_nextFrame (h : nextFrame pending = none) : Unfinished pending := by
  cases pending with
  | nil => exact ⟨.literalData [iac], [iac, iac], .literal, List.cons_ne_nil _ _, rfl⟩
  | cons first bytes =>
    by_cases hfirst : first = iac
    -- each way to wait for more is the start of a control frame
    · subst hfirst
      cases bytes with
      | nil => exact ⟨.literalData [iac], [iac], .literal, List.cons_ne_nil _ _, rfl⟩
      | cons second behind =>
        rw [nextFrame_iac] at h
        split at h
        · cases h
        · split at h
          · rename_i hneg
            split at h
            · rename_i hbehind
              subst hbehind
              exact ⟨_, [0], .negotiation 0 hneg, List.cons_ne_nil _ _, rfl⟩
            · cases h
          · split at h
            · rename_i hsb
              subst hsb
              rcases scanSubnegotiation_scanned 2 behind with
                ⟨_, _, _, _, hscan⟩ | ⟨body, hbody, hbytes, _⟩
              · rw [hscan] at h
                cases h
              -- the body may already have met the first byte of its end
              · rcases hbytes with rfl | rfl
                · exact ⟨_, [iac, se], .subnegotiation hbody, List.cons_ne_nil _ _, rfl⟩
                · exact ⟨_, [se], .subnegotiation hbody, List.cons_ne_nil _ _, by simp [wire]⟩
            · cases h
    · simp only [nextFrame] at h
      rw [if_pos hfirst] at h
      cases h

end OneFrame

/-! ## Tokens -/

/-- A byte of data, an escaped `0xFF`, or the bytes of a control frame for the parser. -/
inductive Token where
  | data (b : UInt8)
  | literal
  | control (bytes : List UInt8)

def Token.frame : Token → InboundFrame
  | data b => .parser [b]
  | literal => .literalData [iac]
  | control bytes => .parser bytes

/-- The token of a control frame. -/
def controlToken : InboundFrame → Token
  | .parser bytes => .control bytes
  | .literalData _ => .literal

def nextToken : List UInt8 → Option (Token × List UInt8)
  | [] => none
  | first :: rest =>
    if first ≠ iac then some (.data first, rest)
    else (nextFrame (first :: rest)).map fun next => (controlToken next.1, next.2)

/-- The tokens of a Telnet stream. -/
def telnetTokens : Tokenizer UInt8 Token where
  next := nextToken
  shrinks := by
    intro b t r h
    match b with
    | [] => exact nomatch h
    | first :: rest =>
      rw [nextToken] at h
      split at h
      · cases h
        exact Nat.lt_succ_self _
      · obtain ⟨⟨frame, behind⟩, hnext, hpair⟩ := Option.map_eq_some_iff.mp h
        cases hpair
        exact length_nextFrame_lt hnext
  stable := by
    intro b t r h x
    match b with
    | [] => exact nomatch h
    | first :: rest =>
      rw [nextToken] at h
      split at h
      · rename_i hfirst
        cases h
        exact if_pos hfirst
      · rename_i hfirst
        obtain rfl : first = iac := not_not.mp hfirst
        obtain ⟨⟨frame, behind⟩, hnext, hpair⟩ := Option.map_eq_some_iff.mp h
        cases hpair
        -- the bytes of the frame are enough to read it
        obtain ⟨hcontrol, hbytes⟩ := isControl_of_nextFrame hnext
        have hmore := nextFrame_wire hcontrol (behind ++ x)
        rw [← List.append_assoc, ← hbytes] at hmore
        rw [List.cons_append, nextToken, if_neg hfirst, ← List.cons_append, hmore]
        rfl

/-- The tokens of a frame. -/
def tokens : InboundFrame → List Token
  | .literalData _ => [.literal]
  | .parser bytes => if bytes.head? = some iac then [.control bytes] else bytes.map .data

variable {pending rest : List UInt8} {frame : InboundFrame}

theorem tokens_data {data : List UInt8} (h : iac ∉ data) :
    tokens (.parser data) = data.map .data := by
  refine if_neg fun hhead => h (List.mem_of_mem_head? ?_)
  rw [hhead]
  rfl

theorem tokens_control (h : IsControl frame) : tokens frame = [controlToken frame] := by
  cases h <;> rfl

theorem run_data {data : List UInt8} (h : iac ∉ data) (x : List UInt8) :
    telnetTokens.run (data ++ x) = (data.map .data ++ (telnetTokens.run x).1,
      (telnetTokens.run x).2) := by
  induction data with
  | nil => rfl
  | cons b data ih =>
    obtain ⟨hb, hdata⟩ := not_or.mp (mt List.mem_cons.mpr h)
    have hnext : telnetTokens.next (b :: (data ++ x)) = some (.data b, data ++ x) :=
      if_pos (Ne.symm hb)
    rw [List.cons_append, Tokenizer.run_of_some hnext, ih hdata]
    rfl

theorem run_control (hnext : nextFrame (iac :: pending) = some (frame, rest)) :
    telnetTokens.run (iac :: pending) =
      (controlToken frame :: (telnetTokens.run rest).1, (telnetTokens.run rest).2) := by
  have htoken : telnetTokens.next (iac :: pending) = some (controlToken frame, rest) := by
    change nextToken (iac :: pending) = _
    rw [nextToken, if_neg (not_not_intro rfl), hnext]
    rfl
  exact Tokenizer.run_of_some htoken

/-- A round of the loop reads the tokens of its frame. -/
theorem run_nextFrame (h : nextFrame pending = some (frame, rest)) :
    IsFrame frame ∧ pending = frame.wire ++ rest ∧
      telnetTokens.run pending =
        (tokens frame ++ (telnetTokens.run rest).1, (telnetTokens.run rest).2) := by
  match pending with
  | [] => exact nomatch h
  | first :: bytes =>
    by_cases hfirst : first = iac
    · subst hfirst
      obtain ⟨hcontrol, hbytes⟩ := isControl_of_nextFrame h
      refine ⟨.control hcontrol, hbytes, ?_⟩
      rw [run_control h, tokens_control hcontrol]
      rfl
    · obtain ⟨data, rfl, hne, hiac, hbytes⟩ := data_of_nextFrame hfirst h
      refine ⟨.data hne hiac, hbytes, ?_⟩
      rw [hbytes, run_data hiac, tokens_data hiac]

/-- The frames of a buffer are the tokens of its bytes. -/
theorem drain_tokens (pending : List UInt8) :
    ((drain pending).1.flatMap tokens, (drain pending).2) = telnetTokens.run pending := by
  induction pending using drain.induct with
  | case1 pending h =>
    -- the tokenizer stops where the loop breaks
    have hnext : telnetTokens.next pending = none := by
      cases pending with
      | nil => rfl
      | cons first bytes =>
        by_cases hfirst : first = iac
        · exact (if_neg (not_not_intro hfirst)).trans (by rw [h]; rfl)
        · simp only [nextFrame] at h
          rw [if_pos hfirst] at h
          cases h
    rw [drain, Tokenizer.run_of_none hnext]
    split
    · rfl
    · rename_i hsome
      rw [h] at hsome
      cases hsome
  | case2 pending frame rest h hlt ih =>
    rw [drain, (run_nextFrame h).2.2, ← ih]
    split
    · rename_i hnone
      rw [h] at hnone
      cases hnone
    · rename_i hsome
      cases h.symm.trans hsome
      rfl

/-- Every frame of a buffer is a whole one. -/
theorem isFrame_drain (pending : List UInt8) : ∀ frame ∈ (drain pending).1, IsFrame frame := by
  induction pending using drain.induct with
  | case1 pending h =>
    rw [drain]
    split
    · exact fun _ hmem => nomatch hmem
    · rename_i hsome
      rw [h] at hsome
      exact nomatch hsome
  | case2 pending frame rest h hlt ih =>
    rw [drain]
    split
    · exact fun _ hmem => nomatch hmem
    · rename_i hsome
      cases h.symm.trans hsome
      exact List.forall_mem_cons.mpr ⟨(run_nextFrame h).1, ih⟩

/-- What stays pending is the start of a control frame. -/
theorem unfinished_drain (pending : List UInt8) : Unfinished (drain pending).2 := by
  induction pending using drain.induct with
  | case1 pending h =>
    rw [drain]
    split
    · exact unfinished_of_nextFrame h
    · rename_i hsome
      rw [h] at hsome
      exact nomatch hsome
  | case2 pending frame rest h hlt ih =>
    rw [drain]
    split
    · rename_i hnone
      rw [h] at hnone
      exact nomatch hnone
    · rename_i hsome
      cases h.symm.trans hsome
      exact ih

/-! ## Merging adjacent data -/

/-- Put a frame in front of others; data joins the data it meets. -/
def prepend (frame : InboundFrame) (frames : List InboundFrame) : List InboundFrame :=
  match frame, frames with
  | .parser bytes, .parser more :: rest =>
    if bytes.head? = some iac ∨ more.head? = some iac then .parser bytes :: .parser more :: rest
    else .parser (bytes ++ more) :: rest
  | frame, frames => frame :: frames

/-- The frames with adjacent data merged. -/
def mergeData (frames : List InboundFrame) : List InboundFrame := frames.foldr prepend []

/-- The bytes of a token. -/
def Token.wire (token : Token) : List UInt8 := token.frame.wire

theorem wire_controlToken (h : IsControl frame) : (controlToken frame).wire = frame.wire := by
  cases h <;> rfl

/-- A token spells the bytes it was read from. -/
theorem wire_next {b r : List UInt8} {token : Token} (h : telnetTokens.next b = some (token, r)) :
    b = token.wire ++ r := by
  match b with
  | [] => exact nomatch h
  | first :: bytes =>
    change nextToken (first :: bytes) = _ at h
    rw [nextToken] at h
    split at h
    · cases h
      rfl
    · rename_i hfirst
      obtain rfl : first = iac := not_not.mp hfirst
      obtain ⟨⟨frame, behind⟩, hnext, hpair⟩ := Option.map_eq_some_iff.mp h
      cases hpair
      obtain ⟨hcontrol, hbytes⟩ := isControl_of_nextFrame hnext
      rw [wire_controlToken hcontrol]
      exact hbytes

theorem wire_tokens (h : IsFrame frame) : (tokens frame).flatMap Token.wire = frame.wire := by
  cases h with
  | control hcontrol =>
    rw [tokens_control hcontrol, List.flatMap_cons, List.flatMap_nil, List.append_nil]
    exact wire_controlToken hcontrol
  | @data data hne hiac =>
    rw [tokens_data hiac, List.flatMap_map]
    exact List.flatMap_singleton' data

theorem prepend_data {b : UInt8} {data : List UInt8} (hb : b ≠ iac) (hne : data ≠ [])
    (hdata : iac ∉ data) (frames : List InboundFrame) :
    prepend (.parser [b]) (prepend (.parser data) frames) = prepend (.parser (b :: data)) frames := by
  obtain ⟨c, data, rfl⟩ := List.exists_cons_of_ne_nil hne
  have hc : c ≠ iac := fun h => hdata (by rw [h]; exact List.mem_cons_self)
  match frames with
  | [] => simp [prepend, hb, hc]
  | .literalData _ :: _ => simp [prepend, hb, hc]
  | .parser more :: rest =>
    by_cases hmore : more.head? = some iac
    · simp [prepend, hb, hc, hmore]
    · simp [prepend, hb, hc, hmore]

/-- Data is its bytes, merged one by one. -/
theorem prepend_eq_foldr {data : List UInt8} (hne : data ≠ []) (hiac : iac ∉ data)
    (frames : List InboundFrame) : prepend (.parser data) frames =
      ((data.map Token.data).map Token.frame).foldr prepend frames := by
  induction data with
  | nil => exact absurd rfl hne
  | cons b data ih =>
    obtain ⟨hb, hdata⟩ := not_or.mp (mt List.mem_cons.mpr hiac)
    cases data with
    | nil => rfl
    | cons c data =>
      have hne' : c :: data ≠ [] := List.cons_ne_nil c data
      rw [← prepend_data (Ne.symm hb) hne' hdata, ih hne' hdata]
      rfl

/-- Merging sees only the tokens. -/
theorem mergeData_tokens {frames : List InboundFrame} (h : ∀ frame ∈ frames, IsFrame frame) :
    mergeData frames = mergeData ((frames.flatMap tokens).map Token.frame) := by
  induction frames with
  | nil => rfl
  | cons frame frames ih =>
    obtain ⟨hframe, hframes⟩ := List.forall_mem_cons.mp h
    have hcons : mergeData (frame :: frames) = prepend frame (mergeData frames) := rfl
    rw [hcons, ih hframes, List.flatMap_cons, List.map_append, mergeData, mergeData,
      List.foldr_append]
    cases hframe with
    | control hcontrol =>
      rw [tokens_control hcontrol]
      cases hcontrol <;> rfl
    | @data data hne hiac =>
      rw [tokens_data hiac]
      exact prepend_eq_foldr hne hiac _

/-! ## Several calls -/

/-- A call takes the tokens off the front of what is pending and what has arrived. -/
theorem receive_ok {buffer buffer' : TelnetFrameBuffer} {data : List UInt8}
    {frames : List InboundFrame} (h : buffer.receive data = .ok (frames, buffer')) :
    (frames, buffer'.pending) = drain (buffer.pending ++ data) ∧
      buffer.pending.length + data.length ≤ maxProtocolFrameBytes := by
  simp only [receive] at h
  split at h
  · exact nomatch h
  · split at h
    · exact nomatch h
    · rename_i hlength
      cases h
      exact ⟨rfl, not_not.mp hlength⟩

/-- The calls read the stream as the tokenizer reads its pieces. -/
theorem receiveAll_ok {buffer buffer' : TelnetFrameBuffer} {chunks : List (List UInt8)}
    {frames : List InboundFrame} (h : buffer.receiveAll chunks = .ok (frames, buffer')) :
    (frames.flatMap tokens, buffer'.pending) = telnetTokens.feed buffer.pending chunks ∧
      (∀ frame ∈ frames, IsFrame frame) ∧
      (Unfinished buffer.pending ∧ buffer.pending.length ≤ maxProtocolFrameBytes →
        Unfinished buffer'.pending ∧ buffer'.pending.length ≤ maxProtocolFrameBytes) := by
  induction chunks generalizing buffer frames with
  | nil =>
    cases h
    exact ⟨rfl, List.forall_mem_nil _, id⟩
  | cons data chunks ih =>
    rw [receiveAll] at h
    cases hfirst : buffer.receive data with
    | error message => rw [hfirst] at h; exact nomatch h
    | ok first =>
      obtain ⟨now, buffer₁⟩ := first
      cases hrest : buffer₁.receiveAll chunks with
      | error message =>
        rw [hfirst] at h
        simp only [bind, Except.bind, hrest] at h
        exact nomatch h
      | ok rest =>
        obtain ⟨later, buffer₂⟩ := rest
        rw [hfirst] at h
        simp only [bind, Except.bind, hrest, pure, Except.pure] at h
        cases h
        obtain ⟨hdrain, hlength⟩ := receive_ok hfirst
        obtain ⟨hfeed, hframes, hpending⟩ := ih hrest
        have hnow : now = (drain (buffer.pending ++ data)).1 := congrArg Prod.fst hdrain
        have hheld : buffer₁.pending = (drain (buffer.pending ++ data)).2 :=
          congrArg Prod.snd hdrain
        have hrun := drain_tokens (buffer.pending ++ data)
        rw [← hnow, ← hheld] at hrun
        refine ⟨?_, ?_, fun _ => hpending ⟨hheld ▸ unfinished_drain _, ?_⟩⟩
        · rw [List.flatMap_append, Tokenizer.feed, ← hrun]
          simp only
          rw [← hfeed]
        · rw [List.forall_mem_append]
          exact ⟨hnow ▸ isFrame_drain _, hframes⟩
        · -- what stays pending is a part of what there was
          have hbytes := Tokenizer.flatMap_run (fun _ _ _ => wire_next) (buffer.pending ++ data)
          rw [← hrun] at hbytes
          have := congrArg List.length hbytes
          simp only [List.length_append] at this
          omega

/-- However a stream is cut into calls that all fit, its frames are those of the uncut stream
    once adjacent data is merged, they and the pending bytes are the whole stream, every frame
    is a whole one, and what is pending is the start of a control frame within the limit.
    `drain` is the loop of one call without its size check. -/
theorem receiveAll_framing {chunks : List (List UInt8)} {frames : List InboundFrame}
    {buffer : TelnetFrameBuffer} (h : receiveAll {} chunks = .ok (frames, buffer)) :
    mergeData frames = mergeData (drain chunks.flatten).1 ∧
      buffer.pending = (drain chunks.flatten).2 ∧
      frames.flatMap InboundFrame.wire ++ buffer.pending = chunks.flatten ∧
      (∀ frame ∈ frames, IsFrame frame) ∧
      Unfinished buffer.pending ∧ buffer.pending.length ≤ maxProtocolFrameBytes := by
  obtain ⟨hfeed, hframes, hpending⟩ := receiveAll_ok h
  have hempty : telnetTokens.run [] = ([], []) := Tokenizer.run_of_none rfl
  have hread : telnetTokens.feed [] chunks = telnetTokens.run chunks.flatten := by
    have := Tokenizer.feed_eq_run (T := telnetTokens) [] chunks
    rw [hempty] at this
    exact this
  have hdrain := drain_tokens chunks.flatten
  have htokens : (frames.flatMap tokens, buffer.pending) =
      ((drain chunks.flatten).1.flatMap tokens, (drain chunks.flatten).2) := by
    rw [hfeed, hread, hdrain]
  have hlossless := Tokenizer.flatMap_run (fun _ _ _ => wire_next) chunks.flatten
  rw [← hread, ← hfeed, List.flatMap_assoc] at hlossless
  have hwire : frames.flatMap (fun frame => (tokens frame).flatMap Token.wire) =
      frames.flatMap InboundFrame.wire :=
    List.flatMap_congr fun frame hmem => wire_tokens (hframes frame hmem)
  have hstart : Unfinished [] := unfinished_of_nextFrame rfl
  have hend := hpending ⟨hstart, Nat.zero_le _⟩
  obtain ⟨hsame, hrest⟩ := Prod.mk.inj htokens
  refine ⟨?_, hrest, ?_, hframes, hend.1, hend.2⟩
  · rw [mergeData_tokens hframes, mergeData_tokens (isFrame_drain _), hsame]
  · rw [← hwire]
    exact hlossless

/-- Three calls that cut data, an escaped byte and a negotiation. -/
theorem receiveAll_framing_cut :
    let chunks := [[65, iac], [iac, 66, iac, will], [1]]
    ∃ frames buffer, receiveAll {} chunks = .ok (frames, buffer) ∧
      mergeData frames = mergeData (drain chunks.flatten).1 := by
  have h : receiveAll {} [[65, iac], [iac, 66, iac, will], [1]] =
      .ok ([.parser [65], .literalData [iac], .parser [66], .parser [iac, will, 1]], {}) := by
    decide +kernel
  exact ⟨_, _, h, (receiveAll_framing h).1⟩

end TelnetFrameBuffer

end AxSsh
