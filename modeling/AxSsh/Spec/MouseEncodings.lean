import AxSsh.Native.MouseEncoding
import AxSsh.ForStd.Latch

/-!
# Mouse encodings follow the last selected mode

Programs choose the encoding of mouse coordinates by private modes, one of which replaces the
other.  The abstract side reads a list of modes; the tracker reads bytes.  Each flag of the tracker
is a latch over the modes read so far, however the bytes are cut into chunks.

The flag for SGR belongs to the terminal library, which does not know mode 1015.  So a program that
enables 1015 while SGR is enabled keeps the SGR encoding.

## Key results
- `MouseEncodingTracker.observe_outputBytes`: the flags after a list of output items
- `encoding_follows_last_mode_iff`: the encoding is that of the last mode, unless 1015 was enabled
  over SGR
-/

namespace AxSsh

open Latch

/-! ## Output -/

abbrev Digit := { byte : UInt8 // isAsciiDigit byte = true }

/-- A byte of text, a full reset (`ESC c`), or a list of private modes set (`ESC [ ? … h`) or
reset (`ESC [ ? … l`) with one sequence of digits for each parameter. -/
inductive OutputItem where
  | text (byte : UInt8) (h : byte ≠ 0x1b)
  | fullReset
  | privateModes (parameters : List (List Digit)) (enabled : Bool)

def parametersBytes : List (List Digit) → List UInt8
  | [] => []
  | [digits] => digits.map (·.val)
  | digits :: next :: rest => digits.map (·.val) ++ 59 :: parametersBytes (next :: rest)

def OutputItem.bytes : OutputItem → List UInt8
  | .text byte _ => [byte]
  | .fullReset => [0x1b, 99]
  | .privateModes parameters enabled =>
    [0x1b, 91, 63] ++ parametersBytes parameters ++ [if enabled then 104 else 108]

def outputBytes (items : List OutputItem) : List UInt8 := items.flatMap OutputItem.bytes

/-! ## Modes -/

inductive ModeEvent where
  | set (parameter : Nat) (enabled : Bool)
  | reset
deriving DecidableEq

/-- The number a parameter stands for; numbers are 16 bits wide and saturate. -/
def parameterNumber (digits : List Digit) : Option Nat :=
  if digits = [] then none
  else some (min (digits.foldl (fun value digit => value * 10 + (digit.val.toNat - 48)) 0) 65535)

def OutputItem.events : OutputItem → List ModeEvent
  | .text .. => []
  | .fullReset => [.reset]
  | .privateModes parameters enabled =>
    (parameters.filterMap parameterNumber).map (ModeEvent.set · enabled)

def modeEvents (items : List OutputItem) : List ModeEvent := items.flatMap OutputItem.events

/-- The coordinate extensions of which at most one is selected. -/
inductive CoordinateExtension where
  | utf8
  | urxvt
  | sgr
deriving DecidableEq

def CoordinateExtension.mode : CoordinateExtension → Nat
  | .utf8 => 1005
  | .urxvt => 1015
  | .sgr => 1006

def MouseCoordinateEncoding.extension : MouseCoordinateEncoding → Option CoordinateExtension
  | .default => none
  | .utf8 => some .utf8
  | .urxvt => some .urxvt
  | .sgr | .sgrPixels => some .sgr

/-- The extension was enabled, and since then neither it was disabled nor any extension enabled. -/
def LastEnabled (events : List ModeEvent) (extension : CoordinateExtension) : Prop :=
  ∃ before after, events = before ++ .set extension.mode true :: after ∧
    ∀ event ∈ after, (∀ other : CoordinateExtension, event ≠ .set other.mode true) ∧
      event ≠ .set extension.mode false ∧ event ≠ .reset

/-- Pixel positions were enabled, and since then neither disabled nor dropped with another
extension. -/
def PixelsEnabled (events : List ModeEvent) : Prop :=
  ∃ before after, events = before ++ .set 1016 true :: after ∧
    ∀ event ∈ after, event ≠ .set 1016 true ∧ event ≠ .set 1016 false ∧ event ≠ .set 1005 true ∧
      event ≠ .set 1015 true ∧ event ≠ .reset

/-- The encoding is that of the extension last enabled, with pixel positions in SGR only. -/
def FollowsLastMode (events : List ModeEvent) (encoding : MouseCoordinateEncoding) : Prop :=
  (∀ extension, encoding.extension = some extension ↔ LastEnabled events extension) ∧
    (encoding = .sgrPixels ↔ LastEnabled events .sgr ∧ PixelsEnabled events)

/-- What the terminal library documents of its SGR flag: mode 1006 sets it, and resetting 1006,
setting 1005 and a full reset clear it. -/
def SgrDocumented (sgrMouse : List UInt8 → Bool) (items : List OutputItem) : Prop :=
  sgrMouse (outputBytes items) = true ↔
    ∃ before after, modeEvents items = before ++ .set 1006 true :: after ∧
      ∀ event ∈ after, event ≠ .set 1006 true ∧ event ≠ .set 1006 false ∧
        event ≠ .set 1005 true ∧ event ≠ .reset

/-- Mode 1015 was enabled over SGR, and nothing since then touches the flag of the library. -/
def UrxvtOverSgr (events : List ModeEvent) : Prop :=
  ∃ before after, events = before ++ .set 1006 true :: after ∧ .set 1015 true ∈ after ∧
    ∀ event ∈ after, event ≠ .set 1006 true ∧ event ≠ .set 1006 false ∧
      event ≠ .set 1005 true ∧ event ≠ .reset

/-! ## The flags as latches -/

/-- What clears the selection of an extension, other than enabling it again. -/
abbrev Deselects (extension : CoordinateExtension) (event : ModeEvent) : Prop :=
  event = .set extension.mode false ∨ event = .reset ∨
    ∃ other ∈ [CoordinateExtension.utf8, .urxvt, .sgr],
      other ≠ extension ∧ event = .set other.mode true

abbrev DropsPixels (event : ModeEvent) : Prop :=
  event = .set 1016 false ∨ event = .set 1005 true ∨ event = .set 1015 true ∨ event = .reset

def selected (events : List ModeEvent) (extension : CoordinateExtension) : Bool :=
  latch (· = .set extension.mode true) (Deselects extension) events

def pixelsOn (events : List ModeEvent) : Bool := latch (· = .set 1016 true) DropsPixels events

theorem selected_append (events : List ModeEvent) (event : ModeEvent)
    (extension : CoordinateExtension) :
    selected (events ++ [event]) extension = if event = .set extension.mode true then true
      else if Deselects extension event then false else selected events extension :=
  latch_append_singleton ..

theorem pixelsOn_append (events : List ModeEvent) (event : ModeEvent) :
    pixelsOn (events ++ [event]) = if event = .set 1016 true then true
      else if DropsPixels event then false else pixelsOn events :=
  latch_append_singleton ..

theorem CoordinateExtension.mem_all (extension : CoordinateExtension) :
    extension ∈ [CoordinateExtension.utf8, .urxvt, .sgr] := by
  cases extension <;> decide

theorem CoordinateExtension.mode_inj {extension other : CoordinateExtension}
    (h : extension.mode = other.mode) : extension = other := by
  cases extension <;> cases other <;> first | rfl | cases h

theorem lastEnabled_iff {events : List ModeEvent} {extension : CoordinateExtension} :
    LastEnabled events extension ↔ selected events extension = true := by
  rw [LastEnabled, selected, latch_eq_iff]
  have hquiet (event : ModeEvent) :
      ((∀ other : CoordinateExtension, event ≠ .set other.mode true) ∧
        event ≠ .set extension.mode false ∧ event ≠ .reset) ↔
      event ≠ .set extension.mode true ∧ ¬Deselects extension event := by
    constructor
    · rintro ⟨hset, hoff, hreset⟩
      refine ⟨hset extension, ?_⟩
      rintro (h | h | ⟨other, -, -, h⟩)
      · exact hoff h
      · exact hreset h
      · exact hset other h
    · rintro ⟨hself, hclear⟩
      refine ⟨fun other h => ?_, fun h => hclear (.inl h), fun h => hclear (.inr (.inl h))⟩
      by_cases heq : other = extension
      · exact hself (heq ▸ h)
      · exact hclear (.inr (.inr ⟨other, other.mem_all, heq, h⟩))
  simp only [hquiet]

theorem pixelsEnabled_iff {events : List ModeEvent} :
    PixelsEnabled events ↔ pixelsOn events = true := by
  rw [PixelsEnabled, pixelsOn, latch_eq_iff]
  simp only [DropsPixels, not_or, ne_eq]

/-- At most one extension is selected. -/
theorem LastEnabled.unique {events : List ModeEvent} {extension other : CoordinateExtension}
    (h : LastEnabled events extension) (h' : LastEnabled events other) : extension = other := by
  by_contra hne
  rw [lastEnabled_iff] at h h'
  refine latch_exclusive _ _ ?_ ?_ events ⟨h, h'⟩
  · rintro _ rfl
    refine ⟨fun heq => hne ?_, .inr (.inr ⟨extension, extension.mem_all, hne, rfl⟩)⟩
    exact CoordinateExtension.mode_inj (ModeEvent.set.inj heq).1
  · rintro _ rfl
    refine ⟨fun heq => hne ?_, .inr (.inr ⟨other, other.mem_all, Ne.symm hne, rfl⟩)⟩
    exact CoordinateExtension.mode_inj (ModeEvent.set.inj heq).1.symm

/-- While SGR is enabled for the library, it is the extension last enabled unless 1015 came over
it. -/
theorem lastEnabled_sgr_iff {events : List ModeEvent} :
    LastEnabled events .sgr ↔ (∃ before after, events = before ++ .set 1006 true :: after ∧
      ∀ event ∈ after, event ≠ .set 1006 true ∧ event ≠ .set 1006 false ∧
        event ≠ .set 1005 true ∧ event ≠ .reset) ∧ ¬UrxvtOverSgr events := by
  constructor
  · rintro ⟨before, after, hsplit, hafter⟩
    refine ⟨⟨before, after, hsplit, fun event hevent => ?_⟩, ?_⟩
    · obtain ⟨hset, hoff, hreset⟩ := hafter event hevent
      exact ⟨hset .sgr, hoff, hset .utf8, hreset⟩
    · rintro ⟨before', after', hsplit', hurxvt, hafter'⟩
      have heq : after = after' := last_split_unique (· = ModeEvent.set 1006 true)
        (hsplit.symm.trans hsplit') rfl rfl (fun event hevent => (hafter event hevent).1 .sgr)
        (fun event hevent => (hafter' event hevent).1)
      exact (hafter _ (heq ▸ hurxvt)).1 .urxvt rfl
  · rintro ⟨⟨before, after, hsplit, hafter⟩, hover⟩
    refine ⟨before, after, hsplit, fun event hevent => ?_⟩
    obtain ⟨hsgr, hoff, hutf8, hreset⟩ := hafter event hevent
    refine ⟨fun other => ?_, hoff, hreset⟩
    cases other with
    | utf8 => exact hutf8
    | sgr => exact hsgr
    | urxvt =>
      rintro rfl
      exact hover ⟨before, after, hsplit, hevent, hafter⟩

/-! ## The bytes of a mode sequence -/

namespace MouseEncodingTracker

theorem observe_append (t : MouseEncodingTracker) (bytes bytes' : List UInt8) :
    t.observe (bytes ++ bytes') = (t.observe bytes).observe bytes' := List.foldl_append

/-- Cutting the output into chunks changes nothing. -/
theorem observe_flatten (t : MouseEncodingTracker) (chunks : List (List UInt8)) :
    chunks.foldl observe t = t.observe chunks.flatten := by
  induction chunks generalizing t with
  | nil => rfl
  | cons chunk chunks ih => rw [List.foldl_cons, ih, List.flatten_cons, observe_append]

theorem observeByte_digit {t : MouseEncodingTracker} (hstate : t.parserState = 3) (digit : Digit) :
    t.observeByte digit.val = { t with
      parameter := min (min (t.parameter * 10) 65535 + (digit.val.toNat - 48)) 65535
      hasParameter := true } := by
  simp [observeByte, hstate, digit.property]

/-- The digits of a parameter accumulate to its number, saturating at 16 bits. -/
theorem observe_digits {t : MouseEncodingTracker} (hstate : t.parserState = 3)
    (value : Nat) (hvalue : t.parameter = min value 65535) (digits : List Digit) :
    t.observe (digits.map (·.val)) = { t with
      parameter :=
        min (digits.foldl (fun value digit => value * 10 + (digit.val.toNat - 48)) value) 65535
      hasParameter := t.hasParameter || !digits.isEmpty } := by
  induction digits generalizing t value with
  | nil => simp [observe, ← hvalue]
  | cons digit digits ih =>
    rw [List.map_cons, observe, List.foldl_cons, observeByte_digit hstate, ← observe]
    rw [ih (by exact hstate) (value * 10 + (digit.val.toNat - 48))]
    · simp
    · simp only [hvalue]
      omega

theorem observeByte_separator {t : MouseEncodingTracker} (hstate : t.parserState = 3) :
    t.observeByte 59 = t.finishParameter := by
  simp [observeByte, hstate, isAsciiDigit]

theorem observeByte_final {t : MouseEncodingTracker} (hstate : t.parserState = 3)
    (enabled : Bool) : t.observeByte (if enabled then 104 else 108) =
      { t.finishParameter.applyParameters enabled with parserState := 0 } := by
  cases enabled <;> simp [observeByte, hstate, isAsciiDigit]

/-- The tracker is inside a list of parameters and at the start of one. -/
structure AtParameter (t : MouseEncodingTracker) : Prop where
  state : t.parserState = 3
  parameter : t.parameter = 0
  fresh : t.hasParameter = false

theorem finishParameter_observe {t : MouseEncodingTracker} (ht : t.AtParameter)
    (digits : List Digit) : (t.observe (digits.map (·.val))).finishParameter =
      { t with parameters := t.parameters ++ (parameterNumber digits).toList } := by
  rw [observe_digits ht.state 0 (by simp [ht.parameter])]
  cases digits with
  | nil => simp [finishParameter, parameterNumber, ht.parameter, ht.fresh]
  | cons digit digits => simp [finishParameter, parameterNumber, ht.parameter, ht.fresh]

theorem finishParameter_observe_parameters {t : MouseEncodingTracker} (ht : t.AtParameter)
    (parameters : List (List Digit)) :
    (t.observe (parametersBytes parameters)).finishParameter =
      { t with parameters := t.parameters ++ parameters.filterMap parameterNumber } := by
  induction parameters using parametersBytes.induct generalizing t with
  | case1 => simp [parametersBytes, observe, finishParameter, ht.parameter, ht.fresh]
  | case2 digits =>
    rw [parametersBytes, finishParameter_observe ht]
    cases h : parameterNumber digits <;> simp [h]
  | case3 digits next rest ih =>
    -- the separator finishes the first parameter, and the next one starts afresh
    have hstate : (t.observe (digits.map (·.val))).parserState = 3 := by
      rw [observe_digits ht.state 0 (by simp [ht.parameter])]
      exact ht.state
    have happend : t.observe (parametersBytes (digits :: next :: rest)) =
        (t.observe (digits.map (·.val))).finishParameter.observe (parametersBytes (next :: rest)) := by
      rw [parametersBytes, observe_append, ← observeByte_separator hstate]
      rfl
    have hnext : AtParameter { t with
        parameters := t.parameters ++ (parameterNumber digits).toList } :=
      ⟨ht.state, ht.parameter, ht.fresh⟩
    rw [happend, finishParameter_observe ht, ih hnext]
    cases h : parameterNumber digits <;> simp [h]

/-! ## The flags follow the modes -/

/-- Between two items the tracker is at rest, and its flags are latches over the modes so far. -/
structure Follows (t : MouseEncodingTracker) (events : List ModeEvent) : Prop where
  utf8 : t.utf8Coordinates = selected events .utf8
  urxvt : t.urxvtCoordinates = selected events .urxvt
  pixels : t.pixelCoordinates = pixelsOn events

theorem Follows.applyParameter {t : MouseEncodingTracker} {events : List ModeEvent}
    (h : t.Follows events) (enabled : Bool) (parameter : Nat) :
    (applyParameter enabled t parameter).Follows (events ++ [.set parameter enabled]) := by
  obtain ⟨hutf8, hurxvt, hpixels⟩ := h
  unfold MouseEncodingTracker.applyParameter
  cases enabled <;> split_ifs <;> constructor <;>
    simp_all [selected_append, pixelsOn_append, CoordinateExtension.mode]

theorem Follows.reset {t : MouseEncodingTracker} (events : List ModeEvent)
    (hutf8 : t.utf8Coordinates = false) (hurxvt : t.urxvtCoordinates = false)
    (hpixels : t.pixelCoordinates = false) : t.Follows (events ++ [.reset]) := by
  constructor <;> simp_all [selected_append, pixelsOn_append]

theorem Follows.foldl_applyParameter {t : MouseEncodingTracker} {events : List ModeEvent}
    (h : t.Follows events) (enabled : Bool) (parameters : List Nat) :
    (parameters.foldl (MouseEncodingTracker.applyParameter enabled) t).Follows
      (events ++ parameters.map (ModeEvent.set · enabled)) := by
  induction parameters generalizing t events with
  | nil => simpa using h
  | cons parameter parameters ih => simpa using ih (h.applyParameter enabled parameter)

/-- An item leaves the tracker at rest, with its modes applied to the flags. -/
theorem Follows.observe_item {t : MouseEncodingTracker} {events : List ModeEvent}
    (h : t.Follows events) (hrest : t.parserState = 0) (item : OutputItem) :
    (t.observe item.bytes).Follows (events ++ item.events) ∧
      (t.observe item.bytes).parserState = 0 := by
  cases item with
  | text byte hbyte =>
    have hbytes : t.observe [byte] = t := by
      obtain ⟨utf8, urxvt, pixel, state, parameter, hasParameter, parameters⟩ := t
      obtain rfl : state = 0 := hrest
      simp [observe, observeByte, hbyte]
    simpa [OutputItem.bytes, OutputItem.events, hbytes, hrest] using h
  | fullReset =>
    have hstate : (t.observe OutputItem.fullReset.bytes).parserState = 0 := by
      simp [OutputItem.bytes, observe, observeByte, hrest]
    refine ⟨Follows.reset events ?_ ?_ ?_, hstate⟩ <;>
      simp [OutputItem.bytes, observe, observeByte, hrest]
  | privateModes parameters enabled =>
    -- the three bytes of the introducer leave the parser at its parameters
    have hopen : (t.observe [0x1b, 91, 63]) =
        { t with parserState := 3, parameter := 0, hasParameter := false, parameters := [] } := by
      simp [observe, observeByte, hrest]
    have hparameter : AtParameter (t.observe [0x1b, 91, 63]) := by
      rw [hopen]
      exact ⟨rfl, rfl, rfl⟩
    have hstate : ((t.observe [0x1b, 91, 63]).observe (parametersBytes parameters)).parserState =
        3 := by
      have hfinish := congrArg MouseEncodingTracker.parserState
        (finishParameter_observe_parameters hparameter parameters)
      exact hfinish.trans hparameter.state
    -- introducer, parameters, final byte
    have hbytes : t.observe (OutputItem.privateModes parameters enabled).bytes =
        (((t.observe [0x1b, 91, 63]).observe (parametersBytes parameters)).observeByte
          (if enabled then 104 else 108)) := by
      rw [OutputItem.bytes, observe_append, observe_append]
      rfl
    rw [hbytes, observeByte_final hstate, finishParameter_observe_parameters hparameter, hopen]
    refine ⟨?_, rfl⟩
    have hstart : Follows { t with
        parserState := 3, parameter := 0, hasParameter := false
        parameters := [] ++ parameters.filterMap parameterNumber } events :=
      ⟨h.utf8, h.urxvt, h.pixels⟩
    obtain ⟨hutf8, hurxvt, hpixels⟩ :=
      hstart.foldl_applyParameter enabled (parameters.filterMap parameterNumber)
    exact ⟨hutf8, hurxvt, hpixels⟩

/-- The flags after a list of items are those of its modes. -/
theorem observe_outputBytes (items : List OutputItem) :
    (observe {} (outputBytes items)).Follows (modeEvents items) ∧
      (observe {} (outputBytes items)).parserState = 0 := by
  induction items using List.reverseRecOn with
  | nil => exact ⟨⟨rfl, rfl, rfl⟩, rfl⟩
  | append_singleton items item ih =>
    simpa [outputBytes, modeEvents, observe_append] using ih.1.observe_item ih.2 item

end MouseEncodingTracker

/-! ## The encoding -/

/-- However the output is cut into chunks, the encoding is that of the mode last selected exactly
when mode 1015 did not come over SGR. -/
theorem encoding_follows_last_mode_iff (sgrMouse : List UInt8 → Bool) (items : List OutputItem)
    (chunks : List (List UInt8)) (hcut : chunks.flatten = outputBytes items)
    (hsgr : SgrDocumented sgrMouse items) :
    FollowsLastMode (modeEvents items)
        ((chunks.foldl MouseEncodingTracker.observe {}).coordinateEncoding
          (sgrMouse (outputBytes items))) ↔
      ¬UrxvtOverSgr (modeEvents items) := by
  obtain ⟨⟨hutf8, hurxvt, hpixels⟩, -⟩ := MouseEncodingTracker.observe_outputBytes items
  rw [MouseEncodingTracker.observe_flatten, hcut]
  rw [SgrDocumented] at hsgr
  generalize MouseEncodingTracker.observe {} (outputBytes items) = t at *
  generalize sgrMouse (outputBytes items) = sgr at *
  cases sgr with
  | true =>
    have hextension : (t.coordinateEncoding true).extension = some .sgr := by
      cases h : t.pixelCoordinates <;>
        simp [MouseEncodingTracker.coordinateEncoding, h, MouseCoordinateEncoding.extension]
    constructor
    · rintro ⟨hfollows, -⟩
      exact (lastEnabled_sgr_iff.mp ((hfollows .sgr).mp hextension)).2
    · intro hover
      have hlast : LastEnabled (modeEvents items) .sgr :=
        lastEnabled_sgr_iff.mpr ⟨hsgr.mp rfl, hover⟩
      refine ⟨fun extension => ?_, ?_⟩
      · rw [hextension, Option.some.injEq]
        exact ⟨fun h => h ▸ hlast, fun h => hlast.unique h⟩
      · rw [pixelsEnabled_iff, ← hpixels]
        cases h : t.pixelCoordinates <;> simp [MouseEncodingTracker.coordinateEncoding, h, hlast]
  | false =>
    have hsgrOff : ¬LastEnabled (modeEvents items) .sgr := fun h =>
      Bool.false_ne_true (hsgr.mpr (lastEnabled_sgr_iff.mp h).1)
    have hover : ¬UrxvtOverSgr (modeEvents items) := by
      rintro ⟨before, after, hsplit, -, hafter⟩
      exact Bool.false_ne_true (hsgr.mpr ⟨before, after, hsplit, hafter⟩)
    -- the library reports no SGR, so the two flags of the tracker decide
    have hurxvtIff : t.urxvtCoordinates = true ↔ LastEnabled (modeEvents items) .urxvt := by
      rw [hurxvt, lastEnabled_iff]
    have hutf8Iff : t.utf8Coordinates = true ↔ LastEnabled (modeEvents items) .utf8 := by
      rw [hutf8, lastEnabled_iff]
    have hboth : ¬(t.utf8Coordinates = true ∧ t.urxvtCoordinates = true) := by
      rintro ⟨h, h'⟩
      cases (hutf8Iff.mp h).unique (hurxvtIff.mp h')
    refine iff_of_true ⟨fun extension => ?_, ?_⟩ hover
    · cases extension with
      | sgr => cases h : t.urxvtCoordinates <;> cases h' : t.utf8Coordinates <;>
          simp [MouseEncodingTracker.coordinateEncoding, h, h', MouseCoordinateEncoding.extension,
            hsgrOff]
      | utf8 =>
        rw [← hutf8Iff]
        cases h : t.urxvtCoordinates <;> cases h' : t.utf8Coordinates <;>
          simp_all [MouseEncodingTracker.coordinateEncoding, MouseCoordinateEncoding.extension]
      | urxvt =>
        rw [← hurxvtIff]
        cases h : t.urxvtCoordinates <;> cases h' : t.utf8Coordinates <;>
          simp_all [MouseEncodingTracker.coordinateEncoding, MouseCoordinateEncoding.extension]
    · refine iff_of_false ?_ fun h => hsgrOff h.1
      cases h : t.urxvtCoordinates <;> cases h' : t.utf8Coordinates <;>
        simp [MouseEncodingTracker.coordinateEncoding, h, h']

/-- Mode 1006 before or after mode 1015, in one sequence. -/
def sgrAndUrxvt (sgrFirst : Bool) : List OutputItem :=
  let sgr : List Digit := [⟨49, by decide⟩, ⟨48, by decide⟩, ⟨48, by decide⟩, ⟨54, by decide⟩]
  let urxvt : List Digit := [⟨49, by decide⟩, ⟨48, by decide⟩, ⟨49, by decide⟩, ⟨53, by decide⟩]
  [.privateModes (if sgrFirst then [sgr, urxvt] else [urxvt, sgr]) true]

/-- A flag that looks for the digits of mode 1006. -/
def mentionsSgr (bytes : List UInt8) : Bool := bytes.tails.any ([49, 48, 48, 54].isPrefixOf ·)

theorem sgrAndUrxvt_sgr_last :
    FollowsLastMode (modeEvents (sgrAndUrxvt false))
      (([(outputBytes (sgrAndUrxvt false)).take 9, (outputBytes (sgrAndUrxvt false)).drop 9].foldl
        MouseEncodingTracker.observe {}).coordinateEncoding
          (mentionsSgr (outputBytes (sgrAndUrxvt false)))) := by
  have hdocumented : SgrDocumented mentionsSgr (sgrAndUrxvt false) :=
    iff_of_true (by decide) ⟨[.set 1015 true], [], by decide, nofun⟩
  refine (encoding_follows_last_mode_iff mentionsSgr (sgrAndUrxvt false) _ (by decide)
    hdocumented).mpr ?_
  rintro ⟨before, after, hsplit, hurxvt, -⟩
  have hevents : modeEvents (sgrAndUrxvt false) = [.set 1015 true, .set 1006 true] := by decide
  rw [hevents] at hsplit
  rcases before with _ | ⟨first, _ | ⟨second, before⟩⟩ <;> simp_all

/-- A program that enables SGR and then 1015 gets SGR reports. -/
theorem encoding_stays_sgr : ¬∀ (sgrMouse : List UInt8 → Bool) (items : List OutputItem)
    (chunks : List (List UInt8)), chunks.flatten = outputBytes items →
    SgrDocumented sgrMouse items →
    FollowsLastMode (modeEvents items)
      ((chunks.foldl MouseEncodingTracker.observe {}).coordinateEncoding
        (sgrMouse (outputBytes items))) := by
  intro hall
  have hdocumented : SgrDocumented mentionsSgr (sgrAndUrxvt true) :=
    iff_of_true (by decide) ⟨[], [.set 1015 true], by decide, by simp⟩
  have hfollows := (hall mentionsSgr (sgrAndUrxvt true) [outputBytes (sgrAndUrxvt true)]
    (by decide) hdocumented).1 .urxvt
  have hlast : LastEnabled (modeEvents (sgrAndUrxvt true)) .urxvt :=
    ⟨[.set 1006 true], [], by decide, nofun⟩
  exact absurd (hfollows.mpr hlast) (by decide)

end AxSsh
