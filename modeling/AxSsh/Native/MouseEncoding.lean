import AxSsh.Native.TerminalResponses

/-!
# Mouse coordinate encodings

`MouseEncodingTracker` of `terminal/model.rs`, which reads the private modes for mouse coordinates
in the output itself.  Of these the terminal library only knows SGR, so the encoding of a mouse
event is chosen from the tracker and a flag of the library.
-/

namespace AxSsh

inductive MouseCoordinateEncoding where
  | default
  | utf8
  | urxvt
  | sgr
  | sgrPixels
deriving DecidableEq, Repr

structure MouseEncodingTracker where
  utf8Coordinates : Bool := false
  urxvtCoordinates : Bool := false
  pixelCoordinates : Bool := false
  parserState : Nat := 0
  parameter : Nat := 0
  hasParameter : Bool := false
  parameters : List Nat := []
deriving DecidableEq, Repr

namespace MouseEncodingTracker

def coordinateEncoding (t : MouseEncodingTracker) (sgr : Bool) : MouseCoordinateEncoding :=
  if t.pixelCoordinates && sgr then .sgrPixels
  else if sgr then .sgr
  else if t.urxvtCoordinates then .urxvt
  else if t.utf8Coordinates then .utf8
  else .default

def finishParameter (t : MouseEncodingTracker) : MouseEncodingTracker :=
  { t with
    parameter := 0
    hasParameter := false
    parameters := if t.hasParameter then t.parameters ++ [t.parameter] else t.parameters }

/-- The body of the loop of `apply_parameters`. -/
def applyParameter (enabled : Bool) (t : MouseEncodingTracker) (parameter : Nat) :
    MouseEncodingTracker :=
  if parameter = 1005 then
    { t with
      utf8Coordinates := enabled
      urxvtCoordinates := if enabled then false else t.urxvtCoordinates
      pixelCoordinates := if enabled then false else t.pixelCoordinates }
  else if parameter = 1015 then
    { t with
      urxvtCoordinates := enabled
      utf8Coordinates := if enabled then false else t.utf8Coordinates
      pixelCoordinates := if enabled then false else t.pixelCoordinates }
  else if parameter = 1006 ∧ enabled then
    { t with utf8Coordinates := false, urxvtCoordinates := false }
  else if parameter = 1016 then { t with pixelCoordinates := enabled }
  else t

def applyParameters (enabled : Bool) (t : MouseEncodingTracker) : MouseEncodingTracker :=
  { t.parameters.foldl (applyParameter enabled) t with parameters := [] }

/-- The body of the loop of `observe`. -/
def observeByte (t : MouseEncodingTracker) (byte : UInt8) : MouseEncodingTracker :=
  if t.parserState = 0 ∧ byte = 0x1b then { t with parserState := 1 }
  else if t.parserState = 1 ∧ byte = 91 then { t with parserState := 2 }
  else if t.parserState = 1 ∧ byte = 99 then
    { t with
      utf8Coordinates := false
      urxvtCoordinates := false
      pixelCoordinates := false
      parserState := 0 }
  else if t.parserState = 2 ∧ byte = 63 then
    { t with parserState := 3, parameter := 0, hasParameter := false, parameters := [] }
  else if t.parserState = 3 ∧ isAsciiDigit byte then
    { t with
      parameter := min (min (t.parameter * 10) 65535 + (byte.toNat - 48)) 65535
      hasParameter := true }
  else if t.parserState = 3 ∧ byte = 59 then t.finishParameter
  else if t.parserState = 3 ∧ (byte = 104 ∨ byte = 108) then
    { t.finishParameter.applyParameters (decide (byte = 104)) with parserState := 0 }
  else { t with parserState := if byte = 0x1b then 1 else 0 }

def observe (t : MouseEncodingTracker) (bytes : List UInt8) : MouseEncodingTracker :=
  bytes.foldl observeByte t

end MouseEncodingTracker

end AxSsh
