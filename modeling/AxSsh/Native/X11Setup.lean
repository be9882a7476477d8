import AxSsh.ForStd.TextLines
import AxSsh.Native.PacketStream

/-!
# The X11 setup gate

`ssh/x11.rs`: the setup packet of a forwarded X11 connection is read and compared with the fake
cookie before anything local is prepared, and then gets the local authorization.

The remote side is the list of answers that its polls give before the deadline of the gate; where
the list ends, the deadline passes.  Lengths are at most those of two 16-bit fields, so no sum of
them overflows.  Errors are their outermost messages.
-/

namespace AxSsh

def x11CookieBytes : Nat := 16
def maxAuthProtocolBytes : Nat := 64
def maxAuthDataBytes : Nat := 256
def x11SetupHeaderBytes : Nat := 12

/-- `MIT-MAGIC-COOKIE-1`. -/
def x11AuthProtocol : List UInt8 :=
  [77, 73, 84, 45, 77, 65, 71, 73, 67, 45, 67, 79, 79, 75, 73, 69, 45, 49]

inductive LocalX11Auth where
  | cookie (real : List UInt8)
  | none
deriving DecidableEq, Repr

/-! ## Reading -/

/-- Why a read does not complete. -/
inductive ReadEnd where
  | timedOut
  | failed
  | unexpectedEof
deriving DecidableEq, Repr

/-- The timeout is around the whole of the gate, and has its own message. -/
def ReadEnd.message (context : String) : ReadEnd → String
  | .timedOut => "timed out validating X11 authentication setup"
  | .failed | .unexpectedEof => context

/-- `read_exact` with a buffer of the given size. -/
def readExact : Nat → List InnerRead → Except ReadEnd (List UInt8) × List InnerRead
  | 0, reads => (.ok [], reads)
  | _ + 1, [] => (.error .timedOut, [])
  | size + 1, .pending :: reads => readExact (size + 1) reads
  | _ + 1, .failed :: reads => (.error .failed, reads)
  | size + 1, .data bytes :: reads =>
    if bytes = [] then (.error .unexpectedEof, reads)
    else if bytes.length ≤ size + 1 then
      let (result, rest) := readExact (size + 1 - bytes.length) reads
      (result.map (bytes ++ ·), rest)
    else (.ok (bytes.take (size + 1)), .data (bytes.drop (size + 1)) :: reads)

/-! ## The setup packet -/

/-- `read_u16` with the byte order of a packet. -/
def readU16 (bytes : List UInt8) (byteOrder : UInt8) : Except String Nat :=
  match bytes with
  | [a, b] =>
    if byteOrder = 'l'.toUInt8 then .ok (a.toNat + 256 * b.toNat)
    else if byteOrder = 'B'.toUInt8 then .ok (256 * a.toNat + b.toNat)
    else .error "X11 setup uses an invalid byte order"
  | _ => .error "X11 setup integer is truncated"

/-- The next multiple of four. -/
def paddedLen (length : Nat) : Nat := (length + 3) / 4 * 4

def setupPacketLen (protocolLen dataLen : Nat) : Nat :=
  x11SetupHeaderBytes + paddedLen protocolLen + paddedLen dataLen

def validateAuthLengths (protocolLen dataLen : Nat) : Except String Unit :=
  if protocolLen = 0 ∨ maxAuthProtocolBytes < protocolLen ∨ dataLen = 0 ∨
      maxAuthDataBytes < dataLen then
    .error "X11 setup authorization fields exceed their limits"
  else .ok ()

/-- The part of a packet from one position up to another. -/
def slice (packet : List UInt8) (start stop : Nat) : List UInt8 :=
  (packet.drop start).take (stop - start)

/-- The two lengths in a header, checked. -/
def authLengths (header : List UInt8) : Except String (Nat × Nat) := do
  let byteOrder := header.headD 0
  let authProtocolLen ← readU16 (slice header 6 8) byteOrder
  let authDataLen ← readU16 (slice header 8 10) byteOrder
  validateAuthLengths authProtocolLen authDataLen
  return (authProtocolLen, authDataLen)

def readSetupPacket (reads : List InnerRead) : Except String (List UInt8) × List InnerRead :=
  match readExact x11SetupHeaderBytes reads with
  | (.error e, reads) => (.error (e.message "failed to read the X11 setup header"), reads)
  | (.ok header, reads) =>
    match authLengths header with
    | .error message => (.error message, reads)
    | .ok (authProtocolLen, authDataLen) =>
      let totalLen := setupPacketLen authProtocolLen authDataLen
      match readExact (totalLen - x11SetupHeaderBytes) reads with
      | (.error e, reads) =>
        (.error (e.message "failed to read the X11 authentication setup"), reads)
      | (.ok body, reads) => (.ok (header ++ body), reads)

/-- The range of the authorization data in a packet that carries the fake cookie. -/
def validateSetupPacket (packet fakeCookie : List UInt8) : Except String (Nat × Nat) :=
  if packet.length < x11SetupHeaderBytes then .error "X11 setup packet is truncated"
  else do
    let (authProtocolLen, authDataLen) ← authLengths packet
    if packet.length ≠ setupPacketLen authProtocolLen authDataLen then
      .error "X11 setup packet has an invalid length"
    else
      let protocolStart := x11SetupHeaderBytes
      let protocolEnd := protocolStart + authProtocolLen
      if slice packet protocolStart protocolEnd ≠ x11AuthProtocol then
        .error "X11 setup uses an unsupported authorization protocol"
      else
        let dataStart := protocolStart + paddedLen authProtocolLen
        let dataEnd := dataStart + authDataLen
        if fakeCookie.length ≠ authDataLen ∨ slice packet dataStart dataEnd ≠ fakeCookie then
          .error "X11 setup authorization was rejected"
        else .ok (dataStart, dataEnd)

/-- The packet with the local authorization. -/
def rewriteSetupPacket (packet fakeCookie : List UInt8) (localAuth : LocalX11Auth) :
    Except String (List UInt8) := do
  let (start, stop) ← validateSetupPacket packet fakeCookie
  match localAuth with
  | .cookie realCookie =>
    if realCookie.length = stop - start then
      .ok (packet.take start ++ realCookie ++ packet.drop stop)
    else .error "local X11 authorization cookie has an invalid length"
  | .none =>
    .ok ((packet.take 6 ++ List.replicate 4 0 ++ packet.drop 10).take x11SetupHeaderBytes)

/-! ## The gate -/

/-- What is left after the gate: its result, the remote side, and the local machine, which only the
    preparation changes. -/
structure X11Gate (T W : Type) where
  result : Except String (List UInt8 × T)
  reads : List InnerRead
  world : W

def authenticateThenPrepare {T W : Type} (reads : List InnerRead) (fakeCookie : List UInt8)
    (prepare : W → Except String T × W) (world : W) : X11Gate T W :=
  match readSetupPacket reads with
  | (.error message, reads) => ⟨.error message, reads, world⟩
  | (.ok setup, reads) =>
    match validateSetupPacket setup fakeCookie with
    | .error message => ⟨.error message, reads, world⟩
    | .ok _ =>
      let (prepared, world) := prepare world
      ⟨prepared.map fun prepared => (setup, prepared), reads, world⟩

/-! ## Local cookies -/

def decodeHexNibble (value : UInt8) : Except String UInt8 :=
  if '0'.toUInt8 ≤ value ∧ value ≤ '9'.toUInt8 then .ok (value - '0'.toUInt8)
  else if 'a'.toUInt8 ≤ value ∧ value ≤ 'f'.toUInt8 then .ok (value - 'a'.toUInt8 + 10)
  else if 'A'.toUInt8 ≤ value ∧ value ≤ 'F'.toUInt8 then .ok (value - 'A'.toUInt8 + 10)
  else .error "X11 authorization cookie is not hexadecimal"

/-- `as_chunks::<2>`, without the rest. -/
def chunksOfTwo : List UInt8 → List (UInt8 × UInt8)
  | a :: b :: rest => (a, b) :: chunksOfTwo rest
  | _ => []

def decodeCookie (value : List Char) : Except String (List UInt8) :=
  let bytes := value.flatMap String.utf8EncodeChar
  if bytes.length ≠ x11CookieBytes * 2 ∨ ¬value.all (·.toNat < 128) then
    .error "X11 authorization cookie has an invalid length"
  else
    (chunksOfTwo bytes).mapM fun pair => do
      let high ← decodeHexNibble pair.1
      let low ← decodeHexNibble pair.2
      return high <<< 4 ||| low

/-- The loop of `parse_xauth_output` over the lines that are left. -/
def parseXauthLines : List (List Char) → Option (List UInt8) → Except String (List UInt8)
  | [], none => .error "xauth returned no MIT-MAGIC-COOKIE-1 entry"
  | [], some selected => .ok selected
  | line :: rest, selected =>
    match TextLines.words line with
    | [_, protocol, value] =>
      if protocol.flatMap String.utf8EncodeChar ≠ x11AuthProtocol then parseXauthLines rest selected
      else
        match decodeCookie value with
        | .error message => .error message
        | .ok cookie =>
          if selected.isSome then .error "xauth returned ambiguous authorization entries"
          else parseXauthLines rest (some cookie)
    | _ => parseXauthLines rest selected

/-- `parse_xauth_output` of an output that is text. -/
def parseXauthOutput (output : List Char) : Except String (List UInt8) :=
  parseXauthLines ((TextLines.lines output).filter fun line => TextLines.trim line ≠ []) none

end AxSsh
