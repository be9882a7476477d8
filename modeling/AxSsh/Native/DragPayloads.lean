import AxSsh.ForStd.FirstSeen
import AxSsh.ForStd.TextLines
import AxSsh.Native.SessionEditor

/-!
# Drag payloads of the SFTP panes

The encoders and the parsers of `app/sftp_bridge/drag.rs`: `local_file_drag_data`,
`remote_file_drag_data`, `parse_sftp_drag_payload`, `parse_dropped_local_paths`,
`parse_single_dropped_path` and `percent_decode_path`.

The data of a drag is its plain text, when there is one.  A path is its text, so `to_str` always
gives it, and two paths are equal when their components are.  The host is a Unix one.  An error
is its outermost message.
-/

namespace AxSsh.DragPayloads

open AxSsh.Credentials (eqIgnoreAsciiCase)

def localDragPrefix : String := "axssh-local-path:"

def remoteDragPrefix : String := "axssh-remote-path:"

/-- `str::strip_prefix`. -/
def stripPrefix (start text : String) : Option String :=
  if start.toList.isPrefixOf text.toList then
    some (String.ofList (text.toList.drop start.toList.length))
  else none

/-! ## What a drag carries -/

/-- `paths.join("\n")`. -/
def joinPaths (paths : List PathBuf) : List Char := TextLines.join (paths.map String.toList)

def localFileDragData (paths : List PathBuf) : Option String :=
  if paths.isEmpty then none
  else
    let lines := TextLines.lines (joinPaths paths)
    if lines.length == paths.length &&
        lines.all fun path => !path.isEmpty && !path.any isControl then
      some (localDragPrefix ++ String.ofList (joinPaths paths))
    else none

def remoteFileDragData (path : String) : Option String :=
  if path ≠ "" ∧ path.toList.any isControl = false then some (remoteDragPrefix ++ path) else none

/-! ## What is dropped -/

inductive SftpDragPayload where
  | «local» (paths : List PathBuf)
  | remote (path : String)
deriving DecidableEq, Repr

/-- `char::to_digit(16)`. -/
def toDigit (c : Char) : Option Nat :=
  let n := c.toNat
  if 48 ≤ n ∧ n ≤ 57 then some (n - 48)
  else if 65 ≤ n ∧ n ≤ 70 then some (n - 55)
  else if 97 ≤ n ∧ n ≤ 102 then some (n - 87)
  else none

/-- The loop of `percent_decode_path` over the bytes that are left. -/
def percentDecodeBytes : List UInt8 → Except String (List UInt8)
  | [] => .ok []
  | byte :: rest =>
    if byte = 0x25 then
      match rest with
      | high :: low :: rest =>
        match toDigit (Char.ofNat high.toNat), toDigit (Char.ofNat low.toNat) with
        | some high, some low =>
          (percentDecodeBytes rest).map (UInt8.ofNat (high <<< 4 ||| low) :: ·)
        | _, _ => .error "invalid file URI escape"
      | _ => .error "invalid file URI escape"
    else (percentDecodeBytes rest).map (byte :: ·)

def percentDecodePath (value : String) : Except String String :=
  match percentDecodeBytes value.toByteArray.data.toList with
  | .error message => .error message
  | .ok decoded =>
    match String.fromUTF8? decoded.toByteArray with
    | none => .error "file URI is not valid UTF-8"
    | some decoded => .ok decoded

/-- `uri.split_once('/').unwrap_or((uri, ""))`. -/
def splitAuthority (uri : String) : String × String :=
  (String.ofList (uri.toList.takeWhile (· ≠ '/')),
    String.ofList ((uri.toList.dropWhile (· ≠ '/')).drop 1))

def parseSingleDroppedPath (raw : String) : Except String PathBuf := do
  if raw.toList.any isControl then throw "dropped local file path is invalid"
  let path ← match stripPrefix "file://" raw with
    | none => pure raw
    | some uri =>
      let (authority, encodedPath) := splitAuthority uri
      if authority ≠ "" ∧ eqIgnoreAsciiCase authority "localhost" = false then
        throw "remote file URI hosts are not accepted"
      percentDecodePath ("/" ++ encodedPath)
  if path = "" then throw "dropped local file path is empty"
  return path

/-- The loop of `parse_dropped_local_paths` over the lines that are left; the paths seen so far are
    those that were kept. -/
def collectPaths : List String → List PathBuf → Except String (List PathBuf)
  | [], paths => .ok paths
  | raw :: lines, paths =>
    if trim raw = "" then collectPaths lines paths
    else
      match parseSingleDroppedPath (trim raw) with
      | .error message => .error message
      | .ok path => collectPaths lines (FirstSeen.push pathComponents paths path)

/-- The characters that `parse_dropped_local_paths` splits at. -/
def isBreak (c : Char) : Bool := c == '\n' || c == '\r'

def parseDroppedLocalPaths (text : String) : Except String (List PathBuf) :=
  match collectPaths ((text.toList.splitOnP isBreak).map String.ofList) [] with
  | .error message => .error message
  | .ok [] => .error "dropped data did not contain a local file path"
  | .ok paths => .ok paths

def parseSftpDragPayload (text : String) : Except String SftpDragPayload :=
  match stripPrefix remoteDragPrefix text with
  | some path =>
    if path = "" ∨ path.toList.any isControl = true then .error "dropped remote path is invalid"
    else .ok (.remote path)
  | none =>
    match parseDroppedLocalPaths ((stripPrefix localDragPrefix text).getD text) with
    | .error message => .error message
    | .ok paths => .ok (.local paths)

end AxSsh.DragPayloads
