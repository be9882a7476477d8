import AxSsh.ForStd.Dialogue
import AxSsh.Native.RemoteEdit
import AxSsh.Native.UploadPublication

/-!
# Reading and publishing a remote edit

`read_edit_file` and `write_edit_file` of `sftp/edit.rs`, with `write_remote_bytes` of `sftp.rs`.

Each request of a run happens once, and the server is the function of its answers.  A request in a
window moves on its own: it is said to be sent where it is pushed, and its answer and what it sends
after it where its result is taken.  Of an error only the outermost context is left, and the text
of `Uuid::new_v4` is an argument.  Encoding two paths does not fail.
-/

namespace AxSsh

namespace SftpEdit

/-! ## The server -/

/-- `FileAttributes`, with what `is_symlink` and `is_regular` say of it. -/
structure FileAttributes where
  size : Option Nat
  mtime : Option Nat
  permissions : Option Nat
  symlink : Bool
  regular : Bool
deriving DecidableEq, Repr

inductive EditRequest where
  | lstat (path : RemotePath)
  /-- With `READ`. -/
  | openRead (path : RemotePath)
  /-- With `CREATE | EXCLUDE | WRITE`, and `0o600` for its permissions. -/
  | openNew (path : RemotePath)
  | fstat (handle : String)
  | read (handle : String) (offset length : Nat)
  | write (handle : String) (offset : Nat) (data : FileData)
  | fsetstat (handle : String) (permissions : Nat)
  | close (handle : String)
  | posixRename (source target : RemotePath)
  | remove (path : RemotePath)
deriving DecidableEq, Repr

inductive StatusCode where
  | ok
  | eof
  | other
deriving DecidableEq, Repr

inductive SftpPacket where
  | status (code : StatusCode)
  | attrs (attributes : FileAttributes)
  | handle (handle : String)
  | data (data : FileData)
  | other
deriving DecidableEq, Repr

inductive SftpAnswer where
  | timedOut
  /-- An error of the client, such as a closed transport. -/
  | failed
  | reply (packet : SftpPacket)
deriving DecidableEq, Repr

/-- The requests of one run: a write by the index of its chunk, a read by its offset. -/
inductive EditStep where
  | inspect
  | openFile
  | checkHandle
  | read (offset : Nat)
  | confirmHandle
  | write (index : Nat)
  | setPermissions
  | close
  | recheck
  | publish
  | verify
  | cleanup
deriving DecidableEq, Repr

abbrev EditServer := EditStep → SftpAnswer

inductive EditEvent where
  | sent (request : EditRequest)
  | answered (request : EditRequest) (answer : SftpAnswer)
deriving DecidableEq, Repr

inductive EditError where
  | text (message : String)
  /-- The error of the client without a context. -/
  | client
deriving DecidableEq, Repr

abbrev EditProgram := Dialogue EditError EditEvent

namespace SftpPacket

def done? : SftpPacket → Option Unit
  | .status .ok => some ()
  | _ => none

def attrs? : SftpPacket → Option FileAttributes
  | .attrs attributes => some attributes
  | _ => none

def handle? : SftpPacket → Option String
  | .handle name => some name
  | _ => none

def data? : SftpPacket → Option FileData
  | .data bytes => some bytes
  | _ => none

end SftpPacket

/-- What a method of the client returns within its timeout. -/
def SftpAnswer.expect {α : Type} (take : SftpPacket → Option α) (late wrong : EditError) :
    SftpAnswer → Except EditError α
  | .timedOut => .error late
  | .failed => .error wrong
  | .reply packet =>
    match take packet with
    | some value => .ok value
    | none => .error wrong

section Programs

open Dialogue (say lift attempt)

variable (server : EditServer)

/-- A request that was sent before is answered. -/
def receive {α : Type} (step : EditStep) (request : EditRequest) (take : SftpPacket → Option α)
    (late wrong : EditError) : EditProgram α :=
  ⟨(server step).expect take late wrong, [.answered request (server step)]⟩

def ask {α : Type} (step : EditStep) (request : EditRequest) (take : SftpPacket → Option α)
    (late wrong : EditError) : EditProgram α :=
  ⟨(server step).expect take late wrong, [.sent request, .answered request (server step)]⟩

def bailIf (condition : Bool) (message : String) : Except EditError Unit :=
  if condition then .error (.text message) else .ok ()

/-! ## Checks -/

def validateRemotePath (path : RemotePath) : Except EditError Unit :=
  bailIf (path.any isControl) "remote path cannot contain control characters"

def validateAttributes (attrs : FileAttributes) : Except EditError Unit := do
  bailIf (attrs.symlink || !attrs.regular) "external editing requires a regular remote file"
  bailIf attrs.size.isNone "server did not provide the edit file size"

def attributes (step : EditStep) (path : RemotePath) : EditProgram FileAttributes := do
  lift (validateRemotePath path)
  let attrs ← ask server step (.lstat path) SftpPacket.attrs?
    (.text "SFTP edit metadata check timed out") (.text "cannot inspect remote edit file")
  lift (validateAttributes attrs)
  pure attrs

def requireFingerprint (attrs : FileAttributes) (size : Nat) (modified : Option Nat) :
    Except EditError Unit := do
  validateAttributes attrs
  bailIf (attrs.size != some size || attrs.mtime != modified)
    "remote file changed since it was opened; edit was rejected"

def maxSftpRemoteEditMaxFileMib : Nat := 64

def validateEditLimit (maxBytes : Nat) : Except EditError Unit :=
  bailIf (!(decide (1024 * 1024 ≤ maxBytes) &&
      decide (maxBytes ≤ maxSftpRemoteEditMaxFileMib * 1024 * 1024)))
    "remote edit size limit is outside the supported 1–64 MiB range"

def chunkBytes : Nat := 64 * 1024

inductive SftpWriteResult where
  | editFile (path : RemotePath) (data : FileData) (expectedSize : Nat)
      (expectedModified : Option Nat)
  | updated (path : RemotePath) (size : Nat) (modified : Option Nat)
deriving DecidableEq, Repr

/-! ## Reading -/

/-- The pushes into the window: its room, how much is queued, and the ranges in it. -/
def fillWindow (handle : String) (size : Nat) :
    Nat → Nat → List (Nat × Nat) → EditProgram (Nat × List (Nat × Nat))
  | 0, queued, window => pure (queued, window)
  | room + 1, queued, window =>
    if queued < size then do
      let length := min (size - queued) chunkBytes
      say (.sent (.read handle queued length))
      fillWindow handle size room (queued + length) (window ++ [(queued, length)])
    else pure (queued, window)

/-- One future of the window, from its first reply on.  Every reply has a byte, so `length` rounds
    are enough. -/
def readChunk (handle : String) (start length : Nat) : Nat → FileData → EditProgram FileData
  | 0, chunk => pure chunk
  | rounds + 1, chunk =>
    if chunk.length < length then do
      let remaining := length - chunk.length
      let offset := start + chunk.length
      let read := if chunk = [] then receive server (α := FileData) else ask server
      let data ← read (.read offset) (.read handle offset remaining) SftpPacket.data?
        (.text "SFTP edit read timed out")
        (.text "remote edit file ended before its validated size")
      lift (bailIf (data.isEmpty || decide (remaining < data.length))
        "remote edit file returned an invalid read length")
      readChunk handle start length rounds (chunk ++ data)
    else pure chunk

/-- The loop over the chunks.  Every chunk has a byte, so `size` rounds are enough. -/
def readChunks (handle : String) (size : Nat) :
    Nat → Nat → List (Nat × Nat) → FileData → EditProgram FileData
  | 0, _, _, data => pure data
  | rounds + 1, queued, window, data =>
    if data.length < size then do
      let (queued, window) ←
        fillWindow handle size (requestWindow - window.length) queued window
      match window with
      | [] => lift (.error (.text "missing SFTP edit read reply"))
      | (start, length) :: rest =>
        let chunk ← readChunk server handle start length length []
        readChunks handle size rounds queued rest (data ++ chunk)
    else pure data

/-- What `read_edit_file` does with its handle. -/
def readOpened (path : RemotePath) (handle : String) (size : Nat) (modified : Option Nat) :
    EditProgram SftpWriteResult := do
  let opened ← ask server .checkHandle (.fstat handle) SftpPacket.attrs?
    (.text "SFTP edit handle check timed out") .client
  lift (requireFingerprint opened size modified)
  let data ← readChunks server handle size size 0 [] []
  ask server (.read size) (.read handle size 1)
    (fun packet => if packet = .status .eof then some () else none)
    (.text "remote edit file did not end at its validated size")
    (.text "remote edit file did not end at its validated size")
  let finished ← ask server .confirmHandle (.fstat handle) SftpPacket.attrs?
    (.text "SFTP edit final handle check timed out") .client
  lift (requireFingerprint finished size modified)
  let current ← attributes server .recheck path
  lift (requireFingerprint current size modified)
  pure (.editFile path data size modified)

def closeFile (handle late wrong : String) : EditProgram Unit :=
  ask server .close (.close handle) SftpPacket.done? (.text late) (.text wrong)

/-- The part of `read_edit_file` before the file is opened. -/
def inspectEdit (path : RemotePath) (maxBytes : Nat) : EditProgram (FileAttributes × Nat) := do
  lift (validateEditLimit maxBytes)
  let initial ← attributes server .inspect path
  let size ← lift <| match initial.size with
    | some size => .ok size
    | none => .error (.text "missing edit size")
  lift (bailIf (decide (maxBytes < size)) s!"remote file exceeds the {maxBytes}-byte edit limit")
  pure (initial, size)

def readEditFile (path : RemotePath) (maxBytes : Nat) : EditProgram SftpWriteResult := do
  let (initial, size) ← inspectEdit server path maxBytes
  let handle ← ask server .openFile (.openRead path) SftpPacket.handle?
    (.text "SFTP edit open timed out") (.text "cannot open remote edit file")
  let result ← attempt (readOpened server path handle size initial.mtime)
  let closed ← attempt (closeFile server handle "closing remote edit file timed out"
    "cannot close remote edit file")
  lift (result.bind fun value => closed.map fun _ => value)

/-! ## Writing -/

/-- `data.chunks(64 * 1024)`, by their indices. -/
def chunkCount (data : FileData) : Nat := (data.length + chunkBytes - 1) / chunkBytes

def chunkAt (data : FileData) (index : Nat) : FileData :=
  (data.drop (index * chunkBytes)).take chunkBytes

def writeRequest (handle : String) (data : FileData) (index : Nat) : EditRequest :=
  .write handle (index * chunkBytes) (chunkAt data index)

/-- The result of the first request of the window. -/
def acknowledge (handle : String) (data : FileData) (index : Nat) : EditProgram Unit :=
  receive server (.write index) (writeRequest handle data index) SftpPacket.done?
    (.text "SFTP write timed out") (.text "SFTP write failed")

/-- The rest of the window after the last push. -/
def drainWindow (handle : String) (data : FileData) : List Nat → EditProgram Unit
  | [] => pure ()
  | index :: window => do
    acknowledge server handle data index
    drainWindow handle data window

/-- A full window gives the result of its first request. -/
def makeRoom (handle : String) (data : FileData) (window : List Nat) : EditProgram (List Nat) :=
  if window.length = requestWindow then
    match window with
    | [] => lift (.error (.text "missing SFTP write acknowledgement"))
    | first :: rest => do
      acknowledge server handle data first
      pure rest
  else pure window

/-- The loop of `write_remote_bytes` over the indices that are left. -/
def writeChunks (handle : String) (data : FileData) : List Nat → List Nat → EditProgram Unit
  | [], window => drainWindow server handle data window
  | index :: rest, window => do
    let window ← makeRoom server handle data window
    say (.sent (writeRequest handle data index))
    writeChunks handle data rest (window ++ [index])

def writeRemoteBytes (handle : String) (data : FileData) : EditProgram Unit :=
  writeChunks server handle data (List.range (chunkCount data)) []

/-- What `write_edit_file` does with its handle. -/
def writeTemporary (handle : String) (data : FileData) (permissions : Option Nat) :
    EditProgram Unit := do
  writeRemoteBytes server handle data
  match permissions with
  | some permissions =>
    ask server .setPermissions (.fsetstat handle (permissions &&& 0o777)) SftpPacket.done?
      (.text "SFTP edit permission update timed out")
      (.text "cannot preserve remote edit permissions")
  | none => pure ()

variable (edit : EditWrite)

/-- The part of `write_edit_file` before the temporary file, with the attributes of the target and
    the name of the temporary file. -/
def prepareEdit (posixRename : Option String) (uuid : List Char) :
    EditProgram (FileAttributes × RemotePath) := do
  let path := edit.path.toList
  lift (validateEditLimit edit.maxBytes)
  lift (bailIf (decide (edit.maxBytes < edit.data.length))
    s!"edited file exceeds the {edit.maxBytes}-byte edit limit")
  let original ← attributes server .inspect path
  lift (requireFingerprint original edit.expectedSize edit.expectedModified)
  lift (bailIf (posixRename != some "1")
    "server does not support atomic SFTP overwrite; local edit is retained")
  let temporary ← lift <| match rsplitOnce '/' path with
    | some (parent, _) => .ok (parent ++ "/.axssh-edit-".toList ++ uuid)
    | none => .error (.text "remote edit path must be absolute")
  pure (original, temporary)

/-- The rename, and the inspection of what it published. -/
def renameEdit (temporary : RemotePath) : EditProgram SftpWriteResult := do
  let path := edit.path.toList
  let packet ← ask server .publish (.posixRename temporary path) some
    (.text "SFTP edit publication timed out") (.text "cannot publish edited remote file")
  lift (bailIf (packet != .status .ok) "atomic edit publication failed")
  let saved ← attributes server .verify path
  lift (bailIf (saved.size != some edit.data.length) "remote edit size changed after publication")
  pure (.updated path edit.data.length saved.mtime)

/-- The part of `write_edit_file` after the temporary file is closed. -/
def publishEdit (original : FileAttributes) (temporary : RemotePath)
    (written closed : Except EditError Unit) : EditProgram SftpWriteResult := do
  lift (written.bind fun _ => closed)
  let current ← attributes server .recheck edit.path.toList
  lift (requireFingerprint current edit.expectedSize edit.expectedModified)
  lift (bailIf (current.permissions != original.permissions)
    "remote permissions changed before edit publication")
  renameEdit server edit temporary

/-- `write_edit_file` from the open temporary file on. -/
def finishEdit (original : FileAttributes) (temporary : RemotePath) (handle : String) :
    EditProgram SftpWriteResult := do
  let written ← attempt (writeTemporary server handle edit.data original.permissions)
  let closed ← attempt (closeFile server handle "SFTP edit temporary close timed out"
    "cannot close temporary remote edit file")
  let published ← attempt (publishEdit server edit original temporary written closed)
  if published.isOk then
    lift published
  else do
    -- a failed cleanup only goes to the program's log
    let _ ← attempt (ask server .cleanup (.remove temporary) SftpPacket.done?
      (.text "temporary edit cleanup timed out") (.text "cannot remove temporary edit file"))
    lift published

def writeEditFile (posixRename : Option String) (uuid : List Char) :
    EditProgram SftpWriteResult := do
  let (original, temporary) ← prepareEdit server edit posixRename uuid
  let handle ← ask server .openFile (.openNew temporary) SftpPacket.handle?
    (.text "SFTP edit temporary open timed out") (.text "cannot create temporary remote edit file")
  finishEdit server edit original temporary handle

end Programs

end SftpEdit

end AxSsh
