import AxSsh.ForStd.Faulty
import AxSsh.Native.UploadPublication

/-!
# Atomic file replacement

`write_user_file_atomically` and `write_private_file_atomically` of `config/persistence.rs`, and
`atomic_replace` of `ssh/known_hosts.rs`, as they are built for Unix.

The disk has files and directories, and every call on it is one that may fail.  A call without a
context keeps the message of the system, of which only the name of the call is left here.
`Uuid::new_v4` is a stream of names.
-/

namespace AxSsh

namespace Persistence

open Faulty (call fail attempt reliably)
/-! ## The disk -/

/-- The components of a path; that of the working directory has none. -/
abbrev DiskPath := List (List Char)

inductive Entry where
  | file (bytes : List UInt8) (mode : Nat)
  | directory (mode : Nat)
deriving DecidableEq

structure Disk where
  entries : DiskPath → Option Entry
  /-- Whether a file may be removed from its directory. -/
  mayRemove : DiskPath → Bool

namespace Disk

def set (disk : Disk) (path : DiskPath) (entry : Option Entry) : Disk :=
  { disk with entries := Function.update disk.entries path entry }

def isDirectory (disk : Disk) (path : DiskPath) : Bool :=
  match disk.entries path with
  | some (.directory _) => true
  | _ => false

def isFile (disk : Disk) (path : DiskPath) : Bool :=
  match disk.entries path with
  | some (.file _ _) => true
  | _ => false

end Disk

def parent (path : DiskPath) : Option DiskPath := if path = [] then none else some path.dropLast

def fileName (path : DiskPath) : Option (List Char) :=
  match path.getLast? with
  | none => none
  | some name => if name = ['.', '.'] then none else some name

def display (path : DiskPath) : String := String.ofList (List.intercalate ['/'] path)

/-! ## The calls -/

def createDirAll (message : String) (path : DiskPath) : Faulty Disk Unit :=
  call message fun disk =>
    if path.inits.any disk.isFile then .error message
    else
      let entries := fun p =>
        if path.inits.contains p && (disk.entries p).isNone then some (.directory 0o755)
        else disk.entries p
      .ok ((), { disk with entries := entries })

/-- The mode of a path, `fs::metadata`. -/
def metadata (message : String) (path : DiskPath) : Faulty Disk Nat :=
  call message fun disk =>
    match disk.entries path with
    | some (.file _ mode) => .ok (mode, disk)
    | some (.directory mode) => .ok (mode, disk)
    | none => .error message

def setPermissions (message : String) (path : DiskPath) (mode : Nat) : Faulty Disk Unit :=
  call message fun disk =>
    match disk.entries path with
    | some (.file bytes _) => .ok ((), disk.set path (some (.file bytes mode)))
    | some (.directory _) => .ok ((), disk.set path (some (.directory mode)))
    | none => .error message

/-- `OpenOptions::open` with `create_new`; the result is `false` for `AlreadyExists`. -/
def createNew (message : String) (path : DiskPath) (mode : Nat) : Faulty Disk Bool :=
  call message fun disk =>
    if (disk.entries path).isSome then .ok (false, disk)
    else if (parent path).any disk.isDirectory then
      .ok (true, disk.set path (some (.file [] mode)))
    else .error message

/-- `File::metadata` of an open file, of which only `is_file` is asked. -/
def openedIsFile (message : String) (path : DiskPath) : Faulty Disk Bool :=
  call message fun disk => .ok (disk.isFile path, disk)

/-- `write_all` may fail at each of the bytes, and those before it are then written. -/
def writeAll (message : String) (path : DiskPath) : List UInt8 → Faulty Disk Unit
  | [] => pure ()
  | byte :: bytes => do
    call message fun disk =>
      match disk.entries path with
      | some (.file written mode) =>
        .ok ((), disk.set path (some (.file (written ++ [byte]) mode)))
      | _ => .error message
    writeAll message path bytes

def syncAll (message : String) : Faulty Disk Unit := call message fun disk => .ok ((), disk)

def rename (message : String) (source target : DiskPath) : Faulty Disk Unit :=
  call message fun disk =>
    if source = target then .ok ((), disk)
    else if (disk.entries source).isNone || disk.isDirectory target then .error message
    else .ok ((), (disk.set target (disk.entries source)).set source none)

/-- Removing a file fails where that is not permitted. -/
def removeFile (path : DiskPath) : Faulty Disk Unit :=
  reliably <| call "remove_file" fun disk =>
    if disk.mayRemove path && disk.isFile path then .ok ((), disk.set path none)
    else .error "remove_file"

/-! ## `config/persistence.rs` -/

def cleanupTemporaryFile (path : DiskPath) : Faulty Disk Unit := do
  let _ ← attempt (removeFile path)
  pure ()

def setPrivateDirectoryPermissions (path : DiskPath) : Faulty Disk Unit := do
  let mode ← metadata ("failed to inspect private directory " ++ display path) path
  if mode % 0o10000 = 0o700 then pure ()
  else setPermissions ("failed to restrict private directory " ++ display path) path 0o700

def setPrivateFilePermissions (path : DiskPath) : Faulty Disk Unit :=
  setPermissions ("failed to restrict private file " ++ display path) path 0o600

def syncParentDirectory (path : DiskPath) : Faulty Disk Unit :=
  syncAll ("failed to sync persistence directory " ++ display path)

def temporaryName (fileName uuid : List Char) : List Char :=
  ['.'] ++ fileName ++ (['.'] ++ uuid ++ ['.', 't', 'm', 'p'])

/-- The loop of `create_private_temporary_file`, over the names that are left to try. -/
def tryTemporaryNames (directory : DiskPath) (fileName : List Char) :
    List (List Char) → Faulty Disk DiskPath
  | [] => fail "failed to allocate a unique private persistence temporary file"
  | uuid :: uuids => do
    let temporary := directory ++ [temporaryName fileName uuid]
    let created ← createNew ("failed to create " ++ display temporary) temporary 0o600
    if created then
      match ← attempt (openedIsFile ("failed to inspect " ++ display temporary) temporary) with
      | .error e => do
        cleanupTemporaryFile temporary
        fail e
      | .ok false => do
        cleanupTemporaryFile temporary
        fail ("private persistence temporary path is not a regular file: " ++ display temporary)
      | .ok true => pure temporary
    else tryTemporaryNames directory fileName uuids

def createPrivateTemporaryFile (newUuid : Nat → List Char) (path : DiskPath) :
    Faulty Disk DiskPath :=
  match fileName path with
  | none => fail "private persistence path must include a file name"
  | some name => tryTemporaryNames ((parent path).getD []) name ((List.range 8).map newUuid)

/-- The life of a `TemporaryPath`: dropping it after a failure removes the file, and a success
    disarms it. -/
def withTemporaryPath (temporary : DiskPath) (body : Faulty Disk Unit) : Faulty Disk Unit := do
  match ← attempt body with
  | .ok () => pure ()
  | .error e => do
    cleanupTemporaryFile temporary
    fail e

def writeFileContentsWithSync (newUuid : Nat → List Char) (path : DiskPath) (bytes : List UInt8)
    (directory : Option DiskPath) (syncParent : DiskPath → Faulty Disk Unit) :
    Faulty Disk Unit := do
  let temporary ← createPrivateTemporaryFile newUuid path
  withTemporaryPath temporary do
    setPrivateFilePermissions temporary
    writeAll ("failed to write " ++ display temporary) temporary bytes
    syncAll ("failed to write " ++ display temporary)
    rename ("failed to atomically replace " ++ display path ++ " with " ++ display temporary)
      temporary path
  match directory with
  | some directory => syncParent directory
  | none => pure ()

def writeFileContentsAtomically (newUuid : Nat → List Char) (path : DiskPath)
    (bytes : List UInt8) (directory : Option DiskPath) : Faulty Disk Unit :=
  writeFileContentsWithSync newUuid path bytes directory syncParentDirectory

def writeUserFileAtomically (newUuid : Nat → List Char) (path : DiskPath) (bytes : List UInt8) :
    Faulty Disk Unit := do
  let directory := (parent path).getD []
  createDirAll ("failed to create " ++ display directory) directory
  writeFileContentsAtomically newUuid path bytes (some directory)

def writePrivateFileAtomically (newUuid : Nat → List Char) (path : DiskPath)
    (bytes : List UInt8) : Faulty Disk Unit := do
  match parent path with
  | some directory => do
    createDirAll ("failed to create " ++ display directory) directory
    setPrivateDirectoryPermissions directory
    writeFileContentsAtomically newUuid path bytes (some directory)
  | none => writeFileContentsAtomically newUuid path bytes none

end Persistence

/-! ## `ssh/known_hosts.rs` -/

namespace KnownHostsFile

open Persistence Faulty

/-- What stands before the last dot of a name, unless that dot is its first character. -/
def fileStem (name : List Char) : List Char :=
  match rsplitOnce '.' name with
  | none => name
  | some (before, _) => if before = [] then name else before

/-- `Path::with_extension`, for an extension that is not empty. -/
def withExtension (path : DiskPath) (extension : List Char) : DiskPath :=
  match fileName path with
  | none => path
  | some name => path.dropLast ++ [fileStem name ++ '.' :: extension]

def temporaryPath (path : DiskPath) (uuid : List Char) : DiskPath :=
  withExtension path (['t', 'm', 'p', '-'] ++ uuid)

def atomicReplace (uuid : List Char) (path : DiskPath) (bytes : List UInt8) :
    Faulty Disk Unit := do
  let temporary := temporaryPath path uuid
  let created ← createNew "open" temporary 0o644
  if created then do
    writeAll "write_all" temporary bytes
    syncAll "sync_all"
    setPermissions "set_permissions" temporary 0o600
    rename ("cannot replace " ++ display path) temporary path
  else fail "open"

end KnownHostsFile

end AxSsh
