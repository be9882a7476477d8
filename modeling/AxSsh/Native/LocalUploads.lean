import AxSsh.ForStd.StackLoop
import AxSsh.Native.DownloadDiscovery

/-!
# Discovery of local uploads

`discover_local_uploads_streaming` of `app/local_files/upload.rs`.

The local files are what `symlink_metadata` and `read_dir` answer; an error of the system is its
text, and an error of the discovery is its outermost message.  A `PathBuf` is the list of the names
in it, `debug` its `{:?}` form.  The receiver takes any number of files, or goes away after some.
The id of a prepared upload is left out.
-/

namespace AxSsh

namespace LocalUploads

/-! ## Local files -/

/-- An `OsString`, which is UTF-8 or not. -/
inductive OsName where
  | utf8 (text : List Char)
  | other (bytes : List UInt8)
deriving DecidableEq, Repr

abbrev LocalPath := List OsName

inductive FileType where
  | symlink
  | directory
  | file (size : Nat)
  | other
deriving DecidableEq, Repr

structure LocalFiles where
  symlinkMetadata : LocalPath → Except String FileType
  readDir : LocalPath → Except String (List (Except String OsName))

def fileName (path : LocalPath) : Option OsName :=
  path.getLast?.filter fun name => name ≠ .utf8 ['.', '.'] && name ≠ .utf8 ['.']

def OsName.toStr : OsName → Option (List Char)
  | utf8 text => some text
  | other _ => none

def uploadLocalName (path : LocalPath) : Except String (List Char) :=
  let value := ((fileName path).bind OsName.toStr).filter fun value =>
    value ≠ [] && value ≠ ['.'] && value ≠ ['.', '.']
  match value with
  | none => .error "local upload path has no valid UTF-8 name"
  | some name =>
    if name.any isControl || name.any (fun c => c == '/' || c == '\\') then
      .error "local upload name is invalid"
    else .ok name

/-! ## Discovery -/

def joinRemoteUploadPath (directory : RemotePath) (name : List Char) : RemotePath :=
  if directory = ['/'] ∨ directory = [] then '/' :: name
  else trimEndMatches '/' directory ++ '/' :: name

structure PreparedLocalUpload where
  localPath : LocalPath
  remotePath : RemotePath
  remoteDirectories : List RemotePath
  size : Nat
deriving DecidableEq, Repr

structure UploadDiscoverySummary where
  discoveredFiles : Nat := 0
  skippedEntries : Nat := 0
  firstIssue : Option String := none
deriving DecidableEq, Repr

/-- The summary so far, and what has been sent to the receiver. -/
structure Progress where
  summary : UploadDiscoverySummary := {}
  sent : List PreparedLocalUpload := []
deriving DecidableEq, Repr

def recordUploadDiscoveryIssue (issue : String) (progress : Progress) : Progress :=
  { progress with
    summary := { progress.summary with
      skippedEntries := saturatingSucc progress.summary.skippedEntries
      firstIssue := progress.summary.firstIssue.or (some issue) } }

inductive UploadDirectoryNode where
  | mk (remotePath : RemotePath) (parent : Option UploadDirectoryNode)

def UploadDirectoryNode.remotePath : UploadDirectoryNode → RemotePath
  | mk path _ => path

/-- The loop from a node to its ancestors. -/
def UploadDirectoryNode.ancestorPaths : UploadDirectoryNode → List RemotePath
  | mk remotePath none => [remotePath]
  | mk remotePath (some parent) => remotePath :: parent.ancestorPaths

inductive UploadWalkFrame where
  | visit (path : LocalPath) (parent : Option UploadDirectoryNode)
  /-- An iterator with the entries that are left. -/
  | readDirectory (path : LocalPath) (entries : List (Except String OsName))
      (parent : UploadDirectoryNode)

/-- What the discovery is called with, and where. -/
structure Scan where
  files : LocalFiles
  debug : LocalPath → String
  remoteDirectory : RemotePath
  filters : List (List Char)
  /-- How many files the receiver takes before it goes away. -/
  taken : Option Nat := none

variable (scan : Scan)

/-- `Sender::blocking_send` and the count after it. -/
def send (file : PreparedLocalUpload) (progress : Progress) : Except String Unit × Progress :=
  if scan.taken.all (progress.sent.length < ·) then
    (.ok (), {
      sent := progress.sent ++ [file]
      summary := { progress.summary with
        discoveredFiles := saturatingSucc progress.summary.discoveredFiles } })
  else (.error "SFTP upload queue stopped during local discovery", progress)

/-- The branch of the loop for `UploadWalkFrame::Visit`. -/
def visit (path : LocalPath) (parent : Option UploadDirectoryNode) (progress : Progress) :
    Except String (List UploadWalkFrame) × Progress :=
  let skip (issue : String) : Except String (List UploadWalkFrame) × Progress :=
    (.ok [], recordUploadDiscoveryIssue (issue ++ scan.debug path) progress)
  match scan.files.symlinkMetadata path with
  | .error _ => skip "cannot inspect local upload path "
  | .ok fileType =>
    if fileType = .symlink then skip "local upload tree contains a symbolic link: "
    else
      match uploadLocalName path with
      | .error _ => skip "invalid local upload path "
      | .ok name =>
        if transferNameMatchesFilter name scan.filters then skip "Excluded by transfer filter: "
        else
          let directory := (parent.map (·.remotePath)).getD scan.remoteDirectory
          match fileType with
          | .directory =>
            let node := UploadDirectoryNode.mk (joinRemoteUploadPath directory name) parent
            match scan.files.readDir path with
            | .ok entries => (.ok [.readDirectory path entries node], progress)
            | .error _ => skip "cannot read local upload directory "
          | .file size =>
            let file := {
              localPath := path
              remotePath := joinRemoteUploadPath directory name
              remoteDirectories := ((parent.map (·.ancestorPaths)).getD []).reverse
              size }
            match send scan file progress with
            | (.ok (), progress) => (.ok [], progress)
            | (.error e, progress) => (.error e, progress)
          | _ => skip "local upload tree contains an unsupported file type: "

/-- The body of the loop: the frames it pushes, from the top of the stack. -/
def step : UploadWalkFrame → Progress → Except String (List UploadWalkFrame) × Progress
  | .readDirectory _ [] _, progress => (.ok [], progress)
  | .readDirectory path (.ok name :: entries) parent, progress =>
    (.ok [.visit (path ++ [name]) (some parent), .readDirectory path entries parent], progress)
  | .readDirectory path (.error e :: entries) parent, progress =>
    (.ok [.readDirectory path entries parent],
      recordUploadDiscoveryIssue ("cannot read local upload directory: " ++ e) progress)
  | .visit path parent, progress => visit scan path parent progress

/-- The loop over the roots, the last one first. -/
def pushRoots (paths : List LocalPath) : List UploadWalkFrame × Progress :=
  paths.reverse.foldl (fun (stack, progress) path =>
    match uploadLocalName path with
    | .error _ =>
      (stack, recordUploadDiscoveryIssue ("invalid local upload root " ++ scan.debug path) progress)
    | .ok _ => (.visit path none :: stack, progress)) ([], {})

/-- `discover_local_uploads_streaming` with a bound for the rounds of the loop: its result, and the
    files it has sent. -/
def discoverLocalUploadsStreaming (fuel : Nat) (paths : List LocalPath) :
    Option (Except String UploadDiscoverySummary × List PreparedLocalUpload) :=
  let (stack, progress) := pushRoots scan paths
  (StackLoop.run (step scan) fuel stack progress).map fun (result, progress) =>
    (result.map fun _ => progress.summary, progress.sent)

end LocalUploads

end AxSsh
