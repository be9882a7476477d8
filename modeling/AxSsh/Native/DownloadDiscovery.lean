import AxSsh.Native.KnownHosts
import AxSsh.Native.RemoteBrowser
import AxSsh.Native.UiRefresh
import AxSsh.Native.UploadPublication

/-!
# Recursive downloads

The discovery of the files below a remote directory in `sftp/transfer/discovery.rs`, with the
transfer filters, `SftpDownloadRoot` and `SftpDownloadRequest` of `sftp/transfer.rs`, and the local
targets of `sftp/transfer/local.rs`.

Texts are lists of characters.  A `PathBuf` is the list of its components, by which `std::path`
compares paths; `windows` says by which rules a text is read as one.  Verbatim and network prefixes
of Windows, which begin with a separator, are left out.  `debug` is the `{:?}` form of a string, and
`childId` is `stable_child_transfer_id`.

The namespace `Downloads` has the requests and roots as their constructors check them; the types of
these names outside it are what the transfer loop of a worker reads of them.

An error is its outermost message.  Discovery goes through its loop once for each `Answers`: what
the server, the local file system and the receiver of the requests do in that round.
-/

namespace AxSsh

open TextLines

/-! ## Transfer filters -/

/-- The loop of `wildcard_matches`, with what is left of the pattern and of the value. -/
def wildcardFrom (pattern value : List UInt8) (star : Option StarPoint)
    (hstar : ∀ s, star = some s →
      pattern.length ≤ s.1.length ∧ value.length ≤ s.2.length) : Bool :=
  let retry : Bool :=
    match hs : star with
    | some (afterStar, _ :: backtrack) =>
      wildcardFrom afterStar backtrack (some (afterStar, backtrack))
        (by intro s h; cases h; exact ⟨Nat.le_refl _, Nat.le_refl _⟩)
    | _ => false
  match hv : value with
  | [] => pattern.all (· == '*'.toUInt8)
  | v :: value' =>
    match hp : pattern with
    | [] => retry
    | p :: pattern' =>
      if p ≠ '*'.toUInt8 ∧ p = v then
        wildcardFrom pattern' value' star (by
          intro s h
          have hs := hstar s h
          simp only [List.length_cons] at hs
          omega)
      else if p = '*'.toUInt8 then
        wildcardFrom pattern' (v :: value') (some (pattern', v :: value'))
          (by intro s h; cases h; exact ⟨Nat.le_refl _, Nat.le_refl _⟩)
      else retry
termination_by
  ((star.map fun s => s.1.length).getD (pattern.length + 1),
    (star.map fun s => s.2.length).getD 0, value.length)
decreasing_by
  · subst hs
    simp only [Option.map_some, Option.getD_some]
    refine Prod.Lex.right _ (Prod.Lex.left _ _ ?_)
    simp
  · subst hp hv
    cases star with
    | none =>
      simp only [Option.map_none, Option.getD_none]
      exact Prod.Lex.left _ _ (by simp)
    | some s => exact Prod.Lex.right _ (Prod.Lex.right _ (by simp))
  · subst hp hv
    refine Prod.Lex.left _ _ ?_
    cases star with
    | none =>
      simp only [Option.map_some, Option.map_none, Option.getD_some, Option.getD_none,
        List.length_cons]
      omega
    | some s =>
      have hs := (hstar s rfl).1
      simp only [List.length_cons] at hs
      simp only [Option.map_some, Option.getD_some]
      omega

/-- The loop starts without a wildcard to go back to. -/
theorem noStar_le (pattern value : List Char) (star : StarPoint) (h : none = some star) :
    (bytes pattern).length ≤ star.1.length ∧ (bytes value).length ≤ star.2.length :=
  absurd h.symm (Option.some_ne_none star)

def wildcardMatches (pattern value : List Char) : Bool :=
  wildcardFrom (bytes pattern) (bytes value) none (noStar_le pattern value)

def transferNameMatchesFilter (name : List Char) (patterns : List (List Char)) : Bool :=
  patterns.any (wildcardMatches · name)

namespace Downloads

/-! ## Local paths -/

/-- `std::path::Component`, with a drive as the only prefix. -/
inductive PathComponent where
  | drive (letter : Char)
  | rootDir
  | curDir
  | parentDir
  | normal (name : List Char)
deriving DecidableEq, Repr

abbrev LocalPath := List PathComponent

section Platform

variable (windows : Bool)

def isSeparator (c : Char) : Bool := c == '/' || (windows && c == '\\')

/-- A part between two separators, past the start of a path. -/
def partComponent (part : List Char) : Option PathComponent :=
  if part = [] ∨ part = ['.'] then none
  else if part = ['.', '.'] then some .parentDir
  else some (.normal part)

/-- The components of a path without a drive. -/
def bodyComponents (text : List Char) : LocalPath :=
  let parts := text.splitOnP (isSeparator windows)
  let start : LocalPath :=
    if text.head?.any (isSeparator windows) then [.rootDir]
    else if parts.head? = some ['.'] then [.curDir]
    else []
  start ++ parts.filterMap partComponent

/-- `Path::components`. -/
def componentsOf (text : List Char) : LocalPath :=
  match text with
  | letter :: ':' :: rest =>
    if windows ∧ letter.isAlpha then .drive letter :: bodyComponents windows rest
    else bodyComponents windows text
  | _ => bodyComponents windows text

def PathComponent.isDrive : PathComponent → Bool
  | drive _ => true
  | _ => false

/-- `Path::join`. -/
def joinPath (path : LocalPath) (text : List Char) : LocalPath :=
  match componentsOf windows text with
  | .drive letter :: rest => .drive letter :: rest
  | .rootDir :: rest => path.takeWhile PathComponent.isDrive ++ .rootDir :: rest
  | .curDir :: rest =>
    if path.all PathComponent.isDrive then path ++ .curDir :: rest else path ++ rest
  | components => path ++ components

/-! ## Local targets -/

/-- A check of `validate_local_components`. -/
def isUnsafeComponent (component : List Char) : Bool :=
  component == [] || component == ['.'] || component == ['.', '.'] ||
    component.any (fun c => c == '/' || c == '\\') || component.any isControl ||
    (componentsOf windows component).any fun part =>
      match part with
      | .normal _ => false
      | _ => true

def validateLocalComponents (components : List (List Char)) : Except String Unit :=
  if components = [] then .error "local download path has no file name"
  else if components.any (isUnsafeComponent windows) then
    .error "local download path has an unsafe component"
  else .ok ()

structure LocalDownloadTarget where
  root : LocalPath
  components : List (List Char)
  root_ne : root ≠ []
  valid : validateLocalComponents windows components = .ok ()

namespace LocalDownloadTarget

variable {windows}

def new (root : LocalPath) (components : List (List Char)) :
    Except String (LocalDownloadTarget windows) :=
  if hroot : root = [] then .error "local download directory is empty"
  else
    match hvalid : validateLocalComponents windows components with
    | .error error => .error error
    | .ok () => .ok { root, components, root_ne := hroot, valid := hvalid }

def displayName (target : LocalDownloadTarget windows) : List Char :=
  ['/'].intercalate target.components

def finalPath (target : LocalDownloadTarget windows) : LocalPath :=
  target.components.foldl (joinPath windows) target.root

end LocalDownloadTarget

/-! ## Requests and roots -/

/-- `validate_download_path`, with `validate_remote_path`. -/
def validateDownloadPath (path : List Char) : Except String (List Char) :=
  if path.any isControl then .error "remote path cannot contain control characters"
  else
    let name := lastPart '/' path
    if name = [] ∨ name = ['.'] ∨ name = ['.', '.'] then
      .error "remote download path must name a file"
    else .ok name

structure SftpDownloadRequest where
  transferId : Uuid
  remotePath : List Char
  name : List Char
  totalBytes : Nat
  localTarget : LocalDownloadTarget windows

namespace SftpDownloadRequest

variable {windows}

def forLocalDownload (transferId : Uuid) (remotePath : List Char) (localDirectory : LocalPath)
    (localComponents : List (List Char)) (totalBytes : Nat) :
    Except String (SftpDownloadRequest windows) := do
  let _ ← validateDownloadPath remotePath
  let localTarget ← LocalDownloadTarget.new localDirectory localComponents
  pure { transferId, remotePath, name := localTarget.displayName, totalBytes, localTarget }

end SftpDownloadRequest

end Platform

structure SftpDownloadRoot where
  transferId : Uuid
  remotePath : List Char
  localDirectory : LocalPath
  name : List Char
  filterPatterns : List (List Char)
  expectedDirectory : Bool
  allowExistingLocalDirectories : Bool
  excludedRemotePaths : List (List Char)

namespace SftpDownloadRoot

def isInvalidPattern (pattern : List Char) : Bool :=
  pattern == [] || decide (256 < pattern.length) || pattern.any isControl ||
    pattern.any fun c => c == '/' || c == '\\'

def newWithOptions (transferId : Uuid) (remotePath : List Char) (localDirectory : LocalPath)
    (filterPatterns : List (List Char))
    (expectedDirectory allowExistingLocalDirectories : Bool)
    (excludedRemotePaths : List (List Char)) : Except String SftpDownloadRoot := do
  let name ← validateDownloadPath remotePath
  if localDirectory = [] then .error "local download directory is empty"
  else if 64 < filterPatterns.length ∨ filterPatterns.any isInvalidPattern ∨
      16 * 1024 < (filterPatterns.map List.length).sum then
    .error "SFTP transfer filter patterns are invalid or too large"
  else
    .ok { transferId, remotePath, localDirectory, name, filterPatterns, expectedDirectory,
          allowExistingLocalDirectories, excludedRemotePaths }

def excludesRemotePath (root : SftpDownloadRoot) (path : List Char) : Bool :=
  root.excludedRemotePaths.contains path

end SftpDownloadRoot

/-! ## Discovery -/

/-- What is read of the attributes of a remote file. -/
structure FileAttributes where
  isSymlink : Bool
  isDir : Bool
  isRegular : Bool
  size : Option Nat
deriving DecidableEq, Repr

/-- `russh_sftp::protocol::File` -/
structure RemoteFile where
  filename : List Char
  attrs : FileAttributes
deriving DecidableEq, Repr

def validateDownloadRootType (attrs : FileAttributes) (expectedDirectory : Bool) :
    Except String Bool :=
  if attrs.isSymlink then .error "remote symbolic links cannot be downloaded"
  else if attrs.isRegular then
    if expectedDirectory then .error "remote directory was replaced by a regular file"
    else .ok false
  else if attrs.isDir then .ok true
  else .error "remote path is neither a regular file nor a directory"

/-- The size that `validate_regular_metadata` gives. -/
def validateRegularMetadata (attrs : FileAttributes) : Except String Nat :=
  if attrs.isSymlink then
    .error "remote symbolic links cannot be downloaded for local opening"
  else if attrs.isDir then .error "remote directories cannot be downloaded for local opening"
  else if !attrs.isRegular then .error "remote path is not a verified regular file"
  else
    match attrs.size with
    | none => .error "remote regular file did not report its size"
    | some size => .ok size

def joinRemotePath (parent child : List Char) : List Char :=
  if parent = ['/'] then '/' :: child else parent ++ '/' :: child

structure DownloadEntry where
  name : List Char
  path : List Char
  isDirectory : Bool
  size : Nat
deriving DecidableEq, Repr

def downloadEntry (debug : List Char → String) (parent : List Char) (file : RemoteFile) :
    Except String DownloadEntry :=
  let name := file.filename
  if name = ['.'] ∨ name = ['.', '.'] ∨ name = [] ∨ name.any isControl ∨
      name.any (fun c => c == '/' || c == '\\') then
    .error s!"remote directory contains an unsafe entry name: {debug name}"
  else
    let path := joinRemotePath parent name
    if path.any isControl then .error "remote download path is invalid"
    else if file.attrs.isSymlink then
      .error <| "remote directory contains a symbolic link that cannot be downloaded: " ++
        String.ofList path
    else if file.attrs.isDir then .ok { name, path, isDirectory := true, size := 0 }
    else if !file.attrs.isRegular then
      .error <| "remote directory contains an unsupported file type: " ++ String.ofList path
    else
      match file.attrs.size with
      | none => .error "remote file size is unavailable"
      | some size => .ok { name, path, isDirectory := false, size }

structure SftpDiscoverySummary where
  discoveredFiles : Nat := 0
  skippedEntries : Nat := 0
  firstIssue : Option String := none
  isDirectory : Bool := false
deriving DecidableEq, Repr

def recordDiscoveryIssue (summary : SftpDiscoverySummary) (error : String) :
    SftpDiscoverySummary :=
  { summary with
    skippedEntries := saturatingSucc summary.skippedEntries
    firstIssue := summary.firstIssue.or <| some <|
      if 512 < error.toList.length then String.ofList (error.toList.take 512) ++ "…" else error }

structure DownloadDirectoryFrame where
  remoteDirectory : List Char
  localComponents : List (List Char)
  handle : String
  entries : List RemoteFile := []
deriving DecidableEq, Repr

/-- The state of the loop, with the last frame first, and what discovery has done so far: the
    local directories it has prepared, the requests it has sent and the handles it has closed. -/
structure Discovery (windows : Bool) where
  pending : List DownloadDirectoryFrame := []
  summary : SftpDiscoverySummary := {}
  prepared : List (LocalDownloadTarget windows) := []
  requests : List (SftpDownloadRequest windows) := []
  closed : List String := []

/-- What the environment does in one round. -/
structure Answers where
  lstat : Reply FileAttributes := .elapsed
  opendir : Reply String := .elapsed
  /-- `prepare_local_directory` -/
  prepare : Except String Unit := .ok ()
  readdir : Reply (List RemoteFile) := .elapsed
  /-- Whether the receiver takes a request. -/
  receives : Bool := true

inductive DiscoveryRun (windows : Bool) where
  | idle
  | running (d : Discovery windows)
  | ended (result : Except String SftpDiscoverySummary) (d : Discovery windows)

/-- `.context(timedOut)?.context(refused)?`, by the outermost message. -/
def orMessage {α : Type} (timedOut refused : String) : Reply α → Except String α
  | .elapsed => .error timedOut
  | .failed _ => .error refused
  | .ok value => .ok value

namespace Discovery

variable {windows : Bool} (debug : List Char → String) (childId : Uuid → List Char → Uuid)
  (root : SftpDownloadRoot) (answers : Answers)

def skip (d : Discovery windows) (error : String) : DiscoveryRun windows :=
  .running { d with summary := recordDiscoveryIssue d.summary error }

/-- A request that the discovery of a root or of an entry has found. -/
def send (d : Discovery windows) (request : SftpDownloadRequest windows)
    (sent : Discovery windows → DiscoveryRun windows) : DiscoveryRun windows :=
  if answers.receives then sent { d with requests := d.requests ++ [request] }
  else .ended (.error "SFTP download receiver stopped during discovery") d

/-- A root that is a file. -/
def startFile (attrs : FileAttributes) : DiscoveryRun windows :=
  let request := do
    let totalBytes ← validateRegularMetadata attrs
    SftpDownloadRequest.forLocalDownload
      (if root.expectedDirectory then childId root.transferId root.remotePath
        else root.transferId)
      root.remotePath root.localDirectory [root.name] totalBytes
  let summary : SftpDiscoverySummary :=
    { discoveredFiles := 1, isDirectory := root.expectedDirectory }
  match request with
  | .error error => .ended (.error error) {}
  | .ok request =>
    if root.excludesRemotePath root.remotePath then .ended (.ok summary) {}
    else send answers {} request (.ended (.ok summary))

/-- A root that is a directory. -/
def startDirectory : DiscoveryRun windows :=
  match orMessage "opening remote download directory timed out"
      s!"cannot open remote directory {debug root.remotePath}" answers.opendir with
  | .error error => .ended (.error error) {}
  | .ok handle =>
    match LocalDownloadTarget.new root.localDirectory [root.name] with
    | .error error => .ended (.error error) {}
    | .ok target =>
      match answers.prepare with
      | .error error => .ended (.error error) { prepared := [target], closed := [handle] }
      | .ok () =>
        .running
          { pending := [{ remoteDirectory := root.remotePath
                          localComponents := [root.name]
                          handle }]
            summary := { isDirectory := true }
            prepared := [target] }

def start : DiscoveryRun windows :=
  if transferNameMatchesFilter root.name root.filterPatterns then
    .ended (.ok { skippedEntries := 1, firstIssue := some "Excluded by transfer filter" }) {}
  else
    let attrs := orMessage "inspecting recursive-download root timed out"
      s!"cannot inspect remote path {debug root.remotePath}" answers.lstat
    match attrs with
    | .error error => .ended (.error error) {}
    | .ok attrs =>
      match validateDownloadRootType attrs root.expectedDirectory with
      | .error error => .ended (.error error) {}
      | .ok true => startDirectory debug root answers
      | .ok false => startFile childId root answers attrs

/-- A directory among the entries of the last frame. -/
def enter (d : Discovery windows) (path : List Char) (components : List (List Char)) :
    DiscoveryRun windows :=
  match answers.opendir with
  | .elapsed => d.skip "opening nested remote download directory timed out"
  | .failed _ => d.skip "cannot open nested remote download directory"
  | .ok handle =>
    match LocalDownloadTarget.new root.localDirectory components with
    | .error error => { d with closed := d.closed ++ [handle] }.skip error
    | .ok target =>
      match answers.prepare with
      | .error error =>
        { d with prepared := d.prepared ++ [target], closed := d.closed ++ [handle] }.skip error
      | .ok () =>
        .running
          { d with
            prepared := d.prepared ++ [target]
            pending := { remoteDirectory := path, localComponents := components, handle } ::
              d.pending }

/-- A file among the entries of the last frame. -/
def request (d : Discovery windows) (entry : DownloadEntry) (components : List (List Char)) :
    DiscoveryRun windows :=
  match SftpDownloadRequest.forLocalDownload (childId root.transferId entry.path) entry.path
      root.localDirectory components entry.size with
  | .error error => d.skip error
  | .ok request =>
    if root.excludesRemotePath request.remotePath then .running d
    else
      d.send answers request fun d =>
        .running { d with
          summary := { d.summary with
            discoveredFiles := saturatingSucc d.summary.discoveredFiles } }

/-- An entry of the last frame, which `d` no longer has. -/
def takeEntry (d : Discovery windows) (frame : DownloadDirectoryFrame) (file : RemoteFile) :
    DiscoveryRun windows :=
  match downloadEntry debug frame.remoteDirectory file with
  | .error error => d.skip error
  | .ok entry =>
    if transferNameMatchesFilter entry.name root.filterPatterns then
      d.skip "Excluded by transfer filter"
    else
      let components := frame.localComponents ++ [entry.name]
      if entry.isDirectory then d.enter root answers entry.path components
      else d.request childId root answers entry components

/-- Another batch of the last frame, or its end; `frames` are those below it. -/
def readFrame (d : Discovery windows) (frame : DownloadDirectoryFrame)
    (frames : List DownloadDirectoryFrame) : DiscoveryRun windows :=
  let finished := { d with pending := frames, closed := d.closed ++ [frame.handle] }
  match answers.readdir with
  | .ok [] => .running finished
  | .ok files => .running { d with pending := { frame with entries := files } :: frames }
  | .failed (.status .eof _) => .running finished
  | .failed _ => finished.skip "cannot read remote download directory"
  | .elapsed => finished.skip "reading remote download directory timed out"

/-- One round of the loop. -/
def step (d : Discovery windows) : DiscoveryRun windows :=
  match d.pending with
  | [] => .ended (.ok d.summary) d
  | frame :: frames =>
    match frame.entries with
    | file :: entries =>
      takeEntry debug childId root answers
        { d with pending := { frame with entries } :: frames } frame file
    | [] => d.readFrame answers frame frames

end Discovery

def DiscoveryRun.step {windows : Bool} (debug : List Char → String)
    (childId : Uuid → List Char → Uuid) (root : SftpDownloadRoot) (run : DiscoveryRun windows)
    (answers : Answers) : DiscoveryRun windows :=
  match run with
  | idle => Discovery.start debug childId root answers
  | running d => d.step debug childId root answers
  | ended result d => ended result d

end Downloads

end AxSsh
