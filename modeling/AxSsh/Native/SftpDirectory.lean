import Mathlib.Data.Finset.Card
import Mathlib.Data.List.DropRight
import AxSsh.Native.SftpBrowser

/-!
# Directory views of the SFTP browser

The navigation, paging, sorting and selection methods of `SftpBrowserState` and
`LocalDirectoryState` in `app/state/sftp.rs`, and `apply_sftp_event` of
`app/connection_monitor.rs`.

`lower` is `str::to_lowercase`.  Paths of the local side are those of a Unix host.  A `Result`
that carries the message of its error is `Except String`.
-/

namespace AxSsh

def sftpHistoryLimit : Nat := 128

def localDirectoryPageSize : Nat := 250

/-- `char::is_whitespace`. -/
def isWhitespace (c : Char) : Bool :=
  let n := c.toNat
  (9 ≤ n && n ≤ 13) || n == 0x20 || n == 0x85 || n == 0xA0 || n == 0x1680
    || (0x2000 ≤ n && n ≤ 0x200A) || n == 0x2028 || n == 0x2029 || n == 0x202F || n == 0x205F
    || n == 0x3000

/-- `str::trim`. -/
def trim (text : String) : String :=
  String.ofList ((text.toList.dropWhile isWhitespace).reverse.dropWhile isWhitespace).reverse

/-! ## Sorting -/

namespace SftpSortState

def toggleColumn (s : SftpSortState) (column : String) : Option SftpSortState :=
  let known :=
    if column == "name" then some SftpSortColumn.name
    else if column == "size" then some .size
    else if column == "modified" then some .modified
    else none
  known.map fun column =>
    if s.column = column then { s with descending := !s.descending }
    else { column, descending := column != .name }

end SftpSortState

/-- `ordering.reverse()` when the column is sorted downwards. -/
def reverseIf (descending : Bool) (ordering : Ordering) : Ordering :=
  if descending then ordering.swap else ordering

def compareText (lower : String → String) (left right : String) (descending : Bool) : Ordering :=
  reverseIf descending (compare (lower left) (lower right))

def compareNumeric (left right : Nat) (descending : Bool) : Ordering :=
  reverseIf descending (compare left right)

/-- `compare_optional_numeric` and `compare_optional_time`: what is unknown comes last in both
    directions. -/
def compareOptional (left right : Option Nat) (descending : Bool) : Ordering :=
  match left, right with
  | some left, some right => compareNumeric left right descending
  | some _, none => .lt
  | none, some _ => .gt
  | none, none => .eq

/-- The order of two rows, given what they show in each column. -/
def compareRows {α : Type} (lower : String → String) (sort : SftpSortState)
    (name path : α → String) (size : α → Nat) (modified : α → Option Nat) (left right : α) :
    Ordering :=
  let ordering := match sort.column with
    | .name => compareText lower (name left) (name right) sort.descending
    | .size => compareNumeric (size left) (size right) sort.descending
    | .modified => compareOptional (modified left) (modified right) sort.descending
  (ordering.then (compare (lower (name left)) (lower (name right)))).then
    (compare (path left) (path right))

def compareRemote (lower : String → String) (sort : SftpSortState) :
    SftpEntry → SftpEntry → Ordering :=
  compareRows lower sort (·.name) (·.path) (·.size) (·.modified)

def compareLocal (lower : String → String) (sort : SftpSortState) :
    LocalDirectoryEntry → LocalDirectoryEntry → Ordering :=
  compareRows lower sort (·.name) (·.path) (·.size) (·.modified)

/-- `sort_by` is a stable merge sort. -/
def sortRemoteEntries (lower : String → String) (entries : List SftpEntry)
    (sort : SftpSortState) : List SftpEntry :=
  entries.mergeSort fun left right => (compareRemote lower sort left right).isLE

def sortLocalEntries (lower : String → String) (entries : List LocalDirectoryEntry)
    (sort : SftpSortState) : List LocalDirectoryEntry :=
  entries.mergeSort fun left right => (compareLocal lower sort left right).isLE

/-! ## History -/

/-- The histories have their newest path last, as `VecDeque::back`. -/
def pushSftpHistory (history : List String) (path : String) : List String :=
  if path = "" ∨ history.getLast? = some path then history
  else if sftpHistoryLimit ≤ history.length then history.drop 1 ++ [path]
  else history ++ [path]

/-- `complete_directory_history`, on the two histories. -/
def completeDirectoryHistory (pending : Option PendingSftpNavigation) (path : String)
    (backHistory forwardHistory : List String) : List String × List String :=
  match pending with
  | none => (backHistory, forwardHistory)
  | some pending =>
    match pending.kind with
    | .direct | .up =>
      if pending.from ≠ path then (pushSftpHistory backHistory pending.from, [])
      else (backHistory, forwardHistory)
    | .back =>
      if backHistory.getLast? = some pending.requested then
        (backHistory.dropLast, pushSftpHistory forwardHistory pending.from)
      else (backHistory, forwardHistory)
    | .forward =>
      if forwardHistory.getLast? = some pending.requested then
        (pushSftpHistory backHistory pending.from, forwardHistory.dropLast)
      else (backHistory, forwardHistory)

def remoteDirectoryParent (path : String) : Option String :=
  if path.toList.head? = some '/' then remoteParent (trimEndSlashes path) else none

/-- A part of a path between slashes that `Path::components` passes over. -/
def emptyComponent (part : List Char) : Bool := part.isEmpty || part == ['.']

/-- `Path::parent`, for an absolute path whose parent is absolute. -/
def localDirectoryParent (path : String) : Option String :=
  match path.toList with
  | '/' :: body =>
    let parts := (body.splitOn '/').rdropWhile emptyComponent
    if parts.isEmpty then none
    else some (String.ofList ('/' :: ['/'].intercalate (parts.dropLast.rdropWhile emptyComponent)))
  | _ => none

/-- `Path::components`; the root is a component of its own, and a leading dot of a relative
    path counts. -/
def pathComponents (path : PathBuf) : List (List Char) :=
  let parts := path.toList.splitOn '/'
  if path.toList.head? = some '/' then ['/'] :: parts.filter (!emptyComponent ·)
  else (parts.take 1).filter (!·.isEmpty) ++ (parts.drop 1).filter (!emptyComponent ·)

/-- `Path::starts_with`. -/
def pathStartsWith (path base : PathBuf) : Bool :=
  (pathComponents base).isPrefixOf (pathComponents path)

/-! ## The local side -/

/-- A request the caller has to send: its id and path. -/
abbrev DirectoryRequest := UInt64 × String

namespace LocalDirectoryState

/-- `for_standalone_tab`, with the path it starts in. -/
def forStandaloneTab (path : String) : LocalDirectoryState :=
  { path, status := "Local directory ready" }

def markWatcherRunning (l : LocalDirectoryState) : LocalDirectoryState :=
  if l.watcherRunning || !l.loaded then l else { l with watcherRunning := true }

def markWatcherStopped (l : LocalDirectoryState) : LocalDirectoryState :=
  { l with watcherRunning := false }

def requestedPath (l : LocalDirectoryState) (kind : SftpNavigation) (path : Option String) :
    Except String String :=
  match kind with
  | .direct => match path with
    | none => .error "local directory path is missing"
    | some path => .ok (trim path)
  | .back => match l.backHistory.getLast? with
    | none => .error "no previous local directory"
    | some path => .ok path
  | .forward => match l.forwardHistory.getLast? with
    | none => .error "no next local directory"
    | some path => .ok path
  | .up => match localDirectoryParent l.path with
    | none => .error "local directory has no parent"
    | some path => .ok path

def beginNavigation (l : LocalDirectoryState) (kind : SftpNavigation) (path : Option String) :
    Except String (DirectoryRequest × LocalDirectoryState) :=
  if l.loading then .error "local directory request already in progress"
  else match l.requestedPath kind path with
    | .error message => .error message
    | .ok requested =>
      if requested = "" then .error "local directory path is empty"
      else .ok ((l.requestId + 1, requested),
        { l with
          pendingNavigation := some { kind, «from» := l.path, requested }
          requestId := l.requestId + 1
          loading := true
          status := "Loading local directory..." })

/-- `begin_navigation(..).map(Some)`, and the state after it. -/
def beginRequest (l : LocalDirectoryState) (kind : SftpNavigation) (path : Option String) :
    Except String (Option DirectoryRequest) × LocalDirectoryState :=
  match l.beginNavigation kind path with
  | .error message => (.error message, l)
  | .ok (request, l) => (.ok (some request), l)

def beginRefreshAfterLocalChange (l : LocalDirectoryState) (directory : String) :
    Except String (Option DirectoryRequest) × LocalDirectoryState :=
  if (!l.loaded && !l.loading) || l.path != directory then (.ok none, l)
  else if l.loading then (.ok none, { l with pendingAutoRefresh := some directory })
  else l.beginRequest .direct (some directory)

def beginRefreshAfterDownload (l : LocalDirectoryState) (path : PathBuf) :
    Except String (Option DirectoryRequest) × LocalDirectoryState :=
  if (!l.loaded && !l.loading) || l.path == "" || !pathStartsWith path l.path then (.ok none, l)
  else l.beginRefreshAfterLocalChange l.path

def beginPendingAutoRefresh (l : LocalDirectoryState) :
    Except String (Option DirectoryRequest) × LocalDirectoryState :=
  if l.loading then (.ok none, l)
  else match l.pendingAutoRefresh with
    | none => (.ok none, l)
    | some directory =>
      let l := { l with pendingAutoRefresh := none }
      if l.path != directory then (.ok none, l) else l.beginRequest .direct (some directory)

def loadMore (l : LocalDirectoryState) : LocalDirectoryState × Bool :=
  if l.loading || l.pendingEntries.isEmpty then (l, false)
  else
    let l := { l with
      entries := l.entries ++ l.pendingEntries.take localDirectoryPageSize
      pendingEntries := l.pendingEntries.drop localDirectoryPageSize
      hasMore := !(l.pendingEntries.drop localDirectoryPageSize).isEmpty }
    (l.updateStatus, true)

def resort (lower : String → String) (l : LocalDirectoryState) : LocalDirectoryState :=
  let l := { l with
    pendingEntries := sortLocalEntries lower (l.entries ++ l.pendingEntries) l.sort
    entries := []
    hasMore := false }
  l.loadMore.1

/-- `SftpBrowserState::toggle_local_sort`. -/
def toggleLocalSort (lower : String → String) (l : LocalDirectoryState) (column : String) :
    LocalDirectoryState × Bool :=
  match l.sort.toggleColumn column with
  | none => (l, false)
  | some sort => ({ l with sort }.resort lower, true)

def complete (lower : String → String) (l : LocalDirectoryState) (path : String)
    (entries : List LocalDirectoryEntry) (truncated : Bool) (skippedEntries : Nat) :
    LocalDirectoryState :=
  let histories :=
    completeDirectoryHistory l.pendingNavigation path l.backHistory l.forwardHistory
  let l := { l with
    pendingNavigation := none
    backHistory := histories.1
    forwardHistory := histories.2
    selected := if l.path ≠ path then ∅ else l.selected
    loading := false
    loaded := true
    path
    entries := []
    pendingEntries := entries
    truncated
    skippedEntries }
  let l := l.resort lower
  let l := { l with
    selected := l.selected.filter fun selected =>
      (l.entries.any (·.path == selected)) || (l.pendingEntries.any (·.path == selected)) }
  l.updateStatus

def fail (l : LocalDirectoryState) (message : String) : LocalDirectoryState :=
  { l with pendingNavigation := none, loading := false, status := message }

/-- `apply_local_directory_listing`: only the newest request is answered. -/
def applyLocalDirectoryListing (lower : String → String) (l : LocalDirectoryState)
    (requestId : UInt64) (path : String) (entries : List LocalDirectoryEntry) (truncated : Bool)
    (skippedEntries : Nat) : LocalDirectoryState :=
  if l.requestId ≠ requestId then l else l.complete lower path entries truncated skippedEntries

def applyLocalDirectoryFailure (l : LocalDirectoryState) (requestId : UInt64)
    (message : String) : LocalDirectoryState :=
  if l.requestId ≠ requestId then l else l.fail message

def toggleSelection (l : LocalDirectoryState) (path : String) (selected : Bool) :
    LocalDirectoryState × Bool :=
  if !l.entries.any (·.path == path) then (l, false)
  else ({ l with
    selected := if selected then insert path l.selected else l.selected.erase path }, true)

def selectAll (l : LocalDirectoryState) (selected : Bool) : LocalDirectoryState :=
  { l with
    selected := if selected then l.selected ∪ (l.entries.map (·.path)).toFinset else ∅ }

/-- What `SftpBrowserState::reset` does to the local side. -/
def resetRequests (l : LocalDirectoryState) : LocalDirectoryState :=
  ({ «local» := l } : SftpDirectoryState).reset.local

end LocalDirectoryState

/-- What happens to the local side. -/
inductive LocalOp where
  | markWatcherRunning
  | markWatcherStopped
  | beginNavigation (kind : SftpNavigation) (path : Option String)
  | beginRefreshAfterDownload (path : PathBuf)
  | beginRefreshAfterLocalChange (directory : String)
  | beginPendingAutoRefresh
  | listing (requestId : UInt64) (path : String) (entries : List LocalDirectoryEntry)
      (truncated : Bool) (skippedEntries : Nat)
  | failure (requestId : UInt64) (message : String)
  | loadMore
  | toggleSort (column : String)
  | toggleSelection (path : String) (selected : Bool)
  | selectAll (selected : Bool)
  | reset

namespace LocalDirectoryState

def step (lower : String → String) (l : LocalDirectoryState) : LocalOp → LocalDirectoryState
  | .markWatcherRunning => l.markWatcherRunning
  | .markWatcherStopped => l.markWatcherStopped
  | .beginNavigation kind path => (l.beginRequest kind path).2
  | .beginRefreshAfterDownload path => (l.beginRefreshAfterDownload path).2
  | .beginRefreshAfterLocalChange directory => (l.beginRefreshAfterLocalChange directory).2
  | .beginPendingAutoRefresh => l.beginPendingAutoRefresh.2
  | .listing requestId path entries truncated skipped =>
    l.applyLocalDirectoryListing lower requestId path entries truncated skipped
  | .failure requestId message => l.applyLocalDirectoryFailure requestId message
  | .loadMore => l.loadMore.1
  | .toggleSort column => (l.toggleLocalSort lower column).1
  | .toggleSelection path selected => (l.toggleSelection path selected).1
  | .selectAll selected => l.selectAll selected
  | .reset => l.resetRequests

end LocalDirectoryState

/-! ## The remote side -/

/-- What the browser of a connection reports about directories. -/
inductive SftpBrowserEvent where
  | opened (home : String)
  | directoryPage (requestId : Option UInt64) (path : String) (entries : List SftpEntry)
      (append hasMore truncated : Bool)
  | failed (requestId : Option UInt64) (message : String)
  | closed
deriving DecidableEq, Repr

namespace SftpDirectoryState

def toggleSort (lower : String → String) (d : SftpDirectoryState) (column : String) :
    SftpDirectoryState × Bool :=
  match d.sort.toggleColumn column with
  | none => (d, false)
  | some sort => ({ d with sort, entries := AxSsh.sortRemoteEntries lower d.entries sort }, true)

def requestedPath (d : SftpDirectoryState) (kind : SftpNavigation) (path : Option String) :
    Except String String :=
  match kind with
  | .direct => match path with
    | none => .error "SFTP directory path is missing"
    | some path => .ok (trim path)
  | .back => match d.backHistory.getLast? with
    | none => .error "no previous SFTP directory"
    | some path => .ok path
  | .forward => match d.forwardHistory.getLast? with
    | none => .error "no next SFTP directory"
    | some path => .ok path
  | .up => match remoteDirectoryParent d.path with
    | none => .error "SFTP directory has no parent"
    | some path => .ok path

def beginNavigation (d : SftpDirectoryState) (kind : SftpNavigation) (path : Option String) :
    Except String (DirectoryRequest × SftpDirectoryState) :=
  if d.loading then .error "SFTP directory request already in progress"
  else match d.requestedPath kind path with
    | .error message => .error message
    | .ok requested =>
      if requested = "" then .error "SFTP directory path is empty"
      else .ok ((nextRequestId d.requestId, requested),
        { d with
          pendingNavigation := some { kind, «from» := d.path, requested }
          loading := true
          requestId := nextRequestId d.requestId
          status := "Loading directory..." })

def beginRequest (d : SftpDirectoryState) (kind : SftpNavigation) (path : Option String) :
    Except String (Option DirectoryRequest) × SftpDirectoryState :=
  match d.beginNavigation kind path with
  | .error message => (.error message, d)
  | .ok (request, d) => (.ok (some request), d)

def beginLoadMore (d : SftpDirectoryState) : Except String (UInt64 × SftpDirectoryState) :=
  if d.loading then .error "SFTP directory request already in progress"
  else if !d.hasMore then .error "SFTP directory has no additional page"
  else .ok (nextRequestId d.requestId,
    { d with
      loading := true
      requestId := nextRequestId d.requestId
      status := "Loading more files..." })

def cancelNavigation (d : SftpDirectoryState) : SftpDirectoryState :=
  { d with pendingNavigation := none, loading := false }

def acceptsRequest (d : SftpDirectoryState) (requestId : Option UInt64) : Bool :=
  match requestId with
  | none => true
  | some requestId => requestId == d.requestId

def completeNavigation (d : SftpDirectoryState) (path : String) : SftpDirectoryState :=
  let histories :=
    completeDirectoryHistory d.pendingNavigation path d.backHistory d.forwardHistory
  { d with
    pendingNavigation := none
    backHistory := histories.1
    forwardHistory := histories.2
    loading := false
    path }

def sortRemoteEntries (lower : String → String) (d : SftpDirectoryState) : SftpDirectoryState :=
  { d with entries := AxSsh.sortRemoteEntries lower d.entries d.sort }

def beginRefreshAfterRemoteChange (d : SftpDirectoryState) (directory : String) :
    Except String (Option DirectoryRequest) × SftpDirectoryState :=
  if !d.open || d.path != directory then (.ok none, d)
  else if d.loading then (.ok none, { d with pendingAutoRefresh := some directory })
  else d.beginRequest .direct (some directory)

def beginPendingAutoRefresh (d : SftpDirectoryState) :
    Except String (Option DirectoryRequest) × SftpDirectoryState :=
  if d.loading then (.ok none, d)
  else if !d.open then (.ok none, { d with pendingAutoRefresh := none })
  else match d.pendingAutoRefresh with
    | none => (.ok none, d)
    | some directory =>
      { d with pendingAutoRefresh := none }.beginRefreshAfterRemoteChange directory

def selectedCount (d : SftpDirectoryState) : Nat :=
  (d.selected.filter fun path => d.entries.any (·.path == path)).card

def toggleSelection (d : SftpDirectoryState) (path : String) (selected : Bool) :
    SftpDirectoryState × Bool :=
  if !d.entries.any (·.path == path) then (d, false)
  else
    let d := { d with
      selected := if selected then insert path d.selected else d.selected.erase path }
    ({ d with
      renameName :=
        if d.selectedCount = 1 then
          ((d.entries.find? fun entry => entry.path ∈ d.selected).map (·.name)).getD ""
        else "" }, true)

def selectAll (d : SftpDirectoryState) (selected : Bool) : SftpDirectoryState :=
  let paths := (d.entries.map fun entry => entry.path).toFinset
  let d := { d with selected := if selected then d.selected ∪ paths else ∅ }
  { d with
    renameName := if d.selectedCount = 1 then (d.entries.head?.map SftpEntry.name).getD "" else "" }

def applySftpEvent (lower : String → String) (d : SftpDirectoryState) :
    SftpBrowserEvent → SftpDirectoryState
  | .opened home =>
    { d.resetNavigation with
      «open» := true, loading := true, home, status := "Loading directory..." }
  | .directoryPage requestId path entries append hasMore truncated =>
    if !d.acceptsRequest requestId then d
    else
      let d := { d with «open» := true, loading := false }
      let d := if append then { d with path, entries := d.entries ++ entries }
        else { d.completeNavigation path with entries }
      let d := d.sortRemoteEntries lower
      { d with
        selected := d.selected.filter fun selected => d.entries.any (·.path == selected)
        hasMore
        truncated
        status :=
          if truncated then "Directory text budget reached" else s!"{d.entries.length} items" }
  | .failed requestId message =>
    if !d.acceptsRequest requestId then d else { d.cancelNavigation with status := message }
  | .closed => { d with «open» := false, loading := false, hasMore := false }

end SftpDirectoryState

/-- What happens to the directory view of a browser. -/
inductive NavigationOp where
  | beginNavigation (kind : SftpNavigation) (path : Option String)
  | beginLoadMore
  | cancelNavigation
  | beginRefreshAfterRemoteChange (directory : String)
  | beginPendingAutoRefresh
  | event (event : SftpBrowserEvent)
  | toggleSort (column : String)
  | toggleSelection (path : String) (selected : Bool)
  | selectAll (selected : Bool)
  | prepareForReconnect
  | reset

namespace SftpDirectoryState

/-- The state after one operation; `prepareForReconnect` is what `prepare_for_reconnect` does
    to the directory view. -/
def step (lower : String → String) (d : SftpDirectoryState) : NavigationOp → SftpDirectoryState
  | .beginNavigation kind path => (d.beginRequest kind path).2
  | .beginLoadMore => match d.beginLoadMore with
    | .error _ => d
    | .ok (_, d) => d
  | .cancelNavigation => d.cancelNavigation
  | .beginRefreshAfterRemoteChange directory => (d.beginRefreshAfterRemoteChange directory).2
  | .beginPendingAutoRefresh => d.beginPendingAutoRefresh.2
  | .event event => d.applySftpEvent lower event
  | .toggleSort column => (d.toggleSort lower column).1
  | .toggleSelection path selected => (d.toggleSelection path selected).1
  | .selectAll selected => d.selectAll selected
  | .prepareForReconnect => { d.resetNavigation with «open» := false, loading := false }
  | .reset => d.reset

end SftpDirectoryState

end AxSsh
