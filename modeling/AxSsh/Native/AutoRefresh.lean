import AxSsh.Native.SftpDirectory

/-!
# Automatic refreshes of the directory views

The handlers that refresh a directory view on their own, and those that they interleave with: the
event loop of `app/connection_monitor.rs`, `queue_remote_navigation_for_terminal` and
`load_local_directory` of `app/sftp_bridge/navigation.rs`, and `queue_local_change_refresh` of
`app/local_directory_watch.rs`.

A remote view stands with the listings that its worker has still to answer, a local one with the
tasks that list for it.  What a handler does under one lock of the application state is one
action.  Whether the worker takes a request is up to the worker.
-/

namespace AxSsh

/-! ## The remote view -/

/-- The directory view of a connection with the answers it waits for.  `none` is the listing that
    the worker makes on its own after it has opened. -/
structure RemotePane where
  view : SftpDirectoryState
  outstanding : List (Option UInt64) := []

inductive RemoteAction where
  | navigate (kind : SftpNavigation) (path : Option String) (accepted : Bool)
  | loadMore (accepted : Bool)
  /-- An upload into `directory` is done. -/
  | uploaded (directory : String) (accepted : Bool)
  /-- A remote file was written. -/
  | written (path : String) (accepted : Bool)
  | event (event : SftpBrowserEvent) (accepted : Bool)
  | toggleSort (column : String)
  | toggleSelection (path : String) (selected : Bool)
  | selectAll (selected : Bool)
  | prepareForReconnect
  | reset

namespace RemotePane

/-- `send_remote_directory_request`: what the worker rejects is cancelled. -/
def send (p : RemotePane) (requestId : UInt64) (accepted : Bool) : RemotePane :=
  if accepted then { p with outstanding := p.outstanding ++ [some requestId] }
  else { p with view := p.view.cancelNavigation }

/-- What a handler does with the outcome of `begin_refresh_after_remote_change` or
    `begin_pending_auto_refresh`; an error is only logged. -/
def refresh (p : RemotePane)
    (outcome : Except String (Option DirectoryRequest) × SftpDirectoryState) (accepted : Bool) :
    Option DirectoryRequest × RemotePane :=
  match outcome with
  | (.ok (some request), view) => (some request, { p with view }.send request.1 accepted)
  | (_, view) => (none, { p with view })

/-- `queue_remote_navigation_for_terminal`. -/
def navigate (p : RemotePane) (kind : SftpNavigation) (path : Option String) (accepted : Bool) :
    RemotePane :=
  match p.view.beginNavigation kind path with
  | .error _ => p
  | .ok (request, view) =>
    let p := { p with view }.send request.1 accepted
    if accepted then p
    else { p with view := { p.view with status := "SFTP directory request was rejected" } }

/-- The callback of `load_more_sftp`. -/
def loadMore (p : RemotePane) (accepted : Bool) : RemotePane :=
  match p.view.beginLoadMore with
  | .error _ => p
  | .ok (requestId, view) => { p with view }.send requestId accepted

/-- An event of the browser is applied; what it answers is outstanding no more. -/
def applyEvent (lower : String → String) (p : RemotePane) (event : SftpBrowserEvent) :
    RemotePane where
  view := p.view.applySftpEvent lower event
  outstanding := match event with
    | .opened _ => [none]
    | .directoryPage requestId .. | .failed requestId _ => p.outstanding.erase requestId
    | .closed => []

/-- One action, with the automatic request that it makes. -/
def act (lower : String → String) (p : RemotePane) :
    RemoteAction → Option DirectoryRequest × RemotePane
  | .navigate kind path accepted => (none, p.navigate kind path accepted)
  | .loadMore accepted => (none, p.loadMore accepted)
  | .uploaded directory accepted =>
    p.refresh (p.view.beginRefreshAfterRemoteChange directory) accepted
  | .written path accepted =>
    let p := { p with view := { p.view with status := s!"Updated {path}" } }
    match p.view.visibleRemoteDirectoryForFile path with
    | none => (none, p)
    | some directory => p.refresh (p.view.beginRefreshAfterRemoteChange directory) accepted
  | .event event accepted =>
    let p := p.applyEvent lower event
    p.refresh p.view.beginPendingAutoRefresh accepted
  | .toggleSort column => (none, { p with view := p.view.step lower (.toggleSort column) })
  | .toggleSelection path selected =>
    (none, { p with view := p.view.step lower (.toggleSelection path selected) })
  | .selectAll selected => (none, { p with view := p.view.step lower (.selectAll selected) })
  | .prepareForReconnect => (none, { view := p.view.step lower .prepareForReconnect })
  | .reset => (none, { view := p.view.step lower .reset })

end RemotePane

/-! ## The local view -/

/-- The local view with the tasks of `load_local_directory`: those that are listing, and how many
    have applied their listing and are about to look for a refresh that was put off. -/
structure LocalPane where
  view : LocalDirectoryState
  listing : List DirectoryRequest := []
  applied : Nat := 0

/-- How the listing of a task ends. -/
inductive LocalOutcome where
  | listed (path : String) (entries : List LocalDirectoryEntry) (truncated : Bool)
      (skippedEntries : Nat)
  | failed (message : String)

inductive LocalAction where
  | navigate (kind : SftpNavigation) (path : Option String)
  /-- A download to `path` is done. -/
  | downloaded (path : PathBuf)
  /-- The watcher of `directory` saw a change. -/
  | watched (directory : String)
  | listed (request : DirectoryRequest) (outcome : LocalOutcome)
  | pending
  | markWatcherRunning
  | markWatcherStopped
  | loadMore
  | toggleSort (column : String)
  | toggleSelection (path : String) (selected : Bool)
  | selectAll (selected : Bool)
  | reset

namespace LocalPane

/-- The request goes to a task of its own. -/
def load (p : LocalPane) (outcome : Except String (Option DirectoryRequest) × LocalDirectoryState) :
    Option DirectoryRequest × LocalPane :=
  match outcome with
  | (.ok (some request), view) =>
    (some request, { p with view, listing := p.listing ++ [request] })
  | (_, view) => (none, { p with view })

/-- A task applies what it has listed, unless it was listing for an older request. -/
def apply (lower : String → String) (p : LocalPane) (request : DirectoryRequest)
    (outcome : LocalOutcome) : LocalPane :=
  if request ∉ p.listing then p
  else
    let p := { p with listing := p.listing.erase request }
    if p.view.requestId ≠ request.1 then p
    else
      { p with
        view := match outcome with
          | .listed path entries truncated skippedEntries =>
            p.view.applyLocalDirectoryListing lower request.1 path entries truncated skippedEntries
          | .failed message => p.view.applyLocalDirectoryFailure request.1 message
        applied := p.applied + 1 }

/-- One action, with the automatic request that it makes. -/
def act (lower : String → String) (p : LocalPane) :
    LocalAction → Option DirectoryRequest × LocalPane
  | .navigate kind path => (none, (p.load (p.view.beginRequest kind path)).2)
  | .downloaded path => p.load (p.view.beginRefreshAfterDownload path)
  | .watched directory => p.load (p.view.beginRefreshAfterLocalChange directory)
  | .listed request outcome => (none, p.apply lower request outcome)
  | .pending =>
    if p.applied = 0 then (none, p)
    else { p with applied := p.applied - 1 }.load p.view.beginPendingAutoRefresh
  | .markWatcherRunning => (none, { p with view := p.view.step lower .markWatcherRunning })
  | .markWatcherStopped => (none, { p with view := p.view.step lower .markWatcherStopped })
  | .loadMore => (none, { p with view := p.view.step lower .loadMore })
  | .toggleSort column => (none, { p with view := p.view.step lower (.toggleSort column) })
  | .toggleSelection path selected =>
    (none, { p with view := p.view.step lower (.toggleSelection path selected) })
  | .selectAll selected => (none, { p with view := p.view.step lower (.selectAll selected) })
  | .reset => (none, { p with view := p.view.step lower .reset })

end LocalPane

end AxSsh
