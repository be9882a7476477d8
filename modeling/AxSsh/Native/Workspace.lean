import AxSsh.Native.PaneTree

/-!
# Workspace snapshots

The snapshot types of `config/workspace.rs` and `WorkspaceSnapshot::validate`, with the
messages of its errors.  Everything a workspace file says goes through this check before
the router sees it.
-/

namespace AxSsh

def workspaceSnapshotVersion : Nat := 1
def maxTabs : Nat := 256
def maxWindows : Nat := 32
def maxPanes : Nat := 8
def maxTextBytes : Nat := 256 * 1024
def maxPathBytes : Nat := 4 * 1024
def maxTitleBytes : Nat := 512
def maxStatusBytes : Nat := 2 * 1024

structure WorkspaceTabSnapshot where
  id : Uuid
  title : String := ""
  kind : String := ""
  profileId : Option Uuid := none
  companionTabId : Option Uuid := none
  terminalText : String := ""
  sftpRemotePath : String := ""
  sftpLocalPath : String := ""
  status : String := ""
deriving DecidableEq, Repr

structure WindowPosition where
  x : Int
  y : Int
deriving DecidableEq, Repr

structure WindowPlacement where
  width : Nat
  height : Nat
  position : Option WindowPosition := none
  maximized : Bool := false
deriving DecidableEq, Repr

structure WorkspaceWindowSnapshot where
  id : Uuid
  tabIds : List Uuid := []
  activeTabId : Option Uuid := none
  focusedTabId : Option Uuid := none
  panes : List PaneNodeSnapshot := []
  placement : Option WindowPlacement := none
deriving DecidableEq, Repr

structure WorkspaceSnapshot where
  version : Nat
  tabs : List WorkspaceTabSnapshot := []
  activeTabId : Option Uuid := none
  windows : List WorkspaceWindowSnapshot := []
deriving DecidableEq, Repr

/-- `bail!(message)` when `condition` holds. -/
def bailIf (condition : Bool) (message : String) : Except String Unit :=
  if condition then .error message else .ok ()

/-- `char::is_control`: the Unicode category Cc. -/
def isControl (c : Char) : Bool := c.val < 0x20 || (0x7f ≤ c.val && c.val ≤ 0x9f)

def validateText (value : String) (maxBytes : Nat) (label : String) (rejectControls : Bool) :
    Except String Unit := do
  bailIf (decide (maxBytes < value.utf8ByteSize)) s!"{label} exceeds {maxBytes} bytes"
  bailIf (rejectControls && value.toList.any isControl) s!"{label} contains control characters"

namespace WindowPlacement

def validate (placement : WindowPlacement) : Except String Unit := do
  bailIf (!(1 ≤ placement.width && placement.width ≤ 32768) ||
      !(1 ≤ placement.height && placement.height ≤ 32768))
    "window logical size is outside the supported range"
  bailIf (placement.position.any fun position =>
      decide (1000000 < position.x.natAbs) || decide (1000000 < position.y.natAbs))
    "window position is outside the supported range"

end WindowPlacement

namespace PaneNodeSnapshot

/-- Check one stored pane tree against the tab ids of the workspace, and count its panes. -/
def validate (ids : List Uuid) (depth : Nat) : PaneNodeSnapshot → Except String Nat
  | leaf id => do
    bailIf (decide (maxPanes < depth)) "pane tree is too deep"
    bailIf (!ids.contains id) "pane references an unknown tab"
    return 1
  | split axis ratioMilli first second => do
    bailIf (decide (maxPanes < depth)) "pane tree is too deep"
    bailIf (axis != "columns" && axis != "rows") "pane split axis is invalid"
    bailIf (!(100 ≤ ratioMilli && ratioMilli ≤ 900)) "pane split ratio is outside 0.1..0.9"
    let firstCount ← first.validate ids (depth + 1)
    let secondCount ← second.validate ids (depth + 1)
    bailIf (decide (maxPanes < firstCount + secondCount))
      s!"workspace pane count exceeds {maxPanes}"
    return firstCount + secondCount

end PaneNodeSnapshot

namespace WorkspaceTabSnapshot

def validate (tab : WorkspaceTabSnapshot) (ids : List Uuid) : Except String Unit := do
  validateText tab.title maxTitleBytes "tab title" true
  validateText tab.terminalText maxTextBytes "terminal text" false
  validateText tab.sftpRemotePath maxPathBytes "remote path" true
  validateText tab.sftpLocalPath maxPathBytes "local path" true
  validateText tab.status maxStatusBytes "tab status" true
  bailIf (tab.companionTabId.any fun companion => !ids.contains companion)
    "tab companion does not exist"

end WorkspaceTabSnapshot

namespace WorkspaceWindowSnapshot

/-- Check one stored pane tree of a window: known tabs, none twice, all in the window. -/
def validatePane (window : WorkspaceWindowSnapshot) (ids : List Uuid)
    (pane : PaneNodeSnapshot) : Except String Unit := do
  let _ ← pane.validate ids 0
  bailIf (!decide pane.paneIds.Nodup || pane.paneIds.any fun id => !window.tabIds.contains id)
    "workspace pane tree contains duplicate or hidden tab IDs"

def validate (window : WorkspaceWindowSnapshot) (ids : List Uuid) : Except String Unit := do
  match window.placement with
  | some placement => placement.validate
  | none => pure ()
  bailIf (decide (maxTabs < window.tabIds.length)) "workspace window contains too many tabs"
  bailIf (window.tabIds.any fun id => !ids.contains id)
    "workspace window references an unknown tab"
  bailIf (window.activeTabId.any fun active => !window.tabIds.contains active)
    "workspace window active tab is not in that window"
  bailIf (window.focusedTabId.any fun focused => !window.tabIds.contains focused)
    "workspace window focused tab is not in that window"
  window.panes.forM (window.validatePane ids)

end WorkspaceWindowSnapshot

namespace WorkspaceSnapshot

def validate (snapshot : WorkspaceSnapshot) : Except String Unit := do
  bailIf (snapshot.version != workspaceSnapshotVersion)
    s!"unsupported workspace snapshot version {snapshot.version}"
  bailIf (decide (maxTabs < snapshot.tabs.length))
    s!"workspace snapshot cannot exceed {maxTabs} tabs"
  bailIf (decide (maxWindows < snapshot.windows.length))
    s!"workspace snapshot cannot exceed {maxWindows} windows"
  let ids := snapshot.tabs.map (·.id)
  bailIf (!decide ids.Nodup) "workspace snapshot contains duplicate tab IDs"
  snapshot.tabs.forM fun tab => tab.validate ids
  bailIf (snapshot.activeTabId.any fun active => !ids.contains active)
    "active tab does not exist"
  snapshot.windows.forM fun window => window.validate ids

end WorkspaceSnapshot

/-! ## Opening a workspace file

A workspace file that is opened gets new tab ids, in `app/workspace/files.rs`. -/

/-- `remap_pane_ids`. -/
def PaneNodeSnapshot.mapIds (mapId : Uuid → Uuid) : PaneNodeSnapshot → PaneNodeSnapshot
  | leaf id => leaf (mapId id)
  | split axis ratioMilli first second =>
    split axis ratioMilli (first.mapIds mapId) (second.mapIds mapId)

/-- Rename the tabs of a stored window, which keeps its own id. -/
def WorkspaceWindowSnapshot.mapIds (mapId : Uuid → Uuid) (window : WorkspaceWindowSnapshot) :
    WorkspaceWindowSnapshot :=
  { window with
    tabIds := window.tabIds.map mapId
    activeTabId := window.activeTabId.map mapId
    focusedTabId := window.focusedTabId.map mapId
    panes := window.panes.map (·.mapIds mapId) }

/-- Rename the tabs of a snapshot. -/
def WorkspaceSnapshot.mapIds (mapId : Uuid → Uuid) (snapshot : WorkspaceSnapshot) :
    WorkspaceSnapshot where
  version := snapshot.version
  tabs := snapshot.tabs.map fun tab =>
    { tab with id := mapId tab.id, companionTabId := tab.companionTabId.map mapId }
  activeTabId := snapshot.activeTabId.map mapId
  windows := snapshot.windows.map (·.mapIds mapId)

/-- `newId` gives the `Uuid::new_v4` of each tab. -/
def remapWorkspaceSnapshotIds (newId : Uuid → Uuid) (snapshot : WorkspaceSnapshot) :
    WorkspaceSnapshot :=
  snapshot.mapIds fun id => if id ∈ snapshot.tabs.map (·.id) then newId id else id

end AxSsh
