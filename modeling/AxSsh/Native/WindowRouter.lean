import Mathlib.Data.List.Sort
import AxSsh.Native.Workspace

/-!
# Window router

The routing state of `app/window_router.rs`: one route for each native window, with the
pane trees it shows and, for a detached window, the tabs that moved to it.

The source searches hash maps for the tree that holds a tab, in no defined order.  Here
the entry a search finds is an argument of the operation, and `RouterOp.Allowed` says that
it is one a search can find.  The application state an operation reads is `AppView`.
-/

namespace AxSsh

/-- The nil identifier names the main window. -/
def mainWindowId : Uuid := Uuid.nil

/-- What the router reads of the application state: the open tabs in order, those that are
    terminals other than SFTP browsers, those that show a security prompt, and the tab that
    is active. -/
structure AppView where
  tabIds : List Uuid := []
  terminals : Finset Uuid := ∅
  prompts : Finset Uuid := ∅
  activeTabId : Option Uuid := none

/-- The tabs that moved to a detached window. -/
structure WorkspaceTransfer where
  sourceWindowId : Uuid
  tabIds : List Uuid
  activeTabId : Option Uuid
deriving DecidableEq, Repr

structure WindowRoute where
  placement : Option WindowPlacement := none
  transfer : Option WorkspaceTransfer := none
  modalOpen : Bool := false
  windowActive : Bool := true
  activeTabId : Option Uuid := none
  paneTrees : AssocMap Uuid PaneTree := ∅

structure DetachedRoute where
  transfer : WorkspaceTransfer
  paneTree : Option PaneTree

/-- The workspace tab that was active in a detached window. -/
def DetachedRoute.activeWorkspaceTab (detached : DetachedRoute) : Option Uuid :=
  detached.transfer.activeTabId.map fun active =>
    match detached.paneTree with
    | some tree => if tree.contains active then tree.workspaceTabId else active
    | none => active

structure WindowRouterState where
  routes : AssocMap Uuid WindowRoute
  pendingDetaches : AssocMap Uuid Uuid

namespace WindowRoute

/-- The tabs a route shows as panes of another tab. -/
def hiddenPaneIds (route : WindowRoute) : List Uuid :=
  route.paneTrees.entries.flatMap fun entry => entry.2.tabIds.filter (· ≠ entry.1)

def setTree (route : WindowRoute) (key : Uuid) (tree : PaneTree) : WindowRoute :=
  { route with paneTrees := route.paneTrees.insert key tree }

/-- Put a tree under the tab it is named after. -/
def insertTree (route : WindowRoute) (tree : PaneTree) : WindowRoute :=
  route.setTree tree.workspaceTabId tree

def removeTree (route : WindowRoute) (key : Uuid) : WindowRoute :=
  { route with paneTrees := route.paneTrees.erase key }

/-- `pane_trees.entry(tab_id).or_insert_with(|| PaneTree::new(tab_id))`. -/
def ensureTree (route : WindowRoute) (tabId : Uuid) : WindowRoute :=
  if tabId ∈ route.paneTrees then route else route.insertTree (PaneTree.new tabId)

/-- Add a tab to the tabs of a detached window. -/
def listTab (route : WindowRoute) (tabId : Uuid) : WindowRoute :=
  match route.transfer with
  | some transfer =>
    if tabId ∈ transfer.tabIds then route
    else { route with transfer := some { transfer with tabIds := transfer.tabIds ++ [tabId] } }
  | none => route

/-- Take tabs away from the tabs of a detached window. -/
def unlistTabs (route : WindowRoute) (removed : List Uuid) : WindowRoute :=
  { route with transfer := route.transfer.map fun transfer =>
      { transfer with tabIds := transfer.tabIds.filter (· ∉ removed) } }

/-- Show a new tab in a tree, which became `tree`, and focus its workspace tab. -/
def splitPane (route : WindowRoute) (workspaceTabId newTabId : Uuid) (tree : PaneTree) :
    WindowRoute :=
  { (route.setTree workspaceTabId tree).listTab newTabId with
    activeTabId := some workspaceTabId }

/-- Take closed tabs off the list of a route, and its focus off their workspace tab. -/
def closeTabs (route : WindowRoute) (workspaceTabId : Uuid) (removed : List Uuid) :
    WindowRoute :=
  { route.unlistTabs removed with
    activeTabId := if route.activeTabId = some workspaceTabId then none
      else route.activeTabId }

/-- Close the pane of `tabId`: its tree becomes `tree`, with the focus on `focused`. -/
def closePane (route : WindowRoute) (workspaceTabId tabId : Uuid) (tree : PaneTree)
    (focused : Uuid) : WindowRoute where
  placement := route.placement
  transfer := route.transfer.map fun transfer =>
    { transfer with
      tabIds := transfer.tabIds.filter (· ≠ tabId)
      activeTabId := if transfer.activeTabId = some tabId then some focused
        else transfer.activeTabId }
  modalOpen := route.modalOpen
  windowActive := route.windowActive
  activeTabId := if route.activeTabId = some tabId then some workspaceTabId
    else route.activeTabId
  paneTrees := route.paneTrees.insert workspaceTabId tree

end WindowRoute

namespace WindowRouterState

/-- The router of a fresh application: the main window alone. -/
def new : WindowRouterState :=
  { routes := (∅ : AssocMap Uuid WindowRoute).insert mainWindowId {}, pendingDetaches := ∅ }

def route? (s : WindowRouterState) (windowId : Uuid) : Option WindowRoute :=
  s.routes.lookup windowId

/-- Replace the route of a window. -/
def setRoute (s : WindowRouterState) (windowId : Uuid) (route : WindowRoute) :
    WindowRouterState :=
  { s with routes := s.routes.insert windowId route }

/-- The tabs that belong to detached windows. -/
def detachedIds (s : WindowRouterState) : List Uuid :=
  s.routes.entries.flatMap fun entry => match entry.2.transfer with
    | some transfer => transfer.tabIds
    | none => []

/-- `route_tab_ids`: the tabs in the strip of a window. -/
def routeTabIds (s : WindowRouterState) (windowId : Uuid) (app : AppView) : List Uuid :=
  match s.route? windowId with
  | none => []
  | some route =>
    (match route.transfer with
      | some transfer => transfer.tabIds
      | none => app.tabIds.filter (· ∉ s.detachedIds)).filter (· ∉ route.hiddenPaneIds)

/-- The tab whose pane has the focus in a route. -/
def focusedTab (route : WindowRoute) : Option Uuid :=
  route.activeTabId.map fun workspaceTabId =>
    match route.paneTrees.lookup workspaceTabId with
    | some tree => tree.focusedTabId
    | none => workspaceTabId

def workspaceActionsLocked (s : WindowRouterState) (windowId : Uuid) (app : AppView) : Bool :=
  match s.route? windowId with
  | none => true
  | some route =>
    s.pendingDetaches.values.contains windowId || route.modalOpen ||
      (focusedTab route).any fun tabId => decide (tabId ∈ app.prompts)

def activateTab (s : WindowRouterState) (windowId tabId : Uuid) (app : AppView) :
    WindowRouterState :=
  if s.workspaceActionsLocked windowId app then s
  else if !(s.routeTabIds windowId app).contains tabId then s
  else
    match s.route? windowId with
    | none => s
    | some route =>
      let route := { route with activeTabId := some tabId }
      s.setRoute windowId (if tabId ∈ app.terminals then route.ensureTree tabId else route)

def includeTab (s : WindowRouterState) (windowId tabId : Uuid) : WindowRouterState × Bool :=
  match s.route? windowId with
  | none => (s, false)
  | some route => (s.setRoute windowId (route.listTab tabId), true)

/-- Show a tab of a window.  The source looks for a tree under the tab first, and for a tree
    that contains it after that; `owner` is what the second search finds. -/
def setActive (s : WindowRouterState) (windowId tabId : Uuid) (owner : Option Uuid) :
    WindowRouterState :=
  match s.route? windowId with
  | none => s
  | some route =>
    if tabId ∈ route.paneTrees then
      s.setRoute windowId { route with activeTabId := some tabId }
    else
      match owner.bind fun key => (route.paneTrees.lookup key).map fun tree => (key, tree) with
      | some (workspaceTabId, tree) =>
        s.setRoute windowId
          { route.setTree workspaceTabId (tree.setFocused tabId).1 with
            activeTabId := some workspaceTabId }
      | none => s.setRoute windowId { route with activeTabId := some tabId }

/-- Focus the pane that shows `tabId`; `owner` is its tree in the window. -/
def focusTerminalPane (s : WindowRouterState) (windowId tabId : Uuid) (app : AppView)
    (owner : Option Uuid) : WindowRouterState :=
  if s.workspaceActionsLocked windowId app || decide (tabId ∉ app.terminals) then s
  else
    match s.route? windowId, owner with
    | some route, some workspaceTabId =>
      match route.paneTrees.lookup workspaceTabId with
      | none => s
      | some tree =>
        s.setRoute windowId
          { route.setTree workspaceTabId (tree.setFocused tabId).1 with
            activeTabId := some workspaceTabId }
    | _, _ => s

/-- Rewrite the active tree of a window. -/
def updateActiveTree (s : WindowRouterState) (windowId : Uuid) (update : PaneTree → PaneTree) :
    WindowRouterState :=
  match s.route? windowId with
  | none => s
  | some route =>
    match route.activeTabId with
    | none => s
    | some workspaceTabId =>
      match route.paneTrees.lookup workspaceTabId with
      | none => s
      | some tree => s.setRoute windowId (route.setTree workspaceTabId (update tree))

def focusPaneDirection (s : WindowRouterState) (windowId : Uuid) (direction : PaneDirection) :
    WindowRouterState :=
  s.updateActiveTree windowId fun tree => (tree.focusDirection direction).1

/-- `ratio` is `none` when it is not finite. -/
def resizeTerminalDivider (s : WindowRouterState) (windowId : Uuid) (dividerId : Int)
    (ratio : Option ℚ) : WindowRouterState :=
  s.updateActiveTree windowId fun tree => (tree.resizeSplit dividerId ratio).1

/-- Rewrite a route, if the window has one. -/
def updateRoute (s : WindowRouterState) (windowId : Uuid) (update : WindowRoute → WindowRoute) :
    WindowRouterState :=
  match s.route? windowId with
  | none => s
  | some route => s.setRoute windowId (update route)

def setPlacement (s : WindowRouterState) (windowId : Uuid)
    (placement : Option WindowPlacement) : WindowRouterState :=
  s.updateRoute windowId fun route => { route with placement }

def setModalOpen (s : WindowRouterState) (windowId : Uuid) (modalOpen : Bool) :
    WindowRouterState :=
  s.updateRoute windowId fun route => { route with modalOpen }

/-- `token` is the `Uuid::new_v4` of the detach. -/
def beginDetach (s : WindowRouterState) (windowId token : Uuid) : WindowRouterState × Bool :=
  if !s.pendingDetaches.values.contains windowId then
    ({ s with pendingDetaches := s.pendingDetaches.insert token windowId }, true)
  else (s, false)

def finishDetach (s : WindowRouterState) (token : Uuid) : WindowRouterState :=
  { s with pendingDetaches := s.pendingDetaches.erase token }

/-- Complete a split of the pane that shows `sourceTabId`; `owner` is the tree of that pane
    in the window. -/
def completePaneSplit (s : WindowRouterState) (windowId sourceTabId : Uuid)
    (direction : PaneDirection) (newTabId : Uuid) (app : AppView) (owner : Option Uuid) :
    WindowRouterState :=
  if newTabId ∉ app.terminals then s
  else
    match s.route? windowId, owner with
    | some route, some workspaceTabId =>
      match route.paneTrees.lookup workspaceTabId with
      | none => s
      | some tree =>
        let focused := tree.setFocused sourceTabId
        let split := focused.1.splitFocused direction newTabId
        -- a refused split leaves the focus on its source
        if !(focused.2 && split.2) then
          s.setRoute windowId (route.setTree workspaceTabId focused.1)
        else
          s.setRoute windowId (route.splitPane workspaceTabId newTabId split.1)
    | _, _ => s

/-- Close one pane of a workspace tab; `owner` is the window and tree that hold it. -/
def removeTerminalChildPane (s : WindowRouterState) (tabId : Uuid) (app : AppView)
    (owner : Option (Uuid × Uuid)) : WindowRouterState :=
  if tabId ∉ app.terminals then s
  else
    match owner with
    | none => s
    | some (windowId, workspaceTabId) =>
      match s.route? windowId with
      | none => s
      | some route =>
        match route.paneTrees.lookup workspaceTabId with
        | none => s
        | some tree =>
          if tabId = tree.workspaceTabId then s
          else
            match tree.remove tabId with
            | none => s
            | some (tree, focused) =>
              s.setRoute windowId (route.closePane workspaceTabId tabId tree focused)

/-- The tree under `key` in a window. -/
def tree? (s : WindowRouterState) (windowId key : Uuid) : Option PaneTree :=
  (s.route? windowId).bind fun route => route.paneTrees.lookup key

/-- Drop the tree under `key` from a window. -/
def removeTree (s : WindowRouterState) (windowId key : Uuid) : WindowRouterState :=
  match s.route? windowId with
  | some route => s.setRoute windowId (route.removeTree key)
  | none => s

/-- Take the tree that shows `tabId` out of a window; `owner` is its key. -/
def takePaneTreeForDetach (s : WindowRouterState) (windowId : Uuid) (owner : Option Uuid) :
    WindowRouterState × Option PaneTree :=
  match owner with
  | some workspaceTabId =>
    (s.removeTree windowId workspaceTabId, s.tree? windowId workspaceTabId)
  | none => (s, none)

/-- The tabs that close with `tabId`: all panes of its tree, or the tab alone. -/
def closingTabs (s : WindowRouterState) (tabId : Uuid) (owner : Option (Uuid × Uuid)) :
    List Uuid :=
  match owner.bind fun found => s.tree? found.1 found.2 with
  | some tree => tree.tabIds
  | none => [tabId]

/-- Take closed tabs off the list of every window. -/
def closeTabs (s : WindowRouterState) (workspaceTabId : Uuid) (removed : List Uuid) :
    WindowRouterState :=
  let close (_ : Uuid) (route : WindowRoute) := route.closeTabs workspaceTabId removed
  { s with routes := AssocMap.mapValues close s.routes }

/-- Take a workspace tab with all its panes out of every window; `owner` is the window and
    tree that hold it. -/
def takeWorkspaceTabIds (s : WindowRouterState) (tabId : Uuid)
    (owner : Option (Uuid × Uuid)) : WindowRouterState × List Uuid :=
  let removed := s.closingTabs tabId owner
  match owner with
  | some (windowId, workspaceTabId) =>
    ((s.removeTree windowId workspaceTabId).closeTabs workspaceTabId removed, removed)
  | none => (s.closeTabs tabId removed, removed)

def registerDetached (s : WindowRouterState) (windowId : Uuid) (transfer : WorkspaceTransfer)
    (paneTree : Option PaneTree) : WindowRouterState :=
  let route : WindowRoute := { activeTabId := transfer.activeTabId, transfer := some transfer }
  s.setRoute windowId (match paneTree with
    | some tree => route.insertTree tree
    | none => route)

/-- Drop a detached window; `owner` is the tree a search of its trees finds first. -/
def removeDetached (s : WindowRouterState) (windowId : Uuid) (owner : Option Uuid) :
    WindowRouterState × Option DetachedRoute :=
  ({ s with routes := s.routes.erase windowId },
    (s.route? windowId).bind fun route => route.transfer.map fun transfer =>
      { transfer := { transfer with activeTabId := route.activeTabId.or transfer.activeTabId }
        paneTree := owner.bind fun key => route.paneTrees.lookup key })

/-- Drop every detached window. -/
def discardDetached (s : WindowRouterState) : WindowRouterState :=
  { routes := AssocMap.retain (fun _ route => route.transfer.isNone) s.routes
    pendingDetaches := ∅ }

/-- Show a detached workspace in the main window again. -/
def restoreDetached (s : WindowRouterState) (detached : DetachedRoute) : WindowRouterState :=
  match s.route? mainWindowId with
  | none => s
  | some main =>
    let main := { main with activeTabId := detached.activeWorkspaceTab }
    s.setRoute mainWindowId (match detached.paneTree with
      | some tree => main.insertTree tree
      | none => main)

/-! ## Views -/

/-- The tabs a window shows in its strip, in the order of the application. -/
def viewTabs (s : WindowRouterState) (route : WindowRoute) (app : AppView) : List Uuid :=
  (match route.transfer with
    | some transfer => app.tabIds.filter (· ∈ transfer.tabIds)
    | none => app.tabIds.filter (· ∉ s.detachedIds)).filter (· ∉ route.hiddenPaneIds)

/-- The tab a window shows: the active one if it is in the strip, else one that was active
    before, else the first.  `owner` is the tree a search for a tab finds in the window. -/
def viewActive (s : WindowRouterState) (route : WindowRoute) (app : AppView)
    (owner : Uuid → Option Uuid) : Option Uuid :=
  let tabs := s.viewTabs route app
  let workspaceTabFor (tabId : Uuid) := (owner tabId).getD tabId
  let transferred := match route.transfer with
    | some transfer => transfer.activeTabId.map workspaceTabFor
    | none => app.activeTabId.map workspaceTabFor
  (route.activeTabId.filter (· ∈ tabs)).or ((transferred.filter (· ∈ tabs)).or tabs.head?)

/-- Making the view of a window also settles which tab it shows. -/
def viewRoute (s : WindowRouterState) (route : WindowRoute) (app : AppView)
    (owner : Uuid → Option Uuid) : WindowRoute :=
  match s.viewActive route app owner with
  | none => { route with activeTabId := none }
  | some tabId =>
    let route := { route with activeTabId := some tabId }
    if tabId ∈ app.terminals then route.ensureTree tabId else route

/-- Make the views of all windows. -/
def views (s : WindowRouterState) (app : AppView) (owner : Uuid → Uuid → Option Uuid) :
    WindowRouterState :=
  let view (windowId : Uuid) (route : WindowRoute) := s.viewRoute route app (owner windowId)
  { s with routes := AssocMap.mapValues view s.routes }

/-! ## Saving a workspace -/

def windowSnapshot (app : AppView) (windowId : Uuid) (route : WindowRoute) :
    WorkspaceWindowSnapshot :=
  { id := windowId
    tabIds := match route.transfer with
      | some transfer => transfer.tabIds
      | none => app.tabIds
    activeTabId := route.activeTabId
    focusedTabId := route.activeTabId.bind fun active =>
      (route.paneTrees.lookup active).map (·.focusedTabId)
    panes := (route.paneTrees.entries.insertionSort fun a b => a.1.le b.1).map fun entry =>
      entry.2.snapshot
    placement := route.placement }

/-- `base` is the snapshot of the application's tabs. -/
def snapshot (s : WindowRouterState) (base : WorkspaceSnapshot) (app : AppView) :
    WorkspaceSnapshot :=
  { base with
    windows := (s.routes.entries.map fun entry =>
      windowSnapshot app entry.1 entry.2).insertionSort fun a b => a.id.le b.id }

/-! ## Restoring a workspace -/

/-- The tree a stored pane restores to, when all its tabs are open. -/
def restoredTree (app : AppView) (pane : PaneNodeSnapshot) : Option PaneTree :=
  match PaneTree.fromSnapshot pane.paneTabRoot pane pane.paneTabRoot with
  | none => none
  | some tree => if tree.tabIds.all fun id => app.tabIds.contains id then some tree else none

/-- Restore one stored pane into the main route. -/
def restorePane (app : AppView) (focused : Option Uuid) (main : WindowRoute)
    (pane : PaneNodeSnapshot) : WindowRoute :=
  match restoredTree app pane with
  | none => main
  | some tree => main.insertTree (tree.setFocused (focused.getD pane.paneTabRoot)).1

/-- Restore one stored window into the main route, when it is the main window. -/
def restoreWindow (app : AppView) (snapshot : WorkspaceSnapshot) (main : WindowRoute)
    (window : WorkspaceWindowSnapshot) : WindowRoute :=
  if window.id ≠ mainWindowId then main
  else
    window.panes.foldl (restorePane app window.focusedTabId)
      { main with
        activeTabId := window.activeTabId.or snapshot.activeTabId
        placement := window.placement }

def applySnapshot (s : WindowRouterState) (snapshot : WorkspaceSnapshot) (app : AppView) :
    WindowRouterState :=
  match s.route? mainWindowId with
  | none => s
  | some main =>
    s.setRoute mainWindowId (snapshot.windows.foldl (restoreWindow app snapshot)
      { main with paneTrees := ∅, activeTabId := snapshot.activeTabId })

/-- The transfer and the tree a stored window is opened again with, in
    `app/window_bridge.rs`. -/
def restoredDetachedRoute (window : WorkspaceWindowSnapshot) (available : List Uuid) :
    Option (WorkspaceTransfer × Option PaneTree) :=
  let tabIds := window.tabIds.filter fun id => available.contains id
  match (window.activeTabId.filter fun id => tabIds.contains id).or tabIds.head? with
  | none => none
  | some activeTabId =>
    let transfer : WorkspaceTransfer :=
      { sourceWindowId := mainWindowId, tabIds, activeTabId := some activeTabId }
    match window.panes.head? with
    | none => some (transfer, none)
    | some pane =>
      let root := pane.paneTabRoot
      match PaneTree.fromSnapshot root pane (window.focusedTabId.getD root) with
      | none => none
      | some tree =>
        if tree.tabIds.all fun id => available.contains id then some (transfer, some tree)
        else none

end WindowRouterState

/-! ## Operations as labels -/

inductive RouterOp where
  | activateTab (windowId tabId : Uuid) (app : AppView)
  | includeTab (windowId tabId : Uuid)
  | setActive (windowId tabId : Uuid) (owner : Option Uuid)
  | focusTerminalPane (windowId tabId : Uuid) (app : AppView) (owner : Option Uuid)
  | focusPaneDirection (windowId : Uuid) (direction : PaneDirection)
  | resizeTerminalDivider (windowId : Uuid) (dividerId : Int) (ratio : Option ℚ)
  | setPlacement (windowId : Uuid) (placement : Option WindowPlacement)
  | setModalOpen (windowId : Uuid) (modalOpen : Bool)
  | beginDetach (windowId token : Uuid)
  | finishDetach (token : Uuid)
  | views (app : AppView) (owner : Uuid → Uuid → Option Uuid)
  | completePaneSplit (windowId sourceTabId : Uuid) (direction : PaneDirection)
      (newTabId : Uuid) (app : AppView) (owner : Option Uuid)
  | removeTerminalChildPane (windowId : Option Uuid) (tabId : Uuid) (app : AppView)
      (owner : Option (Uuid × Uuid))
  | takePaneTreeForDetach (windowId tabId : Uuid) (owner : Option Uuid)
  | takeWorkspaceTabIds (tabId : Uuid) (owner : Option (Uuid × Uuid))
  | registerDetached (windowId : Uuid) (transfer : WorkspaceTransfer)
      (paneTree : Option PaneTree)
  | removeDetached (windowId : Uuid) (owner : Option Uuid)
  | discardDetached
  | restoreDetached (detached : DetachedRoute)
  | applySnapshot (snapshot : WorkspaceSnapshot) (app : AppView)

namespace WindowRouterState

/-- A search of one window for the tree that shows a tab can find this owner. -/
def FindsIn (s : WindowRouterState) (windowId tabId : Uuid) : Option Uuid → Prop
  | some key => ∃ tree, s.tree? windowId key = some tree ∧ tree.contains tabId
  | none => ∀ key tree, s.tree? windowId key = some tree → tree.contains tabId = false

/-- A search of all windows for the tree that shows a tab can find this owner. -/
def Finds (s : WindowRouterState) (tabId : Uuid) : Option (Uuid × Uuid) → Prop
  | some (windowId, key) => ∃ tree, s.tree? windowId key = some tree ∧ tree.contains tabId
  | none => ∀ windowId key tree, s.tree? windowId key = some tree → tree.contains tabId = false

/-- The operations a router can perform: its searches find what is there, the trees it is
    handed were built by pane operations, the main window is never detached, and a workspace
    snapshot has passed its validation. -/
def Allowed (s : WindowRouterState) : RouterOp → Prop
  | .setActive windowId tabId owner => s.FindsIn windowId tabId owner
  | .focusTerminalPane windowId tabId _ owner => s.FindsIn windowId tabId owner
  | .views _ owner => ∀ windowId tabId, s.FindsIn windowId tabId (owner windowId tabId)
  | .registerDetached windowId _ paneTree =>
    windowId ≠ mainWindowId ∧ ∀ tree, paneTree = some tree → paneSystem.Reachable tree
  | .removeDetached windowId _ => windowId ≠ mainWindowId
  | .restoreDetached detached =>
    ∀ tree, detached.paneTree = some tree → paneSystem.Reachable tree
  | .completePaneSplit windowId sourceTabId _ _ _ owner => s.FindsIn windowId sourceTabId owner
  | .removeTerminalChildPane (some windowId) tabId _ owner =>
    s.FindsIn windowId tabId (owner.map (·.2)) ∧ ∀ found, owner = some found → found.1 = windowId
  | .removeTerminalChildPane none tabId _ owner => s.Finds tabId owner
  | .takePaneTreeForDetach windowId tabId owner => s.FindsIn windowId tabId owner
  | .takeWorkspaceTabIds tabId owner => s.Finds tabId owner
  | .applySnapshot snapshot _ => snapshot.validate = .ok ()
  | _ => True

def apply (s : WindowRouterState) : RouterOp → WindowRouterState
  | .activateTab windowId tabId app => s.activateTab windowId tabId app
  | .includeTab windowId tabId => (s.includeTab windowId tabId).1
  | .setActive windowId tabId owner => s.setActive windowId tabId owner
  | .focusTerminalPane windowId tabId app owner => s.focusTerminalPane windowId tabId app owner
  | .focusPaneDirection windowId direction => s.focusPaneDirection windowId direction
  | .resizeTerminalDivider windowId dividerId ratio =>
    s.resizeTerminalDivider windowId dividerId ratio
  | .setPlacement windowId placement => s.setPlacement windowId placement
  | .setModalOpen windowId modalOpen => s.setModalOpen windowId modalOpen
  | .beginDetach windowId token => (s.beginDetach windowId token).1
  | .finishDetach token => s.finishDetach token
  | .views app owner => s.views app owner
  | .completePaneSplit windowId source direction new app owner =>
    s.completePaneSplit windowId source direction new app owner
  | .removeTerminalChildPane _ tabId app owner => s.removeTerminalChildPane tabId app owner
  | .takePaneTreeForDetach windowId _ owner => (s.takePaneTreeForDetach windowId owner).1
  | .takeWorkspaceTabIds tabId owner => (s.takeWorkspaceTabIds tabId owner).1
  | .registerDetached windowId transfer paneTree => s.registerDetached windowId transfer paneTree
  | .removeDetached windowId owner => (s.removeDetached windowId owner).1
  | .discardDetached => s.discardDetached
  | .restoreDetached detached => s.restoreDetached detached
  | .applySnapshot snapshot app => s.applySnapshot snapshot app

end WindowRouterState

/-- The router as a transition system. -/
def routerSystem : Transition WindowRouterState RouterOp where
  init s := s = .new
  step s op s' := s.Allowed op ∧ s' = s.apply op

end AxSsh
