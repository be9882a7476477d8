import AxSsh.Spec.PaneLayout
import AxSsh.Spec.RouterOwnership

/-!
# Trees of a router

Every pane tree a router holds was built by the operations of pane trees, and is stored under
its own name.  Unlike ownership this holds in every reachable state, so it is what saving a
workspace can rely on.

## Key results
- `PaneTree.reachable_storable`: a built tree is one a workspace file can hold
- `WindowRouterState.reachable_built`: all trees of a reachable router are built
-/

namespace AxSsh

namespace PaneTree

/-- What a tree needs for a workspace file to hold it. -/
structure Storable (tree : PaneTree) : Prop where
  bounded : tree.paneCount ≤ maxTerminalPanes
  focused : tree.focusedTabId ∈ tree.tabIds
  ratios : tree.RatiosBounded

theorem focusedTabId_fromSnapshot {workspaceTabId focusedTabId : Uuid}
    {snapshot : PaneNodeSnapshot} {tree : PaneTree}
    (h : fromSnapshot workspaceTabId snapshot focusedTabId = some tree) :
    tree.focusedTabId = focusedTabId := by
  unfold fromSnapshot at h
  split at h
  · exact nomatch h
  · dsimp only at h
    split at h
    · cases h
      rfl
    · exact nomatch h

theorem Storable.splitFocused {tree tree' : PaneTree} (h : tree.Storable)
    {direction : PaneDirection} {newTabId : Uuid}
    (hsplit : tree.splitFocused direction newTabId = (tree', true)) : tree'.Storable := by
  have hratios := h.ratios.splitFocused hsplit
  obtain ⟨left, right, he, he'⟩ := insertsAtFocus_of_splitFocused hsplit
  obtain ⟨hcount, _, root, _, rfl⟩ := of_splitFocused hsplit
  refine ⟨?_, ?_, hratios⟩
  · show (PaneTree.tabIds _).length ≤ _
    have hlength : tree.tabIds.length < maxTerminalPanes := hcount
    rw [he'] at *
    rw [he] at hlength
    split <;> simp only [List.length_append, List.length_cons, List.length_nil] at hlength ⊢ <;>
      omega
  · show newTabId ∈ PaneTree.tabIds _
    rw [he']
    split <;> simp

theorem Storable.remove {tree tree' : PaneTree} (h : tree.Storable) {tabId focused : Uuid}
    (hremove : tree.remove tabId = some (tree', focused)) : tree'.Storable := by
  obtain ⟨_, hleaves⟩ := of_remove hremove
  refine ⟨?_, ?_, h.ratios.remove hremove⟩
  · show tree'.tabIds.length ≤ _
    rw [hleaves]
    exact (List.length_filter_le _ _).trans h.bounded
  · unfold PaneTree.remove at hremove
    split at hremove
    · cases hremove
      exact h.focused
    · split at hremove
      · exact nomatch hremove
      · rename_i root hroot
        cases hremove
        by_cases hfocus : tree.focusedTabId = tabId
        · simp only [if_pos hfocus]
          exact root.firstTabId_mem
        · simp only [if_neg hfocus] at hleaves ⊢
          rw [hleaves]
          exact List.mem_filter.mpr ⟨h.focused, decide_eq_true hfocus⟩

theorem Storable.apply {tree : PaneTree} (h : tree.Storable) (op : PaneOp) :
    (tree.apply op).1.Storable := by
  cases op with
  | setFocused tabId =>
    simp only [PaneTree.apply, PaneTree.setFocused]
    split
    · exact h
    · rename_i hmem
      have hcontains : tree.contains tabId := by simpa using hmem
      exact ⟨h.bounded, mem_tabIds_iff_contains.mp hcontains, h.ratios⟩
  | splitFocused direction newTabId =>
    show (tree.splitFocused direction newTabId).1.Storable
    cases hres : tree.splitFocused direction newTabId with
    | mk tree' split =>
      cases split with
      | true => exact h.splitFocused hres
      | false => exact eq_of_splitFocused hres ▸ h
  | focusDirection direction =>
    simp only [PaneTree.apply, PaneTree.focusDirection]
    cases hnext : tree.neighbour direction with
    | none => exact h
    | some next =>
      have hmem : next.tabId ∈ tree.tabIds := mem_of_neighbour hnext
      exact ⟨h.bounded, hmem, h.ratios⟩
  | resizeSplit dividerId ratio =>
    simp only [PaneTree.apply]
    obtain ⟨he, _⟩ | ⟨index, r, _, tree', _, _, hset, he⟩ :=
      tree.resizeSplit_cases dividerId ratio
    · rw [he]
      exact h
    · rw [he]
      -- resizing changes a ratio and no tab
      have htabs := hset.tabIds
      refine ⟨?_, ?_, h.ratios.setsRatio hset⟩
      · show tree'.tabIds.length ≤ _
        rw [htabs]
        exact h.bounded
      · rw [htabs, hset.2.1]
        exact h.focused
  | remove tabId =>
    simp only [PaneTree.apply]
    cases hres : tree.remove tabId with
    | none => exact h
    | some result => exact h.remove hres

/-- A built tree is one a workspace file can hold. -/
theorem reachable_storable {tree : PaneTree} (h : paneSystem.Reachable tree) :
    tree.Storable := by
  refine h.invariant (fun t ht => ?_) fun t op t' hstep ht => ?_
  · have hratios := reachable_ratiosBounded (.of_init ht)
    obtain ⟨tabId, rfl⟩ | ⟨workspaceTabId, snapshot, focusedTabId, hrestore⟩ := ht
    · exact ⟨(new_sound tabId).bounded, (new_sound tabId).focused, hratios⟩
    · obtain ⟨_, _, _, hfocus, hcount⟩ := of_fromSnapshot hrestore
      refine ⟨hcount, ?_, hratios⟩
      rw [focusedTabId_fromSnapshot hrestore]
      exact hfocus
  · rw [show t' = (t.apply op).1 from hstep]
    exact ht.apply op

/-- What a pane operation makes of a built tree is built. -/
theorem reachable_apply {tree : PaneTree} (h : paneSystem.Reachable tree) (op : PaneOp) :
    paneSystem.Reachable (tree.apply op).1 :=
  h.step (a := op) rfl

end PaneTree

namespace WindowRoute

/-- The trees of a route are built, and stored under their names. -/
def Built (route : WindowRoute) : Prop :=
  ∀ key tree, route.paneTrees.lookup key = some tree →
    tree.workspaceTabId = key ∧ paneSystem.Reachable tree

theorem Built.setTree {route : WindowRoute} (h : route.Built) {key : Uuid} {tree : PaneTree}
    (hname : tree.workspaceTabId = key) (htree : paneSystem.Reachable tree) :
    (route.setTree key tree).Built := by
  intro key' tree' hlookup
  rw [lookup_setTree] at hlookup
  split at hlookup
  · rename_i hkey
    cases hlookup
    exact ⟨hname.trans hkey.symm, htree⟩
  · exact h key' tree' hlookup

theorem Built.removeTree {route : WindowRoute} (h : route.Built) (key : Uuid) :
    (route.removeTree key).Built := by
  intro key' tree' hlookup
  unfold WindowRoute.removeTree at hlookup
  rw [AssocMap.lookup_erase_ite] at hlookup
  split at hlookup
  · exact nomatch hlookup
  · exact h key' tree' hlookup

theorem Built.listTab {route : WindowRoute} (h : route.Built) (tab : Uuid) :
    (route.listTab tab).Built := by
  unfold Built
  rw [paneTrees_listTab]
  exact h

theorem Built.ensureTree {route : WindowRoute} (h : route.Built) (tabId : Uuid) :
    (route.ensureTree tabId).Built := by
  unfold WindowRoute.ensureTree
  split
  · exact h
  · exact h.setTree rfl (.of_init (.inl ⟨tabId, rfl⟩))

theorem transfer_ensureTree (route : WindowRoute) (tabId : Uuid) :
    (route.ensureTree tabId).transfer = route.transfer := by
  unfold WindowRoute.ensureTree
  split <;> rfl

end WindowRoute

namespace WindowRouterState

/-- There is a main window, which is not detached, and the trees of all windows are built. -/
structure Built (s : WindowRouterState) : Prop where
  main : ∃ route, s.route? mainWindowId = some route ∧ route.transfer = none
  route : ∀ w route, s.route? w = some route → route.Built

/-- A route can be replaced by a built one that is detached only if it was. -/
theorem Built.setRoute {s : WindowRouterState} (h : s.Built) {w : Uuid} {route' : WindowRoute}
    (hbuilt : route'.Built) (htransfer : ∀ route, s.route? w = some route →
      route.transfer = none → route'.transfer = none) : (s.setRoute w route').Built := by
  constructor
  · obtain ⟨route, hr, hnone⟩ := h.main
    rw [route?_setRoute]
    split
    · rename_i hw
      exact ⟨route', rfl, htransfer route (hw ▸ hr) hnone⟩
    · exact ⟨route, hr, hnone⟩
  · intro w' route hr
    rw [route?_setRoute] at hr
    split at hr
    · cases hr
      exact hbuilt
    · exact h.route w' route hr

/-- The same for a route that is as detached as the old one. -/
theorem Built.replace {s : WindowRouterState} (h : s.Built) {w : Uuid}
    {route route' : WindowRoute} (hr : s.route? w = some route) (hbuilt : route'.Built)
    (htransfer : route.transfer = none → route'.transfer = none) : (s.setRoute w route').Built :=
  h.setRoute hbuilt fun _ hr' hnone =>
    htransfer ((Option.some.inj (hr.symm.trans hr')) ▸ hnone)

/-- Rewriting every route. -/
theorem Built.mapRoutes {s : WindowRouterState} (h : s.Built) {f : Uuid → WindowRoute → WindowRoute}
    (hbuilt : ∀ w route, route.Built → (f w route).Built)
    (htransfer : ∀ w route, route.transfer = none → (f w route).transfer = none) :
    Built { s with routes := AssocMap.mapValues f s.routes } := by
  constructor
  · obtain ⟨route, hr, hnone⟩ := h.main
    refine ⟨f mainWindowId route, ?_, htransfer _ _ hnone⟩
    exact (AssocMap.lookup_mapValues f s.routes mainWindowId).trans
      (by rw [show s.routes.lookup mainWindowId = some route from hr]; rfl)
  · intro w route' hr'
    have hmap := (AssocMap.lookup_mapValues f s.routes w).symm.trans hr'
    obtain ⟨route, hr, rfl⟩ := Option.map_eq_some_iff.mp hmap
    exact hbuilt w route (h.route w route hr)

theorem Built.activateTab {s : WindowRouterState} (h : s.Built) (windowId tabId : Uuid)
    (app : AppView) : (s.activateTab windowId tabId app).Built := by
  unfold WindowRouterState.activateTab
  split
  · exact h
  · split
    · exact h
    · split
      · exact h
      · rename_i route hr
        have hbuilt : WindowRoute.Built { route with activeTabId := some tabId } :=
          h.route windowId route hr
        dsimp only
        split
        · refine h.replace hr (hbuilt.ensureTree tabId) fun hnone => ?_
          rw [WindowRoute.transfer_ensureTree]
          exact hnone
        · exact h.replace hr hbuilt id

theorem Built.includeTab {s : WindowRouterState} (h : s.Built) (windowId tabId : Uuid) :
    (s.includeTab windowId tabId).1.Built := by
  unfold WindowRouterState.includeTab
  split
  · exact h
  · rename_i route hr
    refine h.replace hr ((h.route windowId route hr).listTab tabId) fun hnone => ?_
    rw [WindowRoute.transfer_listTab, hnone]
    rfl

/-- One tree of a window is replaced by what a pane operation makes of it. -/
theorem Built.replaceTree {s : WindowRouterState} (h : s.Built) {windowId key : Uuid}
    {route : WindowRoute} {tree tree' : PaneTree} (hr : s.route? windowId = some route)
    (hlookup : route.paneTrees.lookup key = some tree)
    (hname : tree'.workspaceTabId = tree.workspaceTabId) (htree : paneSystem.Reachable tree')
    (activeTabId : Option Uuid) :
    (s.setRoute windowId { route.setTree key tree' with activeTabId }).Built := by
  have hroute := h.route windowId route hr
  have hbuilt : (route.setTree key tree').Built :=
    hroute.setTree (hname.trans (hroute key tree hlookup).1) htree
  exact h.replace hr hbuilt id

theorem Built.setActive {s : WindowRouterState} (h : s.Built) (windowId tabId : Uuid)
    (owner : Option Uuid) : (s.setActive windowId tabId owner).Built := by
  unfold WindowRouterState.setActive
  split
  · exact h
  · rename_i route hr
    have hroute := h.route windowId route hr
    split
    · exact h.replace hr hroute id
    · split
      · rename_i key tree hfound
        obtain ⟨key', rfl, hmap⟩ := Option.bind_eq_some_iff.mp hfound
        obtain ⟨tree', hlookup, he⟩ := Option.map_eq_some_iff.mp hmap
        cases he
        exact h.replaceTree hr hlookup (PaneTree.workspaceTabId_setFocused _ _)
          (PaneTree.reachable_apply (hroute _ _ hlookup).2 (.setFocused tabId)) _
      · exact h.replace hr hroute id

theorem Built.focusTerminalPane {s : WindowRouterState} (h : s.Built) (windowId tabId : Uuid)
    (app : AppView) (owner : Option Uuid) :
    (s.focusTerminalPane windowId tabId app owner).Built := by
  unfold WindowRouterState.focusTerminalPane
  split
  · exact h
  · split
    · rename_i route key hr
      split
      · exact h
      · rename_i tree hlookup
        have hfocused := PaneTree.reachable_apply (h.route windowId route hr _ _ hlookup).2
          (.setFocused tabId)
        exact h.replaceTree hr hlookup (PaneTree.workspaceTabId_setFocused _ _) hfocused _
    · exact h

theorem Built.updateActiveTree {s : WindowRouterState} (h : s.Built) (windowId : Uuid)
    {update : PaneTree → PaneTree}
    (hname : ∀ tree, (update tree).workspaceTabId = tree.workspaceTabId)
    (htree : ∀ tree, paneSystem.Reachable tree → paneSystem.Reachable (update tree)) :
    (s.updateActiveTree windowId update).Built := by
  unfold WindowRouterState.updateActiveTree
  split
  · exact h
  · rename_i route hr
    split
    · exact h
    · split
      · exact h
      · rename_i tree hlookup
        exact h.replaceTree hr hlookup (hname tree)
          (htree tree (h.route windowId route hr _ _ hlookup).2) route.activeTabId

theorem Built.updateRoute {s : WindowRouterState} (h : s.Built) (windowId : Uuid)
    {update : WindowRoute → WindowRoute}
    (hsame : ∀ route : WindowRoute, route.SameTabs (update route)) :
    (s.updateRoute windowId update).Built := by
  unfold WindowRouterState.updateRoute
  split
  · exact h
  · rename_i route hr
    refine h.replace hr ?_ fun hnone => ?_
    · unfold WindowRoute.Built
      rw [(hsame route).paneTrees]
      exact h.route windowId route hr
    · have htabs := (hsame route).tabIds
      rw [hnone] at htabs
      exact Option.map_eq_none_iff.mp htabs

theorem Built.completePaneSplit {s : WindowRouterState} (h : s.Built) (windowId source : Uuid)
    (direction : PaneDirection) (newTabId : Uuid) (app : AppView) (owner : Option Uuid) :
    (s.completePaneSplit windowId source direction newTabId app owner).Built := by
  unfold WindowRouterState.completePaneSplit
  split
  · exact h
  · split
    · rename_i route key hr
      split
      · exact h
      · rename_i tree hlookup
        have hroute := h.route windowId route hr
        have hfocused := PaneTree.reachable_apply (hroute _ _ hlookup).2 (.setFocused source)
        dsimp only
        split
        · exact h.replaceTree hr hlookup (PaneTree.workspaceTabId_setFocused _ _) hfocused
            route.activeTabId
        · have hsplit := PaneTree.reachable_apply hfocused (.splitFocused direction newTabId)
          have hkey := (hroute _ _ hlookup).1
          have hname : ((tree.setFocused source).1.splitFocused direction newTabId).1.workspaceTabId
              = key := by
            rw [PaneTree.workspaceTabId_splitFocused, PaneTree.workspaceTabId_setFocused, hkey]
          refine h.replace hr ((hroute.setTree hname hsplit).listTab newTabId) fun hnone => ?_
          show (WindowRoute.listTab _ _).transfer = none
          rw [WindowRoute.transfer_listTab]
          exact Option.map_eq_none_iff.mpr hnone
    · exact h

theorem Built.removeTerminalChildPane {s : WindowRouterState} (h : s.Built) (tabId : Uuid)
    (app : AppView) (owner : Option (Uuid × Uuid)) :
    (s.removeTerminalChildPane tabId app owner).Built := by
  unfold WindowRouterState.removeTerminalChildPane
  split
  · exact h
  · split
    · exact h
    · rename_i windowId key
      split
      · exact h
      · rename_i route hr
        split
        · exact h
        · rename_i tree hlookup
          split
          · exact h
          · split
            · exact h
            · rename_i tree' focused hremove
              have hroute := h.route windowId route hr
              have htree := PaneTree.reachable_apply (hroute _ _ hlookup).2 (.remove tabId)
              simp only [PaneTree.apply, hremove] at htree
              have hname := (PaneTree.of_remove hremove).1.trans (hroute _ _ hlookup).1
              exact h.replace hr (hroute.setTree hname htree)
                fun hnone => Option.map_eq_none_iff.mpr hnone

theorem Built.removeTree {s : WindowRouterState} (h : s.Built) (windowId key : Uuid) :
    (s.removeTree windowId key).Built := by
  unfold WindowRouterState.removeTree
  split
  · rename_i route hr
    exact h.replace hr ((h.route windowId route hr).removeTree key) id
  · exact h

theorem Built.takePaneTreeForDetach {s : WindowRouterState} (h : s.Built) (windowId : Uuid)
    (owner : Option Uuid) : (s.takePaneTreeForDetach windowId owner).1.Built := by
  cases owner with
  | some key => exact h.removeTree windowId key
  | none => exact h

theorem Built.closeTabs {s : WindowRouterState} (h : s.Built) (workspaceTabId : Uuid)
    (removed : List Uuid) : (s.closeTabs workspaceTabId removed).Built :=
  h.mapRoutes (fun _ _ hroute => hroute) fun _ _ hnone => Option.map_eq_none_iff.mpr hnone

theorem Built.takeWorkspaceTabIds {s : WindowRouterState} (h : s.Built) (tabId : Uuid)
    (owner : Option (Uuid × Uuid)) : (s.takeWorkspaceTabIds tabId owner).1.Built := by
  cases owner with
  | none => exact h.closeTabs tabId _
  | some found => exact (h.removeTree found.1 found.2).closeTabs found.2 _

theorem Built.registerDetached {s : WindowRouterState} (h : s.Built) {windowId : Uuid}
    (hwindow : windowId ≠ mainWindowId) (transfer : WorkspaceTransfer)
    {paneTree : Option PaneTree}
    (htree : ∀ tree, paneTree = some tree → paneSystem.Reachable tree) :
    (s.registerDetached windowId transfer paneTree).Built := by
  have hempty : WindowRoute.Built
      { activeTabId := transfer.activeTabId, transfer := some transfer } :=
    fun key tree hlookup => nomatch hlookup
  unfold WindowRouterState.registerDetached
  constructor
  · obtain ⟨route, hr, hnone⟩ := h.main
    refine ⟨route, ?_, hnone⟩
    rw [route?_setRoute, if_neg hwindow.symm]
    exact hr
  · intro w route hr
    rw [route?_setRoute] at hr
    split at hr
    · cases hr
      cases paneTree with
      | none => exact hempty
      | some tree => exact hempty.setTree rfl (htree tree rfl)
    · exact h.route w route hr

theorem Built.removeDetached {s : WindowRouterState} (h : s.Built) {windowId : Uuid}
    (hwindow : windowId ≠ mainWindowId) (owner : Option Uuid) :
    (s.removeDetached windowId owner).1.Built := by
  have hlookup : ∀ w, (s.removeDetached windowId owner).1.route? w =
      if w = windowId then none else s.route? w :=
    fun w => AssocMap.lookup_erase_ite s.routes windowId w
  constructor
  · rw [hlookup, if_neg hwindow.symm]
    exact h.main
  · intro w route hr
    rw [hlookup] at hr
    split at hr
    · exact nomatch hr
    · exact h.route w route hr

theorem Built.discardDetached {s : WindowRouterState} (h : s.Built) : s.discardDetached.Built := by
  have hlookup : ∀ w, s.discardDetached.route? w =
      (s.route? w).filter fun route => route.transfer.isNone :=
    fun w => AssocMap.lookup_retain _ s.routes w
  constructor
  · obtain ⟨route, hr, hnone⟩ := h.main
    refine ⟨route, ?_, hnone⟩
    rw [hlookup, hr, Option.filter_some, hnone]
    rfl
  · intro w route hr
    rw [hlookup, Option.filter_eq_some_iff] at hr
    exact h.route w route hr.1

theorem Built.restoreDetached {s : WindowRouterState} (h : s.Built) {detached : DetachedRoute}
    (htree : ∀ tree, detached.paneTree = some tree → paneSystem.Reachable tree) :
    (s.restoreDetached detached).Built := by
  unfold WindowRouterState.restoreDetached
  split
  · exact h
  · rename_i main hr
    have hmain := h.route mainWindowId main hr
    cases hfound : detached.paneTree with
    | none => exact h.replace hr hmain id
    | some tree => exact h.replace hr (hmain.setTree rfl (htree tree hfound)) id

/-- A restored tree is built, whatever its focus. -/
theorem built_restorePane {route : WindowRoute} (h : route.Built) (app : AppView)
    (focused : Option Uuid) (pane : PaneNodeSnapshot) :
    (restorePane app focused route pane).Built := by
  unfold restorePane
  split
  · exact h
  · rename_i tree htree
    unfold restoredTree at htree
    split at htree
    · exact nomatch htree
    · rename_i found hfound
      split at htree
      · cases htree
        have hbuilt : paneSystem.Reachable tree := .of_init (.inr ⟨_, pane, _, hfound⟩)
        exact h.setTree rfl (PaneTree.reachable_apply hbuilt (.setFocused _))
      · exact nomatch htree

theorem built_restoreWindow {route : WindowRoute} (h : route.Built) (app : AppView)
    (snapshot : WorkspaceSnapshot) (window : WorkspaceWindowSnapshot) :
    (restoreWindow app snapshot route window).Built := by
  unfold restoreWindow
  split
  · exact h
  · refine List.foldlRecOn window.panes _ ?_ fun main hmain pane _ => ?_
    · exact h
    · exact built_restorePane hmain app window.focusedTabId pane

theorem Built.applySnapshot {s : WindowRouterState} (h : s.Built) (snapshot : WorkspaceSnapshot)
    (app : AppView) : (s.applySnapshot snapshot app).Built := by
  unfold WindowRouterState.applySnapshot
  split
  · exact h
  · rename_i main hr
    have hempty : WindowRoute.Built
        { main with paneTrees := ∅, activeTabId := snapshot.activeTabId } :=
      fun key tree hlookup => nomatch hlookup
    have hres : RestoredFrom main [] { main with
        paneTrees := ∅, activeTabId := snapshot.activeTabId } :=
      ⟨rfl, fun _ _ hlookup => nomatch hlookup⟩
    refine h.replace hr ?_ fun hnone => ?_
    · refine List.foldlRecOn snapshot.windows _ hempty fun route hroute window _ => ?_
      exact built_restoreWindow hroute app snapshot window
    · rw [(hres.foldl_restoreWindow app snapshot snapshot.windows).transfer]
      exact hnone

theorem Built.views {s : WindowRouterState} (h : s.Built) (app : AppView)
    (owner : Uuid → Uuid → Option Uuid) : (s.views app owner).Built := by
  refine h.mapRoutes (fun w route hroute => ?_) fun w route hnone => ?_
  · unfold viewRoute
    split
    · exact hroute
    · rename_i tabId _
      have hactive : WindowRoute.Built { route with activeTabId := some tabId } := hroute
      dsimp only
      split
      · exact hactive.ensureTree tabId
      · exact hactive
  · unfold viewRoute
    split
    · exact hnone
    · dsimp only
      split
      · rw [WindowRoute.transfer_ensureTree]
        exact hnone
      · exact hnone

theorem new_built : WindowRouterState.new.Built := by
  have hlookup : ∀ w, WindowRouterState.new.route? w =
      if w = mainWindowId then some {} else none :=
    fun w => AssocMap.lookup_insert_ite _ _ _ _
  constructor
  · exact ⟨{}, by rw [hlookup, if_pos rfl], rfl⟩
  · intro w route hr
    rw [hlookup] at hr
    split at hr
    · cases hr
      exact fun key tree hlookup => nomatch hlookup
    · exact nomatch hr

/-- Every operation keeps the trees built. -/
theorem step_built {s : WindowRouterState} (h : s.Built) (op : RouterOp) (hop : s.Allowed op) :
    (s.apply op).Built := by
  cases op with
  | activateTab windowId tabId app => exact h.activateTab windowId tabId app
  | includeTab windowId tabId => exact h.includeTab windowId tabId
  | setActive windowId tabId owner => exact h.setActive windowId tabId owner
  | focusTerminalPane windowId tabId app owner =>
    exact h.focusTerminalPane windowId tabId app owner
  -- operations on panes are steps of the pane tree
  | focusPaneDirection windowId direction =>
    refine h.updateActiveTree windowId (fun tree => (tree.focusDirection_same direction).1) ?_
    exact fun tree htree => PaneTree.reachable_apply htree (.focusDirection direction)
  | resizeTerminalDivider windowId dividerId ratio =>
    refine h.updateActiveTree windowId (fun tree => (tree.resizeSplit_same dividerId ratio).1) ?_
    exact fun tree htree => PaneTree.reachable_apply htree (.resizeSplit dividerId ratio)
  | setPlacement windowId placement => exact h.updateRoute windowId fun _ => ⟨rfl, rfl⟩
  | setModalOpen windowId modalOpen => exact h.updateRoute windowId fun _ => ⟨rfl, rfl⟩
  | beginDetach windowId token =>
    simp only [apply, beginDetach]
    split
    · exact ⟨h.main, h.route⟩
    · exact h
  | finishDetach token => exact ⟨h.main, h.route⟩
  | views app owner => exact h.views app owner
  | completePaneSplit windowId source direction new app owner =>
    exact h.completePaneSplit windowId source direction new app owner
  | removeTerminalChildPane windowId tabId app owner =>
    exact h.removeTerminalChildPane tabId app owner
  | takePaneTreeForDetach windowId tabId owner => exact h.takePaneTreeForDetach windowId owner
  | takeWorkspaceTabIds tabId owner => exact h.takeWorkspaceTabIds tabId owner
  | registerDetached windowId transfer paneTree =>
    exact h.registerDetached hop.1 transfer hop.2
  | removeDetached windowId owner => exact h.removeDetached hop owner
  | discardDetached => exact h.discardDetached
  | restoreDetached detached => exact h.restoreDetached hop
  | applySnapshot snapshot app => exact h.applySnapshot snapshot app

/-- All trees of a reachable router are built. -/
theorem reachable_built {s : WindowRouterState} (h : routerSystem.Reachable s) : s.Built := by
  refine h.invariant (fun s hs => ?_) fun s op s' hstep hs => ?_
  · rw [show s = .new from hs]
    exact new_built
  · obtain ⟨hop, rfl⟩ := hstep
    exact step_built hs op hop

end WindowRouterState

end AxSsh
