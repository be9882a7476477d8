import AxSsh.Spec.SnapshotRoundTrip

/-!
# Detached windows

A detached window can show several pane trees.  Both ways it can go keep one of them: closing it
hands one tree to the main window, and a saved window is opened again with its first pane.

## Key results
- `WindowRouterState.returned_of_unique`: a window with one tree returns what it has
- `WindowRouterState.rebuilt_iff`: when a saved window is rebuilt as it was
- `WindowRouterState.detached_kept_iff`: when nothing is lost either way
-/

namespace AxSsh

namespace PaneNode

theorem mapIds_id (snapshot : PaneNodeSnapshot) : snapshot.mapIds id = snapshot := by
  induction snapshot with
  | leaf tabId => rfl
  | split axis ratio first second ih₁ ih₂ => rw [PaneNodeSnapshot.mapIds, ih₁, ih₂]

end PaneNode

namespace PaneTree

theorem paneTabRoot_snapshot_id (tree : PaneTree) :
    tree.snapshot.paneTabRoot = tree.root.firstTabId := by
  have hroot := tree.paneTabRoot_snapshot id
  rw [PaneNode.mapIds_id] at hroot
  exact hroot

/-- A storable tree comes back from its snapshot without new ids. -/
theorem fromSnapshot_snapshot {tree : PaneTree} (h : tree.Storable) {name focus : Uuid}
    (hname : name ∈ tree.tabIds) (hfocus : focus ∈ tree.tabIds) :
    fromSnapshot name tree.snapshot focus =
      some { tree.stored id with workspaceTabId := name, focusedTabId := focus } := by
  have hrestore := fromSnapshot_mapIds id h hname hfocus
  rw [PaneNode.mapIds_id] at hrestore
  exact hrestore

end PaneTree

namespace WindowRoute

/-- What the search of `into_values` for a first tree can find. -/
def FirstTree (route : WindowRoute) : Option Uuid → Prop
  | some key => key ∈ route.paneTrees
  | none => ∀ key, key ∉ route.paneTrees

/-- A rebuilt route lists the tabs and shows the trees of the saved one, as the file stores
    them, with the same active tab and the same focus. -/
structure SameView (saved rebuilt : WindowRoute) : Prop where
  tabs : rebuilt.transfer.map (·.tabIds) = saved.transfer.map (·.tabIds)
  trees : ∀ key, rebuilt.paneTrees.lookup key =
    (saved.paneTrees.lookup key).map (PaneTree.stored id)
  active : rebuilt.activeTabId = saved.activeTabId
  focused : WindowRouterState.focusedTab rebuilt = WindowRouterState.focusedTab saved

/-- A window whose active tab is one of its tabs, and that shows at most one tree: named after
    its first leaf, and active or focused on that leaf. -/
structure Keepable (route : WindowRoute) : Prop where
  active : ∃ transfer, route.transfer = some transfer ∧
    ∃ active ∈ transfer.tabIds, route.activeTabId = some active
  tree : ∀ key tree, route.paneTrees.lookup key = some tree →
    (∀ key' ∈ route.paneTrees, key' = key) ∧ tree.root.firstTabId = key ∧
      (route.activeTabId = some key ∨ tree.focusedTabId = key)

end WindowRoute

namespace WindowRouterState

/-- Removing a window and restoring it gives back all its tabs and all its trees, whichever tree
    the search finds first. -/
def Returned (s : WindowRouterState) (windowId : Uuid) (route : WindowRoute) : Prop :=
  ∀ owner, route.FirstTree owner → ∃ detached,
    (s.removeDetached windowId owner).2 = some detached ∧
      route.transfer.map (·.tabIds) = some detached.transfer.tabIds ∧
      ∀ key tree, route.paneTrees.lookup key = some tree →
        ((s.removeDetached windowId owner).1.restoreDetached detached).tree? mainWindowId key =
          some tree

/-- The saved window is opened again with the tabs, the trees and the focus it had. -/
def Rebuilt (s : WindowRouterState) (base : WorkspaceSnapshot) (app : AppView)
    (available : List Uuid) (windowId newId : Uuid) (route : WindowRoute) : Prop :=
  ∃ window ∈ (s.snapshot base app).windows, window.id = windowId ∧
    ∃ transfer paneTree rebuilt,
      restoredDetachedRoute window available = some (transfer, paneTree) ∧
        (new.registerDetached newId transfer paneTree).route? newId = some rebuilt ∧
        route.SameView rebuilt

variable {s : WindowRouterState} {windowId : Uuid} {route : WindowRoute}
  {transfer : WorkspaceTransfer}

/-! ## Closing a window -/

/-- What restoring a removed window leaves in the main window. -/
theorem tree?_restoreDetached_removeDetached (h : s.Built) (hwindow : windowId ≠ mainWindowId)
    (owner : Option Uuid) (detached : DetachedRoute) (key : Uuid) :
    ((s.removeDetached windowId owner).1.restoreDetached detached).tree? mainWindowId key =
      match detached.paneTree with
      | some tree =>
        if key = tree.workspaceTabId then some tree else s.tree? mainWindowId key
      | none => s.tree? mainWindowId key := by
  obtain ⟨main, hmain, _⟩ := h.main
  have hmain' : (s.removeDetached windowId owner).1.route? mainWindowId = some main := by
    refine (AssocMap.lookup_erase_ite s.routes windowId mainWindowId).trans ?_
    rw [if_neg hwindow.symm]
    exact hmain
  rw [restoreDetached, hmain']
  simp only [tree?, route?_setRoute, if_true, hmain, Option.bind_some]
  cases detached.paneTree with
  | none => rfl
  | some tree => exact WindowRoute.lookup_setTree _ _ _ _

/-- A window that shows one tree at most gets everything back. -/
theorem returned_of_unique (h : s.Built) (hwindow : windowId ≠ mainWindowId)
    (hr : s.route? windowId = some route) (htransfer : route.transfer = some transfer)
    (hunique : ∀ key ∈ route.paneTrees, ∀ key' ∈ route.paneTrees, key' = key) :
    s.Returned windowId route := by
  intro owner howner
  refine ⟨_, by rw [removeDetached, hr, Option.bind_some, htransfer, Option.map_some], ?_, ?_⟩
  · rw [htransfer]
    rfl
  · intro key tree hlookup
    have hmem : key ∈ route.paneTrees := AssocMap.mem_iff_lookup.mpr ⟨tree, hlookup⟩
    cases owner with
    | none => exact absurd hmem (howner key)
    | some key' =>
      obtain rfl := hunique key hmem key' howner
      rw [tree?_restoreDetached_removeDetached h hwindow]
      simp only [Option.bind_some, hlookup]
      rw [if_pos (h.route windowId route hr key' tree hlookup).1.symm]

/-! ## Saving a window -/

/-- The route of a registered window. -/
theorem route?_registerDetached {newId : Uuid} {paneTree : Option PaneTree} {rebuilt : WindowRoute}
    (h : (s.registerDetached newId transfer paneTree).route? newId = some rebuilt) :
    rebuilt.transfer = some transfer ∧ rebuilt.activeTabId = transfer.activeTabId ∧
      ∀ key, rebuilt.paneTrees.lookup key =
        paneTree.bind fun tree => if key = tree.workspaceTabId then some tree else none := by
  unfold WindowRouterState.registerDetached at h
  rw [route?_setRoute, if_pos rfl] at h
  obtain rfl := Option.some.inj h
  cases paneTree with
  | none => exact ⟨rfl, rfl, fun key => rfl⟩
  | some tree =>
    refine ⟨rfl, rfl, fun key => ?_⟩
    rw [Option.bind_some]
    exact WindowRoute.lookup_setTree _ _ _ _

/-- What a stored window is opened again with. -/
theorem of_restoredDetachedRoute {app : AppView} {available : List Uuid}
    {paneTree : Option PaneTree} {transfer' : WorkspaceTransfer}
    (htransfer : route.transfer = some transfer)
    (havailable : ∀ tab ∈ transfer.tabIds, tab ∈ available)
    (h : restoredDetachedRoute (windowSnapshot app windowId route) available =
      some (transfer', paneTree)) :
    transfer'.tabIds = transfer.tabIds ∧
      (∃ active ∈ transfer.tabIds, transfer'.activeTabId = some active) ∧
      ∀ tree', paneTree = some tree' → ∃ key tree, route.paneTrees.lookup key = some tree ∧
        tree'.workspaceTabId = tree.root.firstTabId ∧
        tree'.focusedTabId = route.savedFocus.getD tree.root.firstTabId := by
  have hfilter : transfer.tabIds.filter (fun id => available.contains id) = transfer.tabIds :=
    List.filter_eq_self.mpr fun tab htab => List.contains_iff_mem.mpr (havailable tab htab)
  have htabs : (windowSnapshot app windowId route).tabIds = transfer.tabIds := by
    simp only [windowSnapshot, htransfer]
  simp only [restoredDetachedRoute, htabs, hfilter] at h
  split at h
  · cases h
  · rename_i active hactive
    -- the active tab is one of the tabs, whether it was active before or is the first
    have hmem : active ∈ transfer.tabIds := by
      rcases Option.or_eq_some_iff.mp hactive with hbefore | ⟨_, hfirst⟩
      · exact List.contains_iff_mem.mp (Option.filter_eq_some_iff.mp hbefore).2
      · exact List.mem_of_mem_head? hfirst
    split at h
    · cases h
      exact ⟨rfl, ⟨active, hmem, rfl⟩, fun tree' htree' => by cases htree'⟩
    · rename_i pane hpane
      obtain ⟨key, tree, hlookup, rfl⟩ :=
        mem_panes_windowSnapshot.mp (List.mem_of_mem_head? hpane)
      split at h
      · cases h
      · rename_i restored hrestored
        split at h
        · cases h
          refine ⟨rfl, ⟨active, hmem, rfl⟩, fun tree' htree' => ?_⟩
          obtain rfl := Option.some.inj htree'
          rw [tree.paneTabRoot_snapshot_id] at hrestored
          exact ⟨key, tree, hlookup, (PaneTree.of_fromSnapshot hrestored).1,
            PaneTree.focusedTabId_fromSnapshot hrestored⟩
        · cases h

/-- A window that is rebuilt as it was shows one tree at most, and that tree could be rebuilt. -/
theorem keepable_of_rebuilt {base : WorkspaceSnapshot} {app : AppView} {available : List Uuid}
    {newId : Uuid} (hr : s.route? windowId = some route)
    (htransfer : route.transfer = some transfer)
    (havailable : ∀ tab ∈ transfer.tabIds, tab ∈ available)
    (h : s.Rebuilt base app available windowId newId route) : route.Keepable := by
  obtain ⟨window, hwindow, hid, transfer', paneTree, rebuilt, hrestored, hregistered, hsame⟩ := h
  have hsaved : window = windowSnapshot app windowId route :=
    List.inj_on_of_nodup_map ids_snapshot_nodup hwindow (mem_windows_snapshot hr) hid
  rw [hsaved] at hrestored
  obtain ⟨_, ⟨active, hactive, hactive'⟩, htree⟩ :=
    of_restoredDetachedRoute htransfer havailable hrestored
  obtain ⟨_, hrebuiltActive, hlookup⟩ := route?_registerDetached hregistered
  have hactiveTab : route.activeTabId = some active :=
    hsame.active.symm.trans (hrebuiltActive.trans hactive')
  refine ⟨⟨transfer, htransfer, active, hactive, hactiveTab⟩, fun key tree hkey => ?_⟩
  -- the trees of the window are the one that was rebuilt
  have htrees : ∀ key tree, route.paneTrees.lookup key = some tree → ∃ tree',
      paneTree = some tree' ∧ tree'.workspaceTabId = key ∧ tree' = tree.stored id := by
    intro key tree hkey
    have hthere := (hlookup key).symm.trans (hsame.trees key)
    rw [hkey, Option.map_some] at hthere
    obtain ⟨tree', rfl, hif⟩ := Option.bind_eq_some_iff.mp hthere
    split at hif
    · rename_i hname
      exact ⟨tree', rfl, hname.symm, Option.some.inj hif⟩
    · exact nomatch hif
  obtain ⟨tree', rfl, hname, hstored⟩ := htrees key tree hkey
  have hunique : ∀ key' ∈ route.paneTrees, key' = key := by
    intro key' hmem
    obtain ⟨tree₂, hkey₂⟩ := AssocMap.mem_iff_lookup.mp hmem
    obtain ⟨tree₂', htree₂, hname₂, _⟩ := htrees key' tree₂ hkey₂
    rw [← hname₂, ← Option.some.inj htree₂, hname]
  obtain ⟨key₀, tree₀, hkey₀, hfirst, hfocus⟩ := htree tree' rfl
  have hsingle := hunique key₀ (AssocMap.mem_iff_lookup.mpr ⟨tree₀, hkey₀⟩)
  rw [hsingle, hkey] at hkey₀
  obtain rfl := Option.some.inj hkey₀
  have hroot : tree.root.firstTabId = key := hfirst.symm.trans hname
  refine ⟨hunique, hroot, ?_⟩
  rw [hactiveTab]
  by_cases hkeyActive : active = key
  · exact .inl (congrArg some hkeyActive)
  · -- an inactive tree is rebuilt with the focus on its first leaf
    have hnone : route.savedFocus = none := by
      rw [WindowRoute.savedFocus, hactiveTab, Option.bind_some, Option.map_eq_none_iff]
      by_contra hsome
      obtain ⟨other, hother⟩ := Option.ne_none_iff_exists'.mp hsome
      exact hkeyActive (hunique active (AssocMap.mem_iff_lookup.mpr ⟨other, hother⟩))
    rw [hnone, Option.getD_none, hroot] at hfocus
    refine .inr ?_
    rw [← hfocus, hstored]
    rfl

/-- The same trees and the same active tab have the same focus. -/
theorem focusedTab_of_stored {saved rebuilt : WindowRoute}
    (hactive : rebuilt.activeTabId = saved.activeTabId)
    (htrees : ∀ key, rebuilt.paneTrees.lookup key =
      (saved.paneTrees.lookup key).map (PaneTree.stored id)) :
    focusedTab rebuilt = focusedTab saved := by
  simp only [focusedTab, hactive, htrees]
  refine congrArg (Option.map · saved.activeTabId) (funext fun active => ?_)
  cases saved.paneTrees.lookup active <;> rfl

/-- The tree of a keepable window, or none, is what its stored panes restore to. -/
theorem restored_pane_of_keepable (hs : s.Built) (hr : s.route? windowId = some route)
    {available : List Uuid} (havailable : ∀ tab, route.Claims tab → tab ∈ available)
    (h : route.Keepable) {key : Uuid} {tree : PaneTree}
    (hlookup : route.paneTrees.lookup key = some tree) :
    PaneTree.fromSnapshot tree.snapshot.paneTabRoot tree.snapshot
      (route.savedFocus.getD tree.snapshot.paneTabRoot) = some (tree.stored id) ∧
    (tree.stored id).tabIds.all (fun id => available.contains id) = true := by
  obtain ⟨hunique, hfirst, hfocus⟩ := h.tree key tree hlookup
  obtain ⟨hname, hreachable⟩ := hs.route windowId route hr key tree hlookup
  have hstorable := PaneTree.reachable_storable hreachable
  have hmem : tree.root.firstTabId ∈ tree.tabIds := tree.root.firstTabId_mem
  have hsaved : route.savedFocus.getD tree.root.firstTabId = tree.focusedTabId := by
    by_cases hactive : route.activeTabId = some key
    · rw [WindowRoute.savedFocus, hactive, Option.bind_some, hlookup]
      rfl
    · -- no other tree is active
      have hnone : route.savedFocus = none := by
        refine Option.bind_eq_none_iff.mpr fun active hactiveTab => Option.map_eq_none_iff.mpr ?_
        by_contra hsome
        obtain ⟨other, hother⟩ := Option.ne_none_iff_exists'.mp hsome
        have hkey := hunique active (AssocMap.mem_iff_lookup.mpr ⟨other, hother⟩)
        exact hactive (hactiveTab.trans (congrArg some hkey))
      rw [hnone, Option.getD_none, hfirst, hfocus.resolve_left hactive]
  rw [tree.paneTabRoot_snapshot_id, hsaved,
    PaneTree.fromSnapshot_snapshot hstorable hmem hstorable.focused]
  constructor
  · rw [hfirst, ← hname]
    rfl
  · rw [PaneTree.tabIds_stored, List.map_id]
    refine List.all_eq_true.mpr fun tab htab => List.contains_iff_mem.mpr ?_
    exact havailable tab (.inr ⟨key, tree, hlookup, htab⟩)

/-- A keepable window is rebuilt as it was. -/
theorem rebuilt_of_keepable {base : WorkspaceSnapshot} {app : AppView} {available : List Uuid}
    (newId : Uuid) (hs : s.Built) (hr : s.route? windowId = some route)
    (havailable : ∀ tab, route.Claims tab → tab ∈ available) (h : route.Keepable) :
    s.Rebuilt base app available windowId newId route := by
  obtain ⟨transfer, htransfer, active, hactive, hactiveTab⟩ := h.active
  have hfilter : transfer.tabIds.filter (fun id => available.contains id) = transfer.tabIds :=
    List.filter_eq_self.mpr fun tab htab =>
      List.contains_iff_mem.mpr (havailable tab (.inl ⟨transfer, htransfer, htab⟩))
  have htabs : (windowSnapshot app windowId route).tabIds = transfer.tabIds := by
    simp only [windowSnapshot, htransfer]
  have hchosen : ((windowSnapshot app windowId route).activeTabId.filter fun id =>
      transfer.tabIds.contains id).or transfer.tabIds.head? = some active := by
    show (route.activeTabId.filter _).or _ = _
    rw [hactiveTab, Option.filter_some, if_pos (List.contains_iff_mem.mpr hactive)]
    rfl
  -- the panes restore to the tree of the window, if it has one
  have hpanes : ∃ transfer' paneTree,
      restoredDetachedRoute (windowSnapshot app windowId route) available =
        some (transfer', paneTree) ∧
      transfer'.tabIds = transfer.tabIds ∧ transfer'.activeTabId = some active ∧
      ∀ key, (paneTree.bind fun tree : PaneTree =>
        if key = tree.workspaceTabId then some tree else none) =
          (route.paneTrees.lookup key).map (PaneTree.stored id) := by
    simp only [restoredDetachedRoute, htabs, hfilter, hchosen]
    cases hhead : (windowSnapshot app windowId route).panes.head? with
    | none =>
      refine ⟨_, none, rfl, rfl, rfl, fun key => ?_⟩
      cases hlookup : route.paneTrees.lookup key with
      | none => rfl
      | some tree =>
        have hpane : tree.snapshot ∈ (windowSnapshot app windowId route).panes :=
          mem_panes_windowSnapshot.mpr ⟨key, tree, hlookup, rfl⟩
        rw [List.head?_eq_none_iff.mp hhead] at hpane
        cases hpane
    | some pane =>
      obtain ⟨key, tree, hlookup, rfl⟩ :=
        mem_panes_windowSnapshot.mp (List.mem_of_mem_head? hhead)
      obtain ⟨hrestored, hall⟩ := restored_pane_of_keepable hs hr havailable h hlookup
      have hrestored' : PaneTree.fromSnapshot tree.snapshot.paneTabRoot tree.snapshot
          ((windowSnapshot app windowId route).focusedTabId.getD tree.snapshot.paneTabRoot) =
            some (tree.stored id) := hrestored
      simp only [hrestored', hall, if_true]
      refine ⟨_, some (tree.stored id), rfl, rfl, rfl, fun key' => ?_⟩
      · have hname : (tree.stored id).workspaceTabId = key :=
          (hs.route windowId route hr key tree hlookup).1
        rw [Option.bind_some, hname]
        split
        · rename_i hkey
          rw [hkey, hlookup]
          rfl
        · rename_i hkey
          cases hlookup' : route.paneTrees.lookup key' with
          | none => rfl
          | some tree' =>
            have hmem := AssocMap.mem_iff_lookup.mpr ⟨tree', hlookup'⟩
            exact absurd ((h.tree key tree hlookup).1 key' hmem) hkey
  obtain ⟨transfer', paneTree, hrestored, htabs', hactive', htrees⟩ := hpanes
  have hset : ∃ rebuilt,
      (new.registerDetached newId transfer' paneTree).route? newId = some rebuilt := by
    unfold WindowRouterState.registerDetached
    rw [route?_setRoute, if_pos rfl]
    exact ⟨_, rfl⟩
  obtain ⟨rebuilt, hset⟩ := hset
  obtain ⟨htransfer', hregistered, hlookup⟩ := route?_registerDetached hset
  refine ⟨_, mem_windows_snapshot hr, rfl, _, _, rebuilt, hrestored, hset, ?_⟩
  have hsameActive : rebuilt.activeTabId = route.activeTabId :=
    hregistered.trans (hactive'.trans hactiveTab.symm)
  have hsameTrees := fun key => (hlookup key).trans (htrees key)
  refine ⟨?_, hsameTrees, hsameActive, focusedTab_of_stored hsameActive hsameTrees⟩
  rw [htransfer', htransfer, Option.map_some, Option.map_some, htabs']

/-! ## Both -/

/-- In every reachable state, a detached window keeps all it has, whether it is closed or saved,
    exactly when it is keepable. -/
theorem detached_kept_iff {base : WorkspaceSnapshot} {app : AppView} {available : List Uuid}
    {newId : Uuid} (h : routerSystem.Reachable s) (hwindow : windowId ≠ mainWindowId)
    (hr : s.route? windowId = some route) (htransfer : route.transfer = some transfer)
    (havailable : ∀ tab, route.Claims tab → tab ∈ available) :
    s.Returned windowId route ∧ s.Rebuilt base app available windowId newId route ↔
      route.Keepable := by
  have hs := reachable_built h
  constructor
  · rintro ⟨_, hrebuilt⟩
    refine keepable_of_rebuilt hr htransfer (fun tab htab => ?_) hrebuilt
    exact havailable tab (.inl ⟨transfer, htransfer, htab⟩)
  · intro hkeepable
    refine ⟨returned_of_unique hs hwindow hr htransfer fun key hkey key' hkey' => ?_,
      rebuilt_of_keepable newId hs hr havailable hkeepable⟩
    obtain ⟨tree, hlookup⟩ := AssocMap.mem_iff_lookup.mp hkey
    exact (hkeepable.tree key tree hlookup).1 key' hkey'

/-- Tab 1 was detached into window 9. -/
def detachOne : RouterOp :=
  .registerDetached 9 { sourceWindowId := mainWindowId, tabIds := [1], activeTabId := some 1 }
    (some (.new 1))

/-- Another tab was opened in window 9 and activated there. -/
def detachAnother : List RouterOp :=
  [detachOne, .includeTab 9 2, .activateTab 9 2 { tabIds := [1, 2], terminals := {1, 2} }]

theorem detachOne_allowed (s : WindowRouterState) : s.Allowed detachOne := by
  refine ⟨by decide, fun tree htree => ?_⟩
  obtain rfl := Option.some.inj htree
  exact .of_init (.inl ⟨1, rfl⟩)

/-- Window 9 with tab 1 alone. -/
theorem detachOne_kept : ∃ route, (new.apply detachOne).route? 9 = some route ∧
    ((new.apply detachOne).Returned 9 route ∧
      (new.apply detachOne).Rebuilt { version := 1 } { tabIds := [1] } [1] 9 9 route ↔
        route.Keepable) := by
  refine ⟨_, rfl, detached_kept_iff ⟨new, [detachOne], rfl, .single ⟨detachOne_allowed _, rfl⟩⟩
    (by decide) rfl rfl ?_⟩
  rintro tab (⟨transfer, htransfer, htab⟩ | ⟨key, tree, hlookup, htab⟩)
  · cases htransfer
    exact htab
  · have hkey := (WindowRoute.lookup_setTree _ _ _ _).symm.trans hlookup
    split at hkey
    · obtain rfl := Option.some.inj hkey
      exact htab
    · exact nomatch hkey

/-- Closing window 9 with two trees loses the tree of one of its tabs. -/
theorem closed_window_loses_tree : ∃ s route, routerSystem.Reachable s ∧
    s.route? 9 = some route ∧ route.transfer.isSome ∧ ¬s.Returned 9 route := by
  obtain ⟨route, hr, hfirst⟩ := tree?_eq_some.mp
    (show (detachAnother.foldl apply new).tree? 9 1 = some (.new 1) by decide)
  obtain ⟨route', hr', hsecond⟩ := tree?_eq_some.mp
    (show (detachAnother.foldl apply new).tree? 9 2 = some (.new 2) by decide)
  obtain rfl := Option.some.inj (hr.symm.trans hr')
  have hdetached : ((detachAnother.foldl apply new).route? 9).any (·.transfer.isSome) = true := by
    decide
  rw [hr] at hdetached
  have hreachable : routerSystem.Reachable (detachAnother.foldl apply new) :=
    ⟨new, detachAnother, rfl, .cons ⟨detachOne_allowed _, rfl⟩
      (.cons ⟨trivial, rfl⟩ (.single ⟨trivial, rfl⟩))⟩
  refine ⟨detachAnother.foldl apply new, route, hreachable, hr, hdetached, fun h => ?_⟩
  obtain ⟨detached, hremoved, _, htrees⟩ := h (some 1) (AssocMap.mem_iff_lookup.mpr ⟨_, hfirst⟩)
  -- the search found the tree of tab 1, and that of tab 2 is gone
  have hlost : (((detachAnother.foldl apply new).removeDetached 9 (some 1)).2.bind fun detached =>
      (((detachAnother.foldl apply new).removeDetached 9 (some 1)).1.restoreDetached
        detached).tree? mainWindowId 2) = none := by
    decide
  have hkept := htrees 2 _ hsecond
  rw [hremoved, Option.bind_some] at hlost
  exact nomatch hlost.symm.trans hkept

end WindowRouterState

end AxSsh
