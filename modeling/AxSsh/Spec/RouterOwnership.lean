import AxSsh.Native.WindowRouter
import AxSsh.Spec.PaneInvariant

/-!
# Ownership of tabs by windows

Two panes that show one terminal fight over its size, and a tab in two windows is closed
twice.  `OwnershipInvariant` says that neither happens: every terminal is a leaf of at most
one pane tree over all windows, every tree is stored under its own name, and every tab has
one owner.

The argument is local to a route.  `WindowRoute.Tidy` speaks about one window alone, and a
router is `Tidy` when its routes are and no two of them claim a tab.  An operation that
writes one route keeps this when the new route is tidy and claims only tabs it had or tabs
no other window claims; one that takes trees or tabs away keeps it always.

## Key results
- `Tidy.setRoute`, `Tidy.shrink`: the two rules every operation falls under
- `step_tidy`: a safe operation keeps a router tidy
- `reachable_ownership`: a router all of whose operations were safe has the invariant
-/

namespace AxSsh

namespace WindowRoute

/-! ## One route -/

/-- A route claims the tabs it lists and the tabs its trees show. -/
def Claims (route : WindowRoute) (tab : Uuid) : Prop :=
  (∃ transfer, route.transfer = some transfer ∧ tab ∈ transfer.tabIds) ∨
    ∃ key tree, route.paneTrees.lookup key = some tree ∧ tab ∈ tree.tabIds

/-- What one window guarantees alone: its trees are stored under their own names, share no
    leaf, and show listed tabs only; and it lists tabs unless it is the main window. -/
structure Tidy (windowId : Uuid) (route : WindowRoute) : Prop where
  keyed : ∀ key tree, route.paneTrees.lookup key = some tree →
    tree.workspaceTabId = key ∧ key ∈ tree.tabIds
  leafUnique : ∀ key key' tree tree' tab, route.paneTrees.lookup key = some tree →
    route.paneTrees.lookup key' = some tree' → tab ∈ tree.tabIds → tab ∈ tree'.tabIds →
    key = key'
  listed : ∀ transfer, route.transfer = some transfer → ∀ key tree tab,
    route.paneTrees.lookup key = some tree → tab ∈ tree.tabIds → tab ∈ transfer.tabIds
  main_iff : route.transfer = none ↔ windowId = mainWindowId

/-- Two routes list the same tabs and show the same trees. -/
structure SameTabs (route route' : WindowRoute) : Prop where
  tabIds : route'.transfer.map (·.tabIds) = route.transfer.map (·.tabIds)
  paneTrees : route'.paneTrees = route.paneTrees

theorem SameTabs.listed {route route' : WindowRoute} (h : route.SameTabs route')
    {transfer' : WorkspaceTransfer} (htransfer : route'.transfer = some transfer') :
    ∃ transfer, route.transfer = some transfer ∧ transfer.tabIds = transfer'.tabIds := by
  have htabs := h.tabIds
  rw [htransfer] at htabs
  exact Option.map_eq_some_iff.mp htabs.symm

/-- A route with the same tabs and trees claims the same tabs. -/
theorem SameTabs.claims {route route' : WindowRoute} (h : route.SameTabs route') {tab : Uuid}
    (hc : route'.Claims tab) : route.Claims tab := by
  obtain ⟨transfer', htransfer, ht⟩ | hleaf := hc
  · obtain ⟨transfer, htransfer', he⟩ := h.listed htransfer
    exact .inl ⟨transfer, htransfer', he ▸ ht⟩
  · rw [h.paneTrees] at hleaf
    exact .inr hleaf

/-- A route with the same tabs and trees is as tidy. -/
theorem Tidy.congr {windowId : Uuid} {route route' : WindowRoute} (h : route.Tidy windowId)
    (hsame : route.SameTabs route') : route'.Tidy windowId := by
  constructor
  · rw [hsame.paneTrees]
    exact h.keyed
  · rw [hsame.paneTrees]
    exact h.leafUnique
  · rw [hsame.paneTrees]
    intro transfer' htransfer' key tree tab hlookup ht
    obtain ⟨transfer, htransfer, he⟩ := hsame.listed htransfer'
    rw [← he]
    exact h.listed transfer htransfer key tree tab hlookup ht
  · rw [← h.main_iff, ← Option.map_eq_none_iff, hsame.tabIds, Option.map_eq_none_iff]

theorem lookup_setTree (route : WindowRoute) (key key' : Uuid) (tree : PaneTree) :
    (route.setTree key tree).paneTrees.lookup key' =
      if key' = key then some tree else route.paneTrees.lookup key' :=
  AssocMap.lookup_insert_ite _ _ _ _

/-- A tree that shares no leaf with the other trees of a route can be put into it. -/
theorem Tidy.setTree {windowId key : Uuid} {route : WindowRoute} {tree : PaneTree}
    (h : route.Tidy windowId) (hname : tree.workspaceTabId = key) (hkey : key ∈ tree.tabIds)
    (hleaf : ∀ key' tree' tab, route.paneTrees.lookup key' = some tree' → tab ∈ tree.tabIds →
      tab ∈ tree'.tabIds → key' = key)
    (hlisted : ∀ transfer, route.transfer = some transfer → ∀ tab ∈ tree.tabIds,
      tab ∈ transfer.tabIds) :
    Tidy windowId (route.setTree key tree) := by
  -- a tree of the new route is the one that was set, or an old one under another key
  have hlookup : ∀ key' tree', (route.setTree key tree).paneTrees.lookup key' = some tree' →
      (key' = key ∧ tree' = tree) ∨ (key' ≠ key ∧ route.paneTrees.lookup key' = some tree') := by
    intro key' tree' h'
    rw [lookup_setTree] at h'
    split at h'
    · rename_i he
      exact .inl ⟨he, (Option.some.inj h').symm⟩
    · rename_i hne
      exact .inr ⟨hne, h'⟩
  constructor
  · intro key' tree' h'
    obtain ⟨rfl, rfl⟩ | ⟨_, h'⟩ := hlookup key' tree' h'
    · exact ⟨hname, hkey⟩
    · exact h.keyed key' tree' h'
  · intro key₁ key₂ tree₁ tree₂ tab h₁ h₂ ht₁ ht₂
    obtain ⟨rfl, rfl⟩ | ⟨hne₁, h₁'⟩ := hlookup key₁ tree₁ h₁
    · obtain ⟨rfl, rfl⟩ | ⟨hne₂, h₂'⟩ := hlookup key₂ tree₂ h₂
      · rfl
      · exact absurd (hleaf key₂ tree₂ tab h₂' ht₁ ht₂) hne₂
    · obtain ⟨rfl, rfl⟩ | ⟨hne₂, h₂'⟩ := hlookup key₂ tree₂ h₂
      · exact absurd (hleaf key₁ tree₁ tab h₁' ht₂ ht₁) hne₁
      · exact h.leafUnique key₁ key₂ tree₁ tree₂ tab h₁' h₂' ht₁ ht₂
  · intro transfer htransfer key' tree' tab h' ht
    obtain ⟨rfl, rfl⟩ | ⟨_, h'⟩ := hlookup key' tree' h'
    · exact hlisted transfer htransfer tab ht
    · exact h.listed transfer htransfer key' tree' tab h' ht
  · exact h.main_iff

/-- What a route claims after a tree was put into it. -/
theorem claims_setTree {key tab : Uuid} {route : WindowRoute} {tree : PaneTree}
    (h : Claims (route.setTree key tree) tab) :
    tab ∈ tree.tabIds ∨ route.Claims tab := by
  obtain hlist | ⟨key', tree', hlookup, ht⟩ := h
  · exact .inr (.inl hlist)
  · rw [lookup_setTree] at hlookup
    split at hlookup
    · cases hlookup
      exact .inl ht
    · exact .inr (.inr ⟨key', tree', hlookup, ht⟩)

/-- A route without some of its trees is as tidy. -/
theorem Tidy.removeTree {windowId : Uuid} {route : WindowRoute} (h : route.Tidy windowId)
    (key : Uuid) : (route.removeTree key).Tidy windowId := by
  have hlookup : ∀ key' tree', (route.removeTree key).paneTrees.lookup key' = some tree' →
      route.paneTrees.lookup key' = some tree' := by
    intro key' tree' h'
    unfold WindowRoute.removeTree at h'
    rw [AssocMap.lookup_erase_ite] at h'
    split at h'
    · cases h'
    · exact h'
  constructor
  · exact fun key' tree' h' => h.keyed key' tree' (hlookup _ _ h')
  · exact fun key₁ key₂ tree₁ tree₂ tab h₁ h₂ =>
      h.leafUnique key₁ key₂ tree₁ tree₂ tab (hlookup _ _ h₁) (hlookup _ _ h₂)
  · exact fun transfer htransfer key' tree' tab h' =>
      h.listed transfer htransfer key' tree' tab (hlookup _ _ h')
  · exact h.main_iff

theorem claims_removeTree {route : WindowRoute} {key tab : Uuid}
    (h : (route.removeTree key).Claims tab) : route.Claims tab := by
  obtain hlist | ⟨key', tree', hlookup, ht⟩ := h
  · exact .inl hlist
  · unfold WindowRoute.removeTree at hlookup
    rw [AssocMap.lookup_erase_ite] at hlookup
    split at hlookup
    · cases hlookup
    · exact .inr ⟨key', tree', hlookup, ht⟩

/-! ### Listing tabs -/

theorem paneTrees_listTab (route : WindowRoute) (tab : Uuid) :
    (route.listTab tab).paneTrees = route.paneTrees := by
  unfold listTab
  split
  · split <;> rfl
  · rfl

theorem transfer_listTab (route : WindowRoute) (tab : Uuid) :
    (route.listTab tab).transfer = route.transfer.map fun transfer =>
      if tab ∈ transfer.tabIds then transfer
      else { transfer with tabIds := transfer.tabIds ++ [tab] } := by
  unfold listTab
  split
  · rename_i transfer h
    rw [h]
    split <;> simp [*]
  · rename_i h
    rw [h]
    rfl

/-- Listing a tab lists it, and the tabs that were listed. -/
theorem mem_transfer_listTab {route : WindowRoute} {tab : Uuid} {transfer : WorkspaceTransfer}
    (h : (route.listTab tab).transfer = some transfer) :
    ∃ transfer₀, route.transfer = some transfer₀ ∧
      ∀ t, t ∈ transfer.tabIds ↔ t ∈ transfer₀.tabIds ∨ t = tab := by
  rw [transfer_listTab] at h
  obtain ⟨transfer₀, h₀, rfl⟩ := Option.map_eq_some_iff.mp h
  refine ⟨transfer₀, h₀, fun t => ?_⟩
  split
  · rename_i hmem
    exact ⟨.inl, fun h => h.elim id fun he => he ▸ hmem⟩
  · simp

/-- Listing one more tab keeps a route tidy. -/
theorem Tidy.listTab {windowId : Uuid} {route : WindowRoute} (h : route.Tidy windowId)
    (tab : Uuid) : (route.listTab tab).Tidy windowId := by
  constructor
  · rw [paneTrees_listTab]
    exact h.keyed
  · rw [paneTrees_listTab]
    exact h.leafUnique
  · intro transfer htransfer key tree t hlookup ht
    rw [paneTrees_listTab] at hlookup
    obtain ⟨transfer₀, h₀, hmem⟩ := mem_transfer_listTab htransfer
    exact (hmem t).mpr (.inl (h.listed transfer₀ h₀ key tree t hlookup ht))
  · rw [transfer_listTab, Option.map_eq_none_iff]
    exact h.main_iff

/-- Listing one more tab claims it, when the route lists tabs at all. -/
theorem claims_listTab {route : WindowRoute} {tab t : Uuid}
    (h : (route.listTab tab).Claims t) :
    (route.transfer ≠ none ∧ t = tab) ∨ route.Claims t := by
  obtain ⟨transfer, htransfer, ht⟩ | ⟨key, tree, hlookup, ht⟩ := h
  · obtain ⟨transfer₀, h₀, hmem⟩ := mem_transfer_listTab htransfer
    obtain ht | ht := (hmem t).mp ht
    · exact .inr (.inl ⟨transfer₀, h₀, ht⟩)
    · exact .inl ⟨by rw [h₀]; exact nofun, ht⟩
  · rw [paneTrees_listTab] at hlookup
    exact .inr (.inr ⟨key, tree, hlookup, ht⟩)

/-- Tabs that no tree of a tidy route shows can be taken off its list. -/
theorem Tidy.unlistTabs {windowId : Uuid} {route : WindowRoute} {removed : List Uuid}
    (h : route.Tidy windowId)
    (hfree : ∀ key tree tab, route.paneTrees.lookup key = some tree → tab ∈ tree.tabIds →
      tab ∉ removed) :
    (route.unlistTabs removed).Tidy windowId := by
  constructor
  · exact h.keyed
  · exact h.leafUnique
  · intro transfer htransfer key tree tab hlookup ht
    obtain ⟨transfer₀, h₀, rfl⟩ := Option.map_eq_some_iff.mp htransfer
    have hmem := h.listed transfer₀ h₀ key tree tab hlookup ht
    simpa using ⟨hmem, hfree key tree tab hlookup ht⟩
  · rw [← h.main_iff]
    exact Option.map_eq_none_iff

theorem claims_unlistTabs {route : WindowRoute} {removed : List Uuid} {tab : Uuid}
    (h : (route.unlistTabs removed).Claims tab) : route.Claims tab := by
  obtain ⟨transfer, htransfer, ht⟩ | hleaf := h
  · obtain ⟨transfer₀, h₀, rfl⟩ := Option.map_eq_some_iff.mp htransfer
    exact .inl ⟨transfer₀, h₀, (List.mem_filter.mp ht).1⟩
  · exact .inr hleaf

/-! ### Closing a pane -/

/-- Closing a pane is putting the smaller tree back and taking the tab off the list. -/
private theorem sameTabs_closePane (route : WindowRoute) (key tabId focused : Uuid)
    (tree : PaneTree) :
    SameTabs (unlistTabs (route.setTree key tree) [tabId])
      (route.closePane key tabId tree focused) := by
  refine ⟨?_, rfl⟩
  simp only [closePane, unlistTabs, Option.map_map]
  refine congrArg (Option.map · route.transfer) (funext fun transfer => ?_)
  simp

/-- Closing a pane keeps its window tidy. -/
theorem Tidy.closePane {windowId : Uuid} {route : WindowRoute} (h : route.Tidy windowId)
    {key tabId focused : Uuid} {tree tree' : PaneTree}
    (hlookup : route.paneTrees.lookup key = some tree) (hne : tabId ≠ tree.workspaceTabId)
    (hmem : tabId ∈ tree.tabIds) (hremove : tree.remove tabId = some (tree', focused)) :
    (route.closePane key tabId tree' focused).Tidy windowId := by
  obtain ⟨hname, hkey⟩ := h.keyed key tree hlookup
  obtain ⟨hname', htabs⟩ := PaneTree.of_remove hremove
  have hsub : ∀ tab, tab ∈ tree'.tabIds ↔ tab ∈ tree.tabIds ∧ tab ≠ tabId := by
    intro tab
    rw [htabs]
    simp
  have hkey' : key ∈ tree'.tabIds := (hsub key).mpr ⟨hkey, by rw [← hname]; exact hne.symm⟩
  have hinsert := h.setTree (hname'.trans hname) hkey'
    (fun key' tree₂ tab h₂ ht ht₂ =>
      h.leafUnique key' key tree₂ tree tab h₂ hlookup ht₂ ((hsub tab).mp ht).1)
    (fun transfer htransfer tab ht =>
      h.listed transfer htransfer key tree tab hlookup ((hsub tab).mp ht).1)
  refine (hinsert.unlistTabs fun key' tree₂ tab h₂ ht => ?_).congr
    (sameTabs_closePane route key tabId focused tree')
  -- no tree shows the closed tab any more: this one lost it, the others never had it
  rw [List.mem_singleton]
  rintro rfl
  rw [lookup_setTree] at h₂
  split at h₂
  · cases h₂
    exact ((hsub tab).mp ht).2 rfl
  · rename_i hne'
    exact hne' (h.leafUnique key' key tree₂ tree tab h₂ hlookup ht hmem)

theorem claims_closePane {route : WindowRoute} {key tabId focused tab : Uuid}
    {tree tree' : PaneTree} (hlookup : route.paneTrees.lookup key = some tree)
    (hremove : tree.remove tabId = some (tree', focused))
    (h : (route.closePane key tabId tree' focused).Claims tab) : route.Claims tab := by
  have hclaims := claims_unlistTabs ((sameTabs_closePane route key tabId focused tree').claims h)
  obtain ht | hclaim := claims_setTree hclaims
  · rw [(PaneTree.of_remove hremove).2] at ht
    exact .inr ⟨key, tree, hlookup, (List.mem_filter.mp ht).1⟩
  · exact hclaim

/-! ### Rewriting a tree in place -/

/-- A tree can be replaced by one with the same name and leaves. -/
theorem Tidy.replaceTree {windowId key : Uuid} {route : WindowRoute} {tree tree' : PaneTree}
    (h : route.Tidy windowId) (hlookup : route.paneTrees.lookup key = some tree)
    (hname : tree'.workspaceTabId = tree.workspaceTabId) (htabs : tree'.tabIds = tree.tabIds) :
    Tidy windowId (route.setTree key tree') := by
  obtain ⟨hkey, hmem⟩ := h.keyed key tree hlookup
  refine h.setTree (hname.trans hkey) (by rw [htabs]; exact hmem) ?_ ?_
  · intro key' tree₂ tab h₂ ht ht₂
    rw [htabs] at ht
    exact h.leafUnique key' key tree₂ tree tab h₂ hlookup ht₂ ht
  · intro transfer htransfer tab ht
    rw [htabs] at ht
    exact h.listed transfer htransfer key tree tab hlookup ht

/-- A tree of its own can be given to a tab of the list that no other tree shows. -/
theorem Tidy.ensureTree {windowId tabId : Uuid} {route : WindowRoute} (h : route.Tidy windowId)
    (hleaf : ∀ key tree, route.paneTrees.lookup key = some tree → tabId ∈ tree.tabIds →
      key = tabId)
    (hlisted : ∀ transfer, route.transfer = some transfer → tabId ∈ transfer.tabIds) :
    (route.ensureTree tabId).Tidy windowId := by
  unfold WindowRoute.ensureTree
  split
  · exact h
  · have hkey : tabId ∈ (PaneTree.new tabId).tabIds := List.mem_singleton_self tabId
    refine h.setTree rfl hkey ?_ ?_
    · intro key tree tab hlookup ht ht'
      rw [PaneTree.tabIds_new, List.mem_singleton] at ht
      rw [ht] at ht'
      exact hleaf key tree hlookup ht'
    · intro transfer htransfer tab ht
      rw [PaneTree.tabIds_new, List.mem_singleton] at ht
      rw [ht]
      exact hlisted transfer htransfer

theorem claims_ensureTree {route : WindowRoute} {tabId tab : Uuid}
    (h : (route.ensureTree tabId).Claims tab) : tab = tabId ∨ route.Claims tab := by
  unfold WindowRoute.ensureTree at h
  split at h
  · exact .inr h
  · obtain ht | hclaim := claims_setTree h
    · rw [PaneTree.tabIds_new, List.mem_singleton] at ht
      exact .inl ht
    · exact .inr hclaim

/-- Splitting a pane is listing the new tab and putting the larger tree back. -/
private theorem sameTabs_splitPane (route : WindowRoute) (key newTabId : Uuid)
    (tree : PaneTree) :
    SameTabs ((route.listTab newTabId).setTree key tree) (route.splitPane key newTabId tree) := by
  refine ⟨?_, ?_⟩
  · show ((route.setTree key tree).listTab newTabId).transfer.map _ =
      (route.listTab newTabId).transfer.map _
    rw [transfer_listTab, transfer_listTab]
    rfl
  · show ((route.setTree key tree).listTab newTabId).paneTrees =
      (route.listTab newTabId).paneTrees.insert key tree
    rw [paneTrees_listTab, paneTrees_listTab]
    rfl

/-- A tree can be replaced by one that shows one more tab, when no tree showed that tab. -/
theorem Tidy.splitPane {windowId key newTabId : Uuid} {route : WindowRoute}
    {tree tree' : PaneTree} (h : route.Tidy windowId)
    (hlookup : route.paneTrees.lookup key = some tree)
    (hname : tree'.workspaceTabId = tree.workspaceTabId)
    (htabs : ∀ tab, tab ∈ tree'.tabIds ↔ tab = newTabId ∨ tab ∈ tree.tabIds)
    (hnew : ∀ key' tree', route.paneTrees.lookup key' = some tree' → newTabId ∉ tree'.tabIds) :
    (route.splitPane key newTabId tree').Tidy windowId := by
  obtain ⟨hkey, hmem⟩ := h.keyed key tree hlookup
  refine ((h.listTab newTabId).setTree (hname.trans hkey) ((htabs key).mpr (.inr hmem))
    ?_ ?_).congr (sameTabs_splitPane route key newTabId tree')
  · intro key' tree₂ tab h₂ ht ht₂
    rw [paneTrees_listTab] at h₂
    obtain rfl | ht := (htabs tab).mp ht
    · exact absurd ht₂ (hnew key' tree₂ h₂)
    · exact h.leafUnique key' key tree₂ tree tab h₂ hlookup ht₂ ht
  · intro transfer htransfer tab ht
    obtain ⟨transfer₀, h₀, hlist⟩ := mem_transfer_listTab htransfer
    obtain ht | ht := (htabs tab).mp ht
    · exact (hlist tab).mpr (.inr ht)
    · exact (hlist tab).mpr (.inl (h.listed transfer₀ h₀ key tree tab hlookup ht))

theorem claims_splitPane {key newTabId tab : Uuid} {route : WindowRoute}
    {tree tree' : PaneTree} (hlookup : route.paneTrees.lookup key = some tree)
    (htabs : ∀ tab, tab ∈ tree'.tabIds ↔ tab = newTabId ∨ tab ∈ tree.tabIds)
    (h : (route.splitPane key newTabId tree').Claims tab) :
    tab = newTabId ∨ route.Claims tab := by
  obtain ht | hclaim := claims_setTree ((sameTabs_splitPane route key newTabId tree').claims h)
  · exact ((htabs tab).mp ht).imp id fun ht => .inr ⟨key, tree, hlookup, ht⟩
  · exact (claims_listTab hclaim).imp And.right id

end WindowRoute

namespace WindowRouterState

/-! ## The router -/

/-- No window but `windowId` claims the tab. -/
def FreeElsewhere (s : WindowRouterState) (windowId tab : Uuid) : Prop :=
  ∀ w route, s.route? w = some route → route.Claims tab → w = windowId

/-- Every route is tidy, and no two routes claim a tab. -/
structure Tidy (s : WindowRouterState) : Prop where
  route : ∀ w route, s.route? w = some route → route.Tidy w
  disjoint : ∀ w route tab, s.route? w = some route → route.Claims tab → s.FreeElsewhere w tab

theorem route?_setRoute (s : WindowRouterState) (windowId w : Uuid) (route : WindowRoute) :
    (s.setRoute windowId route).route? w = if w = windowId then some route else s.route? w :=
  AssocMap.lookup_insert_ite _ _ _ _

/-- A router stays tidy when one route is replaced by a tidy one that claims only tabs it
    had, and tabs no other window claims. -/
theorem Tidy.setRoute {s : WindowRouterState} (h : s.Tidy) {windowId : Uuid}
    {route : WindowRoute} (hroute : route.Tidy windowId)
    (hclaims : ∀ tab, route.Claims tab →
      (∃ old, s.route? windowId = some old ∧ old.Claims tab) ∨ s.FreeElsewhere windowId tab) :
    (s.setRoute windowId route).Tidy := by
  have hfree : ∀ tab, route.Claims tab → s.FreeElsewhere windowId tab := by
    intro tab ht
    obtain ⟨old, hold, hclaim⟩ | hfree := hclaims tab ht
    · exact h.disjoint windowId old tab hold hclaim
    · exact hfree
  constructor
  · intro w r hr
    rw [route?_setRoute] at hr
    split at hr
    · rename_i hw
      cases hr
      rw [hw]
      exact hroute
    · exact h.route w r hr
  -- of two windows that claim a tab at most one is the written one
  · intro w r tab hr ht w' r' hr' ht'
    rw [route?_setRoute] at hr hr'
    split at hr
    · rename_i hw
      cases hr
      split at hr'
      · rename_i hw'
        rw [hw, hw']
      · rw [hw]
        exact hfree tab ht w' r' hr' ht'
    · split at hr'
      · rename_i hw'
        cases hr'
        rw [hw']
        exact (hfree tab ht' w r hr ht).symm
      · exact h.disjoint w r tab hr ht w' r' hr' ht'

/-- A router stays tidy when its routes stay tidy and claim only tabs no other window claims,
    the detached windows nothing new. -/
theorem Tidy.grow (s : WindowRouterState) {s' : WindowRouterState}
    (hroute : ∀ w route', s'.route? w = some route' → ∃ route, s.route? w = some route ∧
      route'.Tidy w ∧ ∀ tab, route'.Claims tab →
        s.FreeElsewhere w tab ∧ (w ≠ mainWindowId → route.Claims tab)) :
    s'.Tidy := by
  constructor
  · intro w route' hr'
    obtain ⟨_, _, htidy, _⟩ := hroute w route' hr'
    exact htidy
  · intro w route₁' tab hr₁' ht₁ w' route₂' hr₂' ht₂
    obtain ⟨route₁, hr₁, _, hclaims₁⟩ := hroute w route₁' hr₁'
    obtain ⟨route₂, hr₂, _, hclaims₂⟩ := hroute w' route₂' hr₂'
    by_cases hw : w' = mainWindowId
    · by_contra hne
      have hold := (hclaims₁ tab ht₁).2 fun hmain => hne (hw.trans hmain.symm)
      exact hne ((hclaims₂ tab ht₂).1 w route₁ hr₁ hold).symm
    · exact (hclaims₁ tab ht₁).1 w' route₂ hr₂ ((hclaims₂ tab ht₂).2 hw)

/-- A router stays tidy when its routes stay tidy and claim nothing new. -/
theorem Tidy.shrink {s s' : WindowRouterState} (h : s.Tidy)
    (hroute : ∀ w route', s'.route? w = some route' → ∃ route, s.route? w = some route ∧
      route'.Tidy w ∧ ∀ tab, route'.Claims tab → route.Claims tab) :
    s'.Tidy := by
  refine grow s fun w route' hr' => ?_
  obtain ⟨route, hr, htidy, hclaims⟩ := hroute w route' hr'
  exact ⟨route, hr, htidy, fun tab ht =>
    ⟨h.disjoint w route tab hr (hclaims tab ht), fun _ => hclaims tab ht⟩⟩

/-- The rule for one route that claims nothing new. -/
theorem Tidy.setRoute_of_claims {s : WindowRouterState} (h : s.Tidy) {windowId : Uuid}
    {route route' : WindowRoute} (hr : s.route? windowId = some route)
    (htidy : route'.Tidy windowId) (hclaims : ∀ tab, route'.Claims tab → route.Claims tab) :
    (s.setRoute windowId route').Tidy :=
  h.setRoute htidy fun tab ht => .inl ⟨route, hr, hclaims tab ht⟩

/-! ## Operations that take tabs and trees away -/

theorem tree?_eq_some {s : WindowRouterState} {windowId key : Uuid} {tree : PaneTree} :
    s.tree? windowId key = some tree ↔
      ∃ route, s.route? windowId = some route ∧ route.paneTrees.lookup key = some tree := by
  unfold tree?
  exact Option.bind_eq_some_iff

/-- A shown tab is claimed by its window. -/
theorem claims_of_tree? {s : WindowRouterState} {windowId key tab : Uuid} {tree : PaneTree}
    (h : s.tree? windowId key = some tree) (ht : tab ∈ tree.tabIds) :
    ∃ route, s.route? windowId = some route ∧ route.Claims tab := by
  obtain ⟨route, hr, hlookup⟩ := tree?_eq_some.mp h
  exact ⟨route, hr, .inr ⟨key, tree, hlookup, ht⟩⟩

/-- A tab is shown by one tree at most. -/
theorem Tidy.leaf_unique {s : WindowRouterState} (h : s.Tidy) {w w' key key' tab : Uuid}
    {tree tree' : PaneTree} (htree : s.tree? w key = some tree)
    (htree' : s.tree? w' key' = some tree') (ht : tab ∈ tree.tabIds) (ht' : tab ∈ tree'.tabIds) :
    w = w' ∧ key = key' := by
  obtain ⟨route, hr, hclaim⟩ := claims_of_tree? htree ht
  obtain ⟨route', hr', hclaim'⟩ := claims_of_tree? htree' ht'
  have hw : w' = w := h.disjoint w route tab hr hclaim w' route' hr' hclaim'
  subst hw
  obtain ⟨r, hr₁, hlookup⟩ := tree?_eq_some.mp htree
  obtain ⟨r', hr₂, hlookup'⟩ := tree?_eq_some.mp htree'
  have he : r = r' := Option.some.inj (hr₁.symm.trans hr₂)
  subst he
  exact ⟨rfl, (h.route w' r hr₁).leafUnique key key' tree tree' tab hlookup hlookup' ht ht'⟩

/-- Taking one tree out of its window keeps a router tidy. -/
theorem Tidy.removeTree {s : WindowRouterState} (h : s.Tidy) (windowId key : Uuid) :
    (s.removeTree windowId key).Tidy := by
  unfold WindowRouterState.removeTree
  split
  · rename_i route hr
    exact h.setRoute_of_claims hr ((h.route _ _ hr).removeTree key)
      fun _ => WindowRoute.claims_removeTree
  · exact h

/-- The trees that are left were there, in another place than the one taken out. -/
theorem tree?_removeTree {s : WindowRouterState} {windowId key w key' : Uuid} {tree : PaneTree}
    (h : (s.removeTree windowId key).tree? w key' = some tree) :
    s.tree? w key' = some tree ∧ ¬(w = windowId ∧ key' = key) := by
  obtain ⟨route, hr, hlookup⟩ := tree?_eq_some.mp h
  unfold WindowRouterState.removeTree at hr
  split at hr
  · rename_i route₀ hr₀
    rw [route?_setRoute] at hr
    split at hr
    · rename_i hw
      cases hr
      unfold WindowRoute.removeTree at hlookup
      rw [AssocMap.lookup_erase_ite] at hlookup
      split at hlookup
      · cases hlookup
      · rename_i hne
        rw [hw]
        exact ⟨tree?_eq_some.mpr ⟨route₀, hr₀, hlookup⟩, fun hk => hne hk.2⟩
    · rename_i hw
      exact ⟨tree?_eq_some.mpr ⟨route, hr, hlookup⟩, fun hk => hw hk.1⟩
  · rename_i hr₀
    refine ⟨tree?_eq_some.mpr ⟨route, hr, hlookup⟩, fun hk => ?_⟩
    rw [hk.1, hr₀] at hr
    cases hr

/-- Closing tabs that no tree shows keeps a router tidy. -/
theorem Tidy.closeTabs {s : WindowRouterState} (h : s.Tidy) (workspaceTabId : Uuid)
    {removed : List Uuid}
    (hfree : ∀ w key tree tab, s.tree? w key = some tree → tab ∈ tree.tabIds → tab ∉ removed) :
    (s.closeTabs workspaceTabId removed).Tidy := by
  refine h.shrink fun w route' hr' => ?_
  have hmap := (AssocMap.lookup_mapValues _ s.routes w).symm.trans hr'
  obtain ⟨route, hr, rfl⟩ := Option.map_eq_some_iff.mp hmap
  have htidy : (route.unlistTabs removed).Tidy w :=
    (h.route w route hr).unlistTabs fun key tree tab hlookup ht =>
      hfree w key tree tab (tree?_eq_some.mpr ⟨route, hr, hlookup⟩) ht
  refine ⟨route, hr, htidy.congr ⟨rfl, rfl⟩, fun tab ht => ?_⟩
  have hclaims : (route.unlistTabs removed).Claims tab := ht
  exact WindowRoute.claims_unlistTabs hclaims

/-- Closing a workspace tab takes its tree out and its tabs off every list. -/
theorem Tidy.takeWorkspaceTabIds {s : WindowRouterState} (h : s.Tidy) {tabId : Uuid}
    {owner : Option (Uuid × Uuid)} (howner : s.Finds tabId owner) :
    (s.takeWorkspaceTabIds tabId owner).1.Tidy := by
  cases owner with
  | none =>
    refine h.closeTabs tabId fun w key tree tab htree ht hmem => ?_
    have htab : tab = tabId := List.mem_singleton.mp hmem
    have hnot := howner w key tree htree
    rw [← htab, PaneTree.mem_tabIds_iff_contains.mpr ht] at hnot
    cases hnot
  | some found =>
    obtain ⟨windowId, key⟩ := found
    obtain ⟨tree, htree, _⟩ := howner
    have hclosing : s.closingTabs tabId (some (windowId, key)) = tree.tabIds := by
      unfold closingTabs
      rw [Option.bind_some, htree]
    refine (h.removeTree windowId key).closeTabs key fun w key' tree' tab htree' ht hmem => ?_
    rw [hclosing] at hmem
    -- another tree shows the tab, so it is not the one taken out
    obtain ⟨hbefore, hne⟩ := tree?_removeTree htree'
    exact hne (h.leaf_unique hbefore htree ht hmem)

theorem Tidy.takePaneTreeForDetach {s : WindowRouterState} (h : s.Tidy) (windowId : Uuid)
    (owner : Option Uuid) : (s.takePaneTreeForDetach windowId owner).1.Tidy := by
  cases owner with
  | some key => exact h.removeTree windowId key
  | none => exact h

theorem Tidy.removeDetached {s : WindowRouterState} (h : s.Tidy) (windowId : Uuid)
    (owner : Option Uuid) : (s.removeDetached windowId owner).1.Tidy := by
  refine h.shrink fun w route hr => ?_
  have hr' : (s.routes.erase windowId).lookup w = some route := hr
  rw [AssocMap.lookup_erase_ite] at hr'
  split at hr'
  · cases hr'
  · exact ⟨route, hr', h.route w route hr', fun _ => id⟩

theorem Tidy.discardDetached {s : WindowRouterState} (h : s.Tidy) : s.discardDetached.Tidy := by
  refine h.shrink fun w route hr => ?_
  have hr' : (AssocMap.retain (fun _ route => route.transfer.isNone) s.routes).lookup w =
      some route := hr
  rw [AssocMap.lookup_retain, Option.filter_eq_some_iff] at hr'
  exact ⟨route, hr'.1, h.route w route hr'.1, fun _ => id⟩

/-! ## Operations on one pane tree -/

/-- The tree a search finds shows the tab. -/
theorem mem_of_findsIn {s : WindowRouterState} {windowId key tabId : Uuid} {tree : PaneTree}
    (h : s.FindsIn windowId tabId (some key)) (htree : s.tree? windowId key = some tree) :
    tabId ∈ tree.tabIds := by
  obtain ⟨found, hfound, hcontains⟩ := h
  rw [htree] at hfound
  cases hfound
  exact PaneTree.mem_tabIds_iff_contains.mp hcontains

/-- A tree of a window can be replaced by one with the same name and leaves. -/
theorem Tidy.replaceTree {s : WindowRouterState} (h : s.Tidy) {windowId key : Uuid}
    {route : WindowRoute} {tree tree' : PaneTree} (hr : s.route? windowId = some route)
    (hlookup : route.paneTrees.lookup key = some tree)
    (hname : tree'.workspaceTabId = tree.workspaceTabId) (htabs : tree'.tabIds = tree.tabIds)
    (activeTabId : Option Uuid) :
    (s.setRoute windowId { route.setTree key tree' with activeTabId }).Tidy := by
  have hroute := (h.route windowId route hr).replaceTree hlookup hname htabs
  refine h.setRoute_of_claims hr (hroute.congr ⟨rfl, rfl⟩) fun tab ht => ?_
  have hsame : WindowRoute.SameTabs (route.setTree key tree')
      { route.setTree key tree' with activeTabId } := ⟨rfl, rfl⟩
  obtain ht | hclaim := WindowRoute.claims_setTree (hsame.claims ht)
  · rw [htabs] at ht
    exact .inr ⟨key, tree, hlookup, ht⟩
  · exact hclaim

/-- A route that lists and shows the same tabs keeps a router tidy. -/
theorem Tidy.sameTabs {s : WindowRouterState} (h : s.Tidy) {windowId : Uuid}
    {route route' : WindowRoute} (hr : s.route? windowId = some route)
    (hsame : route.SameTabs route') : (s.setRoute windowId route').Tidy :=
  h.setRoute_of_claims hr ((h.route windowId route hr).congr hsame) fun _ => hsame.claims

theorem Tidy.setActive {s : WindowRouterState} (h : s.Tidy) (windowId tabId : Uuid)
    (owner : Option Uuid) : (s.setActive windowId tabId owner).Tidy := by
  unfold WindowRouterState.setActive
  split
  · exact h
  · rename_i route hr
    split
    · exact h.sameTabs hr ⟨rfl, rfl⟩
    · split
      · rename_i key tree hfound
        obtain ⟨key', rfl, hmap⟩ := Option.bind_eq_some_iff.mp hfound
        obtain ⟨tree', hlookup, he⟩ := Option.map_eq_some_iff.mp hmap
        cases he
        exact h.replaceTree hr hlookup (by simp) (by simp) _
      · exact h.sameTabs hr ⟨rfl, rfl⟩

theorem Tidy.focusTerminalPane {s : WindowRouterState} (h : s.Tidy) (windowId tabId : Uuid)
    (app : AppView) (owner : Option Uuid) :
    (s.focusTerminalPane windowId tabId app owner).Tidy := by
  unfold WindowRouterState.focusTerminalPane
  split
  · exact h
  · split
    · rename_i route key hr
      split
      · exact h
      · rename_i tree hlookup
        exact h.replaceTree hr hlookup (by simp) (by simp) _
    · exact h

theorem Tidy.updateActiveTree {s : WindowRouterState} (h : s.Tidy) (windowId : Uuid)
    {update : PaneTree → PaneTree}
    (hname : ∀ tree, (update tree).workspaceTabId = tree.workspaceTabId)
    (htabs : ∀ tree, (update tree).tabIds = tree.tabIds) :
    (s.updateActiveTree windowId update).Tidy := by
  unfold WindowRouterState.updateActiveTree
  split
  · exact h
  · rename_i route hr
    split
    · exact h
    · split
      · exact h
      · rename_i tree hlookup
        exact h.replaceTree hr hlookup (hname tree) (htabs tree) route.activeTabId

theorem Tidy.updateRoute {s : WindowRouterState} (h : s.Tidy) (windowId : Uuid)
    {update : WindowRoute → WindowRoute} (hsame : ∀ route : WindowRoute, route.SameTabs (update route)) :
    (s.updateRoute windowId update).Tidy := by
  unfold WindowRouterState.updateRoute
  split
  · exact h
  · rename_i route hr
    exact h.sameTabs hr (hsame route)

/-- Which detaches are pending does not matter. -/
theorem Tidy.pending {s : WindowRouterState} (h : s.Tidy) (pending : AssocMap Uuid Uuid) :
    Tidy { s with pendingDetaches := pending } :=
  ⟨h.route, h.disjoint⟩

/-- Closing a pane keeps a router tidy. -/
theorem Tidy.removeTerminalChildPane {s : WindowRouterState} (h : s.Tidy) (tabId : Uuid)
    (app : AppView) {owner : Option (Uuid × Uuid)}
    (howner : ∀ windowId key, owner = some (windowId, key) →
      s.FindsIn windowId tabId (some key)) :
    (s.removeTerminalChildPane tabId app owner).Tidy := by
  unfold WindowRouterState.removeTerminalChildPane
  split
  · exact h
  · split
    · exact h
    · rename_i windowId key
      split
      · exact h
      · rename_i route hr
        split
        · exact h
        · rename_i tree hlookup
          split
          · exact h
          · rename_i hne
            split
            · exact h
            · rename_i tree' focused hremove
              have htree := tree?_eq_some.mpr ⟨route, hr, hlookup⟩
              have hmem := mem_of_findsIn (howner windowId key rfl) htree
              exact h.setRoute_of_claims hr
                ((h.route _ _ hr).closePane hlookup hne hmem hremove)
                fun _ => WindowRoute.claims_closePane hlookup hremove

/-- Listing a tab keeps a router tidy, when no other window claims it. -/
theorem Tidy.includeTab {s : WindowRouterState} (h : s.Tidy) {windowId tabId : Uuid}
    (hfree : windowId ≠ mainWindowId → s.FreeElsewhere windowId tabId) :
    (s.includeTab windowId tabId).1.Tidy := by
  unfold WindowRouterState.includeTab
  split
  · exact h
  · rename_i route hr
    have hroute := h.route windowId route hr
    refine h.setRoute (hroute.listTab tabId) fun tab ht => ?_
    obtain ⟨hdetached, rfl⟩ | hclaim := WindowRoute.claims_listTab ht
    · exact .inr (hfree fun hw => hdetached (hroute.main_iff.mpr hw))
    · exact .inl ⟨route, hr, hclaim⟩

/-- What a detached window claims, it lists. -/
theorem Tidy.mem_detachedIds {s : WindowRouterState} (h : s.Tidy) {w tab : Uuid}
    {route : WindowRoute} (hr : s.route? w = some route) (hw : w ≠ mainWindowId)
    (hclaim : route.Claims tab) : tab ∈ s.detachedIds := by
  have hroute := h.route w route hr
  obtain ⟨transfer, htransfer⟩ := Option.ne_none_iff_exists'.mp (mt hroute.main_iff.mp hw)
  refine List.mem_flatMap.mpr ⟨⟨w, route⟩, AList.mem_lookup_iff.mp hr, ?_⟩
  rw [htransfer]
  obtain ⟨transfer', htransfer', ht⟩ | ⟨key, tree, hlookup, ht⟩ := hclaim
  · rw [htransfer] at htransfer'
    cases htransfer'
    exact ht
  · exact hroute.listed transfer htransfer key tree tab hlookup ht

/-- A tab in the strip of a window is shown there as its own tree or not at all, and no
    other window claims it. -/
theorem Tidy.of_mem_routeTabIds {s : WindowRouterState} (h : s.Tidy) {windowId tabId : Uuid}
    {app : AppView} {route : WindowRoute} (hr : s.route? windowId = some route)
    (hmem : tabId ∈ s.routeTabIds windowId app) :
    (∀ key tree, route.paneTrees.lookup key = some tree → tabId ∈ tree.tabIds → key = tabId) ∧
      (∀ transfer, route.transfer = some transfer → tabId ∈ transfer.tabIds) ∧
      s.FreeElsewhere windowId tabId := by
  unfold routeTabIds at hmem
  rw [hr] at hmem
  obtain ⟨hlist, hhidden⟩ := List.mem_filter.mp hmem
  have hroute := h.route windowId route hr
  refine ⟨fun key tree hlookup ht => ?_, fun transfer htransfer => ?_, ?_⟩
  · by_contra hne
    refine of_decide_eq_true hhidden (List.mem_flatMap.mpr ⟨⟨key, tree⟩, ?_, ?_⟩)
    · exact AList.mem_lookup_iff.mp hlookup
    · exact List.mem_filter.mpr ⟨ht, decide_eq_true fun he => hne he.symm⟩
  · rw [htransfer] at hlist
    exact hlist
  · cases htransfer : route.transfer with
    | some transfer =>
      rw [htransfer] at hlist
      exact h.disjoint windowId route tabId hr (.inl ⟨transfer, htransfer, hlist⟩)
    | none =>
      -- the main window: no detached window lists the tab, so none shows it
      rw [htransfer] at hlist
      have hdetached := of_decide_eq_true (List.mem_filter.mp hlist).2
      intro w r hr' hclaim
      rw [hroute.main_iff.mp htransfer]
      by_contra hw
      exact hdetached (h.mem_detachedIds hr' hw hclaim)

/-- Activating a tab of the strip keeps a router tidy. -/
theorem Tidy.activateTab {s : WindowRouterState} (h : s.Tidy) (windowId tabId : Uuid)
    (app : AppView) : (s.activateTab windowId tabId app).Tidy := by
  unfold WindowRouterState.activateTab
  split
  · exact h
  · split
    · exact h
    · rename_i hstrip
      split
      · exact h
      · rename_i route hr
        have hmem : tabId ∈ s.routeTabIds windowId app := by simpa using hstrip
        obtain ⟨hleaf, hlisted, hfree⟩ := h.of_mem_routeTabIds hr hmem
        have hactive : WindowRoute.Tidy windowId { route with activeTabId := some tabId } :=
          (h.route windowId route hr).congr ⟨rfl, rfl⟩
        have hsame : ∀ tab, WindowRoute.Claims { route with activeTabId := some tabId } tab →
            route.Claims tab := fun tab => id
        dsimp only
        split
        · refine h.setRoute (hactive.ensureTree hleaf hlisted) fun tab ht => ?_
          obtain rfl | hclaim := WindowRoute.claims_ensureTree ht
          · exact .inr hfree
          · exact .inl ⟨route, hr, hclaim⟩
        · exact h.setRoute_of_claims hr hactive hsame

/-- The tabs of a view are tabs of the strip. -/
theorem mem_routeTabIds_of_viewTabs {s : WindowRouterState} {windowId tabId : Uuid}
    {app : AppView} {route : WindowRoute} (hr : s.route? windowId = some route)
    (h : tabId ∈ s.viewTabs route app) : tabId ∈ s.routeTabIds windowId app := by
  unfold routeTabIds
  rw [hr]
  obtain ⟨hlist, hhidden⟩ := List.mem_filter.mp h
  refine List.mem_filter.mpr ⟨?_, hhidden⟩
  cases htransfer : route.transfer with
  | none =>
    rw [htransfer] at hlist
    exact hlist
  | some transfer =>
    rw [htransfer] at hlist
    exact of_decide_eq_true (List.mem_filter.mp hlist).2

/-- A view shows a tab of its strip. -/
theorem mem_viewTabs_of_viewActive {s : WindowRouterState} {route : WindowRoute} {app : AppView}
    {owner : Uuid → Option Uuid} {tabId : Uuid} (h : s.viewActive route app owner = some tabId) :
    tabId ∈ s.viewTabs route app := by
  unfold viewActive at h
  rcases Option.or_eq_some_iff.mp h with hactive | ⟨_, hrest⟩
  · exact of_decide_eq_true (Option.filter_eq_some_iff.mp hactive).2
  · rcases Option.or_eq_some_iff.mp hrest with hbefore | ⟨_, hfirst⟩
    · exact of_decide_eq_true (Option.filter_eq_some_iff.mp hbefore).2
    · exact List.mem_of_mem_head? hfirst

/-- Making the views keeps a router tidy. -/
theorem Tidy.views {s : WindowRouterState} (h : s.Tidy) (app : AppView)
    (owner : Uuid → Uuid → Option Uuid) : (s.views app owner).Tidy := by
  refine grow s fun w route' hr' => ?_
  have hmap := (AssocMap.lookup_mapValues _ s.routes w).symm.trans hr'
  obtain ⟨route, hr, rfl⟩ := Option.map_eq_some_iff.mp hmap
  have hroute := h.route w route hr
  refine ⟨route, hr, ?_⟩
  have hold : ∀ tab, route.Claims tab →
      s.FreeElsewhere w tab ∧ (w ≠ mainWindowId → route.Claims tab) :=
    fun tab ht => ⟨h.disjoint w route tab hr ht, fun _ => ht⟩
  dsimp only [viewRoute]
  split
  · exact ⟨hroute.congr ⟨rfl, rfl⟩, hold⟩
  · rename_i tabId hactive
    have hactive' : WindowRoute.Tidy w { route with activeTabId := some tabId } :=
      hroute.congr ⟨rfl, rfl⟩
    split
    · -- the tab it shows is in its strip, so it may get a tree
      obtain ⟨hleaf, hlisted, hfree⟩ := h.of_mem_routeTabIds hr
        (mem_routeTabIds_of_viewTabs hr (mem_viewTabs_of_viewActive hactive))
      refine ⟨hactive'.ensureTree hleaf hlisted, fun tab ht => ?_⟩
      obtain rfl | hclaim := WindowRoute.claims_ensureTree ht
      · refine ⟨hfree, fun hw => ?_⟩
        obtain ⟨transfer, htransfer⟩ := Option.ne_none_iff_exists'.mp (mt hroute.main_iff.mp hw)
        exact .inl ⟨transfer, htransfer, hlisted transfer htransfer⟩
      · exact hold tab hclaim
    · exact ⟨hactive', hold⟩

/-- Registering a window for tabs no other window claims keeps a router tidy. -/
theorem Tidy.registerDetached {s : WindowRouterState} (h : s.Tidy) {windowId : Uuid}
    {transfer : WorkspaceTransfer} {paneTree : Option PaneTree}
    (hwindow : windowId ≠ mainWindowId)
    (hfree : ∀ tab ∈ transfer.tabIds, s.FreeElsewhere windowId tab)
    (htree : ∀ tree, paneTree = some tree →
      tree.workspaceTabId ∈ tree.tabIds ∧ ∀ tab ∈ tree.tabIds, tab ∈ transfer.tabIds) :
    (s.registerDetached windowId transfer paneTree).Tidy := by
  let route : WindowRoute := { activeTabId := transfer.activeTabId, transfer := some transfer }
  have hroute : route.Tidy windowId := by
    refine ⟨fun key tree hlookup => ?_, fun key key' tree tree' tab hlookup => ?_,
      fun transfer' _ key tree tab hlookup => ?_, iff_of_false (Option.some_ne_none _) hwindow⟩
    all_goals cases hlookup
  -- a new window claims what was transferred to it
  have hclaims : ∀ tab, route.Claims tab → tab ∈ transfer.tabIds := by
    rintro tab (⟨transfer', htransfer, ht⟩ | ⟨key, tree, hlookup, _⟩)
    · cases htransfer
      exact ht
    · cases hlookup
  unfold WindowRouterState.registerDetached
  dsimp only
  cases paneTree with
  | none => exact h.setRoute hroute fun tab ht => .inr (hfree tab (hclaims tab ht))
  | some tree =>
    obtain ⟨hname, hshown⟩ := htree tree rfl
    refine h.setRoute (hroute.setTree rfl hname (fun _ _ _ hlookup => nomatch hlookup) ?_) ?_
    · intro transfer' htransfer' tab ht
      cases htransfer'
      exact hshown tab ht
    · intro tab ht
      obtain ht | hclaim := WindowRoute.claims_setTree ht
      · exact .inr (hfree tab (hshown tab ht))
      · exact .inr (hfree tab (hclaims tab hclaim))

/-- A split that goes through adds a tab which no other window claims and which no tree of
    its window shows. -/
def SplitSafe (s : WindowRouterState) (windowId sourceTabId : Uuid) (direction : PaneDirection)
    (newTabId : Uuid) (owner : Option Uuid) : Prop :=
  ∀ key tree, owner = some key → s.tree? windowId key = some tree →
    ((tree.setFocused sourceTabId).1.splitFocused direction newTabId).2 = true →
    s.FreeElsewhere windowId newTabId ∧
      ∀ key' tree', s.tree? windowId key' = some tree' → newTabId ∉ tree'.tabIds

/-- Splitting a pane for a new tab keeps a router tidy. -/
theorem Tidy.completePaneSplit {s : WindowRouterState} (h : s.Tidy) {windowId source : Uuid}
    {direction : PaneDirection} {newTabId : Uuid} {owner : Option Uuid} (app : AppView)
    (hsafe : s.SplitSafe windowId source direction newTabId owner) :
    (s.completePaneSplit windowId source direction newTabId app owner).Tidy := by
  unfold WindowRouterState.completePaneSplit
  split
  · exact h
  · split
    · rename_i route key hr
      split
      · exact h
      · rename_i tree hlookup
        have hroute := h.route windowId route hr
        dsimp only
        split
        · -- refused: the tree shows what it showed
          exact h.replaceTree hr hlookup (by simp) (by simp) route.activeTabId
        · rename_i hok
          have hsplit : ((tree.setFocused source).1.splitFocused direction newTabId).2 = true := by
            simp only [Bool.not_eq_true, Bool.not_eq_false', Bool.and_eq_true] at hok
            exact hok.2
          obtain ⟨hfree, hunshown⟩ :=
            hsafe key tree rfl (tree?_eq_some.mpr ⟨route, hr, hlookup⟩) hsplit
          have htabs : ∀ tab, tab ∈
              ((tree.setFocused source).1.splitFocused direction newTabId).1.tabIds ↔
                tab = newTabId ∨ tab ∈ tree.tabIds := by
            intro tab
            rw [PaneTree.mem_tabIds_splitFocused hsplit, PaneTree.tabIds_setFocused]
          have htidy := hroute.splitPane hlookup (by simp) htabs fun key' tree' hlookup' =>
            hunshown key' tree' (tree?_eq_some.mpr ⟨route, hr, hlookup'⟩)
          refine h.setRoute htidy fun tab ht => ?_
          obtain rfl | hclaim := WindowRoute.claims_splitPane hlookup htabs ht
          · exact .inr hfree
          · exact .inl ⟨route, hr, hclaim⟩
    · exact h

/-! ## Operations that bring trees to the main window -/

/-- A tree named after one of its leaves that shares no leaf with another window or with
    another tree of the main window. -/
def FitsMain (s : WindowRouterState) (tree : PaneTree) : Prop :=
  tree.workspaceTabId ∈ tree.tabIds ∧ ∀ tab ∈ tree.tabIds, s.FreeElsewhere mainWindowId tab ∧
    ∀ key tree', s.tree? mainWindowId key = some tree' → tab ∈ tree'.tabIds →
      key = tree.workspaceTabId

/-- Showing a fitting tree in the main window again keeps a router tidy. -/
theorem Tidy.restoreDetached {s : WindowRouterState} (h : s.Tidy) {detached : DetachedRoute}
    (hfits : ∀ tree, detached.paneTree = some tree → s.FitsMain tree) :
    (s.restoreDetached detached).Tidy := by
  unfold WindowRouterState.restoreDetached
  split
  · exact h
  · rename_i main hr
    have hmain := h.route mainWindowId main hr
    have hnone : main.transfer = none := hmain.main_iff.mpr rfl
    have hactive : WindowRoute.Tidy mainWindowId
        { main with activeTabId := detached.activeWorkspaceTab } :=
      hmain.congr ⟨rfl, rfl⟩
    cases htree : detached.paneTree with
    | none => exact h.setRoute_of_claims hr hactive fun _ => id
    | some tree =>
      obtain ⟨hname, hleaf⟩ := hfits tree htree
      refine h.setRoute (hactive.setTree rfl hname ?_ ?_) fun tab ht => ?_
      · intro key tree' tab hlookup ht ht'
        exact (hleaf tab ht).2 key tree' (tree?_eq_some.mpr ⟨main, hr, hlookup⟩) ht'
      · intro transfer htransfer
        cases hnone.symm.trans htransfer
      · obtain ht | hclaim := WindowRoute.claims_setTree ht
        · exact .inr (hleaf tab ht).1
        · exact .inl ⟨main, hr, hclaim⟩

/-- The trees a snapshot restores for the main window, in the order they are restored. -/
def restoredTrees (app : AppView) (snapshot : WorkspaceSnapshot) : List PaneTree :=
  snapshot.windows.flatMap fun window =>
    if window.id ≠ mainWindowId then [] else window.panes.filterMap (restoredTree app)

/-- A restored tree that no later one of the same name replaces. -/
def Survives (trees : List PaneTree) (tree : PaneTree) : Prop :=
  ∃ pre post, trees = pre ++ tree :: post ∧
    ∀ later ∈ post, later.workspaceTabId ≠ tree.workspaceTabId

/-- A route that restoring `trees` into `main` can have reached: its trees are those that
    survived, up to their focus. -/
structure RestoredFrom (main : WindowRoute) (trees : List PaneTree) (route : WindowRoute) :
    Prop where
  transfer : route.transfer = main.transfer
  survivor : ∀ key tree, route.paneTrees.lookup key = some tree →
    ∃ restored, Survives trees restored ∧ restored.workspaceTabId = key ∧
      tree.workspaceTabId = key ∧ tree.tabIds = restored.tabIds

/-- A restored tree is named after a leaf. -/
theorem of_restoredTree {app : AppView} {pane : PaneNodeSnapshot} {tree : PaneTree}
    (h : restoredTree app pane = some tree) : tree.workspaceTabId ∈ tree.tabIds := by
  unfold restoredTree at h
  split at h
  · cases h
  · rename_i found hfound
    split at h
    · cases h
      obtain ⟨hname, _, hmem, _⟩ := PaneTree.of_fromSnapshot hfound
      rw [hname]
      exact hmem
    · cases h

/-- Restoring one pane adds its tree, if it restores. -/
theorem RestoredFrom.restorePane {main route : WindowRoute} {trees : List PaneTree}
    (h : RestoredFrom main trees route) (app : AppView) (focused : Option Uuid)
    (pane : PaneNodeSnapshot) :
    RestoredFrom main (trees ++ (restoredTree app pane).toList)
      (WindowRouterState.restorePane app focused route pane) := by
  unfold WindowRouterState.restorePane
  cases hpane : restoredTree app pane with
  | none =>
    rw [Option.toList_none, List.append_nil]
    exact h
  | some tree =>
    refine ⟨h.transfer, fun key shown hlookup => ?_⟩
    unfold WindowRoute.insertTree at hlookup
    rw [WindowRoute.lookup_setTree, PaneTree.workspaceTabId_setFocused] at hlookup
    split at hlookup
    · rename_i hkey
      cases hlookup
      exact ⟨tree, ⟨trees, [], rfl, nofun⟩, hkey.symm, by simp [hkey], by simp⟩
    · rename_i hkey
      obtain ⟨restored, ⟨pre, post, rfl, hlast⟩, hname, hshown⟩ := h.survivor key shown hlookup
      refine ⟨restored, ⟨pre, post ++ [tree], by simp, ?_⟩, hname, hshown⟩
      intro later hlater
      obtain hlater | hlater := List.mem_append.mp hlater
      · exact hlast later hlater
      · rw [List.mem_singleton.mp hlater, hname]
        exact fun he => hkey he.symm

/-- Restoring the panes of one window adds the trees that restore. -/
theorem RestoredFrom.foldl_restorePane {main route : WindowRoute} {trees : List PaneTree}
    (h : RestoredFrom main trees route) (app : AppView) (focused : Option Uuid)
    (panes : List PaneNodeSnapshot) :
    RestoredFrom main (trees ++ panes.filterMap (restoredTree app))
      (panes.foldl (WindowRouterState.restorePane app focused) route) := by
  induction panes generalizing trees route with
  | nil =>
    rw [List.filterMap_nil, List.append_nil]
    exact h
  | cons pane panes ih =>
    have hstep := ih (h.restorePane app focused pane)
    rw [List.append_assoc] at hstep
    rw [List.foldl_cons]
    cases hpane : restoredTree app pane with
    | none => simpa [List.filterMap_cons, hpane] using hstep
    | some tree => simpa [List.filterMap_cons, hpane] using hstep

/-- Restoring windows adds the trees of those that are the main window. -/
theorem RestoredFrom.foldl_restoreWindow {main route : WindowRoute} {trees : List PaneTree}
    (h : RestoredFrom main trees route) (app : AppView) (snapshot : WorkspaceSnapshot)
    (windows : List WorkspaceWindowSnapshot) :
    RestoredFrom main (trees ++ windows.flatMap fun window =>
        if window.id ≠ mainWindowId then [] else window.panes.filterMap (restoredTree app))
      (windows.foldl (restoreWindow app snapshot) route) := by
  induction windows generalizing trees route with
  | nil =>
    rw [List.flatMap_nil, List.append_nil]
    exact h
  | cons window windows ih =>
    rw [List.foldl_cons, List.flatMap_cons, ← List.append_assoc]
    refine ih ?_
    unfold restoreWindow
    split
    · rw [List.append_nil]
      exact h
    · have hroute : RestoredFrom main trees
          { route with
            activeTabId := window.activeTabId.or snapshot.activeTabId
            placement := window.placement } :=
        ⟨h.transfer, h.survivor⟩
      exact hroute.foldl_restorePane app window.focusedTabId window.panes

/-- The trees of a snapshot that survive the restore share no tab with each other or with a
    detached window. -/
def SnapshotSafe (s : WindowRouterState) (snapshot : WorkspaceSnapshot) (app : AppView) : Prop :=
  ∀ tree, Survives (restoredTrees app snapshot) tree → ∀ tab ∈ tree.tabIds,
    s.FreeElsewhere mainWindowId tab ∧
      ∀ tree', Survives (restoredTrees app snapshot) tree' → tab ∈ tree'.tabIds →
        tree'.workspaceTabId = tree.workspaceTabId

/-- A survivor is one of the restored trees, so it is named after a leaf. -/
theorem Survives.name_mem {app : AppView} {snapshot : WorkspaceSnapshot} {tree : PaneTree}
    (h : Survives (restoredTrees app snapshot) tree) : tree.workspaceTabId ∈ tree.tabIds := by
  obtain ⟨pre, post, htrees, _⟩ := h
  have hmem : tree ∈ restoredTrees app snapshot := by
    rw [htrees]
    simp
  obtain ⟨window, _, hwindow⟩ := List.mem_flatMap.mp hmem
  split at hwindow
  · cases hwindow
  · obtain ⟨pane, _, hpane⟩ := List.mem_filterMap.mp hwindow
    exact of_restoredTree hpane

/-- Restoring a safe snapshot keeps a router tidy. -/
theorem Tidy.applySnapshot {s : WindowRouterState} (h : s.Tidy) {snapshot : WorkspaceSnapshot}
    {app : AppView} (hsafe : s.SnapshotSafe snapshot app) :
    (s.applySnapshot snapshot app).Tidy := by
  unfold WindowRouterState.applySnapshot
  split
  · exact h
  · rename_i main hr
    have hnone : main.transfer = none := (h.route mainWindowId main hr).main_iff.mpr rfl
    have hempty : RestoredFrom main []
        { main with paneTrees := ∅, activeTabId := snapshot.activeTabId } :=
      ⟨rfl, fun _ _ hlookup => nomatch hlookup⟩
    -- what survives the restoration comes from the windows of the snapshot
    have hres := hempty.foldl_restoreWindow app snapshot snapshot.windows
    refine h.setRoute ⟨?_, ?_, ?_, ?_⟩ fun tab ht => .inr ?_
    · intro key tree hlookup
      obtain ⟨restored, hsurvives, hname, hname', htabs⟩ := hres.survivor key tree hlookup
      rw [htabs, ← hname]
      exact ⟨hname'.trans hname.symm, hsurvives.name_mem⟩
    · intro key key' tree tree' tab hlookup hlookup' ht ht'
      obtain ⟨r, hsurvives, hname, _, htabs⟩ := hres.survivor key tree hlookup
      obtain ⟨r', hsurvives', hname', _, htabs'⟩ := hres.survivor key' tree' hlookup'
      rw [htabs] at ht
      rw [htabs'] at ht'
      rw [← hname, ← hname']
      exact ((hsafe r hsurvives tab ht).2 r' hsurvives' ht').symm
    · intro transfer htransfer
      rw [hres.transfer, hnone] at htransfer
      cases htransfer
    · rw [hres.transfer, hnone]
      exact iff_of_true rfl rfl
    · obtain ⟨transfer, htransfer, _⟩ | ⟨key, tree, hlookup, ht⟩ := ht
      · rw [hres.transfer, hnone] at htransfer
        cases htransfer
      · obtain ⟨restored, hsurvives, _, _, htabs⟩ := hres.survivor key tree hlookup
        rw [htabs] at ht
        exact (hsafe restored hsurvives tab ht).1

/-! ## Runs -/

/-- The condition under which an operation keeps ownership unique: the tabs it gives to a
    window belong to no other window, and the trees it shows share no tab. -/
def OpSafe (s : WindowRouterState) : RouterOp → Prop
  | .includeTab windowId tabId => windowId ≠ mainWindowId → s.FreeElsewhere windowId tabId
  | .completePaneSplit windowId source direction new _ owner =>
    s.SplitSafe windowId source direction new owner
  | .registerDetached windowId transfer paneTree => windowId ≠ mainWindowId ∧
    (∀ tab ∈ transfer.tabIds, s.FreeElsewhere windowId tab) ∧
    ∀ tree, paneTree = some tree →
      tree.workspaceTabId ∈ tree.tabIds ∧ ∀ tab ∈ tree.tabIds, tab ∈ transfer.tabIds
  | .restoreDetached detached => ∀ tree, detached.paneTree = some tree → s.FitsMain tree
  | .applySnapshot snapshot app => s.SnapshotSafe snapshot app
  | _ => True

/-- A fresh router is tidy. -/
theorem new_tidy : WindowRouterState.new.Tidy := by
  have hroute : ∀ w route, WindowRouterState.new.route? w = some route →
      w = mainWindowId ∧ route = {} := by
    intro w route hr
    have hr' : ((∅ : AssocMap Uuid WindowRoute).insert mainWindowId {}).lookup w =
        some route := hr
    rw [AssocMap.lookup_insert_ite] at hr'
    split at hr'
    · rename_i hw
      exact ⟨hw, (Option.some.inj hr').symm⟩
    · cases hr'
  constructor
  · intro w route hr
    obtain ⟨rfl, rfl⟩ := hroute w route hr
    refine ⟨fun key tree h => ?_, fun key key' tree tree' tab h => ?_, fun transfer h => ?_,
      iff_of_true rfl rfl⟩
    all_goals cases h
  · intro w route tab hr _ w' route' hr' _
    rw [(hroute w route hr).1, (hroute w' route' hr').1]

/-- A safe operation keeps a router tidy. -/
theorem step_tidy {s : WindowRouterState} (h : s.Tidy) (op : RouterOp) (hop : s.Allowed op)
    (hsafe : s.OpSafe op) : (s.apply op).Tidy := by
  cases op with
  | activateTab windowId tabId app => exact h.activateTab windowId tabId app
  | includeTab windowId tabId => exact h.includeTab hsafe
  | setActive windowId tabId owner => exact h.setActive windowId tabId owner
  | focusTerminalPane windowId tabId app owner =>
    exact h.focusTerminalPane windowId tabId app owner
  | focusPaneDirection windowId direction =>
    exact h.updateActiveTree windowId (fun tree => (tree.focusDirection_same direction).1)
      fun tree => (tree.focusDirection_same direction).2
  | resizeTerminalDivider windowId dividerId ratio =>
    exact h.updateActiveTree windowId (fun tree => (tree.resizeSplit_same dividerId ratio).1)
      fun tree => (tree.resizeSplit_same dividerId ratio).2
  | setPlacement windowId placement => exact h.updateRoute windowId fun _ => ⟨rfl, rfl⟩
  | setModalOpen windowId modalOpen => exact h.updateRoute windowId fun _ => ⟨rfl, rfl⟩
  | beginDetach windowId token =>
    simp only [apply, beginDetach]
    split
    · exact h.pending _
    · exact h
  | finishDetach token => exact h.pending _
  | views app owner => exact h.views app owner
  | completePaneSplit windowId source direction new app owner =>
    exact h.completePaneSplit app hsafe
  | removeTerminalChildPane windowId tabId app owner =>
    -- the pane is closed where it is found, in the window that was named or in any
    refine h.removeTerminalChildPane tabId app fun w key howner => ?_
    subst howner
    cases windowId with
    | none => exact hop
    | some windowId =>
      obtain ⟨hfinds, hwindow⟩ := hop
      have hw : w = windowId := hwindow _ rfl
      rw [hw]
      exact hfinds
  | takePaneTreeForDetach windowId tabId owner => exact h.takePaneTreeForDetach windowId owner
  | takeWorkspaceTabIds tabId owner => exact h.takeWorkspaceTabIds hop
  | registerDetached windowId transfer paneTree =>
    obtain ⟨_, hfree, htree⟩ := hsafe
    exact h.registerDetached hop.1 hfree htree
  | removeDetached windowId owner => exact h.removeDetached windowId owner
  | discardDetached => exact h.discardDetached
  | restoreDetached detached => exact h.restoreDetached hsafe
  | applySnapshot snapshot app => exact h.applySnapshot hsafe

/-! ## Ownership -/

/-- A tab is a leaf of the tree under `key` in a window. -/
def Leaf (s : WindowRouterState) (windowId key tab : Uuid) : Prop :=
  ∃ tree, s.tree? windowId key = some tree ∧ tab ∈ tree.tabIds

/-- A window owns the tabs it lists and shows; the window without a list of its own owns
    the tabs that no other window lists. -/
def Owns (s : WindowRouterState) (windowId tab : Uuid) : Prop :=
  ∃ route, s.route? windowId = some route ∧
    (route.Claims tab ∨ (route.transfer = none ∧ tab ∉ s.detachedIds))

/-- Every terminal is a leaf of at most one tree over all windows, every tree is stored
    under its own name, which is one of its leaves, and no tab is owned by two windows. -/
structure OwnershipInvariant (s : WindowRouterState) : Prop where
  leafUnique : ∀ w key w' key' tab, s.Leaf w key tab → s.Leaf w' key' tab → w = w' ∧ key = key'
  keyed : ∀ w key tree, s.tree? w key = some tree →
    tree.workspaceTabId = key ∧ key ∈ tree.tabIds
  ownerUnique : ∀ w w' tab, s.Owns w tab → s.Owns w' tab → w = w'

/-- A tidy router has the ownership invariant. -/
theorem Tidy.ownership {s : WindowRouterState} (h : s.Tidy) : s.OwnershipInvariant := by
  constructor
  · rintro w key w' key' tab ⟨tree, htree, ht⟩ ⟨tree', htree', ht'⟩
    exact h.leaf_unique htree htree' ht ht'
  · intro w key tree htree
    obtain ⟨route, hr, hlookup⟩ := tree?_eq_some.mp htree
    exact (h.route w route hr).keyed key tree hlookup
  · have hmain : ∀ w w' tab route route', s.route? w = some route → s.route? w' = some route' →
        route.Claims tab → route'.transfer = none → tab ∉ s.detachedIds → w = w' := by
      intro w w' tab route route' hr hr' hclaim hnone hunlisted
      rw [(h.route w' route' hr').main_iff.mp hnone]
      by_contra hw
      exact hunlisted (h.mem_detachedIds hr hw hclaim)
    rintro w w' tab ⟨route, hr, hclaim | ⟨hnone, hunlisted⟩⟩
      ⟨route', hr', hclaim' | ⟨hnone', hunlisted'⟩⟩
    · exact (h.disjoint w route tab hr hclaim w' route' hr' hclaim').symm
    · exact hmain w w' tab route route' hr hr' hclaim hnone' hunlisted'
    · exact (hmain w' w tab route' route hr' hr hclaim' hnone hunlisted).symm
    · rw [(h.route w route hr).main_iff.mp hnone, (h.route w' route' hr').main_iff.mp hnone']

/-- A router all of whose operations were safe has the ownership invariant. -/
theorem reachable_ownership {s : WindowRouterState}
    (h : (routerSystem.restrict OpSafe).Reachable s) : s.OwnershipInvariant := by
  have htidy : s.Tidy := by
    refine h.invariant (fun s hs => ?_) fun s op s' hstep hs => ?_
    · rw [show s = .new from hs]
      exact new_tidy
    · obtain ⟨⟨hop, rfl⟩, hsafe⟩ := hstep
      exact step_tidy hs op hop hsafe
  exact htidy.ownership

/-- A main window that shows tab 1 after the user activated it. -/
theorem activated_ownership : OwnershipInvariant
    ((WindowRouterState.new.apply (.activateTab mainWindowId 1
      { tabIds := [1], terminals := {1} }))) := by
  refine reachable_ownership ⟨_, [_], rfl, .single ⟨⟨?_, rfl⟩, ?_⟩⟩ <;> trivial

/-- A stored workspace whose main window shows tab 1 in two pane trees. -/
private def overlappingSnapshot : WorkspaceSnapshot where
  version := 1
  tabs := [{ id := 1 }, { id := 2 }]
  windows := [{ id := mainWindowId, tabIds := [1, 2], panes :=
    [.leaf 1, .split "columns" 500 (.leaf 2) (.leaf 1)] }]

/-- Validation accepts that workspace, and restoring it shows tab 1 twice. -/
theorem restored_tab_in_two_trees :
    ∃ s, routerSystem.Reachable s ∧ ¬s.OwnershipInvariant := by
  refine ⟨WindowRouterState.new.apply (.applySnapshot overlappingSnapshot { tabIds := [1, 2] }),
    ⟨_, [_], rfl, .single ⟨?_, rfl⟩⟩, fun h => ?_⟩
  · rfl
  · have hkeys := h.leafUnique mainWindowId 1 mainWindowId 2 1
      ⟨.new 1, by decide +kernel, by decide⟩
      ⟨{ workspaceTabId := 2, root := .split .columns (1 / 2) (.leaf 2) (.leaf 1),
         focusedTabId := 2 }, by decide +kernel, by decide⟩
    exact absurd hkeys.2 (by decide)

end WindowRouterState

end AxSsh
