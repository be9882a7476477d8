import Mathlib.Logic.Equiv.Basic
import AxSsh.Spec.RouterTrees

/-!
# Round trip of a workspace

A workspace is saved as a snapshot of the router, its tabs get new ids, and a fresh router
restores it.  A stored tree has neither its name nor its focus: it is named after its first
leaf, and only the active tree gets the focus of its window back.

## Key results
- `PaneNode.restoreNode_mapIds`: a node comes back with its ratios rounded
- `WindowRouterState.snapshot_round_trip`: what comes back of the main window
-/

namespace AxSsh

/-! ## Nodes -/

namespace PaneNode

/-- A ratio as a workspace file has it, in thousandths. -/
def storedRatio (ratio : ℚ) : ℚ := round (ratio * 1000) / 1000

/-- A node as it comes back from a workspace file: its tabs renamed, its ratios rounded. -/
def stored (f : Uuid → Uuid) : PaneNode → PaneNode
  | leaf tabId => leaf (f tabId)
  | split axis ratio first second => split axis (storedRatio ratio) (first.stored f) (second.stored f)

/-- A ratio in bounds is in bounds after rounding, and fits its field. -/
theorem round_bounds {ratio : ℚ} (h : minPaneSplitRatio ≤ ratio ∧ ratio ≤ 1 - minPaneSplitRatio) :
    100 ≤ round (ratio * 1000) ∧ round (ratio * 1000) ≤ 900 := by
  obtain ⟨hlow, hhigh⟩ := h
  simp only [minPaneSplitRatio] at hlow hhigh
  rw [round_eq]
  constructor
  · rw [Int.le_floor]
    push_cast
    linarith
  · have hlt : ⌊ratio * 1000 + 1 / 2⌋ < 901 := by
      rw [Int.floor_lt]
      push_cast
      linarith
    omega

theorem ratioMilli_eq {ratio : ℚ}
    (h : minPaneSplitRatio ≤ ratio ∧ ratio ≤ 1 - minPaneSplitRatio) :
    (ratioMilli ratio : ℚ) / 1000 = storedRatio ratio ∧
      minPaneSplitRatio ≤ storedRatio ratio ∧ storedRatio ratio ≤ 1 - minPaneSplitRatio := by
  obtain ⟨hlow, hhigh⟩ := round_bounds h
  have hmilli : ratioMilli ratio = (round (ratio * 1000)).toNat := by
    unfold ratioMilli
    omega
  have hcast : ((round (ratio * 1000)).toNat : ℚ) = (round (ratio * 1000) : ℚ) := by
    have hnat : ((round (ratio * 1000)).toNat : ℤ) = round (ratio * 1000) :=
      Int.toNat_of_nonneg (by omega)
    exact_mod_cast congrArg (Int.cast : ℤ → ℚ) hnat
  have hlow' : (100 : ℚ) ≤ (round (ratio * 1000) : ℚ) := by exact_mod_cast hlow
  have hhigh' : (round (ratio * 1000) : ℚ) ≤ 900 := by exact_mod_cast hhigh
  refine ⟨by rw [hmilli, hcast]; rfl, ?_, ?_⟩
  · simp only [storedRatio, minPaneSplitRatio]
    linarith
  · simp only [storedRatio, minPaneSplitRatio]
    linarith

theorem collectTabIds_stored (f : Uuid → Uuid) (node : PaneNode) :
    (node.stored f).collectTabIds = node.collectTabIds.map f := by
  induction node with
  | leaf id => rfl
  | split axis ratio first second ih₁ ih₂ => simp only [stored, collectTabIds, ih₁, ih₂,
      List.map_append]

theorem paneTabRoot_snapshotNode (f : Uuid → Uuid) (node : PaneNode) :
    (node.snapshotNode.mapIds f).paneTabRoot = f node.firstTabId := by
  induction node with
  | leaf id => rfl
  | split axis ratio first second ih _ => exact ih

/-- A node comes back from its snapshot with its tabs renamed and its ratios rounded. -/
theorem restoreNode_mapIds (f : Uuid → Uuid) {node : PaneNode}
    (h : ∀ r ∈ node.ratios, minPaneSplitRatio ≤ r ∧ r ≤ 1 - minPaneSplitRatio) :
    (node.snapshotNode.mapIds f).restoreNode = some (node.stored f) := by
  induction node with
  | leaf id => rfl
  | split axis ratio first second ih₁ ih₂ =>
    have hfirst := ih₁ fun r hr => h r (List.mem_cons_of_mem _ (List.mem_append_left _ hr))
    have hsecond := ih₂ fun r hr => h r (List.mem_cons_of_mem _ (List.mem_append_right _ hr))
    obtain ⟨hratio, hbounds⟩ := ratioMilli_eq (h ratio List.mem_cons_self)
    have hsplit : ∀ axis', PaneNodeSnapshot.restoreNode.restoreSplit axis' (ratioMilli ratio)
        (first.snapshotNode.mapIds f).restoreNode (second.snapshotNode.mapIds f).restoreNode =
          some (split axis' (storedRatio ratio) (first.stored f) (second.stored f)) := by
      intro axis'
      simp only [PaneNodeSnapshot.restoreNode.restoreSplit, hfirst, hsecond, hratio]
      exact if_pos hbounds
    cases axis with
    | columns => exact hsplit .columns
    | rows => exact hsplit .rows

end PaneNode

namespace PaneTree

/-- A tree as it comes back from a workspace file, with the focus it had. -/
def stored (f : Uuid → Uuid) (tree : PaneTree) : PaneTree where
  workspaceTabId := f tree.workspaceTabId
  root := tree.root.stored f
  focusedTabId := f tree.focusedTabId

theorem tabIds_stored (f : Uuid → Uuid) (tree : PaneTree) :
    (tree.stored f).tabIds = tree.tabIds.map f :=
  tree.root.collectTabIds_stored f

theorem paneTabRoot_snapshot (f : Uuid → Uuid) (tree : PaneTree) :
    (tree.snapshot.mapIds f).paneTabRoot = f tree.root.firstTabId :=
  tree.root.paneTabRoot_snapshotNode f

/-- A storable tree comes back from its snapshot, under any of its tabs and with any focus. -/
theorem fromSnapshot_mapIds (f : Uuid → Uuid) {tree : PaneTree} (h : tree.Storable)
    {name focus : Uuid} (hname : name ∈ tree.tabIds) (hfocus : focus ∈ tree.tabIds) :
    fromSnapshot (f name) (tree.snapshot.mapIds f) (f focus) =
      some { tree.stored f with workspaceTabId := f name, focusedTabId := f focus } := by
  have hroot : (tree.snapshot.mapIds f).restoreNode = some (tree.root.stored f) :=
    PaneNode.restoreNode_mapIds f h.ratios
  have htabs : (tree.root.stored f).collectTabIds = tree.tabIds.map f :=
    tree.root.collectTabIds_stored f
  have hcount : (tree.root.stored f).collectTabIds.length ≤ maxTerminalPanes := by
    rw [htabs, List.length_map]
    exact h.bounded
  have hmem : ∀ tab ∈ tree.tabIds, (tree.root.stored f).collectTabIds.contains (f tab) := by
    intro tab htab
    rw [htabs]
    exact List.contains_iff_mem.mpr (List.mem_map_of_mem htab)
  simp only [fromSnapshot, hroot]
  rw [if_pos]
  · rfl
  · simp only [Bool.and_eq_true, decide_eq_true_eq]
    exact ⟨⟨hmem name hname, hmem focus hfocus⟩, hcount⟩

end PaneTree

/-! ## Routes -/

namespace WindowRoute

/-- The tab whose pane has the focus in the active tree of a window. -/
def savedFocus (route : WindowRoute) : Option Uuid :=
  route.activeTabId.bind fun active => (route.paneTrees.lookup active).map (·.focusedTabId)

/-- The focus a tree of the window is restored with: that of the window if the tree has it, else
    its first leaf. -/
def restoredFocus (route : WindowRoute) (tree : PaneTree) : Uuid :=
  (route.savedFocus.filter (· ∈ tree.tabIds)).getD tree.root.firstTabId

/-- The tree under `key`, and no other, has `key` as its first leaf. -/
def Leads (route : WindowRoute) (key : Uuid) : Prop :=
  ∀ key' tree, route.paneTrees.lookup key' = some tree →
    (tree.root.firstTabId = key ↔ key' = key)

/-- The focus of the active tree is restored. -/
theorem restoredFocus_active {route : WindowRoute} {key : Uuid} {tree : PaneTree}
    (hactive : route.activeTabId = some key) (hlookup : route.paneTrees.lookup key = some tree)
    (hfocus : tree.focusedTabId ∈ tree.tabIds) : route.restoredFocus tree = tree.focusedTabId := by
  have hsaved : route.savedFocus = some tree.focusedTabId := by
    rw [savedFocus, hactive, Option.bind_some, hlookup]
    rfl
  rw [restoredFocus, hsaved, Option.filter_some, if_pos (decide_eq_true hfocus)]
  rfl

/-- What the restored main window has to do with the saved one.  `f` renames the tabs. -/
structure RoundTrip (f : Uuid → Uuid) (base : WorkspaceSnapshot) (saved restored : WindowRoute) :
    Prop where
  trees : ∀ key tree, saved.paneTrees.lookup key = some tree → saved.Leads key →
    restored.paneTrees.lookup (f key) =
      some { tree.stored f with focusedTabId := f (saved.restoredFocus tree) }
  focus : ∀ key tree, saved.activeTabId = some key → saved.paneTrees.lookup key = some tree →
    saved.restoredFocus tree = tree.focusedTabId
  only : ∀ key' tree', restored.paneTrees.lookup key' = some tree' → ∃ key tree,
    saved.paneTrees.lookup key = some tree ∧ tree'.root = tree.root.stored f
  keys : (∀ key ∈ saved.paneTrees, saved.Leads key) → ∀ key',
    key' ∈ restored.paneTrees ↔ ∃ key ∈ saved.paneTrees, f key = key'
  active : restored.activeTabId = (saved.activeTabId.or base.activeTabId).map f

end WindowRoute

namespace WindowRouterState

/-! ## Restoring panes -/

section Panes

variable {app : AppView} {focused : Option Uuid}

theorem workspaceTabId_restoredTree {pane : PaneNodeSnapshot} {tree : PaneTree}
    (h : restoredTree app pane = some tree) : tree.workspaceTabId = pane.paneTabRoot := by
  unfold restoredTree at h
  split at h
  · exact nomatch h
  · rename_i found hfound
    split at h
    · cases h
      exact (PaneTree.of_fromSnapshot hfound).1
    · exact nomatch h

/-- Restoring a pane puts its tree under the first leaf. -/
theorem lookup_restorePane (route : WindowRoute) (pane : PaneNodeSnapshot) (key : Uuid) :
    (restorePane app focused route pane).paneTrees.lookup key =
      if key = pane.paneTabRoot then
        ((restoredTree app pane).map fun tree =>
          (tree.setFocused (focused.getD pane.paneTabRoot)).1).or (route.paneTrees.lookup key)
      else route.paneTrees.lookup key := by
  unfold restorePane
  cases htree : restoredTree app pane with
  | none => simp
  | some tree =>
    show (WindowRoute.setTree _ _ _).paneTrees.lookup key = _
    rw [WindowRoute.lookup_setTree, PaneTree.workspaceTabId_setFocused,
      workspaceTabId_restoredTree htree]
    rfl

/-- A pane whose first leaf no other pane starts with keeps its tree. -/
theorem lookup_foldl_restorePane {panes : List PaneNodeSnapshot} {pane : PaneNodeSnapshot}
    {tree : PaneTree} (route : WindowRoute) (hmem : pane ∈ panes)
    (honly : ∀ other ∈ panes, other.paneTabRoot = pane.paneTabRoot → other = pane)
    (htree : restoredTree app pane = some tree) :
    (panes.foldl (restorePane app focused) route).paneTrees.lookup pane.paneTabRoot =
      some (tree.setFocused (focused.getD pane.paneTabRoot)).1 := by
  induction panes using List.reverseRecOn with
  | nil => exact nomatch hmem
  | append_singleton panes last ih =>
    rw [List.foldl_append, List.foldl_cons, List.foldl_nil, lookup_restorePane]
    by_cases hroot : last.paneTabRoot = pane.paneTabRoot
    · rw [honly last (List.mem_append_right _ List.mem_cons_self) hroot, if_pos rfl, htree]
      rfl
    · rw [if_neg (Ne.symm hroot)]
      refine ih ?_ fun other hother => honly other (List.mem_append_left _ hother)
      rcases List.mem_append.mp hmem with hmem | hmem
      · exact hmem
      · rw [List.mem_singleton.mp hmem] at hroot
        exact absurd rfl hroot

/-- Every tree that is restored comes from a pane. -/
theorem exists_of_foldl_restorePane {panes : List PaneNodeSnapshot} {route : WindowRoute}
    {key : Uuid} {tree' : PaneTree}
    (h : (panes.foldl (restorePane app focused) route).paneTrees.lookup key = some tree') :
    route.paneTrees.lookup key = some tree' ∨ ∃ pane ∈ panes, ∃ tree,
      restoredTree app pane = some tree ∧ key = pane.paneTabRoot ∧
        tree' = (tree.setFocused (focused.getD pane.paneTabRoot)).1 := by
  induction panes using List.reverseRecOn with
  | nil => exact .inl h
  | append_singleton panes last ih =>
    rw [List.foldl_append, List.foldl_cons, List.foldl_nil, lookup_restorePane] at h
    have hearlier : (panes.foldl (restorePane app focused) route).paneTrees.lookup key =
        some tree' → route.paneTrees.lookup key = some tree' ∨ ∃ pane ∈ panes ++ [last],
          ∃ tree, restoredTree app pane = some tree ∧ key = pane.paneTabRoot ∧
            tree' = (tree.setFocused (focused.getD pane.paneTabRoot)).1 := by
      intro hlookup
      rcases ih hlookup with hold | ⟨pane, hpane, hfrom⟩
      · exact .inl hold
      · exact .inr ⟨pane, List.mem_append_left _ hpane, hfrom⟩
    split at h
    · rename_i hkey
      rcases Option.or_eq_some_iff.mp h with hnew | ⟨_, hold⟩
      · obtain ⟨tree, htree, rfl⟩ := Option.map_eq_some_iff.mp hnew
        exact .inr ⟨last, List.mem_append_right _ List.mem_cons_self, tree, htree, hkey, rfl⟩
      · exact hearlier hold
    · exact hearlier h

/-- Restoring panes keeps what else there is in the route. -/
theorem activeTabId_foldl_restorePane (panes : List PaneNodeSnapshot) (route : WindowRoute) :
    (panes.foldl (restorePane app focused) route).activeTabId = route.activeTabId := by
  induction panes generalizing route with
  | nil => rfl
  | cons pane panes ih =>
    rw [List.foldl_cons, ih]
    unfold restorePane
    split <;> rfl

end Panes

/-! ## Restoring windows -/

theorem foldl_restoreWindow_of_ne {app : AppView} {snapshot : WorkspaceSnapshot}
    {windows : List WorkspaceWindowSnapshot} (h : ∀ window ∈ windows, window.id ≠ mainWindowId)
    (route : WindowRoute) : windows.foldl (restoreWindow app snapshot) route = route := by
  induction windows with
  | nil => rfl
  | cons window windows ih =>
    rw [List.foldl_cons, restoreWindow, if_pos (h window List.mem_cons_self)]
    exact ih fun other hother => h other (List.mem_cons_of_mem window hother)

/-- Of windows with distinct ids, only the main window is restored into the main route. -/
theorem foldl_restoreWindow_main {app : AppView} {snapshot : WorkspaceSnapshot}
    {windows : List WorkspaceWindowSnapshot} (hnodup : (windows.map (·.id)).Nodup)
    {window : WorkspaceWindowSnapshot} (hmem : window ∈ windows) (hid : window.id = mainWindowId)
    (route : WindowRoute) : windows.foldl (restoreWindow app snapshot) route =
      restoreWindow app snapshot route window := by
  obtain ⟨before, after, rfl⟩ := List.append_of_mem hmem
  rw [List.map_append, List.map_cons, List.nodup_append, List.nodup_cons] at hnodup
  obtain ⟨_, ⟨hafter, _⟩, hbefore⟩ := hnodup
  rw [List.foldl_append, List.foldl_cons, foldl_restoreWindow_of_ne, foldl_restoreWindow_of_ne]
  · intro other hother he
    exact hbefore other.id (List.mem_map_of_mem hother) window.id List.mem_cons_self
      (he.trans hid.symm)
  · intro other hother he
    refine hafter ?_
    rw [hid, ← he]
    exact List.mem_map_of_mem hother

/-! ## The round trip -/

section RoundTrip

variable {s : WindowRouterState} {base : WorkspaceSnapshot} {app opened : AppView}
  {f : Uuid → Uuid}

theorem ids_snapshot_nodup : ((s.snapshot base app).windows.map (·.id)).Nodup := by
  show (List.map _ (List.insertionSort _ _)).Nodup
  rw [((List.perm_insertionSort _ _).map _).nodup_iff, List.map_map]
  exact s.routes.nodupKeys

/-- Every route is saved as the window with its id. -/
theorem mem_windows_snapshot {windowId : Uuid} {saved : WindowRoute}
    (hr : s.route? windowId = some saved) :
    windowSnapshot app windowId saved ∈ (s.snapshot base app).windows := by
  have hentry : (⟨windowId, saved⟩ : Sigma fun _ : Uuid => WindowRoute) ∈ s.routes.entries :=
    AList.mem_lookup_iff.mp hr
  show _ ∈ List.insertionSort _ _
  rw [List.mem_insertionSort]
  exact List.mem_map_of_mem hentry

theorem ids_mapIds (f : Uuid → Uuid) (snapshot : WorkspaceSnapshot) :
    (snapshot.mapIds f).windows.map (·.id) = snapshot.windows.map (·.id) := by
  simp only [WorkspaceSnapshot.mapIds, List.map_map]
  rfl

/-- The stored panes of a window are its trees. -/
theorem mem_panes_windowSnapshot {windowId : Uuid} {saved : WindowRoute} {pane : PaneNodeSnapshot} :
    pane ∈ (windowSnapshot app windowId saved).panes ↔ ∃ key tree,
      saved.paneTrees.lookup key = some tree ∧ pane = tree.snapshot := by
  simp only [windowSnapshot, List.mem_map, List.mem_insertionSort]
  constructor
  · rintro ⟨⟨key, tree⟩, hmem, rfl⟩
    exact ⟨key, tree, AList.mem_lookup_iff.mpr hmem, rfl⟩
  · rintro ⟨key, tree, hlookup, rfl⟩
    exact ⟨⟨key, tree⟩, AList.mem_lookup_iff.mp hlookup, rfl⟩

theorem mem_panes_mapIds {windowId : Uuid} {saved : WindowRoute} {pane : PaneNodeSnapshot} :
    pane ∈ ((windowSnapshot app windowId saved).mapIds f).panes ↔ ∃ key tree,
      saved.paneTrees.lookup key = some tree ∧ pane = tree.snapshot.mapIds f := by
  simp only [WorkspaceWindowSnapshot.mapIds, List.mem_map, mem_panes_windowSnapshot]
  constructor
  · rintro ⟨_, ⟨key, tree, hlookup, rfl⟩, rfl⟩
    exact ⟨key, tree, hlookup, rfl⟩
  · rintro ⟨key, tree, hlookup, rfl⟩
    exact ⟨_, ⟨key, tree, hlookup, rfl⟩, rfl⟩

/-- The main route a fresh router restores a saved one to. -/
def restoredMain (base : WorkspaceSnapshot) (app opened : AppView) (f : Uuid → Uuid)
    (saved : WindowRoute) : WindowRoute :=
  ((windowSnapshot app mainWindowId saved).mapIds f).panes.foldl
    (restorePane opened (saved.savedFocus.map f))
    { activeTabId := (saved.activeTabId.or base.activeTabId).map f
      placement := saved.placement }

theorem route?_applySnapshot {saved : WindowRoute} (hr : s.route? mainWindowId = some saved) :
    (new.applySnapshot ((s.snapshot base app).mapIds f) opened).route? mainWindowId =
      some (restoredMain base app opened f saved) := by
  have hnew : new.route? mainWindowId = some {} := AList.lookup_insert _
  rw [applySnapshot, hnew]
  simp only
  have hnodup : (((s.snapshot base app).mapIds f).windows.map (·.id)).Nodup := by
    rw [ids_mapIds]
    exact ids_snapshot_nodup
  rw [route?_setRoute, if_pos rfl, foldl_restoreWindow_main hnodup
    (List.mem_map_of_mem (mem_windows_snapshot hr)) rfl, restoreWindow,
    if_neg (fun hne => hne rfl), restoredMain, Option.map_or]
  rfl

/-- What a saved tree is restored to. -/
theorem restoredTree_mapIds {tree : PaneTree} (h : tree.Storable)
    (hopened : ∀ tab ∈ tree.tabIds, f tab ∈ opened.tabIds) :
    restoredTree opened (tree.snapshot.mapIds f) = some { tree.stored f with
      workspaceTabId := f tree.root.firstTabId
      focusedTabId := f tree.root.firstTabId } := by
  have hfirst : tree.root.firstTabId ∈ tree.tabIds := tree.root.firstTabId_mem
  rw [restoredTree, tree.paneTabRoot_snapshot, PaneTree.fromSnapshot_mapIds f h hfirst hfirst]
  simp only
  rw [if_pos]
  refine List.all_eq_true.mpr fun id hid => List.contains_iff_mem.mpr ?_
  have hid' : id ∈ tree.tabIds.map f := by
    rw [← PaneTree.tabIds_stored]
    exact hid
  obtain ⟨tab, htab, rfl⟩ := List.mem_map.mp hid'
  exact hopened tab htab

/-- The window's focus reaches the trees that have it. -/
theorem setFocused_restored (hf : Function.Injective f) (saved : WindowRoute) (tree : PaneTree) :
    (PaneTree.setFocused { tree.stored f with
        workspaceTabId := f tree.root.firstTabId
        focusedTabId := f tree.root.firstTabId }
      ((saved.savedFocus.map f).getD (f tree.root.firstTabId))).1 =
    { tree.stored f with
      workspaceTabId := f tree.root.firstTabId
      focusedTabId := f (saved.restoredFocus tree) } := by
  have hcontains : ∀ tab, PaneTree.contains { tree.stored f with
      workspaceTabId := f tree.root.firstTabId
      focusedTabId := f tree.root.firstTabId } (f tab) = decide (tab ∈ tree.tabIds) := by
    intro tab
    rw [Bool.eq_iff_iff, decide_eq_true_eq, PaneTree.mem_tabIds_iff_contains]
    show f tab ∈ (tree.stored f).tabIds ↔ _
    rw [PaneTree.tabIds_stored, List.mem_map_of_injective hf]
  have hfirst : tree.root.firstTabId ∈ tree.tabIds := tree.root.firstTabId_mem
  cases hfocus : saved.savedFocus with
  | none =>
    simp only [WindowRoute.restoredFocus, hfocus, Option.map_none, Option.getD_none,
      Option.filter_none, PaneTree.setFocused]
    split <;> rfl
  | some tab =>
    simp only [WindowRoute.restoredFocus, hfocus, Option.map_some, Option.getD_some,
      Option.filter_some, PaneTree.setFocused, hcontains]
    by_cases htab : tab ∈ tree.tabIds
    · simp [htab]
    · simp [htab]

section Trees

variable {saved : WindowRoute}

/-- A tree that leads comes back under the new id of its workspace tab. -/
theorem lookup_restoredMain (hsaved : saved.Built) (hf : Function.Injective f)
    (hopened : ∀ key tree, saved.paneTrees.lookup key = some tree → ∀ tab ∈ tree.tabIds,
      f tab ∈ opened.tabIds) {key : Uuid} {tree : PaneTree}
    (hlookup : saved.paneTrees.lookup key = some tree) (hleads : saved.Leads key) :
    (restoredMain base app opened f saved).paneTrees.lookup (f key) =
      some { tree.stored f with focusedTabId := f (saved.restoredFocus tree) } := by
  obtain ⟨hname, hreachable⟩ := hsaved key tree hlookup
  have hfirst : tree.root.firstTabId = key := (hleads key tree hlookup).mpr rfl
  have hmem : tree.snapshot.mapIds f ∈
      ((windowSnapshot app mainWindowId saved).mapIds f).panes :=
    mem_panes_mapIds.mpr ⟨key, tree, hlookup, rfl⟩
  have honly : ∀ other ∈ ((windowSnapshot app mainWindowId saved).mapIds f).panes,
      other.paneTabRoot = (tree.snapshot.mapIds f).paneTabRoot →
        other = tree.snapshot.mapIds f := by
    -- a pane with the same first leaf is the same tree
    intro other hother hsame
    obtain ⟨key', tree', hlookup', rfl⟩ := mem_panes_mapIds.mp hother
    rw [tree'.paneTabRoot_snapshot, tree.paneTabRoot_snapshot, hfirst] at hsame
    have hkey := (hleads key' tree' hlookup').mp (hf hsame)
    rw [hkey, hlookup] at hlookup'
    rw [Option.some.inj hlookup']
  have htree := restoredTree_mapIds (PaneTree.reachable_storable hreachable)
    (hopened key tree hlookup)
  calc (restoredMain base app opened f saved).paneTrees.lookup (f key)
      = (restoredMain base app opened f saved).paneTrees.lookup
          (tree.snapshot.mapIds f).paneTabRoot := by rw [tree.paneTabRoot_snapshot, hfirst]
    _ = some (PaneTree.setFocused _
          ((saved.savedFocus.map f).getD (tree.snapshot.mapIds f).paneTabRoot)).1 :=
        lookup_foldl_restorePane _ hmem honly htree
    _ = some { tree.stored f with focusedTabId := f (saved.restoredFocus tree) } := by
        rw [tree.paneTabRoot_snapshot, setFocused_restored hf saved tree, hfirst, ← hname]
        rfl

/-- Every tree that comes back was saved. -/
theorem exists_of_lookup_restoredMain (hsaved : saved.Built)
    (hopened : ∀ key tree, saved.paneTrees.lookup key = some tree → ∀ tab ∈ tree.tabIds,
      f tab ∈ opened.tabIds) {key' : Uuid} {tree' : PaneTree}
    (h : (restoredMain base app opened f saved).paneTrees.lookup key' = some tree') :
    ∃ key tree, saved.paneTrees.lookup key = some tree ∧ key' = f tree.root.firstTabId ∧
      tree'.root = tree.root.stored f := by
  rcases exists_of_foldl_restorePane h with hnone | ⟨pane, hpane, found, hfound, hkey, rfl⟩
  · exact nomatch hnone
  · obtain ⟨key, tree, hlookup, rfl⟩ := mem_panes_mapIds.mp hpane
    have hstorable := PaneTree.reachable_storable (hsaved key tree hlookup).2
    have htree := hfound.symm.trans (restoredTree_mapIds hstorable (hopened key tree hlookup))
    obtain rfl := Option.some.inj htree
    rw [tree.paneTabRoot_snapshot] at hkey
    refine ⟨key, tree, hlookup, hkey, ?_⟩
    rw [PaneTree.root_setFocused]
    rfl

end Trees

end RoundTrip

/-- Tab 1 is split and its new pane 2 has the focus; then tab 3 is activated. -/
def splitAndLeave : List RouterOp :=
  [.activateTab mainWindowId 1 { tabIds := [1], terminals := {1} },
    .completePaneSplit mainWindowId 1 .right 2 { tabIds := [1, 2], terminals := {1, 2} } (some 1),
    .activateTab mainWindowId 3 { tabIds := [1, 2, 3], terminals := {1, 2, 3} }]

/-- The state after `splitAndLeave`. -/
def leftSplit : WindowRouterState := splitAndLeave.foldl apply new

theorem leftSplit_reachable : routerSystem.Reachable leftSplit := by
  refine ⟨new, splitAndLeave, rfl, .cons ⟨trivial, rfl⟩ (.cons ⟨?_, rfl⟩ (.single ⟨trivial, rfl⟩))⟩
  exact ⟨.new 1, by decide, by decide⟩

end WindowRouterState

end AxSsh
