import AxSsh.Native.PaneTree

/-!
# Leaves of a pane tree

What each operation of a pane tree does to the tabs it shows.  Focusing shows the same
tabs, a split shows one more, a removal one less, and a restored tree shows what its
snapshot says.

## Key results
- `PaneNode.mem_replaceLeafWithSplit`, `PaneNode.collectTabIds_removeLeaf`
- `PaneTree.of_remove`, `PaneTree.of_fromSnapshot`: the same for whole trees
-/

namespace AxSsh

namespace PaneNode

/-- Splitting a leaf shows one more tab. -/
theorem mem_replaceLeafWithSplit {source newTabId : Uuid} {direction : PaneDirection}
    {node node' : PaneNode}
    (h : node.replaceLeafWithSplit source direction newTabId = some node') (tab : Uuid) :
    tab ∈ node'.collectTabIds ↔ tab = newTabId ∨ tab ∈ node.collectTabIds := by
  induction node generalizing node' with
  | leaf id =>
    simp only [replaceLeafWithSplit] at h
    split at h
    · split at h
      · cases h
        simp [collectTabIds]
      · cases h
        simp [collectTabIds, or_comm]
    · cases h
  | split axis ratio first second ih₁ ih₂ =>
    simp only [replaceLeafWithSplit] at h
    split at h
    · rename_i first' h₁
      cases h
      simp only [collectTabIds, List.mem_append, ih₁ h₁]
      exact or_assoc
    · split at h
      · rename_i second' h₂
        cases h
        simp only [collectTabIds, List.mem_append, ih₂ h₂]
        exact or_left_comm
      · cases h

/-- What is left of a node after a removal shows the other tabs, in their order. -/
theorem collectTabIds_removeLeaf (tabId : Uuid) (node : PaneNode) :
    ((node.removeLeaf tabId).map collectTabIds).getD [] =
      node.collectTabIds.filter (· ≠ tabId) := by
  induction node with
  | leaf id =>
    by_cases h : id = tabId <;> simp [removeLeaf, collectTabIds, h]
  | split axis ratio first second ih₁ ih₂ =>
    simp only [removeLeaf, collectTabIds, List.filter_append]
    rw [← ih₁, ← ih₂]
    cases first.removeLeaf tabId <;> cases second.removeLeaf tabId <;> simp [collectTabIds]

end PaneNode

namespace PaneNodeSnapshot

/-- A restored node shows the tabs of its snapshot. -/
theorem collectTabIds_restoreNode {snapshot : PaneNodeSnapshot} {node : PaneNode}
    (h : snapshot.restoreNode = some node) : node.collectTabIds = snapshot.paneIds := by
  induction snapshot generalizing node with
  | leaf id =>
    cases h
    rfl
  | split axis ratio first second ih₁ ih₂ =>
    have hsplit : ∀ axis', restoreNode.restoreSplit axis' ratio first.restoreNode
        second.restoreNode = some node → node.collectTabIds = first.paneIds ++ second.paneIds := by
      intro axis' h
      simp only [restoreNode.restoreSplit] at h
      split at h
      · split at h
        · rename_i _ first' second' h₁ h₂
          cases h
          rw [PaneNode.collectTabIds, ih₁ h₁, ih₂ h₂]
        · cases h
      · cases h
    simp only [restoreNode] at h
    split at h
    · exact hsplit _ h
    · exact hsplit _ h
    · cases h

end PaneNodeSnapshot

namespace PaneTree

theorem mem_tabIds_iff_contains {tree : PaneTree} {tabId : Uuid} :
    tree.contains tabId ↔ tabId ∈ tree.tabIds := List.contains_iff_mem

@[simp] theorem tabIds_new (tabId : Uuid) : (PaneTree.new tabId).tabIds = [tabId] := rfl

@[simp] theorem root_setFocused (tree : PaneTree) (tabId : Uuid) :
    (tree.setFocused tabId).1.root = tree.root := by
  unfold setFocused
  split <;> rfl

@[simp] theorem tabIds_setFocused (tree : PaneTree) (tabId : Uuid) :
    (tree.setFocused tabId).1.tabIds = tree.tabIds := by
  simp [tabIds]

@[simp] theorem workspaceTabId_setFocused (tree : PaneTree) (tabId : Uuid) :
    (tree.setFocused tabId).1.workspaceTabId = tree.workspaceTabId := by
  unfold setFocused
  split <;> rfl

@[simp] theorem workspaceTabId_splitFocused (tree : PaneTree) (direction : PaneDirection)
    (newTabId : Uuid) :
    (tree.splitFocused direction newTabId).1.workspaceTabId = tree.workspaceTabId := by
  unfold splitFocused
  split
  · rfl
  · split <;> rfl

/-- A split that succeeds shows one more tab, which was not shown. -/
theorem mem_tabIds_splitFocused {tree : PaneTree} {direction : PaneDirection} {newTabId : Uuid}
    (h : (tree.splitFocused direction newTabId).2 = true) (tab : Uuid) :
    tab ∈ (tree.splitFocused direction newTabId).1.tabIds ↔
      tab = newTabId ∨ tab ∈ tree.tabIds := by
  unfold splitFocused at h ⊢
  split at h
  · cases h
  · split at h
    · rename_i hguard _ root hroot
      rw [if_neg hguard]
      exact PaneNode.mem_replaceLeafWithSplit hroot tab
    · cases h

/-- A removal keeps the name of the tree and all its other tabs. -/
theorem of_remove {tree tree' : PaneTree} {tabId focused : Uuid}
    (h : tree.remove tabId = some (tree', focused)) :
    tree'.workspaceTabId = tree.workspaceTabId ∧
      tree'.tabIds = tree.tabIds.filter (· ≠ tabId) := by
  unfold remove at h
  split at h
  · rename_i hmem
    cases h
    refine ⟨rfl, (List.filter_eq_self.mpr fun t ht => ?_).symm⟩
    have hne : t ≠ tabId := by
      rintro rfl
      rw [mem_tabIds_iff_contains.mpr ht] at hmem
      cases hmem
    exact decide_eq_true hne
  · split at h
    · cases h
    · rename_i root hroot
      cases h
      refine ⟨rfl, ?_⟩
      have hleaf := PaneNode.collectTabIds_removeLeaf tabId tree.root
      rw [hroot] at hleaf
      exact hleaf

/-- A restored tree has the given name and focus, and shows the tabs of its snapshot, its
    name and its focus among them. -/
theorem of_fromSnapshot {workspaceTabId focusedTabId : Uuid} {snapshot : PaneNodeSnapshot}
    {tree : PaneTree} (h : fromSnapshot workspaceTabId snapshot focusedTabId = some tree) :
    tree.workspaceTabId = workspaceTabId ∧ tree.tabIds = snapshot.paneIds ∧
      workspaceTabId ∈ tree.tabIds ∧ focusedTabId ∈ tree.tabIds ∧
      tree.paneCount ≤ maxTerminalPanes := by
  unfold fromSnapshot at h
  split at h
  · cases h
  · rename_i root hroot
    dsimp only at h
    split at h
    · rename_i hguard
      cases h
      rw [Bool.and_eq_true, Bool.and_eq_true] at hguard
      obtain ⟨⟨hname, hfocus⟩, hcount⟩ := hguard
      exact ⟨rfl, PaneNodeSnapshot.collectTabIds_restoreNode hroot,
        mem_tabIds_iff_contains.mp hname, mem_tabIds_iff_contains.mp hfocus,
        of_decide_eq_true hcount⟩
    · cases h

end PaneTree

end AxSsh
