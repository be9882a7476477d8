import AxSsh.Spec.PaneLeaves

/-!
# Invariant of pane trees

Every operation rewrites a pane tree recursively.  `PaneTree.Sound` is what all of them
keep: distinct leaves, at most `maxTerminalPanes` of them, a focus and a name among them,
and split ratios away from the borders.

The ratios of a node are read off in preorder by `PaneNode.ratios`; together with the
`skeleton`, which forgets them, they determine the node.  That is how `resizeSplit` is
specified: it keeps the skeleton and writes one entry of the list.

## Key results
- `PaneNode.resizeSplit_hit`, `PaneNode.resizeSplit_miss`: the two outcomes of a resize
- `PaneTree.Sound.apply`: every operation but the removal of the name keeps the invariant
- `PaneTree.reachable_sound`: the invariant and what each operation does, in all trees
-/

namespace AxSsh

namespace PaneNode

/-! ## Ratios and skeletons -/

/-- The split ratios of a node, in preorder. -/
def ratios : PaneNode → List ℚ
  | leaf _ => []
  | split _ ratio first second => ratio :: (first.ratios ++ second.ratios)

/-- A node with its ratios forgotten. -/
def skeleton : PaneNode → PaneNode
  | leaf tabId => leaf tabId
  | split axis _ first second => split axis 0 first.skeleton second.skeleton

/-- Nodes of one skeleton show the same leaves. -/
theorem collectTabIds_of_skeleton {a b : PaneNode} (h : a.skeleton = b.skeleton) :
    a.collectTabIds = b.collectTabIds := by
  induction a generalizing b with
  | leaf id =>
    cases b with
    | leaf => cases h; rfl
    | split => exact nomatch h
  | split axis ratio first second ih₁ ih₂ =>
    cases b with
    | leaf => exact nomatch h
    | split =>
      simp only [skeleton, split.injEq] at h
      simp only [collectTabIds, ih₁ h.2.2.1, ih₂ h.2.2.2]

/-! ## Resizing -/

/-- A resize of a divider outside the node changes nothing and counts its splits. -/
theorem resizeSplit_miss {targetId : Int} (candidate : ℚ) {node : PaneNode} {next : Nat}
    (h : targetId < next ∨ next + node.ratios.length ≤ targetId) :
    node.resizeSplit targetId candidate next = (node, none, next + node.ratios.length) := by
  induction node generalizing next with
  | leaf id => rfl
  | split axis ratio first second ih₁ ih₂ =>
    simp only [ratios, List.length_cons, List.length_append] at h ⊢
    have hne : (next : Int) ≠ targetId := by omega
    simp only [resizeSplit]
    rw [if_neg hne, ih₁ (by omega)]
    simp only
    rw [ih₂ (by omega)]
    simp only [Prod.mk.injEq, true_and]
    omega

/-- A resize of a divider of the node writes its entry in the list of ratios. -/
theorem resizeSplit_hit {targetId : Int} (candidate : ℚ) {node : PaneNode} {next index : Nat}
    (hid : targetId = next + index) (hlt : index < node.ratios.length) :
    ∃ node' next', node.resizeSplit targetId candidate next =
        (node', some (decide (f32Epsilon < |node.ratios[index] - candidate|)), next') ∧
      node'.skeleton = node.skeleton ∧ node'.ratios = node.ratios.set index candidate := by
  induction node generalizing next index with
  | leaf id => exact absurd hlt (Nat.not_lt_zero _)
  | split axis ratio first second ih₁ ih₂ =>
    cases index with
    -- dividers are numbered in preorder: this one, then those of the first half, then those of the
    -- second
    | zero =>
      have heq : (next : Int) = targetId := by omega
      simp only [resizeSplit]
      rw [if_pos heq]
      exact ⟨_, _, rfl, rfl, rfl⟩
    | succ index =>
      have hne : (next : Int) ≠ targetId := by omega
      simp only [ratios, List.length_cons, List.length_append] at hlt
      simp only [resizeSplit]
      rw [if_neg hne]
      by_cases hfirst : index < first.ratios.length
      · have hid' : targetId = (next + 1 : Nat) + index := by omega
        obtain ⟨first', next', he, hs, hr⟩ := ih₁ hid' hfirst
        rw [he]
        refine ⟨split axis ratio first' second, next', ?_, ?_, ?_⟩
        · simp only [ratios, List.getElem_cons_succ, List.getElem_append_left hfirst]
        · simp only [skeleton, hs]
        · simp only [ratios, List.set_cons_succ, hr, List.set_append_left _ _ hfirst]
      · rw [resizeSplit_miss candidate (by omega)]
        have hge : first.ratios.length ≤ index := by omega
        have hid' : targetId = (next + 1 + first.ratios.length : Nat) +
            (index - first.ratios.length : Nat) := by omega
        obtain ⟨second', next', he, hs, hr⟩ := ih₂ hid' (by omega)
        simp only
        rw [he]
        refine ⟨split axis ratio first second', next', ?_, ?_, ?_⟩
        · simp only [ratios, List.getElem_cons_succ, List.getElem_append_right hge]
        · simp only [skeleton, hs]
        · simp only [ratios, List.set_cons_succ, hr, List.set_append_right _ _ hge]

/-! ## Splits, removals and placements -/

/-- A split puts the new leaf next to the leaf it splits. -/
theorem collectTabIds_replaceLeafWithSplit {source newTabId : Uuid} {direction : PaneDirection}
    {node node' : PaneNode}
    (h : node.replaceLeafWithSplit source direction newTabId = some node') :
    ∃ left right, node.collectTabIds = left ++ source :: right ∧
      node'.collectTabIds = left ++
        (if direction.isBefore then [newTabId, source] else [source, newTabId]) ++ right := by
  induction node generalizing node' with
  | leaf id =>
    simp only [replaceLeafWithSplit] at h
    split at h
    · rename_i heq
      subst heq
      refine ⟨[], [], rfl, ?_⟩
      split at h <;> rename_i hdir <;> cases h <;> simp [collectTabIds, hdir]
    · cases h
  | split axis ratio first second ih₁ ih₂ =>
    simp only [replaceLeafWithSplit] at h
    -- the source is in the first half, or else in the second
    split at h
    · rename_i first' h₁
      cases h
      obtain ⟨left, right, he, he'⟩ := ih₁ h₁
      refine ⟨left, right ++ second.collectTabIds, ?_, ?_⟩
      · simp only [collectTabIds, he, List.append_assoc, List.cons_append]
      · simp only [collectTabIds, he', List.append_assoc]
    · split at h
      · rename_i second' h₂
        cases h
        obtain ⟨left, right, he, he'⟩ := ih₂ h₂
        refine ⟨first.collectTabIds ++ left, right, ?_, ?_⟩
        · simp only [collectTabIds, he, List.append_assoc]
        · simp only [collectTabIds, he', List.append_assoc]
      · cases h

/-- A split adds one ratio, the default one. -/
theorem mem_ratios_replaceLeafWithSplit {source newTabId : Uuid} {direction : PaneDirection}
    {node node' : PaneNode}
    (h : node.replaceLeafWithSplit source direction newTabId = some node') {r : ℚ}
    (hr : r ∈ node'.ratios) : r ∈ node.ratios ∨ r = defaultPaneSplitRatio := by
  induction node generalizing node' with
  | leaf id =>
    simp only [replaceLeafWithSplit] at h
    split at h
    · split at h <;> cases h <;> simp only [ratios, List.append_nil, List.mem_singleton] at hr <;>
        exact .inr hr
    · cases h
  | split axis ratio first second ih₁ ih₂ =>
    simp only [replaceLeafWithSplit] at h
    split at h
    · rename_i first' h₁
      cases h
      simp only [ratios, List.mem_cons, List.mem_append] at hr ⊢
      have := @ih₁ first' h₁
      grind
    · split at h
      · rename_i second' h₂
        cases h
        simp only [ratios, List.mem_cons, List.mem_append] at hr ⊢
        have := @ih₂ second' h₂
        grind
      · cases h

/-- A removal adds no ratio. -/
theorem mem_ratios_removeLeaf {tabId : Uuid} {node node' : PaneNode}
    (h : node.removeLeaf tabId = some node') {r : ℚ} (hr : r ∈ node'.ratios) :
    r ∈ node.ratios := by
  induction node generalizing node' with
  | leaf id =>
    simp only [removeLeaf] at h
    split at h
    · cases h
      exact hr
    · cases h
  | split axis ratio first second ih₁ ih₂ =>
    simp only [ratios, List.mem_cons, List.mem_append]
    simp only [removeLeaf] at h
    split at h
    · rename_i first' second' h₁ h₂
      cases h
      simp only [ratios, List.mem_cons, List.mem_append] at hr
      have := @ih₁ first' h₁
      have := @ih₂ second' h₂
      grind
    · rename_i remaining h₁ _
      cases h
      exact .inr (.inl (ih₁ h₁ hr))
    · rename_i remaining _ h₂
      cases h
      exact .inr (.inr (ih₂ h₂ hr))
    · cases h

theorem firstTabId_mem (node : PaneNode) : node.firstTabId ∈ node.collectTabIds := by
  induction node with
  | leaf id => simp [firstTabId, collectTabIds]
  | split axis ratio first second ih₁ _ =>
    simp only [firstTabId, collectTabIds, List.mem_append]
    exact .inl ih₁

/-- A layout places each leaf once, in order. -/
theorem tabId_collectLayout (focused : Uuid) (node : PaneNode) (rect : PaneRect) (next : Nat) :
    (node.collectLayout focused rect next).1.map (·.tabId) = node.collectTabIds := by
  induction node generalizing rect next with
  | leaf id => rfl
  | split axis ratio first second ih₁ ih₂ =>
    simp only [collectLayout, collectTabIds, List.map_append, ih₁, ih₂]

end PaneNode

namespace PaneTree

/-- Every divider stays away from the borders of its split. -/
def RatiosBounded (tree : PaneTree) : Prop :=
  ∀ r ∈ tree.root.ratios, minPaneSplitRatio ≤ r ∧ r ≤ 1 - minPaneSplitRatio

/-- What every operation keeps of a pane tree. -/
structure Sound (tree : PaneTree) : Prop where
  nodup : tree.tabIds.Nodup
  bounded : tree.paneCount ≤ maxTerminalPanes
  focused : tree.focusedTabId ∈ tree.tabIds
  workspace : tree.workspaceTabId ∈ tree.tabIds
  ratios : tree.RatiosBounded

/-- `tree'` is `tree` with the new leaf right before or right after the focused one. -/
def InsertsAtFocus (tree : PaneTree) (direction : PaneDirection) (newTabId : Uuid)
    (tree' : PaneTree) : Prop :=
  ∃ left right, tree.tabIds = left ++ tree.focusedTabId :: right ∧
    tree'.tabIds = left ++ (if direction.isBefore then [newTabId, tree.focusedTabId]
      else [tree.focusedTabId, newTabId]) ++ right

/-- `tree'` is `tree` with the ratio of one split replaced by `ratio`. -/
def SetsRatio (tree : PaneTree) (index : Nat) (ratio : ℚ) (tree' : PaneTree) : Prop :=
  tree'.workspaceTabId = tree.workspaceTabId ∧ tree'.focusedTabId = tree.focusedTabId ∧
    tree'.root.skeleton = tree.root.skeleton ∧
    tree'.root.ratios = tree.root.ratios.set index ratio

theorem clampRatio_bounds (ratio : ℚ) :
    minPaneSplitRatio ≤ clampRatio ratio ∧ clampRatio ratio ≤ 1 - minPaneSplitRatio := by
  constructor
  · exact le_max_left _ _
  · exact max_le (by norm_num [minPaneSplitRatio]) (min_le_right _ _)

/-- A resize does nothing, or it sets the ratio of one split. -/
theorem resizeSplit_cases (tree : PaneTree) (dividerId : Int) (ratio : Option ℚ) :
    (tree.resizeSplit dividerId ratio = (tree, false) ∧
      (ratio = none ∨ dividerId < 0 ∨ tree.root.ratios.length ≤ dividerId)) ∨
    ∃ (index : Nat) (r : ℚ) (hlt : index < tree.root.ratios.length) (tree' : PaneTree),
      dividerId = index ∧ ratio = some r ∧ tree.SetsRatio index (clampRatio r) tree' ∧
      tree.resizeSplit dividerId ratio =
        (tree', decide (f32Epsilon < |tree.root.ratios[index] - clampRatio r|)) := by
  cases ratio with
  | none => exact .inl ⟨rfl, .inl rfl⟩
  | some r =>
    simp only [resizeSplit]
    by_cases hneg : dividerId < 0
    · rw [if_pos hneg]
      exact .inl ⟨rfl, .inr (.inl hneg)⟩
    · rw [if_neg hneg]
      obtain ⟨index, rfl⟩ := Int.eq_ofNat_of_zero_le (not_lt.mp hneg)
      by_cases hlt : index < tree.root.ratios.length
      · have hid : (index : Int) = (0 : Nat) + index := by omega
        obtain ⟨root, next, he, hs, hr⟩ := PaneNode.resizeSplit_hit (clampRatio r) hid hlt
        rw [he]
        exact .inr ⟨index, r, hlt, { tree with root }, rfl, rfl, ⟨rfl, rfl, hs, hr⟩, rfl⟩
      · rw [PaneNode.resizeSplit_miss (clampRatio r) (by omega)]
        exact .inl ⟨rfl, .inr (.inr (by omega))⟩

/-- A focus move leads to another leaf. -/
theorem mem_of_neighbour {tree : PaneTree} {direction : PaneDirection} {next : PanePlacement}
    (h : tree.neighbour direction = some next) : next.tabId ∈ tree.tabIds := by
  unfold neighbour at h
  split at h
  · exact nomatch h
  · obtain ⟨⟨placement, distance⟩, hmin, rfl⟩ := Option.map_eq_some_iff.mp h
    have hmem := List.argmin_mem hmin
    obtain ⟨_, hplaced, hdist⟩ := List.mem_filterMap.mp hmem
    obtain ⟨_, _, he⟩ := Option.map_eq_some_iff.mp hdist
    cases he
    have hpanes : placement ∈ tree.placements := (List.mem_filter.mp hplaced).1
    rw [tabIds, ← PaneNode.tabId_collectLayout tree.focusedTabId tree.root .unit 0]
    exact List.mem_map_of_mem hpanes

/-! ## The invariant -/

theorem new_sound (tabId : Uuid) : (PaneTree.new tabId).Sound where
  nodup := List.nodup_singleton tabId
  bounded := by
    show 1 ≤ 8
    omega
  focused := List.mem_singleton_self tabId
  workspace := List.mem_singleton_self tabId
  ratios r hr := nomatch hr

/-- A tree with the same nodes is as sound under another focus. -/
theorem Sound.focus {tree : PaneTree} (h : tree.Sound) {tabId : Uuid} (hmem : tabId ∈ tree.tabIds) :
    Sound { tree with focusedTabId := tabId } :=
  ⟨h.nodup, h.bounded, hmem, h.workspace, h.ratios⟩

theorem Sound.setFocused {tree : PaneTree} (h : tree.Sound) (tabId : Uuid) :
    (tree.setFocused tabId).1.Sound := by
  unfold PaneTree.setFocused
  by_cases hmem : tree.contains tabId
  · simp only [hmem, Bool.not_true, Bool.false_eq_true, if_false]
    exact h.focus (mem_tabIds_iff_contains.mp hmem)
  · simp only [hmem, Bool.not_false, if_true]
    exact h

/-- What a split that succeeds consists of. -/
theorem of_splitFocused {tree tree' : PaneTree} {direction : PaneDirection} {newTabId : Uuid}
    (h : tree.splitFocused direction newTabId = (tree', true)) :
    tree.paneCount < maxTerminalPanes ∧ newTabId ∉ tree.tabIds ∧
      ∃ root, tree.root.replaceLeafWithSplit tree.focusedTabId direction newTabId = some root ∧
        tree' = { tree with root, focusedTabId := newTabId } := by
  unfold splitFocused at h
  split at h
  · exact nomatch h
  · rename_i hguard
    simp only [Bool.or_eq_true, decide_eq_true_eq, not_or, not_le] at hguard
    split at h
    · rename_i root hroot
      cases h
      exact ⟨hguard.1, fun hmem => hguard.2 (mem_tabIds_iff_contains.mpr hmem), root, hroot, rfl⟩
    · exact nomatch h

/-- A split that succeeds inserts the new leaf next to the focused one. -/
theorem insertsAtFocus_of_splitFocused {tree tree' : PaneTree} {direction : PaneDirection}
    {newTabId : Uuid} (h : tree.splitFocused direction newTabId = (tree', true)) :
    tree.InsertsAtFocus direction newTabId tree' := by
  obtain ⟨_, _, root, hroot, rfl⟩ := of_splitFocused h
  exact PaneNode.collectTabIds_replaceLeafWithSplit hroot

theorem RatiosBounded.splitFocused {tree tree' : PaneTree} (h : tree.RatiosBounded)
    {direction : PaneDirection} {newTabId : Uuid}
    (hsplit : tree.splitFocused direction newTabId = (tree', true)) : tree'.RatiosBounded := by
  obtain ⟨_, _, root, hroot, rfl⟩ := of_splitFocused hsplit
  intro r hr
  rcases PaneNode.mem_ratios_replaceLeafWithSplit hroot hr with hold | rfl
  · exact h r hold
  · norm_num [minPaneSplitRatio, defaultPaneSplitRatio]

theorem Sound.splitFocused {tree tree' : PaneTree} (h : tree.Sound) {direction : PaneDirection}
    {newTabId : Uuid} (hsplit : tree.splitFocused direction newTabId = (tree', true)) :
    tree'.Sound := by
  have hratios := h.ratios.splitFocused hsplit
  obtain ⟨left, right, he, he'⟩ := insertsAtFocus_of_splitFocused hsplit
  obtain ⟨hcount, hfresh, root, hroot, rfl⟩ := of_splitFocused hsplit
  have hperm : List.Perm (PaneTree.tabIds { tree with root, focusedTabId := newTabId })
      (newTabId :: tree.tabIds) := by
    rw [he', he]
    split <;> grind
  have hnodup : (newTabId :: tree.tabIds).Nodup := List.nodup_cons.mpr ⟨hfresh, h.nodup⟩
  constructor
  · exact hperm.nodup_iff.mpr hnodup
  · have hlen := hperm.length_eq
    simp only [paneCount, List.length_cons] at hcount hlen ⊢
    omega
  · exact hperm.mem_iff.mpr List.mem_cons_self
  · exact hperm.mem_iff.mpr (List.mem_cons_of_mem _ h.workspace)
  · exact hratios

/-- A removal deletes one leaf and keeps the others in order. -/
theorem tabIds_remove {tree tree' : PaneTree} (h : tree.Sound) {tabId focused : Uuid}
    (hremove : tree.remove tabId = some (tree', focused)) :
    tree'.tabIds = tree.tabIds.erase tabId := by
  rw [(of_remove hremove).2, h.nodup.erase_eq_filter]
  exact List.filter_congr fun t _ => by by_cases ht : t = tabId <;> simp [ht]

theorem RatiosBounded.remove {tree tree' : PaneTree} (h : tree.RatiosBounded)
    {tabId focused : Uuid} (hremove : tree.remove tabId = some (tree', focused)) :
    tree'.RatiosBounded := by
  unfold PaneTree.remove at hremove
  split at hremove
  · cases hremove
    exact h
  · split at hremove
    · exact nomatch hremove
    · rename_i root hroot
      cases hremove
      exact fun r hr => h r (PaneNode.mem_ratios_removeLeaf hroot hr)

theorem Sound.remove {tree tree' : PaneTree} (h : tree.Sound) {tabId focused : Uuid}
    (hremove : tree.remove tabId = some (tree', focused)) (hne : tabId ≠ tree.workspaceTabId) :
    tree'.Sound := by
  obtain ⟨hname, hleaves⟩ := of_remove hremove
  have hsub : tree'.tabIds.Sublist tree.tabIds := hleaves ▸ List.filter_sublist
  have hmem : ∀ t ∈ tree.tabIds, t ≠ tabId → t ∈ tree'.tabIds := fun t ht htne => by
    rw [hleaves]
    exact List.mem_filter.mpr ⟨ht, decide_eq_true htne⟩
  have hratios := h.ratios.remove hremove
  -- the focus moves to the first pane when the focused one is removed
  have hfocus : tree'.focusedTabId ∈ tree'.tabIds := by
    unfold PaneTree.remove at hremove
    split at hremove
    · cases hremove
      exact h.focused
    · split at hremove
      · exact nomatch hremove
      · rename_i root hroot
        cases hremove
        show (if tree.focusedTabId = tabId then root.firstTabId else tree.focusedTabId) ∈
          root.collectTabIds
        split
        · exact root.firstTabId_mem
        · rename_i hfocused
          exact hmem _ h.focused hfocused
  constructor
  · exact hsub.nodup h.nodup
  · exact hsub.length_le.trans h.bounded
  · exact hfocus
  · rw [hname]
    exact hmem _ h.workspace hne.symm
  · exact hratios

theorem SetsRatio.tabIds {tree tree' : PaneTree} {index : Nat} {ratio : ℚ}
    (h : tree.SetsRatio index ratio tree') : tree'.tabIds = tree.tabIds :=
  PaneNode.collectTabIds_of_skeleton h.2.2.1

theorem RatiosBounded.setsRatio {tree tree' : PaneTree} (h : tree.RatiosBounded) {index : Nat}
    {r : ℚ} (hset : tree.SetsRatio index (clampRatio r) tree') : tree'.RatiosBounded := by
  intro r' hr'
  rw [hset.2.2.2] at hr'
  rcases List.mem_or_eq_of_mem_set hr' with hold | rfl
  · exact h r' hold
  · exact clampRatio_bounds r

/-- A resize keeps the name and the tabs of a tree. -/
theorem resizeSplit_same (tree : PaneTree) (dividerId : Int) (ratio : Option ℚ) :
    (tree.resizeSplit dividerId ratio).1.workspaceTabId = tree.workspaceTabId ∧
      (tree.resizeSplit dividerId ratio).1.tabIds = tree.tabIds := by
  obtain ⟨he, _⟩ | ⟨index, r, _, tree', _, _, hset, he⟩ := tree.resizeSplit_cases dividerId ratio
  · rw [he]
    exact ⟨rfl, rfl⟩
  · rw [he]
    exact ⟨hset.1, hset.tabIds⟩

/-- A focus move keeps the name and the tabs of a tree. -/
theorem focusDirection_same (tree : PaneTree) (direction : PaneDirection) :
    (tree.focusDirection direction).1.workspaceTabId = tree.workspaceTabId ∧
      (tree.focusDirection direction).1.tabIds = tree.tabIds := by
  unfold PaneTree.focusDirection
  cases tree.neighbour direction <;> exact ⟨rfl, rfl⟩

theorem Sound.setsRatio {tree tree' : PaneTree} (h : tree.Sound) {index : Nat} {r : ℚ}
    (hset : tree.SetsRatio index (clampRatio r) tree') : tree'.Sound := by
  have htabs := hset.tabIds
  have hratios := h.ratios.setsRatio hset
  obtain ⟨hname, hfocus, _⟩ := hset
  constructor
  · rw [htabs]
    exact h.nodup
  · show tree'.tabIds.length ≤ _
    rw [htabs]
    exact h.bounded
  · rw [htabs, hfocus]
    exact h.focused
  · rw [htabs, hname]
    exact h.workspace
  · exact hratios

/-- A split that is refused leaves the tree alone. -/
theorem eq_of_splitFocused {tree tree' : PaneTree} {direction : PaneDirection} {newTabId : Uuid}
    (h : tree.splitFocused direction newTabId = (tree', false)) : tree' = tree := by
  unfold PaneTree.splitFocused at h
  split at h
  · cases h; rfl
  · split at h
    · exact nomatch h
    · cases h; rfl

/-- Every operation but the removal of the tab it is named after keeps a tree sound. -/
theorem Sound.apply {tree : PaneTree} (h : tree.Sound) {op : PaneOp}
    (hop : op ≠ .remove tree.workspaceTabId) : (tree.apply op).1.Sound := by
  cases op with
  | setFocused tabId => exact h.setFocused tabId
  | splitFocused direction newTabId =>
    show (tree.splitFocused direction newTabId).1.Sound
    cases hres : tree.splitFocused direction newTabId with
    | mk tree' ok =>
      cases ok with
      | true => exact h.splitFocused hres
      | false => exact eq_of_splitFocused hres ▸ h
  | focusDirection direction =>
    simp only [PaneTree.apply, PaneTree.focusDirection]
    cases hnext : tree.neighbour direction with
    | none => exact h
    | some next => exact h.focus (mem_of_neighbour hnext)
  | resizeSplit dividerId ratio =>
    simp only [PaneTree.apply]
    obtain ⟨he, _⟩ | ⟨index, r, hlt, tree', _, _, hset, he⟩ := tree.resizeSplit_cases dividerId ratio
    · rw [he]
      exact h
    · rw [he]
      exact h.setsRatio hset
  | remove tabId =>
    simp only [PaneTree.apply]
    cases hres : tree.remove tabId with
    | none => exact h
    | some result => exact h.remove hres fun he => hop (by rw [he])

/-! ## Rejected operations -/

/-- `tree'` is `tree` with the ratio of the split numbered `dividerId` moved by no more than
    the resolution of the source. -/
def Nudges (tree : PaneTree) (dividerId : Int) (tree' : PaneTree) : Prop :=
  ∃ (index : Nat) (hlt : index < tree.root.ratios.length) (r : ℚ), dividerId = index ∧
    tree.SetsRatio index r tree' ∧ |tree.root.ratios[index] - r| ≤ f32Epsilon

/-- An operation that reports no success leaves the tree alone, or it is a resize that moved
    a divider by too little to report it. -/
theorem eq_or_nudges_of_rejected {tree tree' : PaneTree} {op : PaneOp}
    (h : tree.apply op = (tree', false)) :
    tree' = tree ∨ ∃ dividerId ratio, op = .resizeSplit dividerId (some ratio) ∧
      tree.Nudges dividerId tree' := by
  cases op with
  | setFocused tabId =>
    simp only [PaneTree.apply, PaneTree.setFocused] at h
    split at h
    · cases h; exact .inl rfl
    · exact nomatch h
  | splitFocused direction newTabId =>
    exact .inl (eq_of_splitFocused h)
  | focusDirection direction =>
    simp only [PaneTree.apply, PaneTree.focusDirection] at h
    cases hnext : tree.neighbour direction with
    | none => simp only [hnext] at h; cases h; exact .inl rfl
    | some next => simp only [hnext] at h; exact nomatch h
  | resizeSplit dividerId ratio =>
    simp only [PaneTree.apply] at h
    obtain ⟨he, _⟩ | ⟨index, r, hlt, tree'', hid, hratio, hset, he⟩ :=
      tree.resizeSplit_cases dividerId ratio
    · rw [he] at h
      cases h; exact .inl rfl
    · rw [he] at h
      -- a change below the resolution is made and yet reported as none
      obtain ⟨rfl, hsmall⟩ := Prod.mk.inj h
      rw [decide_eq_false_iff_not, not_lt] at hsmall
      exact .inr ⟨dividerId, r, by rw [hratio], index, hlt, _, hid, hset, hsmall⟩
  | remove tabId =>
    simp only [PaneTree.apply] at h
    split at h
    · exact nomatch h
    · cases h; exact .inl rfl

/-! ## All trees -/

/-- The trees that grow from one pane without ever losing the tab they are named after. -/
def grownSystem : Transition PaneTree PaneOp where
  init tree := ∃ tabId, tree = .new tabId
  step tree op tree' := tree' = (tree.apply op).1 ∧ op ≠ .remove tree.workspaceTabId

/-- The invariant of pane trees, and what a split, a removal and a rejected operation do to
    a tree that has it. -/
theorem reachable_sound {tree : PaneTree} (h : grownSystem.Reachable tree) :
    tree.Sound ∧
    (∀ direction newTabId tree', tree.splitFocused direction newTabId = (tree', true) →
      tree.InsertsAtFocus direction newTabId tree') ∧
    (∀ tabId tree' focused, tree.remove tabId = some (tree', focused) →
      tree'.tabIds = tree.tabIds.erase tabId) ∧
    (∀ op tree', tree.apply op = (tree', false) →
      tree' = tree ∨ ∃ dividerId ratio, op = .resizeSplit dividerId (some ratio) ∧
        tree.Nudges dividerId tree') := by
  have hsound : tree.Sound := by
    refine h.invariant (fun t ht => ?_) fun t op t' hstep ht => ?_
    · obtain ⟨tabId, rfl⟩ := ht
      exact new_sound tabId
    · obtain ⟨rfl, hop⟩ := hstep
      exact ht.apply hop
  exact ⟨hsound, fun _ _ _ => insertsAtFocus_of_splitFocused, fun _ _ _ => tabIds_remove hsound,
    fun _ _ => eq_or_nudges_of_rejected⟩

/-- Two panes side by side. -/
private def sideBySide : PaneTree := ((PaneTree.new 1).apply (.splitFocused .right 2)).1

private theorem sideBySide_reachable : grownSystem.Reachable sideBySide :=
  ⟨.new 1, [.splitFocused .right 2], ⟨1, rfl⟩, .single ⟨rfl, by decide⟩⟩

theorem sideBySide_sound : sideBySide.Sound :=
  (reachable_sound sideBySide_reachable).1

/-- A resize below the resolution of the source reports that nothing moved, and yet stores
    its ratio. -/
theorem rejected_resize_changes_tree : ∃ tree op, grownSystem.Reachable tree ∧
    (tree.apply op).2 = false ∧ (tree.apply op).1 ≠ tree :=
  ⟨sideBySide, .resizeSplit 0 (some (1 / 2 + 1 / 2 ^ 24)), sideBySide_reachable,
    by decide +kernel, by decide +kernel⟩

end PaneTree

end AxSsh
