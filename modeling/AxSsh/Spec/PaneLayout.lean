import AxSsh.Spec.PaneInvariant

/-!
# Layout of pane trees

A pane tree cuts the window in two at each split, so its panes tile the window.  The
layout numbers the splits in preorder and so does a resize, each with a counter of its
own; both agree with the list `PaneNode.splits`.

## Key results
- `PaneNode.tiles_collectLayout`: the panes of a node tile its rectangle
- `PaneNode.divides_collectLayout`: each divider is the border between its two subtrees
- `PaneTree.reachable_layout`: all of it, for every pane tree
-/

namespace AxSsh

/-- The points of the line a divider is drawn on. -/
def PaneDividerPlacement.line (divider : PaneDividerPlacement) : Set (ℚ × ℚ) :=
  if divider.vertical then
    {divider.x + divider.width * divider.ratio} ×ˢ Set.Icc divider.y divider.bottom
  else Set.Icc divider.x divider.right ×ˢ {divider.y + divider.height * divider.ratio}

/-- The rectangles the two children of a split get are a cut along its divider. -/
theorem PaneRect.isCut {rect : PaneRect} (h : rect.Positive) {ratio : ℚ} (h₀ : 0 < ratio)
    (h₁ : ratio < 1) (axis : SplitAxis) (id : Nat) :
    Box.IsCut (rect.first axis ratio) (rect.second axis ratio) rect
      (PaneDividerPlacement.line { rect with id, ratio, vertical := axis == .columns }) := by
  cases axis with
  | columns => exact Box.isCut_columns h.1 h.2 h₀ h₁
  | rows => exact Box.isCut_rows h.1 h.2 h₀ h₁

/-- One split of a pane tree. -/
structure PaneSplit where
  axis : SplitAxis
  ratio : ℚ
  first : PaneNode
  second : PaneNode

/-- In a layout, `divider` is reported for `split`: the panes of the two subtrees are laid
    out next to each other, and the divider is all they have in common. -/
def PaneSplit.Divides (panes : List PanePlacement) (divider : PaneDividerPlacement)
    (split : PaneSplit) : Prop :=
  divider.ratio = split.ratio ∧ divider.vertical = (split.axis == .columns) ∧
    ∃ before first second after, panes = before ++ first ++ second ++ after ∧
      first.map (·.tabId) = split.first.collectTabIds ∧
      second.map (·.tabId) = split.second.collectTabIds ∧
      Box.covered (first.map (·.toBox)) ∩ Box.covered (second.map (·.toBox)) = divider.line

/-- A divider is reported in every larger layout. -/
theorem PaneSplit.Divides.mono {panes : List PanePlacement} {divider : PaneDividerPlacement}
    {split : PaneSplit} (h : Divides panes divider split) (before after : List PanePlacement) :
    Divides (before ++ panes ++ after) divider split := by
  obtain ⟨hratio, haxis, l, first, second, r, rfl, h₁, h₂, hline⟩ := h
  refine ⟨hratio, haxis, before ++ l, first, second, r ++ after, ?_, h₁, h₂, hline⟩
  simp only [List.append_assoc]

namespace PaneNode

/-- The splits of a node, in preorder. -/
def splits : PaneNode → List PaneSplit
  | leaf _ => []
  | split axis ratio first second =>
    { axis, ratio, first, second } :: (first.splits ++ second.splits)

/-- A node has one leaf more than splits. -/
theorem length_collectTabIds (node : PaneNode) :
    node.collectTabIds.length = node.ratios.length + 1 := by
  induction node with
  | leaf id => rfl
  | split axis ratio first second ih₁ ih₂ =>
    simp only [collectTabIds, ratios, List.length_append, List.length_cons]
    omega

/-- The layout counts the splits of a node. -/
theorem next_collectLayout (focused : Uuid) (node : PaneNode) (rect : PaneRect) (next : Nat) :
    (node.collectLayout focused rect next).2.2 = next + node.ratios.length := by
  induction node generalizing rect next with
  | leaf id => rfl
  | split axis ratio first second ih₁ ih₂ =>
    simp only [collectLayout, ratios, ih₁, ih₂, List.length_cons, List.length_append]
    omega

/-- The layout numbers the splits of a node in preorder. -/
theorem id_collectLayout (focused : Uuid) (node : PaneNode) (rect : PaneRect) (next : Nat) :
    (node.collectLayout focused rect next).2.1.map (·.id) =
      List.range' next node.ratios.length := by
  induction node generalizing rect next with
  | leaf id => rfl
  | split axis ratio first second ih₁ ih₂ =>
    simp only [collectLayout, ratios, List.map_cons, List.map_append, ih₁, ih₂,
      next_collectLayout, List.length_cons, List.length_append, List.range'_succ]
    rw [List.range'_append_1]

/-- The layout reports the ratios of a node in preorder. -/
theorem ratio_collectLayout (focused : Uuid) (node : PaneNode) (rect : PaneRect) (next : Nat) :
    (node.collectLayout focused rect next).2.1.map (·.ratio) = node.ratios := by
  induction node generalizing rect next with
  | leaf id => rfl
  | split axis ratio first second ih₁ ih₂ =>
    simp only [collectLayout, ratios, List.map_cons, List.map_append, ih₁, ih₂]

/-- The panes of a node tile the rectangle the node gets. -/
theorem tiles_collectLayout (focused : Uuid) {node : PaneNode}
    (hratios : ∀ r ∈ node.ratios, 0 < r ∧ r < 1) {rect : PaneRect} (hrect : rect.Positive)
    (next : Nat) :
    Box.Tiles ((node.collectLayout focused rect next).1.map (·.toBox)) rect := by
  induction node generalizing rect next with
  | leaf id => exact Box.Tiles.single hrect
  | split axis ratio first second ih₁ ih₂ =>
    simp only [ratios, List.mem_cons, List.mem_append] at hratios
    have hratio := hratios ratio (.inl rfl)
    have hcut := PaneRect.isCut hrect hratio.1 hratio.2 axis next
    simp only [collectLayout, List.map_append]
    exact (ih₁ (fun r hr => hratios r (.inr (.inl hr))) hcut.positive_left _).cut
      (ih₂ (fun r hr => hratios r (.inr (.inr hr))) hcut.positive_right _) hcut

/-- Each divider of the layout is the border between the two subtrees of its split. -/
theorem divides_collectLayout (focused : Uuid) {node : PaneNode}
    (hratios : ∀ r ∈ node.ratios, 0 < r ∧ r < 1) {rect : PaneRect} (hrect : rect.Positive)
    (next : Nat) :
    List.Forall₂ (PaneSplit.Divides (node.collectLayout focused rect next).1)
      (node.collectLayout focused rect next).2.1 node.splits := by
  induction node generalizing rect next with
  | leaf id => exact .nil
  | split axis ratio first second ih₁ ih₂ =>
    simp only [ratios, List.mem_cons, List.mem_append] at hratios
    have hratio := hratios ratio (.inl rfl)
    have hfirst : ∀ r ∈ first.ratios, 0 < r ∧ r < 1 := fun r hr => hratios r (.inr (.inl hr))
    have hsecond : ∀ r ∈ second.ratios, 0 < r ∧ r < 1 := fun r hr => hratios r (.inr (.inr hr))
    have hcut := PaneRect.isCut hrect hratio.1 hratio.2 axis next
    simp only [collectLayout, splits]
    refine .cons ⟨rfl, rfl, [],
      (first.collectLayout focused (rect.first axis ratio) (next + 1)).1,
      (second.collectLayout focused (rect.second axis ratio)
        (first.collectLayout focused (rect.first axis ratio) (next + 1)).2.2).1, [], ?_,
      tabId_collectLayout .., tabId_collectLayout .., ?_⟩ (List.rel_append ?_ ?_)
    · simp only [List.nil_append, List.append_nil]
    · exact (tiles_collectLayout focused hfirst hcut.positive_left _).covered_inter
        (tiles_collectLayout focused hsecond hcut.positive_right _) hcut
    · refine (ih₁ hfirst hcut.positive_left _).imp fun d s h => ?_
      exact h.mono [] _
    · refine (ih₂ hsecond hcut.positive_right _).imp fun d s h => ?_
      have := h.mono (first.collectLayout focused (rect.first axis ratio) (next + 1)).1 []
      rwa [List.append_nil] at this

end PaneNode

namespace PaneNodeSnapshot

/-- A restored node has its ratios in bounds. -/
theorem ratios_restoreNode {snapshot : PaneNodeSnapshot} {node : PaneNode}
    (h : snapshot.restoreNode = some node) :
    ∀ r ∈ node.ratios, minPaneSplitRatio ≤ r ∧ r ≤ 1 - minPaneSplitRatio := by
  induction snapshot generalizing node with
  | leaf id =>
    cases h
    exact fun r hr => by cases hr
  | split axis ratioMilli first second ih₁ ih₂ =>
    -- the bounds are checked at each split
    have hsplit : ∀ axis', restoreNode.restoreSplit axis' ratioMilli first.restoreNode
        second.restoreNode = some node →
        ∀ r ∈ node.ratios, minPaneSplitRatio ≤ r ∧ r ≤ 1 - minPaneSplitRatio := by
      intro axis' h r hr
      simp only [restoreNode.restoreSplit] at h
      split at h
      · rename_i hbounds
        split at h
        · rename_i _ first' second' h₁ h₂
          cases h
          simp only [PaneNode.ratios, List.mem_cons, List.mem_append] at hr
          rcases hr with rfl | hr | hr
          · exact hbounds
          · exact ih₁ h₁ r hr
          · exact ih₂ h₂ r hr
        · cases h
      · cases h
    simp only [restoreNode] at h
    split at h
    · exact hsplit _ h
    · exact hsplit _ h
    · cases h

end PaneNodeSnapshot

namespace PaneTree

/-- No operation moves a divider out of bounds. -/
theorem RatiosBounded.apply {tree : PaneTree} (h : tree.RatiosBounded) (op : PaneOp) :
    (tree.apply op).1.RatiosBounded := by
  cases op with
  | setFocused tabId =>
    show ∀ r ∈ (tree.setFocused tabId).1.root.ratios, _
    rw [root_setFocused]
    exact h
  | splitFocused direction newTabId =>
    show (tree.splitFocused direction newTabId).1.RatiosBounded
    cases hres : tree.splitFocused direction newTabId with
    | mk tree' ok =>
      cases ok with
      | true => exact h.splitFocused hres
      | false => exact eq_of_splitFocused hres ▸ h
  | focusDirection direction =>
    simp only [PaneTree.apply, PaneTree.focusDirection]
    cases tree.neighbour direction <;> exact h
  | resizeSplit dividerId ratio =>
    simp only [PaneTree.apply]
    obtain ⟨he, _⟩ | ⟨index, r, hlt, tree', _, _, hset, he⟩ := tree.resizeSplit_cases dividerId ratio
    · rw [he]
      exact h
    · rw [he]
      exact h.setsRatio hset
  | remove tabId =>
    simp only [PaneTree.apply]
    cases hres : tree.remove tabId with
    | none => exact h
    | some result => exact h.remove hres

theorem reachable_ratiosBounded {tree : PaneTree} (h : paneSystem.Reachable tree) :
    tree.RatiosBounded := by
  refine h.invariant (fun t ht => ?_) fun t op t' hstep ht => ?_
  · obtain ⟨tabId, rfl⟩ | ⟨workspaceTabId, snapshot, focusedTabId, hrestore⟩ := ht
    · exact fun r hr => nomatch hr
    · unfold fromSnapshot at hrestore
      split at hrestore
      · exact nomatch hrestore
      · rename_i root hroot
        dsimp only at hrestore
        split at hrestore
        · cases hrestore
          exact PaneNodeSnapshot.ratios_restoreNode hroot
        · exact nomatch hrestore
  · rw [show t' = (t.apply op).1 from hstep]
    exact ht.apply op

/-- A resize sets the ratio the layout reports under its id. -/
theorem resizeSplit_reported (tree : PaneTree) {d : PaneDividerPlacement}
    (hd : d ∈ tree.layout.dividers) (ratio : ℚ) :
    tree.SetsRatio d.id (clampRatio ratio) (tree.resizeSplit d.id (some ratio)).1 := by
  have hmem : d.id ∈ List.range' 0 tree.root.ratios.length := by
    rw [← PaneNode.id_collectLayout tree.focusedTabId tree.root .unit 0]
    exact List.mem_map_of_mem hd
  have hlt : d.id < tree.root.ratios.length := by
    rw [List.mem_range'_1] at hmem
    omega
  obtain ⟨_, hbad⟩ | ⟨index, r, _, tree', hid, hratio, hset, he⟩ :=
    tree.resizeSplit_cases d.id (some ratio)
  · rcases hbad with hnone | hneg | hge
    · exact nomatch hnone
    · omega
    · omega
  · cases hratio
    rw [he, Int.ofNat.inj hid]
    exact hset

/-- A resize under an id the layout does not report changes nothing. -/
theorem resizeSplit_unreported (tree : PaneTree) {dividerId : Int}
    (h : ∀ d ∈ tree.layout.dividers, (d.id : Int) ≠ dividerId) (ratio : ℚ) :
    (tree.resizeSplit dividerId (some ratio)).1 = tree := by
  obtain ⟨he, _⟩ | ⟨index, r, hlt, tree', rfl, _, _, _⟩ :=
    tree.resizeSplit_cases dividerId (some ratio)
  · rw [he]
  · have hmem : index ∈ tree.layout.dividers.map (·.id) := by
      show index ∈ (tree.root.collectLayout tree.focusedTabId .unit 0).2.1.map (·.id)
      rw [PaneNode.id_collectLayout, List.mem_range'_1]
      omega
    obtain ⟨d, hd, hid⟩ := List.mem_map.mp hmem
    exact absurd (congrArg Int.ofNat hid) (h d hd)

/-- The layout of a pane tree partitions the window, its dividers are the borders between
    subtrees, and a resize moves the divider it names. -/
theorem reachable_layout {tree : PaneTree} (h : paneSystem.Reachable tree) :
    tree.layout.panes.map (·.tabId) = tree.tabIds ∧
    Box.Tiles (tree.layout.panes.map (·.toBox)) PaneRect.unit ∧
    List.Forall₂ (PaneSplit.Divides tree.layout.panes) tree.layout.dividers tree.root.splits ∧
    tree.layout.dividers.map (·.id) = List.range (tree.paneCount - 1) ∧
    tree.layout.dividers.map (·.ratio) = tree.root.ratios ∧
    ∀ dividerId ratio,
      (∀ d ∈ tree.layout.dividers, (d.id : Int) = dividerId → tree.SetsRatio d.id
        (clampRatio ratio) (tree.resizeSplit dividerId (some ratio)).1) ∧
      ((∀ d ∈ tree.layout.dividers, (d.id : Int) ≠ dividerId) →
        (tree.resizeSplit dividerId (some ratio)).1 = tree) := by
  have hratios : ∀ r ∈ tree.root.ratios, 0 < r ∧ r < 1 := by
    intro r hr
    obtain ⟨h₀, h₁⟩ := reachable_ratiosBounded h r hr
    simp only [minPaneSplitRatio] at h₀ h₁
    constructor <;> linarith
  have hunit : PaneRect.unit.Positive := ⟨one_pos, one_pos⟩
  refine ⟨PaneNode.tabId_collectLayout .., PaneNode.tiles_collectLayout _ hratios hunit _,
    PaneNode.divides_collectLayout _ hratios hunit _, ?_, PaneNode.ratio_collectLayout .., ?_⟩
  · have hcount : tree.paneCount - 1 = tree.root.ratios.length := by
      show tree.root.collectTabIds.length - 1 = _
      rw [PaneNode.length_collectTabIds, Nat.add_sub_cancel]
    rw [hcount, List.range_eq_range']
    exact PaneNode.id_collectLayout ..
  · intro dividerId ratio
    constructor
    · rintro d hd rfl
      exact tree.resizeSplit_reported hd ratio
    · exact fun hnone => tree.resizeSplit_unreported hnone ratio

/-- The layout of a window split into two columns. -/
theorem columns_layout : Box.Tiles
    ((((PaneTree.new 1).apply (.splitFocused .right 2)).1).layout.panes.map (·.toBox))
    PaneRect.unit :=
  (reachable_layout ⟨.new 1, [.splitFocused .right 2], .inl ⟨1, rfl⟩, .single rfl⟩).2.1

end PaneTree

end AxSsh
