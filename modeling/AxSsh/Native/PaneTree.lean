import Mathlib.Algebra.Order.Round
import Mathlib.Data.List.MinMax
import Mathlib.Data.Rat.Floor
import AxSsh.ForStd.Tiling
import AxSsh.ForStd.Transition
import AxSsh.Native.SftpTypes

/-!
# Pane trees

The bounded terminal layout of `app/panes.rs`, and its snapshot form in
`config/workspace.rs`.  A tree arranges terminal tabs as leaves under column and row
splits; it is named after one of its tabs and focuses one of them.

Ratios and coordinates are exact rationals where the source has `f32`; the snapshot
stores ratios in thousandths.
-/

namespace AxSsh

def maxTerminalPanes : Nat := 8
def minPaneSplitRatio : ℚ := 1 / 10
def defaultPaneSplitRatio : ℚ := 1 / 2

/-- `f32::EPSILON`. -/
def f32Epsilon : ℚ := 1 / 2 ^ 23

inductive PaneDirection where
  | left
  | right
  | up
  | down
deriving DecidableEq, Repr

inductive SplitAxis where
  | columns
  | rows
deriving DecidableEq, Repr

namespace PaneDirection

def isBefore : PaneDirection → Bool
  | left | up => true
  | _ => false

def splitAxis : PaneDirection → SplitAxis
  | left | right => .columns
  | up | down => .rows

end PaneDirection

abbrev PaneRect := Box ℚ

namespace PaneRect

def centerX (rect : PaneRect) : ℚ := rect.x + rect.width / 2
def centerY (rect : PaneRect) : ℚ := rect.y + rect.height / 2

/-- The whole window. -/
def unit : PaneRect := { x := 0, y := 0, width := 1, height := 1 }

/-- The part of a rectangle that the first child of a split takes. -/
def first (rect : PaneRect) (axis : SplitAxis) (ratio : ℚ) : PaneRect :=
  match axis with
  | .columns => { rect with width := rect.width * ratio }
  | .rows => { rect with height := rect.height * ratio }

/-- The part of a rectangle that the second child of a split takes. -/
def second (rect : PaneRect) (axis : SplitAxis) (ratio : ℚ) : PaneRect :=
  match axis with
  | .columns =>
    { rect with x := rect.x + rect.width * ratio, width := rect.width * (1 - ratio) }
  | .rows =>
    { rect with y := rect.y + rect.height * ratio, height := rect.height * (1 - ratio) }

end PaneRect

structure PanePlacement extends Box ℚ where
  tabId : Uuid
  focused : Bool
deriving DecidableEq, Repr

/-- A divider as the layout reports it: the rectangle of its split and where the split
    cuts it. -/
structure PaneDividerPlacement extends Box ℚ where
  id : Nat
  ratio : ℚ
  vertical : Bool
deriving DecidableEq, Repr

structure PaneLayout where
  panes : List PanePlacement
  dividers : List PaneDividerPlacement
deriving DecidableEq, Repr

inductive PaneNode where
  | leaf (tabId : Uuid)
  | split (axis : SplitAxis) (ratio : ℚ) (first second : PaneNode)
deriving DecidableEq, Repr

/-- A pane tree as the workspace file stores it. -/
inductive PaneNodeSnapshot where
  | leaf (tabId : Uuid)
  | split (axis : String) (ratioMilli : Nat) (first second : PaneNodeSnapshot)
deriving DecidableEq, Repr

namespace PaneNode

/-- The tabs of a node, left to right. -/
def collectTabIds : PaneNode → List Uuid
  | leaf tabId => [tabId]
  | split _ _ first second => first.collectTabIds ++ second.collectTabIds

def firstTabId : PaneNode → Uuid
  | leaf tabId => tabId
  | split _ _ first _ => first.firstTabId

/-- Split the first leaf that shows `source`; `none` when there is none. -/
def replaceLeafWithSplit (source : Uuid) (direction : PaneDirection) (newTabId : Uuid) :
    PaneNode → Option PaneNode
  | leaf tabId =>
    if tabId = source then
      if direction.isBefore then
        some (split direction.splitAxis defaultPaneSplitRatio (leaf newTabId) (leaf tabId))
      else
        some (split direction.splitAxis defaultPaneSplitRatio (leaf tabId) (leaf newTabId))
    else none
  | split axis ratio first second =>
    match first.replaceLeafWithSplit source direction newTabId with
    | some first => some (split axis ratio first second)
    | none =>
      match second.replaceLeafWithSplit source direction newTabId with
      | some second => some (split axis ratio first second)
      | none => none

/-- Remove every leaf that shows `tabId`, collapsing splits with one child left. -/
def removeLeaf (tabId : Uuid) : PaneNode → Option PaneNode
  | leaf candidate => if candidate ≠ tabId then some (leaf candidate) else none
  | split axis ratio first second =>
    match first.removeLeaf tabId, second.removeLeaf tabId with
    | some first, some second => some (split axis ratio first second)
    | some remaining, none => some remaining
    | none, some remaining => some remaining
    | none, none => none

/-- Place a node in a rectangle.  Divider ids are given out in preorder, starting at
    `nextDividerId`; the last component is the next free one. -/
def collectLayout (focusedTabId : Uuid) :
    PaneNode → PaneRect → Nat → List PanePlacement × List PaneDividerPlacement × Nat
  | leaf tabId, rect, nextDividerId =>
    ([{ rect with tabId, focused := tabId == focusedTabId }], [], nextDividerId)
  | split axis ratio first second, rect, nextDividerId =>
    let divider : PaneDividerPlacement :=
      { rect with id := nextDividerId, ratio, vertical := axis == .columns }
    let (firstPanes, firstDividers, nextDividerId) :=
      first.collectLayout focusedTabId (rect.first axis ratio) (nextDividerId + 1)
    let (secondPanes, secondDividers, nextDividerId) :=
      second.collectLayout focusedTabId (rect.second axis ratio) nextDividerId
    (firstPanes ++ secondPanes, divider :: (firstDividers ++ secondDividers), nextDividerId)

/-- Give the split numbered `targetId` the ratio `candidate`, and tell whether that moves
    its divider; `none` when there is no such split.  This recursion counts on its own. -/
def resizeSplit (targetId : Int) (candidate : ℚ) : PaneNode → Nat → PaneNode × Option Bool × Nat
  | leaf tabId, nextDividerId => (leaf tabId, none, nextDividerId)
  | split axis ratio first second, nextDividerId =>
    if (nextDividerId : Int) = targetId then
      (split axis candidate first second, some (decide (f32Epsilon < |ratio - candidate|)),
        nextDividerId + 1)
    else
      match first.resizeSplit targetId candidate (nextDividerId + 1) with
      | (first, some changed, nextDividerId) =>
        (split axis ratio first second, some changed, nextDividerId)
      | (first, none, nextDividerId) =>
        let (second, changed, nextDividerId) :=
          second.resizeSplit targetId candidate nextDividerId
        (split axis ratio first second, changed, nextDividerId)

/-- `(ratio * 1000.0).round() as u16`. -/
def ratioMilli (ratio : ℚ) : Nat := min (round (ratio * 1000)).toNat 65535

def snapshotNode : PaneNode → PaneNodeSnapshot
  | leaf tabId => .leaf tabId
  | split axis ratio first second =>
    .split (match axis with | .columns => "columns" | .rows => "rows") (ratioMilli ratio)
      first.snapshotNode second.snapshotNode

end PaneNode

namespace PaneNodeSnapshot

def restoreNode : PaneNodeSnapshot → Option PaneNode
  | leaf tabId => some (.leaf tabId)
  | split axis ratio first second =>
    match axis with
    | "columns" => restoreSplit .columns ratio first.restoreNode second.restoreNode
    | "rows" => restoreSplit .rows ratio first.restoreNode second.restoreNode
    | _ => none
where
  /-- A restored split, when its ratio is in bounds and both children restore. -/
  restoreSplit (axis : SplitAxis) (ratioMilli : Nat) (first second : Option PaneNode) :
      Option PaneNode :=
    let ratio : ℚ := ratioMilli / 1000
    if minPaneSplitRatio ≤ ratio ∧ ratio ≤ 1 - minPaneSplitRatio then
      match first, second with
      | some first, some second => some (.split axis ratio first second)
      | _, _ => none
    else none

/-- The first tab of a stored tree, which names it.  The source returns an `Option` that is
    always `Some`. -/
def paneTabRoot : PaneNodeSnapshot → Uuid
  | leaf tabId => tabId
  | split _ _ first _ => first.paneTabRoot

/-- The tabs of a stored tree, in the order `validate` collects them. -/
def paneIds : PaneNodeSnapshot → List Uuid
  | leaf tabId => [tabId]
  | split _ _ first second => first.paneIds ++ second.paneIds

end PaneNodeSnapshot

def verticalOverlap (left right : PaneRect) : ℚ :=
  max (min left.bottom right.bottom - max left.y right.y) 0

def horizontalOverlap (left right : PaneRect) : ℚ :=
  max (min left.right right.right - max left.x right.x) 0

/-- How far `candidate` is from `current` in a direction; `none` when it is not there. -/
def directionalDistance (current candidate : PaneRect) (direction : PaneDirection) : Option ℚ :=
  let epsilon : ℚ := 1 / 10000
  let distance (gap overlap centerOffset : ℚ) := gap * 10000 - overlap * 10 + centerOffset
  match direction with
  | .left =>
    if candidate.centerX < current.centerX - epsilon then
      some (distance (max (current.x - candidate.right) 0) (verticalOverlap current candidate)
        |current.centerY - candidate.centerY|)
    else none
  | .right =>
    if current.centerX + epsilon < candidate.centerX then
      some (distance (max (candidate.x - current.right) 0) (verticalOverlap current candidate)
        |current.centerY - candidate.centerY|)
    else none
  | .up =>
    if candidate.centerY < current.centerY - epsilon then
      some (distance (max (current.y - candidate.bottom) 0) (horizontalOverlap current candidate)
        |current.centerX - candidate.centerX|)
    else none
  | .down =>
    if current.centerY + epsilon < candidate.centerY then
      some (distance (max (candidate.y - current.bottom) 0) (horizontalOverlap current candidate)
        |current.centerX - candidate.centerX|)
    else none

structure PaneTree where
  workspaceTabId : Uuid
  root : PaneNode
  focusedTabId : Uuid
deriving DecidableEq, Repr

namespace PaneTree

def new (tabId : Uuid) : PaneTree :=
  { workspaceTabId := tabId, root := .leaf tabId, focusedTabId := tabId }

def tabIds (tree : PaneTree) : List Uuid := tree.root.collectTabIds

def contains (tree : PaneTree) (tabId : Uuid) : Bool := tree.tabIds.contains tabId

def paneCount (tree : PaneTree) : Nat := tree.tabIds.length

def setFocused (tree : PaneTree) (tabId : Uuid) : PaneTree × Bool :=
  if !tree.contains tabId then (tree, false)
  else ({ tree with focusedTabId := tabId }, true)

def splitFocused (tree : PaneTree) (direction : PaneDirection) (newTabId : Uuid) :
    PaneTree × Bool :=
  if maxTerminalPanes ≤ tree.paneCount || tree.contains newTabId then (tree, false)
  else
    match tree.root.replaceLeafWithSplit tree.focusedTabId direction newTabId with
    | some root => ({ tree with root, focusedTabId := newTabId }, true)
    | none => (tree, false)

/-- Remove a tab from the tree, with the tab that has the focus afterwards; `none` when
    nothing would be left. -/
def remove (tree : PaneTree) (tabId : Uuid) : Option (PaneTree × Uuid) :=
  if !tree.contains tabId then some (tree, tree.focusedTabId)
  else
    match tree.root.removeLeaf tabId with
    | none => none
    | some root =>
      let focused := if tree.focusedTabId = tabId then root.firstTabId else tree.focusedTabId
      some ({ tree with root, focusedTabId := focused }, focused)

def layout (tree : PaneTree) : PaneLayout :=
  let (panes, dividers, _) := tree.root.collectLayout tree.focusedTabId .unit 0
  { panes, dividers }

def placements (tree : PaneTree) : List PanePlacement := tree.layout.panes

/-- `ratio.clamp(MIN_PANE_SPLIT_RATIO, 1.0 - MIN_PANE_SPLIT_RATIO)`. -/
def clampRatio (ratio : ℚ) : ℚ := max minPaneSplitRatio (min ratio (1 - minPaneSplitRatio))

/-- Move a divider.  `none` stands for a ratio that is not finite; the flag tells whether the
    divider moved. -/
def resizeSplit (tree : PaneTree) (dividerId : Int) (ratio : Option ℚ) : PaneTree × Bool :=
  match ratio with
  | none => (tree, false)
  | some ratio =>
    if dividerId < 0 then (tree, false)
    else
      let (root, changed, _) := tree.root.resizeSplit dividerId (clampRatio ratio) 0
      ({ tree with root }, changed.getD false)

/-- The pane next to the focused one in a direction. -/
def neighbour (tree : PaneTree) (direction : PaneDirection) : Option PanePlacement :=
  match tree.placements.find? (·.tabId == tree.focusedTabId) with
  | none => none
  | some current =>
    let distances := (tree.placements.filter (·.tabId != tree.focusedTabId)).filterMap
      fun placement => (directionalDistance current.toBox placement.toBox
        direction).map fun distance => (placement, distance)
    (distances.argmin (·.2)).map (·.1)

def focusDirection (tree : PaneTree) (direction : PaneDirection) : PaneTree × Option Uuid :=
  match tree.neighbour direction with
  | none => (tree, none)
  | some next => ({ tree with focusedTabId := next.tabId }, some next.tabId)

def snapshot (tree : PaneTree) : PaneNodeSnapshot := tree.root.snapshotNode

def fromSnapshot (workspaceTabId : Uuid) (snapshot : PaneNodeSnapshot) (focusedTabId : Uuid) :
    Option PaneTree :=
  match snapshot.restoreNode with
  | none => none
  | some root =>
    let tree : PaneTree := { workspaceTabId, root, focusedTabId }
    if tree.contains workspaceTabId && tree.contains focusedTabId &&
        tree.paneCount ≤ maxTerminalPanes then
      some tree
    else none

end PaneTree

/-! ## Operations as labels -/

inductive PaneOp where
  | setFocused (tabId : Uuid)
  | splitFocused (direction : PaneDirection) (newTabId : Uuid)
  | focusDirection (direction : PaneDirection)
  | resizeSplit (dividerId : Int) (ratio : Option ℚ)
  | remove (tabId : Uuid)
deriving DecidableEq, Repr

namespace PaneTree

/-- The tree after one operation, and whether the operation reports success. -/
def apply (tree : PaneTree) : PaneOp → PaneTree × Bool
  | .setFocused tabId => tree.setFocused tabId
  | .splitFocused direction newTabId => tree.splitFocused direction newTabId
  | .focusDirection direction =>
    let (tree, next) := tree.focusDirection direction
    (tree, next.isSome)
  | .resizeSplit dividerId ratio => tree.resizeSplit dividerId ratio
  | .remove tabId =>
    match tree.remove tabId with
    | some (tree, _) => (tree, true)
    | none => (tree, false)

end PaneTree

/-- Pane trees as a transition system: a tree starts as one pane or is restored from a
    snapshot, and every later tree comes from its operations. -/
def paneSystem : Transition PaneTree PaneOp where
  init tree := (∃ tabId, tree = .new tabId) ∨
    ∃ workspaceTabId snapshot focusedTabId,
      PaneTree.fromSnapshot workspaceTabId snapshot focusedTabId = some tree
  step tree op tree' := tree' = (tree.apply op).1

end AxSsh
