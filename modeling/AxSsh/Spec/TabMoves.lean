import AxSsh.ForStd.ListMove
import AxSsh.Spec.TabInvariants

/-!
# Moving a tab among the visible ones

A window shows some of the tabs.  A move is asked for by an index among these and carried out on
the list of all tabs; the tab is put next to the one that is to follow it, or after the last one.

## Key results
- `moveTabFor_eq_false`: a rejected move changes nothing
- `moveTabFor_moves`: an accepted one moves the one tab within the visible sequence
-/

namespace AxSsh

open AppState (ids perm_moveTab)

/-- The visible tabs once `tabId` is taken out and put back at `targetIndex`, or at the end. -/
def movedOrder (visibleTabIds : List Uuid) (tabId : Uuid) (targetIndex : Nat) : List Uuid :=
  (visibleTabIds.erase tabId).insertIdx (min targetIndex (visibleTabIds.length - 1)) tabId

/-- What is visible is in the order that was asked for, and what is not is where it was. -/
structure MovesWithin (s s' : AppState) (visibleTabIds order : List Uuid) : Prop where
  visible : ids (s'.tabs.filter fun tab => tab.id ∈ visibleTabIds) = order
  hidden : (s'.tabs.filter fun tab => tab.id ∉ visibleTabIds) =
    s.tabs.filter fun tab => tab.id ∉ visibleTabIds
  perm : s.tabs.Perm s'.tabs
  active : s'.activeTabId = s.activeTabId

variable {s : AppState} {tabId : Uuid} {targetIndex : Nat} {visibleTabIds : List Uuid}

theorem moveTabFor_eq_false (h : (s.moveTabFor tabId targetIndex visibleTabIds).2 = false) :
    (s.moveTabFor tabId targetIndex visibleTabIds).1 = s := by
  rw [AppState.moveTabFor] at h ⊢
  split
  · rfl
  · rename_i hsource
    rw [hsource] at h
    dsimp only at h ⊢
    split
    · rfl
    · rename_i hne
      rw [if_neg hne] at h
      split
      · rfl
      · rename_i hglobal
        rw [hglobal] at h
        dsimp only at h
        split
        · rfl
        · rename_i tab htab
          rw [htab] at h
          dsimp only at h
          obtain ⟨hlt, rfl⟩ := List.getElem?_eq_some_iff.mp htab
          split
          · -- the tab goes back to the place it was taken from
            have hlen := List.length_eraseIdx_of_lt hlt
            rw [Nat.min_eq_left (by omega), List.insertIdx_eraseIdx_getElem hlt]
          · rename_i hindex
            rw [hindex] at h
            cases h

/-! ## The place of the moved tab -/

theorem eraseIdx_findIdx? {l : List Uuid} {id : Uuid} {source : Nat}
    (h : l.findIdx? (· == id) = some source) : l.eraseIdx source = l.erase id := by
  rw [List.erase_eq_eraseIdx, List.idxOf?, h]

theorem length_erase_findIdx? {l : List Uuid} {id : Uuid} {source : Nat}
    (h : l.findIdx? (· == id) = some source) : (l.erase id).length = l.length - 1 := by
  obtain ⟨hlt, -, -⟩ := List.findIdx?_eq_some_iff_getElem.mp h
  rw [← eraseIdx_findIdx? h, List.length_eraseIdx_of_lt hlt]

theorem ids_filter (tabs : List WorkspaceTab) (visibleTabIds : List Uuid) :
    ids (tabs.filter fun tab => tab.id ∈ visibleTabIds) =
      (ids tabs).filter fun id => id ∈ visibleTabIds := by
  rw [ids, ids, List.filter_map]
  rfl

/-- Where the tab goes: in front of the visible one at its target, else after the last one. -/
inductive InsertsAt (tabs : List WorkspaceTab) (others : List Uuid) (target : Nat) : Nat → Prop
  | front {next : Uuid} {index : Nat} (hnext : others[target]? = some next)
      (hindex : tabs.findIdx? (·.id == next) = some index) : InsertsAt tabs others target index
  | back {before index : Nat} {previous : Uuid} (htarget : target = before + 1)
      (hprevious : others[before]? = some previous)
      (hindex : tabs.findIdx? (·.id == previous) = some index) :
      InsertsAt tabs others target (index + 1)
  | alone (htarget : target = 0) : InsertsAt tabs others target 0

theorem InsertsAt.le {tabs : List WorkspaceTab} {others : List Uuid} {target index : Nat}
    (h : InsertsAt tabs others target index) : index ≤ tabs.length := by
  cases h with
  | front _ hindex => exact Nat.le_of_lt (List.findIdx?_eq_some_iff_getElem.mp hindex).1
  | back _ _ hindex => exact (List.findIdx?_eq_some_iff_getElem.mp hindex).1
  | alone => exact Nat.zero_le _

/-- The tab comes to its target among the visible ones. -/
theorem InsertsAt.filter {tabs : List WorkspaceTab} {others : List Uuid} {target index : Nat}
    (h : InsertsAt tabs others target index) {tab : WorkspaceTab} (hids : (ids tabs).Nodup)
    (hothers : ids (tabs.filter fun tab => tab.id ∈ visibleTabIds) = others)
    (htab : tab.id ∈ visibleTabIds) :
    ids ((tabs.insertIdx index tab).filter fun tab => tab.id ∈ visibleTabIds) =
      others.insertIdx target tab.id := by
  have hp : (decide (tab.id ∈ visibleTabIds)) = true := decide_eq_true htab
  subst hothers
  cases h with
  | front hnext hindex =>
    rw [(List.filter_insertIdx_findIdx hids hp hindex hnext).1, ids, List.map_insertIdx]
    rfl
  | back htarget hprevious hindex =>
    rw [(List.filter_insertIdx_findIdx hids hp hindex hprevious).2, ids, List.map_insertIdx,
      htarget]
    rfl
  | alone htarget =>
    rw [htarget, List.insertIdx_zero, List.filter_cons, if_pos hp]
    rfl

/-- The position that the source computes, from the other visible tabs. -/
def insertionIndex? (tabs : List WorkspaceTab) (others : List Uuid) (target : Nat) : Option Nat :=
  match others[target]? with
  | some next => tabs.findIdx? (·.id == next)
  | none =>
    match (if target = 0 then none else others[target - 1]?) with
    | some previous => (tabs.findIdx? (·.id == previous)).map (· + 1)
    | none => some 0

theorem insertsAt_of_insertionIndex? {tabs : List WorkspaceTab} {others : List Uuid}
    {target index : Nat} (hle : target ≤ others.length)
    (h : insertionIndex? tabs others target = some index) :
    InsertsAt tabs others target index := by
  rw [insertionIndex?] at h
  split at h
  · rename_i next hnext
    exact .front hnext h
  · cases target with
    | zero =>
      cases h
      exact .alone rfl
    | succ before =>
      have hget : others[before]? = some others[before] := List.getElem?_eq_getElem hle
      rw [if_neg (Nat.succ_ne_zero before), Nat.add_sub_cancel, hget] at h
      obtain ⟨index, hindex, rfl⟩ := Option.map_eq_some_iff.mp h
      exact .back rfl hget hindex

theorem isSome_insertionIndex? {tabs : List WorkspaceTab} {others : List Uuid} {target : Nat}
    (h : ∀ id ∈ others, (tabs.findIdx? (·.id == id)).isSome) :
    (insertionIndex? tabs others target).isSome := by
  rw [insertionIndex?]
  split
  · rename_i next hnext
    exact h next (List.mem_of_getElem? hnext)
  · split
    · rename_i previous hprevious
      split at hprevious
      · cases hprevious
      · rw [Option.isSome_map]
        exact h previous (List.mem_of_getElem? hprevious)
    · rfl

theorem moveTabFor_eq {source global : Nat} {tab : WorkspaceTab}
    (hsource : visibleTabIds.findIdx? (· == tabId) = some source)
    (hne : source ≠ min targetIndex (visibleTabIds.length - 1))
    (hglobal : s.tabs.findIdx? (·.id == tabId) = some global)
    (hget : s.tabs[global]? = some tab) :
    s.moveTabFor tabId targetIndex visibleTabIds =
      let tabs := s.tabs.eraseIdx global
      match insertionIndex? tabs (visibleTabIds.erase tabId)
          (min targetIndex (visibleTabIds.length - 1)) with
      | none => ({ s with tabs := tabs.insertIdx (min global tabs.length) tab }, false)
      | some index => ({ s with tabs := tabs.insertIdx index tab }, true) := by
  rw [AppState.moveTabFor, hsource]
  dsimp only
  rw [if_neg hne, hglobal]
  dsimp only
  rw [hget, eraseIdx_findIdx? hsource, List.getElem?_insertIdx_of_gt (Nat.lt_succ_self _),
    Nat.succ_sub_one]
  dsimp only
  rw [insertionIndex?]
  -- the order that is asked for has the other visible tabs around its target
  have hbefore (target : Nat) (others : List Uuid) :
      (if target = 0 then none else (others.insertIdx target tabId)[target - 1]?) =
        if target = 0 then none else others[target - 1]? := by
    split
    · rfl
    · exact List.getElem?_insertIdx_of_lt (by omega)
  rw [hbefore]
  rfl

/-- What an accepted move does. -/
theorem moveTabFor_cases (h : (s.moveTabFor tabId targetIndex visibleTabIds).2 = true) :
    ∃ source, visibleTabIds.findIdx? (· == tabId) = some source ∧
      ((source = min targetIndex (visibleTabIds.length - 1) ∧
          (s.moveTabFor tabId targetIndex visibleTabIds).1 = s) ∨
        ∃ global tab index, s.tabs[global]? = some tab ∧ tab.id = tabId ∧
          InsertsAt (s.tabs.eraseIdx global) (visibleTabIds.erase tabId)
            (min targetIndex (visibleTabIds.length - 1)) index ∧
          (s.moveTabFor tabId targetIndex visibleTabIds).1 =
            { s with tabs := (s.tabs.eraseIdx global).insertIdx index tab }) := by
  cases hsource : visibleTabIds.findIdx? (· == tabId) with
  | none =>
    rw [AppState.moveTabFor, hsource] at h
    cases h
  | some source =>
    refine ⟨source, rfl, ?_⟩
    by_cases hsame : source = min targetIndex (visibleTabIds.length - 1)
    · rw [AppState.moveTabFor, hsource]
      dsimp only
      rw [if_pos hsame]
      exact .inl ⟨hsame, rfl⟩
    · right
      cases hglobal : s.tabs.findIdx? (·.id == tabId) with
      | none =>
        rw [AppState.moveTabFor, hsource] at h
        dsimp only at h
        rw [if_neg hsame, hglobal] at h
        cases h
      | some global =>
        obtain ⟨hlt, hid, -⟩ := List.findIdx?_eq_some_iff_getElem.mp hglobal
        have hget : s.tabs[global]? = some s.tabs[global] := List.getElem?_eq_getElem hlt
        rw [moveTabFor_eq hsource hsame hglobal hget] at h ⊢
        -- the target lies among the tabs without the moved one
        have hle : min targetIndex (visibleTabIds.length - 1) ≤
            (visibleTabIds.erase tabId).length := by
          rw [length_erase_findIdx? hsource]
          exact Nat.min_le_right _ _
        dsimp only at h ⊢
        split at h
        · cases h
        · rename_i index hindex
          exact ⟨global, s.tabs[global], index, hget, beq_iff_eq.mp hid,
            insertsAt_of_insertionIndex? hle hindex, rfl⟩

/-! ## The visible and the hidden tabs -/

theorem filter_visible (hids : (ids s.tabs).Nodup)
    (hvisible : visibleTabIds.Sublist (ids s.tabs)) :
    ids (s.tabs.filter fun tab => tab.id ∈ visibleTabIds) = visibleTabIds := by
  rw [ids_filter, List.filter_mem_of_sublist hvisible hids]

/-- The visible tabs without the one that is taken out. -/
theorem filter_eraseIdx {global : Nat} {tab : WorkspaceTab} (hids : (ids s.tabs).Nodup)
    (hvisible : visibleTabIds.Sublist (ids s.tabs)) (hget : s.tabs[global]? = some tab) :
    ids ((s.tabs.eraseIdx global).filter fun tab => tab.id ∈ visibleTabIds) =
      visibleTabIds.erase tab.id := by
  obtain ⟨hlt, rfl⟩ := List.getElem?_eq_some_iff.mp hget
  have hmap : ids (s.tabs.eraseIdx global) = (ids s.tabs).eraseIdx global :=
    (List.eraseIdx_map _ _ _).symm
  have hlt' : global < (ids s.tabs).length := by rwa [ids, List.length_map]
  have hid : (ids s.tabs)[global] = s.tabs[global].id := List.getElem_map _
  have herase : (ids s.tabs).eraseIdx global = (ids s.tabs).erase s.tabs[global].id := by
    rw [← hid, List.erase_eq_eraseIdx_of_idxOf (hids.idxOf_getElem global hlt')]
  rw [ids_filter, hmap, herase, hids.erase_eq_filter, List.filter_comm,
    List.filter_mem_of_sublist hvisible hids, (hids.sublist hvisible).erase_eq_filter]

/-- A visible tab can be moved. -/
theorem moveTabFor_accepts (hids : (ids s.tabs).Nodup)
    (hvisible : visibleTabIds.Sublist (ids s.tabs)) (hmem : tabId ∈ visibleTabIds) :
    (s.moveTabFor tabId targetIndex visibleTabIds).2 = true := by
  have hfound (tabs : List WorkspaceTab) (id : Uuid) (h : id ∈ ids tabs) :
      (tabs.findIdx? (·.id == id)).isSome := by
    obtain ⟨tab, htab, rfl⟩ := List.mem_map.mp h
    exact List.findIdx?_isSome.trans (List.any_eq_true.mpr ⟨tab, htab, beq_self_eq_true _⟩)
  have hsome : (visibleTabIds.findIdx? (· == tabId)).isSome :=
    List.findIdx?_isSome.trans (List.any_eq_true.mpr ⟨tabId, hmem, beq_self_eq_true _⟩)
  obtain ⟨source, hsource⟩ := Option.isSome_iff_exists.mp hsome
  obtain ⟨global, hglobal⟩ := Option.isSome_iff_exists.mp (hfound _ _ (hvisible.subset hmem))
  obtain ⟨hlt, hid, -⟩ := List.findIdx?_eq_some_iff_getElem.mp hglobal
  have hget : s.tabs[global]? = some s.tabs[global] := List.getElem?_eq_getElem hlt
  by_cases hsame : source = min targetIndex (visibleTabIds.length - 1)
  · rw [AppState.moveTabFor, hsource]
    dsimp only
    rw [if_pos hsame]
  · -- the other visible tabs are still there when the tab is taken out
    have hothers := filter_eraseIdx hids hvisible hget
    rw [beq_iff_eq.mp hid] at hothers
    have hindex : (insertionIndex? (s.tabs.eraseIdx global) (visibleTabIds.erase tabId)
        (min targetIndex (visibleTabIds.length - 1))).isSome := by
      refine isSome_insertionIndex? fun id hmem' => hfound _ id ?_
      rw [← hothers] at hmem'
      exact (List.filter_sublist.map _).subset hmem'
    obtain ⟨index, hindex⟩ := Option.isSome_iff_exists.mp hindex
    rw [moveTabFor_eq hsource hsame hglobal hget]
    dsimp only
    rw [hindex]

theorem movedOrder_of_same {source : Nat}
    (hsource : visibleTabIds.findIdx? (· == tabId) = some source)
    (hsame : source = min targetIndex (visibleTabIds.length - 1)) :
    movedOrder visibleTabIds tabId targetIndex = visibleTabIds := by
  obtain ⟨hlt, hid, -⟩ := List.findIdx?_eq_some_iff_getElem.mp hsource
  rw [movedOrder, ← hsame, ← eraseIdx_findIdx? hsource, ← beq_iff_eq.mp hid,
    List.insertIdx_eraseIdx_getElem hlt]

/-- An accepted move moves the one tab within the visible sequence; a tab that is not visible
    cannot be moved. -/
theorem moveTabFor_moves (s : AppState) (tabId : Uuid) (targetIndex : Nat)
    (visibleTabIds : List Uuid) (hids : (ids s.tabs).Nodup)
    (hvisible : visibleTabIds.Sublist (ids s.tabs)) :
    ((s.moveTabFor tabId targetIndex visibleTabIds).2 = true ↔ tabId ∈ visibleTabIds) ∧
      ((s.moveTabFor tabId targetIndex visibleTabIds).2 = true →
        MovesWithin s (s.moveTabFor tabId targetIndex visibleTabIds).1 visibleTabIds
          (movedOrder visibleTabIds tabId targetIndex)) ∧
      ((s.moveTabFor tabId targetIndex visibleTabIds).2 = false →
        (s.moveTabFor tabId targetIndex visibleTabIds).1 = s) := by
  refine ⟨⟨?_, moveTabFor_accepts hids hvisible⟩, ?_, moveTabFor_eq_false⟩
  · intro h
    obtain ⟨source, hsource, -⟩ := moveTabFor_cases h
    obtain ⟨hlt, hid, -⟩ := List.findIdx?_eq_some_iff_getElem.mp hsource
    exact beq_iff_eq.mp hid ▸ List.getElem_mem hlt
  · intro h
    obtain ⟨source, hsource, ⟨hsame, heq⟩ | ⟨global, tab, index, hget, rfl, hat, heq⟩⟩ :=
      moveTabFor_cases h
    · rw [heq, movedOrder_of_same hsource hsame]
      exact ⟨filter_visible hids hvisible, rfl, .refl _, rfl⟩
    · obtain ⟨hlt, hid, -⟩ := List.findIdx?_eq_some_iff_getElem.mp hsource
      have hmem : tab.id ∈ visibleTabIds := beq_iff_eq.mp hid ▸ List.getElem_mem hlt
      have hids' : (ids (s.tabs.eraseIdx global)).Nodup :=
        hids.sublist ((List.eraseIdx_sublist _ _).map _)
      have hhidden : decide (tab.id ∉ visibleTabIds) = false := by simpa using hmem
      rw [heq]
      refine ⟨hat.filter hids' (filter_eraseIdx hids hvisible hget) hmem, ?_, ?_, rfl⟩
      · exact (List.filter_insertIdx_of_neg (x := tab) hhidden index _).trans
          (List.filter_eraseIdx_of_neg (x := tab) hhidden hget)
      · exact perm_moveTab hget hat.le

/-- Three tabs, of which a window shows the first and the last. -/
def threeTabs : AppState where
  tabs := [1, 2, 3].map fun id => { id, title := "", defaultTitle := "", kind := .settings }

theorem moveTabFor_past_hidden :
    MovesWithin threeTabs (threeTabs.moveTabFor 1 5 [1, 3]).1 [1, 3] [3, 1] :=
  (moveTabFor_moves threeTabs 1 5 [1, 3] (by decide) (by decide)).2.1 (by decide)

end AxSsh
