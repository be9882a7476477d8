import AxSsh.Spec.ProfileChecks
import Mathlib.Data.Set.Function

/-!
# New tab ids for a workspace file

A workspace file that is opened gets new tab ids.  Everything in a valid snapshot that names a tab
names one of its own, so a renaming of these without a collision leaves it valid.

## Key results
- `WorkspaceSnapshot.validate_eq_ok_iff`: what a valid snapshot says of its tabs and windows
- `WorkspaceSnapshot.validate_mapIds`: a renaming without a collision
- `remapWorkspaceSnapshotIds_renames`: the renaming of an opened workspace file
-/

namespace AxSsh

/-! ## What a valid snapshot says -/

namespace PaneNodeSnapshot

variable {ids : List Uuid} {f : Uuid → Uuid}

theorem paneIds_mapIds (pane : PaneNodeSnapshot) : (pane.mapIds f).paneIds = pane.paneIds.map f := by
  induction pane with
  | leaf id => rfl
  | split axis ratio first second ih₁ ih₂ => rw [mapIds, paneIds, ih₁, ih₂, paneIds, List.map_append]

/-- The leaves of a checked tree are tabs, and it is checked the same after a renaming. -/
theorem validate_mapIds {pane : PaneNodeSnapshot} {depth count : Nat}
    (h : pane.validate ids depth = .ok count) :
    (∀ id ∈ pane.paneIds, id ∈ ids) ∧ (pane.mapIds f).validate (ids.map f) depth = .ok count := by
  induction pane generalizing depth count with
  | leaf id =>
    unfold validate at h
    obtain ⟨_, hdepth, h⟩ := Except.bind_eq_ok_iff.mp h
    obtain ⟨_, hknown, h⟩ := Except.bind_eq_ok_iff.mp h
    obtain rfl := Except.ok.inj h
    -- the pane is known under its new id, since it was known under the old one
    rw [bailIf_eq_ok_iff, Bool.not_eq_false', List.contains_iff_mem] at hknown
    refine ⟨fun other hother => List.mem_singleton.mp hother ▸ hknown, ?_⟩
    rw [mapIds, validate]
    refine Except.bind_eq_ok_iff.mpr ⟨(), hdepth, ?_⟩
    refine Except.bind_eq_ok_iff.mpr ⟨(), bailIf_eq_ok_iff.mpr ?_, rfl⟩
    rw [Bool.not_eq_false', List.contains_iff_mem]
    exact List.mem_map_of_mem hknown
  | split axis ratio first second ih₁ ih₂ =>
    unfold validate at h
    obtain ⟨_, hdepth, h⟩ := Except.bind_eq_ok_iff.mp h
    obtain ⟨_, haxis, h⟩ := Except.bind_eq_ok_iff.mp h
    obtain ⟨_, hratio, h⟩ := Except.bind_eq_ok_iff.mp h
    obtain ⟨n, hfirst, h⟩ := Except.bind_eq_ok_iff.mp h
    obtain ⟨m, hsecond, h⟩ := Except.bind_eq_ok_iff.mp h
    obtain ⟨_, hcount, h⟩ := Except.bind_eq_ok_iff.mp h
    obtain ⟨hids₁, hfirst'⟩ := ih₁ hfirst
    obtain ⟨hids₂, hsecond'⟩ := ih₂ hsecond
    constructor
    · intro id hid
      exact (List.mem_append.mp hid).elim (hids₁ id) (hids₂ id)
    · rw [mapIds, validate]
      refine Except.bind_eq_ok_iff.mpr ⟨(), hdepth, ?_⟩
      refine Except.bind_eq_ok_iff.mpr ⟨(), haxis, ?_⟩
      refine Except.bind_eq_ok_iff.mpr ⟨(), hratio, ?_⟩
      refine Except.bind_eq_ok_iff.mpr ⟨n, hfirst', ?_⟩
      refine Except.bind_eq_ok_iff.mpr ⟨m, hsecond', ?_⟩
      exact Except.bind_eq_ok_iff.mpr ⟨(), hcount, h⟩

end PaneNodeSnapshot

/-- A reference that names no unknown tab. -/
theorem bailIf_any_eq_ok_iff {reference : Option Uuid} {ids : List Uuid} {message : String} :
    bailIf (reference.any fun id => !ids.contains id) message = .ok () ↔
      ∀ id ∈ reference, id ∈ ids := by
  rw [bailIf_eq_ok_iff]
  cases reference <;> simp

theorem bailIf_list_any_eq_ok_iff {references ids : List Uuid} {message : String} :
    bailIf (references.any fun id => !ids.contains id) message = .ok () ↔
      ∀ id ∈ references, id ∈ ids := by
  rw [bailIf_eq_ok_iff]
  simp

namespace WorkspaceTabSnapshot

/-- The texts of a tab. -/
def validateTexts (tab : WorkspaceTabSnapshot) : Except String Unit := do
  validateText tab.title maxTitleBytes "tab title" true
  validateText tab.terminalText maxTextBytes "terminal text" false
  validateText tab.sftpRemotePath maxPathBytes "remote path" true
  validateText tab.sftpLocalPath maxPathBytes "local path" true
  validateText tab.status maxStatusBytes "tab status" true

theorem validate_eq_ok_iff {tab : WorkspaceTabSnapshot} {ids : List Uuid} :
    tab.validate ids = .ok () ↔
      tab.validateTexts = .ok () ∧ ∀ id ∈ tab.companionTabId, id ∈ ids := by
  have hseq : tab.validate ids = (tab.validateTexts >>= fun _ =>
      bailIf (tab.companionTabId.any fun companion => !ids.contains companion)
        "tab companion does not exist") := by
    simp only [validate, validateTexts, bind_assoc]
  rw [hseq, Except.bind_eq_ok_iff]
  constructor
  · rintro ⟨⟨⟩, htexts, h⟩
    exact ⟨htexts, bailIf_any_eq_ok_iff.mp h⟩
  · rintro ⟨htexts, h⟩
    exact ⟨(), htexts, bailIf_any_eq_ok_iff.mpr h⟩

end WorkspaceTabSnapshot

namespace WorkspaceWindowSnapshot

/-- A stored pane tree of a window. -/
structure SoundPane (window : WorkspaceWindowSnapshot) (ids : List Uuid)
    (pane : PaneNodeSnapshot) : Prop where
  tree : ∃ count, pane.validate ids 0 = .ok count
  nodup : pane.paneIds.Nodup
  shown : ∀ id ∈ pane.paneIds, id ∈ window.tabIds

structure Sound (window : WorkspaceWindowSnapshot) (ids : List Uuid) : Prop where
  placement : ∀ placement ∈ window.placement, placement.validate = .ok ()
  count : window.tabIds.length ≤ maxTabs
  tabs : ∀ id ∈ window.tabIds, id ∈ ids
  active : ∀ id ∈ window.activeTabId, id ∈ window.tabIds
  focused : ∀ id ∈ window.focusedTabId, id ∈ window.tabIds
  panes : ∀ pane ∈ window.panes, window.SoundPane ids pane

variable {window : WorkspaceWindowSnapshot} {ids : List Uuid}

theorem validatePane_eq_ok_iff {pane : PaneNodeSnapshot} :
    window.validatePane ids pane = .ok () ↔ window.SoundPane ids pane := by
  have hcheck : bailIf (!decide pane.paneIds.Nodup ||
        pane.paneIds.any fun id => !window.tabIds.contains id)
        "workspace pane tree contains duplicate or hidden tab IDs" = .ok () ↔
      pane.paneIds.Nodup ∧ ∀ id ∈ pane.paneIds, id ∈ window.tabIds := by
    rw [bailIf_eq_ok_iff]
    simp
  unfold validatePane
  rw [Except.bind_eq_ok_iff]
  constructor
  · rintro ⟨count, htree, h⟩
    obtain ⟨hnodup, hshown⟩ := hcheck.mp h
    exact ⟨⟨count, htree⟩, hnodup, hshown⟩
  · rintro ⟨⟨count, htree⟩, hnodup, hshown⟩
    exact ⟨count, htree, hcheck.mpr ⟨hnodup, hshown⟩⟩

/-- What is checked of a window behind its placement. -/
def validateTabs (window : WorkspaceWindowSnapshot) (ids : List Uuid) : Except String Unit := do
  bailIf (decide (maxTabs < window.tabIds.length)) "workspace window contains too many tabs"
  bailIf (window.tabIds.any fun id => !ids.contains id)
    "workspace window references an unknown tab"
  bailIf (window.activeTabId.any fun active => !window.tabIds.contains active)
    "workspace window active tab is not in that window"
  bailIf (window.focusedTabId.any fun focused => !window.tabIds.contains focused)
    "workspace window focused tab is not in that window"
  window.panes.forM (window.validatePane ids)

theorem validate_eq_ok_iff_placement : window.validate ids = .ok () ↔
    (∀ placement ∈ window.placement, placement.validate = .ok ()) ∧
      window.validateTabs ids = .ok () := by
  unfold validate
  cases window.placement with
  | none => simp [validateTabs]
  | some placement =>
    change (placement.validate >>= fun _ => window.validateTabs ids) = .ok () ↔ _
    rw [Except.bind_eq_ok_iff]
    constructor
    · rintro ⟨⟨⟩, hplacement, htabs⟩
      exact ⟨fun _ hmem => Option.mem_some.mp hmem ▸ hplacement, htabs⟩
    · rintro ⟨hplacement, htabs⟩
      exact ⟨(), hplacement placement rfl, htabs⟩

theorem validate_eq_ok_iff : window.validate ids = .ok () ↔ window.Sound ids := by
  have hcount : bailIf (decide (maxTabs < window.tabIds.length))
      "workspace window contains too many tabs" = .ok () ↔ window.tabIds.length ≤ maxTabs := by
    rw [bailIf_eq_ok_iff, decide_eq_false_iff_not, Nat.not_lt]
  rw [validate_eq_ok_iff_placement]
  constructor
  · rintro ⟨hplacement, h⟩
    obtain ⟨⟨⟩, hlength, h⟩ := Except.bind_eq_ok_iff.mp h
    obtain ⟨⟨⟩, htabs, h⟩ := Except.bind_eq_ok_iff.mp h
    obtain ⟨⟨⟩, hactive, h⟩ := Except.bind_eq_ok_iff.mp h
    obtain ⟨⟨⟩, hfocused, h⟩ := Except.bind_eq_ok_iff.mp h
    exact ⟨hplacement, hcount.mp hlength, bailIf_list_any_eq_ok_iff.mp htabs,
      bailIf_any_eq_ok_iff.mp hactive, bailIf_any_eq_ok_iff.mp hfocused,
      fun pane hpane => validatePane_eq_ok_iff.mp (Except.forM_eq_ok_iff.mp h pane hpane)⟩
  · intro h
    refine ⟨h.placement, ?_⟩
    refine Except.bind_eq_ok_iff.mpr ⟨(), hcount.mpr h.count, ?_⟩
    refine Except.bind_eq_ok_iff.mpr ⟨(), bailIf_list_any_eq_ok_iff.mpr h.tabs, ?_⟩
    refine Except.bind_eq_ok_iff.mpr ⟨(), bailIf_any_eq_ok_iff.mpr h.active, ?_⟩
    refine Except.bind_eq_ok_iff.mpr ⟨(), bailIf_any_eq_ok_iff.mpr h.focused, ?_⟩
    exact Except.forM_eq_ok_iff.mpr fun pane hpane =>
      validatePane_eq_ok_iff.mpr (h.panes pane hpane)

end WorkspaceWindowSnapshot

namespace WorkspaceSnapshot

/-- The ids of the tabs, which everything else refers to. -/
def tabIds (snapshot : WorkspaceSnapshot) : List Uuid := snapshot.tabs.map (·.id)

structure Sound (snapshot : WorkspaceSnapshot) : Prop where
  version : snapshot.version = workspaceSnapshotVersion
  tabCount : snapshot.tabs.length ≤ maxTabs
  windowCount : snapshot.windows.length ≤ maxWindows
  nodup : snapshot.tabIds.Nodup
  texts : ∀ tab ∈ snapshot.tabs, tab.validateTexts = .ok ()
  companions : ∀ tab ∈ snapshot.tabs, ∀ id ∈ tab.companionTabId, id ∈ snapshot.tabIds
  active : ∀ id ∈ snapshot.activeTabId, id ∈ snapshot.tabIds
  windows : ∀ window ∈ snapshot.windows, window.Sound snapshot.tabIds

variable {snapshot : WorkspaceSnapshot}

theorem validate_eq_ok_iff : snapshot.validate = .ok () ↔ snapshot.Sound := by
  have htabs : (snapshot.tabs.forM fun tab => tab.validate snapshot.tabIds) = .ok () ↔
      (∀ tab ∈ snapshot.tabs, tab.validateTexts = .ok ()) ∧
      ∀ tab ∈ snapshot.tabs, ∀ id ∈ tab.companionTabId, id ∈ snapshot.tabIds := by
    rw [Except.forM_eq_ok_iff, ← forall₂_and]
    exact forall₂_congr fun tab _ => WorkspaceTabSnapshot.validate_eq_ok_iff
  have hwindows : (snapshot.windows.forM fun window => window.validate snapshot.tabIds) = .ok () ↔
      ∀ window ∈ snapshot.windows, window.Sound snapshot.tabIds := by
    rw [Except.forM_eq_ok_iff]
    exact forall₂_congr fun window _ => WorkspaceWindowSnapshot.validate_eq_ok_iff
  unfold validate
  constructor
  · intro h
    obtain ⟨⟨⟩, hversion, h⟩ := Except.bind_eq_ok_iff.mp h
    obtain ⟨⟨⟩, htabCount, h⟩ := Except.bind_eq_ok_iff.mp h
    obtain ⟨⟨⟩, hwindowCount, h⟩ := Except.bind_eq_ok_iff.mp h
    obtain ⟨⟨⟩, hnodup, h⟩ := Except.bind_eq_ok_iff.mp h
    obtain ⟨⟨⟩, htab, h⟩ := Except.bind_eq_ok_iff.mp h
    obtain ⟨⟨⟩, hactive, h⟩ := Except.bind_eq_ok_iff.mp h
    simp only [bailIf_eq_ok_iff, decide_eq_false_iff_not, Nat.not_lt, Bool.not_eq_false',
      decide_eq_true_eq, bne_eq_false_iff_eq] at hversion htabCount hwindowCount hnodup
    obtain ⟨htexts, hcompanions⟩ := htabs.mp htab
    exact ⟨hversion, htabCount, hwindowCount, hnodup, htexts, hcompanions,
      bailIf_any_eq_ok_iff.mp hactive, hwindows.mp h⟩
  · intro h
    have hnodup : (snapshot.tabs.map (·.id)).Nodup := h.nodup
    refine Except.bind_eq_ok_iff.mpr ⟨(), bailIf_eq_ok_iff.mpr (by simp [h.version]), ?_⟩
    refine Except.bind_eq_ok_iff.mpr ⟨(), bailIf_eq_ok_iff.mpr (by simp [h.tabCount]), ?_⟩
    refine Except.bind_eq_ok_iff.mpr ⟨(), bailIf_eq_ok_iff.mpr (by simp [h.windowCount]), ?_⟩
    refine Except.bind_eq_ok_iff.mpr ⟨(), bailIf_eq_ok_iff.mpr (by simpa using hnodup), ?_⟩
    refine Except.bind_eq_ok_iff.mpr ⟨(), htabs.mpr ⟨h.texts, h.companions⟩, ?_⟩
    refine Except.bind_eq_ok_iff.mpr ⟨(), bailIf_any_eq_ok_iff.mpr h.active, ?_⟩
    exact hwindows.mpr h.windows

end WorkspaceSnapshot

/-! ## Renaming -/

variable {f : Uuid → Uuid}

theorem forall_mem_map_option {reference : Option Uuid} {ids : List Uuid}
    (h : ∀ id ∈ reference, id ∈ ids) : ∀ id ∈ reference.map f, id ∈ ids.map f := by
  intro id hid
  obtain ⟨old, hold, rfl⟩ := Option.mem_map.mp hid
  exact List.mem_map_of_mem (h old hold)

/-- A window with its tabs renamed; `f` has no collision among the tabs. -/
theorem WorkspaceWindowSnapshot.Sound.mapIds {window : WorkspaceWindowSnapshot} {ids : List Uuid}
    (h : window.Sound ids) (hf : Set.InjOn f {id | id ∈ ids}) :
    (window.mapIds f).Sound (ids.map f) where
  placement := h.placement
  count := by
    rw [WorkspaceWindowSnapshot.mapIds, List.length_map]
    exact h.count
  tabs := by
    intro id hid
    obtain ⟨old, hold, rfl⟩ := List.mem_map.mp hid
    exact List.mem_map_of_mem (h.tabs old hold)
  active := forall_mem_map_option h.active
  focused := forall_mem_map_option h.focused
  panes := by
    intro pane hpane
    obtain ⟨old, hold, rfl⟩ := List.mem_map.mp hpane
    have hsound := h.panes old hold
    obtain ⟨count, htree⟩ := hsound.tree
    obtain ⟨hknown, htree'⟩ := PaneNodeSnapshot.validate_mapIds (f := f) htree
    refine ⟨⟨count, htree'⟩, ?_, ?_⟩
    · rw [PaneNodeSnapshot.paneIds_mapIds]
      exact hsound.nodup.map_on fun a ha b hb heq => hf (hknown a ha) (hknown b hb) heq
    · rw [PaneNodeSnapshot.paneIds_mapIds]
      intro id hid
      obtain ⟨leaf, hleaf, rfl⟩ := List.mem_map.mp hid
      exact List.mem_map_of_mem (hsound.shown leaf hleaf)

namespace WorkspaceSnapshot

variable {snapshot : WorkspaceSnapshot}

theorem tabIds_mapIds : (snapshot.mapIds f).tabIds = snapshot.tabIds.map f := by
  simp only [tabIds, mapIds, List.map_map]
  rfl

/-- **A renaming without a collision leaves a snapshot valid.** -/
theorem Sound.mapIds (h : snapshot.Sound) (hf : Set.InjOn f {id | id ∈ snapshot.tabIds}) :
    (snapshot.mapIds f).Sound where
  version := h.version
  tabCount := by
    rw [WorkspaceSnapshot.mapIds, List.length_map]
    exact h.tabCount
  windowCount := by
    rw [WorkspaceSnapshot.mapIds, List.length_map]
    exact h.windowCount
  nodup := by
    rw [tabIds_mapIds]
    exact h.nodup.map_on fun a ha b hb heq => hf ha hb heq
  texts := by
    intro tab htab
    obtain ⟨old, hold, rfl⟩ := List.mem_map.mp htab
    exact h.texts old hold
  companions := by
    intro tab htab
    obtain ⟨old, hold, rfl⟩ := List.mem_map.mp htab
    rw [tabIds_mapIds]
    exact forall_mem_map_option (h.companions old hold)
  active := by
    rw [tabIds_mapIds]
    exact forall_mem_map_option h.active
  windows := by
    intro window hwindow
    obtain ⟨old, hold, rfl⟩ := List.mem_map.mp hwindow
    rw [tabIds_mapIds]
    exact (h.windows old hold).mapIds hf

/-- Everything in a snapshot that refers to a tab. -/
def references (snapshot : WorkspaceSnapshot) : List Uuid :=
  snapshot.tabIds ++ snapshot.tabs.flatMap (·.companionTabId.toList) ++
    snapshot.activeTabId.toList ++ snapshot.windows.flatMap fun window =>
      window.tabIds ++ window.activeTabId.toList ++ window.focusedTabId.toList ++
        window.panes.flatMap (·.paneIds)

theorem Sound.mem_tabIds (h : snapshot.Sound) {id : Uuid} (hid : id ∈ snapshot.references) :
    id ∈ snapshot.tabIds := by
  simp only [references, List.mem_append, List.mem_flatMap, Option.mem_toList] at hid
  rcases hid with ((hid | ⟨tab, htab, hid⟩) | hid) | ⟨window, hwindow, hid⟩
  · exact hid
  · exact h.companions tab htab id hid
  · exact h.active id hid
  · have hsound := h.windows window hwindow
    refine hsound.tabs id ?_
    rcases hid with ((hid | hid) | hid) | ⟨pane, hpane, hid⟩
    · exact hid
    · exact hsound.active id hid
    · exact hsound.focused id hid
    · exact (hsound.panes pane hpane).shown id hid

end WorkspaceSnapshot

/-! ## Opening a workspace file -/

/-- A pane tree with its leaves renamed and nothing else changed. -/
inductive RenamesPane (f : Uuid → Uuid) : PaneNodeSnapshot → PaneNodeSnapshot → Prop
  | leaf (id : Uuid) : RenamesPane f (.leaf id) (.leaf (f id))
  | split (axis : String) (ratioMilli : Nat) {first second first' second' : PaneNodeSnapshot}
      (hfirst : RenamesPane f first first') (hsecond : RenamesPane f second second') :
      RenamesPane f (.split axis ratioMilli first second) (.split axis ratioMilli first' second')

structure RenamesWindow (f : Uuid → Uuid) (old new : WorkspaceWindowSnapshot) : Prop where
  id : new.id = old.id
  placement : new.placement = old.placement
  tabIds : new.tabIds = old.tabIds.map f
  active : new.activeTabId = old.activeTabId.map f
  focused : new.focusedTabId = old.focusedTabId.map f
  panes : List.Forall₂ (RenamesPane f) old.panes new.panes

/-- One renaming of every reference to a tab, and nothing else changed. -/
structure Renames (f : Uuid → Uuid) (old new : WorkspaceSnapshot) : Prop where
  version : new.version = old.version
  tabs : List.Forall₂
    (fun tab tab' => tab' = { tab with id := f tab.id, companionTabId := tab.companionTabId.map f })
    old.tabs new.tabs
  active : new.activeTabId = old.activeTabId.map f
  windows : List.Forall₂ (RenamesWindow f) old.windows new.windows

theorem forall₂_map_right {α : Type} {R : α → α → Prop} {g : α → α} (h : ∀ a, R a (g a))
    (l : List α) : List.Forall₂ R l (l.map g) := by
  rw [List.forall₂_map_right_iff]
  exact List.forall₂_same.mpr fun a _ => h a

theorem renamesPane_mapIds (pane : PaneNodeSnapshot) : RenamesPane f pane (pane.mapIds f) := by
  induction pane with
  | leaf id => exact .leaf id
  | split axis ratio first second ih₁ ih₂ => exact .split axis ratio ih₁ ih₂

theorem renames_mapIds (snapshot : WorkspaceSnapshot) : Renames f snapshot (snapshot.mapIds f) where
  version := rfl
  tabs := List.forall₂_map_right_iff.mpr (List.forall₂_same.mpr fun _ _ => rfl)
  active := rfl
  windows := by
    refine forall₂_map_right (fun window => ?_) snapshot.windows
    exact ⟨rfl, rfl, rfl, rfl, rfl, forall₂_map_right renamesPane_mapIds window.panes⟩

/-- What an opened workspace file is renamed to.  `inUse` are the ids of the tabs open before. -/
theorem remapWorkspaceSnapshotIds_renames {snapshot : WorkspaceSnapshot} {newId : Uuid → Uuid}
    {inUse : List Uuid} (hvalid : snapshot.validate = .ok ())
    (hdistinct : Set.InjOn newId {id | id ∈ snapshot.tabIds})
    (hfresh : ∀ id ∈ snapshot.tabIds, newId id ∉ inUse) :
    (remapWorkspaceSnapshotIds newId snapshot).validate = .ok () ∧
    (∃ f, Set.InjOn f {id | id ∈ snapshot.references} ∧
      Renames f snapshot (remapWorkspaceSnapshotIds newId snapshot)) ∧
    ∀ tab ∈ (remapWorkspaceSnapshotIds newId snapshot).tabs, tab.id ∉ inUse := by
  have hsound := WorkspaceSnapshot.validate_eq_ok_iff.mp hvalid
  let f : Uuid → Uuid := fun id => if id ∈ snapshot.tabs.map (·.id) then newId id else id
  have hf {id : Uuid} (hid : id ∈ snapshot.tabIds) : f id = newId id := if_pos hid
  have hinj : Set.InjOn f {id | id ∈ snapshot.tabIds} := by
    intro a ha b hb heq
    rw [hf ha, hf hb] at heq
    exact hdistinct ha hb heq
  refine ⟨?_, ⟨f, hinj.mono fun id hid => hsound.mem_tabIds hid, renames_mapIds snapshot⟩, ?_⟩
  · exact WorkspaceSnapshot.validate_eq_ok_iff.mpr (hsound.mapIds hinj)
  · intro tab htab
    obtain ⟨old, hold, rfl⟩ := List.mem_map.mp htab
    have hmem : old.id ∈ snapshot.tabIds := List.mem_map_of_mem hold
    change f old.id ∉ inUse
    rw [hf hmem]
    exact hfresh old.id hmem

/-- Two tabs next to each other, one the companion of the other. -/
def pairSnapshot (a b : Uuid) : WorkspaceSnapshot where
  version := 1
  tabs := [{ id := a, companionTabId := some b }, { id := b }]
  activeTabId := some b
  windows := [{ id := a, tabIds := [a, b], activeTabId := some a, focusedTabId := some b,
                panes := [.split "columns" 500 (.leaf a) (.leaf b)] }]

theorem remap_pairSnapshot :
    let a : Uuid := ⟨1⟩
    let b : Uuid := ⟨2⟩
    let newId : Uuid → Uuid := fun id => if id = a then ⟨3⟩ else ⟨4⟩
    (remapWorkspaceSnapshotIds newId (pairSnapshot a b)).validate = .ok () ∧
    (∃ f, Set.InjOn f {id | id ∈ (pairSnapshot a b).references} ∧
      Renames f (pairSnapshot a b) (remapWorkspaceSnapshotIds newId (pairSnapshot a b))) ∧
    ∀ tab ∈ (remapWorkspaceSnapshotIds newId (pairSnapshot a b)).tabs, tab.id ∉ [a, b] := by
  intro a b newId
  refine remapWorkspaceSnapshotIds_renames rfl ?_ ?_
  · have hids : ∀ x ∈ [a, b], ∀ y ∈ [a, b], newId x = newId y → x = y := by decide
    exact fun x hx y hy heq => hids x hx y hy heq
  · have hnew : ∀ id ∈ [a, b], newId id ∉ [a, b] := by decide
    exact hnew

end AxSsh
