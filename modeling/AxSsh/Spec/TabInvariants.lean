import AxSsh.ForStd.Matching
import AxSsh.Native.AppTabs

/-!
# Invariants of the application's tabs

Tab ids are unique, the active tab exists, there is at most one Settings tab and one session
editor, and the companion links are a matching of terminals with SFTP tabs of one profile.
`Sound` says so of the tabs alone, and `TabsOk` of the application.  The links are read through
`companion?`, and every operation on the tabs is an operation on the matching.

## Key results
- `Sound.unlink`, `Sound.link`, `Sound.remove`, `Sound.push`: what the operations keep
- `restored_sound_iff`: the tabs of a restored workspace are sound exactly when its file is
- `tabsOk_throughout_iff`: the invariant over whole runs
-/

namespace AxSsh

open Transition (Throughout AllSafe allSafe_nil allSafe_cons_iff throughout_iff_allSafe)

/-! ## Links -/

/-- The profile and the target of a tab's connection. -/
def WorkspaceTabKind.connection : WorkspaceTabKind → Option (Uuid × ConnectionTarget)
  | .terminal state => state.profileId.map fun profileId => (profileId, state.connectionTarget)
  | _ => none

namespace AppState

def ids (tabs : List WorkspaceTab) : List Uuid := tabs.map (·.id)

/-- The connection of the tab with this id. -/
def connection? (tabs : List WorkspaceTab) (id : Uuid) : Option (Uuid × ConnectionTarget) :=
  (tabs.findKey WorkspaceTab.id id).bind (·.kind.connection)

/-- Two tabs of one profile, a terminal and an SFTP tab. -/
def Paired (tabs : List WorkspaceTab) (a b : Uuid) : Prop :=
  ∃ profileId target, connection? tabs a = some (profileId, target) ∧
    connection? tabs b = some (profileId, target.opposite)

structure Sound (tabs : List WorkspaceTab) : Prop where
  nodup : (ids tabs).Nodup
  settings : tabs.countP (·.kind.isSettings) ≤ 1
  editors : tabs.countP (·.kind.isSessionEditor) ≤ 1
  companions : Matching (Paired tabs) (companion? tabs)

/-- The tabs are sound, and the active tab is one of them. -/
structure TabsOk (s : AppState) : Prop where
  sound : Sound s.tabs
  active : ∀ id, s.activeTabId = some id → id ∈ ids s.tabs

theorem opposite_opposite (target : ConnectionTarget) : target.opposite.opposite = target := by
  cases target <;> rfl

theorem opposite_ne (target : ConnectionTarget) : target.opposite ≠ target := by
  cases target <;> exact nofun

theorem Paired.symm {tabs : List WorkspaceTab} {a b : Uuid} (h : Paired tabs a b) :
    Paired tabs b a := by
  obtain ⟨profileId, target, ha, hb⟩ := h
  refine ⟨profileId, target.opposite, hb, ?_⟩
  rw [opposite_opposite]
  exact ha

theorem Paired.ne {tabs : List WorkspaceTab} {a b : Uuid} (h : Paired tabs a b) : a ≠ b := by
  rintro rfl
  obtain ⟨profileId, target, ha, hb⟩ := h
  have he := Option.some.inj (ha.symm.trans hb)
  exact opposite_ne target (Prod.mk.inj he).2.symm

theorem Paired.congr {tabs tabs' : List WorkspaceTab} {a b : Uuid} (h : Paired tabs a b)
    (ha : connection? tabs' a = connection? tabs a) (hb : connection? tabs' b = connection? tabs b) :
    Paired tabs' a b := by
  obtain ⟨profileId, target, hpa, hpb⟩ := h
  exact ⟨profileId, target, ha.trans hpa, hb.trans hpb⟩

theorem mem_ids_of_connection? {tabs : List WorkspaceTab} {id : Uuid}
    {connection : Uuid × ConnectionTarget} (h : connection? tabs id = some connection) :
    id ∈ ids tabs := by
  obtain ⟨tab, htab, _⟩ := Option.bind_eq_some_iff.mp h
  exact List.findKey_isSome.mp (by rw [htab]; rfl)

theorem mem_ids_of_companion? {tabs : List WorkspaceTab} {id companion : Uuid}
    (h : companion? tabs id = some companion) : id ∈ ids tabs := by
  obtain ⟨tab, htab, _⟩ := Option.bind_eq_some_iff.mp h
  exact List.findKey_isSome.mp (by rw [htab]; rfl)

/-- The two lists have the same tabs, up to their links. -/
structure SameTabs (tabs tabs' : List WorkspaceTab) : Prop where
  ids : ids tabs' = ids tabs
  connection : ∀ id, connection? tabs' id = connection? tabs id
  settings : tabs'.countP (·.kind.isSettings) = tabs.countP (·.kind.isSettings)
  editors : tabs'.countP (·.kind.isSessionEditor) = tabs.countP (·.kind.isSessionEditor)

theorem SameTabs.refl (tabs : List WorkspaceTab) : SameTabs tabs tabs :=
  ⟨rfl, fun _ => rfl, rfl, rfl⟩

theorem SameTabs.trans {tabs tabs' tabs'' : List WorkspaceTab} (h : SameTabs tabs tabs')
    (h' : SameTabs tabs' tabs'') : SameTabs tabs tabs'' :=
  ⟨h'.ids.trans h.ids, fun id => (h'.connection id).trans (h.connection id),
    h'.settings.trans h.settings, h'.editors.trans h.editors⟩

/-- The same tabs with other links are sound when the links are a matching. -/
theorem SameTabs.sound {tabs tabs' : List WorkspaceTab} (hsame : SameTabs tabs tabs')
    (h : Sound tabs) (hlinks : Matching (Paired tabs) (companion? tabs')) : Sound tabs' where
  nodup := by
    rw [hsame.ids]
    exact h.nodup
  settings := by
    rw [hsame.settings]
    exact h.settings
  editors := by
    rw [hsame.editors]
    exact h.editors
  companions := hlinks.mono fun a b _ hpaired =>
    hpaired.congr (hsame.connection a) (hsame.connection b)

theorem id_withCompanion (companion : Option Uuid) (tab : WorkspaceTab) :
    ({ tab with companionTabId := companion } : WorkspaceTab).id = tab.id := rfl

theorem sameTabs_setCompanion (id : Uuid) (companion : Option Uuid) (tabs : List WorkspaceTab) :
    SameTabs tabs (setCompanion id companion tabs) where
  ids := List.map_key_modifyKey (id_withCompanion companion) id tabs
  connection k := by
    simp only [connection?, setCompanion]
    rw [List.findKey_modifyKey (id_withCompanion companion)]
    split
    · rename_i he
      rw [he, Option.bind_map]
      rfl
    · rfl
  settings := List.countP_modifyKey_of_eq id tabs fun _ => rfl
  editors := List.countP_modifyKey_of_eq id tabs fun _ => rfl

/-- Writing a link is seen at its tab only. -/
theorem companion?_setCompanion (id : Uuid) (companion : Option Uuid) (tabs : List WorkspaceTab)
    (k : Uuid) : companion? (setCompanion id companion tabs) k =
      if k = id then (if id ∈ ids tabs then companion else none) else companion? tabs k := by
  simp only [companion?, setCompanion]
  rw [List.findKey_modifyKey (id_withCompanion companion)]
  split
  · rename_i he
    cases htab : tabs.findKey WorkspaceTab.id id with
    | none =>
      have hmem : id ∉ ids tabs := List.findKey_eq_none.mp htab
      rw [if_neg hmem]
      rfl
    | some tab =>
      have hmem : id ∈ ids tabs := List.findKey_isSome.mp (by rw [htab]; rfl)
      rw [if_pos hmem]
      rfl
  · rfl

theorem companion?_clear (id : Uuid) (tabs : List WorkspaceTab) (k : Uuid) :
    companion? (setCompanion id none tabs) k = if k = id then none else companion? tabs k := by
  rw [companion?_setCompanion, ite_self]

theorem sameTabs_unlinkCompanion (tabs : List WorkspaceTab) (tabId : Uuid) :
    SameTabs tabs (unlinkCompanion tabs tabId) := by
  rw [unlinkCompanion]
  split
  · exact .refl tabs
  · rename_i other _
    by_cases hback : companion? (setCompanion tabId none tabs) other = some tabId
    · simp only [if_pos hback]
      exact (sameTabs_setCompanion _ _ _).trans (sameTabs_setCompanion _ _ _)
    · simp only [if_neg hback]
      exact sameTabs_setCompanion _ _ _

theorem sameTabs_linkCompanions (tabs : List WorkspaceTab) (first second : Uuid) :
    SameTabs tabs (linkCompanions tabs first second) :=
  (sameTabs_unlinkCompanion tabs first).trans <| (sameTabs_unlinkCompanion _ second).trans <|
    (sameTabs_setCompanion _ _ _).trans (sameTabs_setCompanion _ _ _)

/-- `unlink_companion` gives up both ends of the link. -/
theorem companion?_unlinkCompanion {tabs : List WorkspaceTab}
    (h : Matching (Paired tabs) (companion? tabs)) (tabId : Uuid) :
    companion? (unlinkCompanion tabs tabId) = Matching.without (companion? tabs) tabId := by
  funext k
  rw [unlinkCompanion, Matching.without]
  cases hlink : companion? tabs tabId with
  | none =>
    -- nobody is linked to a tab without a link
    have hnobody : companion? tabs k ≠ some tabId := fun hk =>
      Option.some_ne_none k ((h k tabId hk).1.symm.trans hlink)
    by_cases hk : k = tabId
    · rw [if_pos (Or.inl hk), hk, hlink]
    · rw [if_neg (not_or.mpr ⟨hk, hnobody⟩)]
  | some other =>
    obtain ⟨hback, hpaired⟩ := h tabId other hlink
    have hne : other ≠ tabId := hpaired.ne.symm
    simp only [companion?_clear, if_neg hne, hback, if_true]
    by_cases hk : k = tabId
    · rw [if_pos hk, ite_self, if_pos (Or.inl hk)]
    · by_cases hother : k = other
      · rw [if_pos hother, if_pos (Or.inr (by rw [hother, hback]))]
      · have hnobody : companion? tabs k ≠ some tabId := by
          intro hlinked
          have hpartner := (h k tabId hlinked).1
          exact hother (Option.some.inj (hpartner.symm.trans hlink))
        rw [if_neg hother, if_neg hk, if_neg (not_or.mpr ⟨hk, hnobody⟩)]

theorem Sound.unlink {tabs : List WorkspaceTab} (h : Sound tabs) (tabId : Uuid) :
    Sound (unlinkCompanion tabs tabId) := by
  refine (sameTabs_unlinkCompanion tabs tabId).sound h ?_
  rw [companion?_unlinkCompanion h.companions]
  exact h.companions.cut tabId

/-- `link_companions` joins two paired tabs. -/
theorem Sound.link {tabs : List WorkspaceTab} (h : Sound tabs) {first second : Uuid}
    (hpaired : Paired tabs first second) : Sound (linkCompanions tabs first second) := by
  have h₁ := h.unlink first
  -- both tabs give up their old companions first
  have h₂ := h₁.unlink second
  have hsame := (sameTabs_unlinkCompanion tabs first).trans (sameTabs_unlinkCompanion _ second)
  have hlinks : companion? (unlinkCompanion (unlinkCompanion tabs first) second) =
      Matching.without (Matching.without (companion? tabs) first) second := by
    rw [companion?_unlinkCompanion h₁.companions, companion?_unlinkCompanion h.companions]
  have hne := hpaired.ne
  obtain ⟨profileId, target, hfirst, hsecond⟩ := hpaired
  have hmem₁ : first ∈ ids (unlinkCompanion (unlinkCompanion tabs first) second) := by
    rw [hsame.ids]
    exact mem_ids_of_connection? hfirst
  have hmem₂ : second ∈ ids (setCompanion first (some second)
      (unlinkCompanion (unlinkCompanion tabs first) second)) := by
    rw [(sameTabs_setCompanion _ _ _).ids, hsame.ids]
    exact mem_ids_of_connection? hsecond
  have hpaired₂ : Paired (unlinkCompanion (unlinkCompanion tabs first) second) first second :=
    Paired.congr ⟨profileId, target, hfirst, hsecond⟩ (hsame.connection _) (hsame.connection _)
  have hjoined : companion? (linkCompanions tabs first second) =
      Matching.joined (companion? (unlinkCompanion (unlinkCompanion tabs first) second))
        first second := by
    funext k
    rw [linkCompanions, companion?_setCompanion, if_pos hmem₂, companion?_setCompanion,
      if_pos hmem₁, Matching.joined]
    by_cases hk : k = first
    · have hks : k ≠ second := fun he => hne (hk.symm.trans he)
      rw [if_pos hk, if_neg hks, if_pos hk]
    · rw [if_neg hk, if_neg hk]
  have hsame' : SameTabs (unlinkCompanion (unlinkCompanion tabs first) second)
      (linkCompanions tabs first second) :=
    (sameTabs_setCompanion _ _ _).trans (sameTabs_setCompanion _ _ _)
  refine hsame'.sound h₂ ?_
  rw [hjoined]
  -- after that both are free
  have hfree₁ : companion? (unlinkCompanion (unlinkCompanion tabs first) second) first = none := by
    rw [hlinks]
    simp only [Matching.without, true_or, if_true]
    split <;> rfl
  have hfree₂ : companion? (unlinkCompanion (unlinkCompanion tabs first) second) second = none := by
    rw [hlinks]
    simp only [Matching.without, true_or, if_true]
  exact h₂.companions.join hfree₁ hfree₂ hpaired₂ hpaired₂.symm

/-! ## The list of tabs -/

theorem companion?_perm {tabs tabs' : List WorkspaceTab} (hperm : tabs.Perm tabs')
    (hnodup : (ids tabs).Nodup) : companion? tabs' = companion? tabs := by
  funext id
  rw [companion?, companion?, List.findKey_perm hperm hnodup]

theorem connection?_perm {tabs tabs' : List WorkspaceTab} (hperm : tabs.Perm tabs')
    (hnodup : (ids tabs).Nodup) (id : Uuid) : connection? tabs' id = connection? tabs id := by
  rw [connection?, connection?, List.findKey_perm hperm hnodup]

/-- The order of the tabs does not matter. -/
theorem Sound.perm {tabs tabs' : List WorkspaceTab} (h : Sound tabs) (hperm : tabs.Perm tabs') :
    Sound tabs' where
  nodup := (hperm.map _).nodup_iff.mp h.nodup
  settings := by
    rw [← hperm.countP_eq]
    exact h.settings
  editors := by
    rw [← hperm.countP_eq]
    exact h.editors
  companions := by
    rw [companion?_perm hperm h.nodup]
    exact h.companions.mono fun a b _ hpaired => hpaired.congr
      (connection?_perm hperm h.nodup a) (connection?_perm hperm h.nodup b)

theorem companion?_cons (tab : WorkspaceTab) (tabs : List WorkspaceTab) (id : Uuid) :
    companion? (tab :: tabs) id = if tab.id = id then tab.companionTabId else companion? tabs id := by
  rw [companion?, List.findKey_cons]
  split <;> rfl

theorem connection?_cons (tab : WorkspaceTab) (tabs : List WorkspaceTab) (id : Uuid) :
    connection? (tab :: tabs) id =
      if tab.id = id then tab.kind.connection else connection? tabs id := by
  rw [connection?, List.findKey_cons]
  split <;> rfl

theorem connection?_cons_of_mem {tab : WorkspaceTab} {tabs : List WorkspaceTab} {id : Uuid}
    (hnew : tab.id ∉ ids tabs) (hmem : id ∈ ids tabs) :
    connection? (tab :: tabs) id = connection? tabs id := by
  rw [connection?_cons, if_neg]
  rintro rfl
  exact hnew hmem

/-- A new tab without a link keeps the tabs sound, when no page opens twice. -/
theorem Sound.push {tabs : List WorkspaceTab} {tab : WorkspaceTab} (h : Sound tabs)
    (hnew : tab.id ∉ ids tabs) (hfree : tab.companionTabId = none)
    (hsettings : tab.kind.isSettings = true → tabs.countP (·.kind.isSettings) = 0)
    (heditors : tab.kind.isSessionEditor = true → tabs.countP (·.kind.isSessionEditor) = 0) :
    Sound (tab :: tabs) where
  nodup := List.nodup_cons.mpr ⟨hnew, h.nodup⟩
  settings := by
    rw [List.countP_cons]
    split
    · rename_i hpage
      rw [hsettings hpage]
    · exact h.settings
  editors := by
    rw [List.countP_cons]
    split
    · rename_i hpage
      rw [heditors hpage]
    · exact h.editors
  companions := by
    -- the new tab has no companion, so the links are those of the others
    have hlinks : companion? (tab :: tabs) = companion? tabs := by
      funext id
      rw [companion?_cons, hfree]
      split
      · rename_i he
        rw [← he, companion?, List.findKey_eq_none.mpr hnew]
        rfl
      · rfl
    rw [hlinks]
    intro a b hlink
    obtain ⟨hback, hpaired⟩ := h.companions a b hlink
    exact ⟨hback, hpaired.congr (connection?_cons_of_mem hnew (mem_ids_of_companion? hlink))
      (connection?_cons_of_mem hnew (mem_ids_of_companion? hback))⟩

/-- What `close_tab` does to the companion of the closed tab. -/
def releaseCompanion (companionTabId : Option Uuid) (tabId : Uuid) (tabs : List WorkspaceTab) :
    List WorkspaceTab :=
  match companionTabId with
  | none => tabs
  | some companionTabId =>
    if companion? tabs companionTabId = some tabId then setCompanion companionTabId none tabs
    else tabs

theorem sameTabs_releaseCompanion (companionTabId : Option Uuid) (tabId : Uuid)
    (tabs : List WorkspaceTab) : SameTabs tabs (releaseCompanion companionTabId tabId tabs) := by
  rw [releaseCompanion.eq_def]
  split
  · exact .refl tabs
  · split
    · exact sameTabs_setCompanion _ _ _
    · exact .refl tabs

/-- Closing a tab releases its companion. -/
theorem Sound.remove {tab : WorkspaceTab} {tabs : List WorkspaceTab} (h : Sound (tab :: tabs)) :
    Sound (releaseCompanion tab.companionTabId tab.id tabs) := by
  have hnodup : (ids tabs).Nodup := h.nodup.of_cons
  have hnew : tab.id ∉ ids tabs := (List.nodup_cons.mp h.nodup).1
  have hsettings := h.settings
  have heditors := h.editors
  rw [List.countP_cons] at hsettings heditors
  have hsame := sameTabs_releaseCompanion tab.companionTabId tab.id tabs
  have hown : companion? (tab :: tabs) tab.id = tab.companionTabId := by
    rw [companion?_cons, if_pos rfl]
  have hothers : ∀ id, id ≠ tab.id → companion? (tab :: tabs) id = companion? tabs id :=
    fun id hne => by rw [companion?_cons, if_neg (Ne.symm hne)]
  have hgone : companion? tabs tab.id = none := by
    rw [companion?, List.findKey_eq_none.mpr hnew]
    rfl
  -- the link of the closed tab is cut at both of its ends
  have hlinks : companion? (releaseCompanion tab.companionTabId tab.id tabs) =
      Matching.without (companion? (tab :: tabs)) tab.id := by
    funext k
    rw [releaseCompanion.eq_def, Matching.without]
    cases hlink : tab.companionTabId with
    | none =>
      -- who is linked to the closed tab is the one that it is linked to
      have hnobody : companion? (tab :: tabs) k ≠ some tab.id := by
        intro hk
        exact Option.some_ne_none k ((h.companions k tab.id hk).1.symm.trans (hown.trans hlink))
      by_cases hk : k = tab.id
      · rw [if_pos (Or.inl hk), hk]
        exact hgone
      · rw [if_neg (not_or.mpr ⟨hk, hnobody⟩), hothers k hk]
    | some other =>
      obtain ⟨hback, hpaired⟩ := h.companions tab.id other (hown.trans hlink)
      have hne : other ≠ tab.id := hpaired.ne.symm
      have hback' : companion? tabs other = some tab.id := (hothers other hne).symm.trans hback
      simp only [if_pos hback', companion?_clear]
      by_cases hk : k = tab.id
      · rw [if_pos (Or.inl hk), hk, if_neg (Ne.symm hne)]
        exact hgone
      · by_cases hother : k = other
        · rw [if_pos hother, if_pos (Or.inr (by rw [hother, hback]))]
        · have hnobody : companion? (tab :: tabs) k ≠ some tab.id := by
            intro hlinked
            have hpartner := (h.companions k tab.id hlinked).1
            exact hother (Option.some.inj (hpartner.symm.trans (hown.trans hlink)))
          rw [if_neg hother, if_neg (not_or.mpr ⟨hk, hnobody⟩), hothers k hk]
  constructor
  · rw [hsame.ids]
    exact hnodup
  · rw [hsame.settings]
    omega
  · rw [hsame.editors]
    omega
  · rw [hlinks]
    intro a b hab
    obtain ⟨hback, hpaired⟩ := h.companions.cut tab.id a b hab
    refine ⟨hback, ?_⟩
    -- a tab that keeps its link is not the closed one
    have hkept : ∀ id link, Matching.without (companion? (tab :: tabs)) tab.id id = some link →
        connection? (releaseCompanion tab.companionTabId tab.id tabs) id =
          connection? (tab :: tabs) id := by
      intro id link hid
      have hne : tab.id ≠ id := by
        rintro rfl
        simp only [Matching.without, true_or, if_true] at hid
        cases hid
      rw [hsame.connection, connection?_cons, if_neg hne]
    exact hpaired.congr (hkept a b hab) (hkept b a hback)

/-- Rewriting a session editor changes neither ids nor links. -/
theorem replaceEditor_spec (title : String) (editor : SessionEditorState)
    (tabs : List WorkspaceTab) : SameTabs tabs (replaceEditor title editor tabs) ∧
      ∀ id, companion? (replaceEditor title editor tabs) id = companion? tabs id := by
  induction tabs with
  | nil => exact ⟨.refl [], fun _ => rfl⟩
  | cons tab tabs ih =>
    obtain ⟨hsame, hlinks⟩ := ih
    rw [replaceEditor]
    split
    -- the editor page is replaced by another editor page
    · rename_i heditor
      cases hkind : tab.kind with
      | terminal terminal =>
        rw [hkind] at heditor
        exact nomatch heditor
      | settings =>
        rw [hkind] at heditor
        exact nomatch heditor
      | sessionEditor old =>
        refine ⟨⟨rfl, fun id => ?_, ?_, ?_⟩, fun id => ?_⟩
        · rw [connection?_cons, connection?_cons, hkind]
          rfl
        · rw [List.countP_cons, List.countP_cons, hkind]
          rfl
        · rw [List.countP_cons, List.countP_cons, hkind]
          rfl
        · rw [companion?_cons, companion?_cons]
    · refine ⟨⟨?_, fun id => ?_, ?_, ?_⟩, fun id => ?_⟩
      · exact congrArg (tab.id :: ·) hsame.ids
      · rw [connection?_cons, connection?_cons, hsame.connection]
      · rw [List.countP_cons, List.countP_cons, hsame.settings]
      · rw [List.countP_cons, List.countP_cons, hsame.editors]
      · rw [companion?_cons, companion?_cons, hlinks]

theorem Sound.replaceEditor {tabs : List WorkspaceTab} (h : Sound tabs) (title : String)
    (editor : SessionEditorState) : Sound (AppState.replaceEditor title editor tabs) := by
  obtain ⟨hsame, hlinks⟩ := replaceEditor_spec title editor tabs
  refine hsame.sound h ?_
  rw [funext hlinks]
  exact h.companions

end AppState

/-! ## Restoring -/

/-- The connection of a restored tab. -/
def WorkspaceTabSnapshot.connection (snapshot : WorkspaceTabSnapshot) :
    Option (Uuid × ConnectionTarget) :=
  if snapshot.kind = "terminal" then snapshot.profileId.map fun profileId => (profileId, .terminal)
  else if snapshot.kind = "sftp" then snapshot.profileId.map fun profileId => (profileId, .sftp)
  else none

namespace AppState

/-- The snapshots that become tabs: the profile of a terminal is known, and that of an SFTP tab
    is one for SSH. -/
def restorable (s : AppState) (snapshot : WorkspaceTabSnapshot) : Bool :=
  if snapshot.kind = "terminal" ∨ snapshot.kind = "sftp" then
    match snapshot.profileId with
    | none => true
    | some profileId =>
      match s.profile? profileId with
      | none => false
      | some profile => decide (snapshot.kind = "terminal") ||
        match profile.connection with
        | .ssh _ => true
        | _ => false
  else decide (snapshot.kind = "settings" ∨ snapshot.kind = "session-editor")

/-- What a restorable snapshot becomes. -/
theorem restoredKind_cases (s : AppState) (draftId : Uuid) (home : String)
    (snapshot : WorkspaceTabSnapshot) :
    (s.restorable snapshot = false ∧ s.restoredKind draftId home snapshot = none) ∨
    (s.restorable snapshot = true ∧ ∃ kind, s.restoredKind draftId home snapshot = some kind ∧
      kind.isSettings = decide (snapshot.kind = "settings") ∧
      kind.isSessionEditor = decide (snapshot.kind = "session-editor") ∧
      kind.connection = snapshot.connection) := by
  -- the kinds in the order of the source; any other is not restored
  by_cases hterminal : snapshot.kind = "terminal"
  · cases hprofile : snapshot.profileId with
    | none =>
      simp [restorable, restoredKind, hterminal, hprofile, WorkspaceTabKind.isSettings,
        WorkspaceTabKind.isSessionEditor, WorkspaceTabKind.connection,
        WorkspaceTabSnapshot.connection, TerminalTabState.profileId]
    | some profileId =>
      cases hfound : s.profile? profileId with
      | none => simp [restorable, restoredKind, hterminal, hprofile, hfound]
      | some profile =>
        -- the backend depends on the connection of the profile
        cases hconnection : profile.connection <;>
          simp [restorable, restoredKind, hterminal, hprofile, hfound, hconnection,
            WorkspaceTabKind.isSettings, WorkspaceTabKind.isSessionEditor,
            WorkspaceTabKind.connection, WorkspaceTabSnapshot.connection,
            TerminalTabState.profileId, TerminalTabState.connectionTarget]
  · by_cases hsftp : snapshot.kind = "sftp"
    · cases hprofile : snapshot.profileId with
      | none =>
        simp [restorable, restoredKind, hsftp, hprofile, WorkspaceTabKind.isSettings,
          WorkspaceTabKind.isSessionEditor, WorkspaceTabKind.connection,
          WorkspaceTabSnapshot.connection, TerminalTabState.profileId]
      | some profileId =>
        cases hfound : s.profile? profileId with
        | none => simp [restorable, restoredKind, hsftp, hprofile, hfound]
        | some profile =>
          cases hconnection : profile.connection <;>
            simp [restorable, restoredKind, hsftp, hprofile, hfound, hconnection,
              WorkspaceTabKind.isSettings, WorkspaceTabKind.isSessionEditor,
              WorkspaceTabKind.connection, WorkspaceTabSnapshot.connection,
              TerminalTabState.profileId, TerminalTabState.connectionTarget]
    · by_cases hsettings : snapshot.kind = "settings"
      · simp [restorable, restoredKind, hsettings, WorkspaceTabKind.isSettings,
          WorkspaceTabKind.isSessionEditor, WorkspaceTabKind.connection,
          WorkspaceTabSnapshot.connection]
      · by_cases heditor : snapshot.kind = "session-editor"
        · simp [restorable, restoredKind, heditor, WorkspaceTabKind.isSettings,
            WorkspaceTabKind.isSessionEditor, WorkspaceTabKind.connection,
            WorkspaceTabSnapshot.connection]
        · simp [restorable, restoredKind, hterminal, hsftp, hsettings, heditor]

/-- The tab a snapshot becomes, before its link. -/
def restoredTab (s : AppState) (newDraftId : Uuid → Uuid) (home : String)
    (snapshot : WorkspaceTabSnapshot) : Option WorkspaceTab :=
  (s.restoredKind (newDraftId snapshot.id) home snapshot).map fun kind =>
    { id := snapshot.id, title := snapshot.title, defaultTitle := snapshot.title, kind }

theorem id_restoredTab {s : AppState} {newDraftId : Uuid → Uuid} {home : String}
    {snapshot : WorkspaceTabSnapshot} {tab : WorkspaceTab}
    (h : s.restoredTab newDraftId home snapshot = some tab) :
    tab.id = snapshot.id ∧ tab.companionTabId = none := by
  obtain ⟨kind, _, rfl⟩ := Option.map_eq_some_iff.mp h
  exact ⟨rfl, rfl⟩

/-- With distinct ids, the first loop recreates every restorable tab in order. -/
theorem foldl_restoreTab (newDraftId : Uuid → Uuid) (home : String)
    (snapshots : List WorkspaceTabSnapshot) (s : AppState)
    (hnodup : (snapshots.map (·.id)).Nodup)
    (hnew : ∀ snapshot ∈ snapshots, snapshot.id ∉ ids s.tabs) :
    snapshots.foldl (restoreTab newDraftId home) s =
      { s with tabs := s.tabs ++ snapshots.filterMap (s.restoredTab newDraftId home) } := by
  induction snapshots generalizing s with
  | nil => simp only [List.foldl_nil, List.filterMap_nil, List.append_nil]
  | cons snapshot snapshots ih =>
    rw [List.map_cons, List.nodup_cons] at hnodup
    have hfresh : ¬(s.tabs.any (·.id == snapshot.id)) = true := by
      intro hany
      obtain ⟨tab, htab, hid⟩ := List.any_eq_true.mp hany
      exact hnew snapshot List.mem_cons_self (beq_iff_eq.mp hid ▸ List.mem_map_of_mem htab)
    have hrest : ∀ other ∈ snapshots, other.id ∉ ids s.tabs :=
      fun other hmem => hnew other (List.mem_cons_of_mem snapshot hmem)
    rw [List.foldl_cons, restoreTab, if_neg hfresh, List.filterMap_cons, restoredTab]
    cases s.restoredKind (newDraftId snapshot.id) home snapshot with
    | none => exact ih s hnodup.2 hrest
    | some kind =>
      rw [ih _ hnodup.2]
      · simp only [Option.map_some, List.append_assoc, List.singleton_append]
        rfl
      · intro other hmem hid
        rw [ids, List.map_append, List.mem_append] at hid
        rcases hid with hid | hid
        · exact hrest other hmem hid
        · have he : other.id = snapshot.id := List.mem_singleton.mp hid
          exact hnodup.1 (he ▸ List.mem_map_of_mem hmem)

theorem foldl_restoreCompanion_same (restored : List Uuid) (snapshots : List WorkspaceTabSnapshot)
    (tabs : List WorkspaceTab) :
    SameTabs tabs (snapshots.foldl (restoreCompanion restored) tabs) := by
  induction snapshots generalizing tabs with
  | nil => exact .refl tabs
  | cons snapshot snapshots ih =>
    rw [List.foldl_cons]
    refine SameTabs.trans ?_ (ih _)
    rw [restoreCompanion]
    split
    · exact .refl tabs
    · exact sameTabs_setCompanion _ _ _

/-- With distinct ids, the second loop gives each tab the link of its snapshot. -/
theorem companion?_foldl_restoreCompanion (snapshots : List WorkspaceTabSnapshot)
    (tabs : List WorkspaceTab) (restored : List Uuid) (hrestored : ids tabs = restored)
    (hnodup : (snapshots.map (·.id)).Nodup) (k : Uuid) :
    companion? (snapshots.foldl (restoreCompanion restored) tabs) k =
      match snapshots.findKey WorkspaceTabSnapshot.id k with
      | none => companion? tabs k
      | some snapshot =>
        if k ∈ restored then snapshot.companionTabId.filter restored.contains
        else companion? tabs k := by
  induction snapshots generalizing tabs with
  | nil => rfl
  | cons snapshot snapshots ih =>
    rw [List.map_cons, List.nodup_cons] at hnodup
    have hsame : SameTabs tabs (restoreCompanion restored tabs snapshot) := by
      rw [restoreCompanion]
      split
      · exact .refl tabs
      · exact sameTabs_setCompanion _ _ _
    rw [List.foldl_cons, ih _ (hsame.ids.trans hrestored) hnodup.2, List.findKey_cons]
    -- a snapshot writes the link of its own tab, if that tab was restored
    have hwrite : companion? (restoreCompanion restored tabs snapshot) k =
        if k = snapshot.id ∧ k ∈ restored then snapshot.companionTabId.filter restored.contains
        else companion? tabs k := by
      rw [restoreCompanion]
      by_cases hmem : snapshot.id ∈ restored
      · have hcontains : ¬(!restored.contains snapshot.id) = true := by
          rw [List.contains_iff_mem.mpr hmem]
          exact nofun
        rw [if_neg hcontains, companion?_setCompanion]
        by_cases hk : k = snapshot.id
        · rw [if_pos hk, if_pos (by rw [hrestored]; exact hmem), if_pos ⟨hk, hk ▸ hmem⟩]
        · rw [if_neg hk, if_neg fun hboth => hk hboth.1]
      · have hcontains : (!restored.contains snapshot.id) = true := by
          rw [Bool.not_eq_true', Bool.eq_false_iff]
          exact fun hc => hmem (List.contains_iff_mem.mp hc)
        rw [if_pos hcontains, if_neg]
        rintro ⟨rfl, hk⟩
        exact hmem hk
    rw [hwrite]
    by_cases hk : snapshot.id = k
    -- no later snapshot has the same id
    · have hlater : snapshots.findKey WorkspaceTabSnapshot.id k = none :=
        List.findKey_eq_none.mpr (hk ▸ hnodup.1)
      rw [if_pos hk, hlater]
      by_cases hmem : k ∈ restored
      · rw [if_pos ⟨hk.symm, hmem⟩]
        exact (if_pos hmem).symm
      · rw [if_neg fun hboth => hmem hboth.2]
        exact (if_neg hmem).symm
    · have hother : ¬(k = snapshot.id ∧ k ∈ restored) := fun hboth => hk hboth.1.symm
      rw [if_neg hk, if_neg hother]

/-- What a workspace file has to say for its tabs to be sound: no page twice, and links that are
    returned and join a terminal with an SFTP tab of one profile. -/
structure RestoreSafe (s : AppState) (snapshots : List WorkspaceTabSnapshot) : Prop where
  settings : (snapshots.filter s.restorable).countP (fun tab => decide (tab.kind = "settings")) ≤ 1
  editors : (snapshots.filter s.restorable).countP
    (fun tab => decide (tab.kind = "session-editor")) ≤ 1
  companions : ∀ a ∈ snapshots, s.restorable a = true → ∀ b ∈ snapshots, s.restorable b = true →
    a.companionTabId = some b.id → b.companionTabId = some a.id ∧
      (∃ profileId, a.profileId = some profileId ∧ b.profileId = some profileId) ∧
      (a.kind = "terminal" ∧ b.kind = "sftp" ∨ a.kind = "sftp" ∧ b.kind = "terminal")

theorem validate_nodup {snapshot : WorkspaceSnapshot} (h : snapshot.validate = .ok ()) :
    (snapshot.tabs.map (·.id)).Nodup := by
  by_contra hnodup
  simp only [WorkspaceSnapshot.validate, bailIf, hnodup, decide_false, Bool.not_false, if_true] at h
  revert h
  split
  · exact nofun
  · split
    · exact nofun
    · split <;> exact nofun

/-- The tabs of a restored workspace, in terms of its file. -/
theorem restoreWorkspaceTabs_spec (s : AppState) (newDraftId : Uuid → Uuid) (home : String)
    {snapshots : List WorkspaceTabSnapshot} (hnodup : (snapshots.map (·.id)).Nodup) :
    let tabs := snapshots.filterMap (s.restoredTab newDraftId home)
    (s.restoreWorkspaceTabs newDraftId home snapshots).1 =
      { s with
        tabs := snapshots.foldl (restoreCompanion (ids tabs)) tabs
        activeTabId := (ids tabs).head? } := by
  have hloop := foldl_restoreTab newDraftId home snapshots
    { s with tabs := [], activeTabId := none } hnodup fun _ _ hmem => nomatch hmem
  simp only [restoreWorkspaceTabs, hloop, List.nil_append]
  rfl

section Restored

variable (s : AppState) (newDraftId : Uuid → Uuid) (home : String)
  {snapshots : List WorkspaceTabSnapshot}

theorem restoredTab_isSome_iff (snapshot : WorkspaceTabSnapshot) :
    (s.restoredTab newDraftId home snapshot).isSome = s.restorable snapshot := by
  rw [restoredTab, Option.isSome_map]
  rcases restoredKind_cases s (newDraftId snapshot.id) home snapshot with
    ⟨hnot, hnone⟩ | ⟨hyes, kind, hkind, _⟩
  · rw [hnone, hnot]
    rfl
  · rw [hkind, hyes]
    rfl

theorem findKey_restored (hnodup : (snapshots.map (·.id)).Nodup) (k : Uuid) :
    (snapshots.filterMap (s.restoredTab newDraftId home)).findKey WorkspaceTab.id k =
      (snapshots.findKey WorkspaceTabSnapshot.id k).bind (s.restoredTab newDraftId home) :=
  List.findKey_filterMap (fun _ _ htab => (id_restoredTab htab).1) hnodup k

theorem mem_ids_restored (hnodup : (snapshots.map (·.id)).Nodup)
    {snapshot : WorkspaceTabSnapshot} (hmem : snapshot ∈ snapshots) :
    snapshot.id ∈ ids (snapshots.filterMap (s.restoredTab newDraftId home)) ↔
      s.restorable snapshot = true := by
  have hfound : snapshots.findKey WorkspaceTabSnapshot.id snapshot.id = some snapshot :=
    (List.findKey_eq_some_iff hnodup).mpr ⟨hmem, rfl⟩
  have hkey := findKey_restored s newDraftId home hnodup snapshot.id
  rw [hfound, Option.bind_some] at hkey
  rw [← restoredTab_isSome_iff s newDraftId home, ← hkey]
  exact List.findKey_isSome.symm

/-- The snapshot behind a restored id. -/
theorem exists_of_mem_ids {k : Uuid}
    (hmem : k ∈ ids (snapshots.filterMap (s.restoredTab newDraftId home))) :
    ∃ snapshot ∈ snapshots, s.restorable snapshot = true ∧ snapshot.id = k := by
  obtain ⟨tab, htab, rfl⟩ := List.mem_map.mp hmem
  obtain ⟨snapshot, hsnapshot, hrestored⟩ := List.mem_filterMap.mp htab
  refine ⟨snapshot, hsnapshot, ?_, (id_restoredTab hrestored).1.symm⟩
  rw [← restoredTab_isSome_iff s newDraftId home, hrestored]
  rfl

theorem ids_restored_sublist (snapshots : List WorkspaceTabSnapshot) :
    (ids (snapshots.filterMap (s.restoredTab newDraftId home))).Sublist
      (snapshots.map (·.id)) := by
  induction snapshots with
  | nil => exact .slnil
  | cons snapshot snapshots ih =>
    rw [List.filterMap_cons]
    split
    · exact ih.cons snapshot.id
    · rename_i tab htab
      rw [ids, List.map_cons, (id_restoredTab htab).1]
      exact ih.cons_cons snapshot.id

theorem connection?_restored (hnodup : (snapshots.map (·.id)).Nodup)
    {snapshot : WorkspaceTabSnapshot} (hmem : snapshot ∈ snapshots)
    (hrestorable : s.restorable snapshot = true) :
    connection? (snapshots.filterMap (s.restoredTab newDraftId home)) snapshot.id =
      snapshot.connection := by
  have hfound : snapshots.findKey WorkspaceTabSnapshot.id snapshot.id = some snapshot :=
    (List.findKey_eq_some_iff hnodup).mpr ⟨hmem, rfl⟩
  rw [connection?, findKey_restored s newDraftId home hnodup, hfound, Option.bind_some, restoredTab]
  rcases restoredKind_cases s (newDraftId snapshot.id) home snapshot with
    ⟨hnot, _⟩ | ⟨_, kind, hkind, _, _, hconnection⟩
  · exact nomatch hnot.symm.trans hrestorable
  · rw [hkind]
    exact hconnection

/-- A restored tab is linked as its snapshot says, if the companion was restored too. -/
theorem companion?_restored_iff (hnodup : (snapshots.map (·.id)).Nodup)
    {snapshot : WorkspaceTabSnapshot} (hmem : snapshot ∈ snapshots)
    (hrestorable : s.restorable snapshot = true) (k : Uuid) :
    companion? (snapshots.foldl (restoreCompanion
        (ids (snapshots.filterMap (s.restoredTab newDraftId home))))
      (snapshots.filterMap (s.restoredTab newDraftId home))) snapshot.id = some k ↔
      snapshot.companionTabId = some k ∧
        k ∈ ids (snapshots.filterMap (s.restoredTab newDraftId home)) := by
  have hfound : snapshots.findKey WorkspaceTabSnapshot.id snapshot.id = some snapshot :=
    (List.findKey_eq_some_iff hnodup).mpr ⟨hmem, rfl⟩
  have hrestored := (mem_ids_restored s newDraftId home hnodup hmem).mpr hrestorable
  rw [companion?_foldl_restoreCompanion snapshots _ _ rfl hnodup, hfound]
  simp only [if_pos hrestored, Option.filter_eq_some_iff, List.contains_iff_mem]

/-- The counted pages of the restored tabs are those of the file. -/
theorem countP_restored (page : WorkspaceTabKind → Bool) (name : String)
    (hpage : ∀ snapshot kind, s.restoredKind (newDraftId snapshot.id) home snapshot = some kind →
      page kind = decide (snapshot.kind = name)) :
    (snapshots.filterMap (s.restoredTab newDraftId home)).countP (fun tab => page tab.kind) =
      (snapshots.filter s.restorable).countP fun tab => decide (tab.kind = name) := by
  rw [List.countP_filterMap, List.countP_filter]
  refine List.countP_congr fun snapshot _ => ?_
  rw [restoredTab]
  rcases restoredKind_cases s (newDraftId snapshot.id) home snapshot with
    ⟨hnot, hnone⟩ | ⟨hyes, kind, hkind, _⟩
  · rw [hnone, hnot, Bool.and_false]
    exact Iff.rfl
  · rw [hkind, hyes, Bool.and_true]
    simp only [Option.map_some, Option.getD_some, hpage snapshot kind hkind]

theorem connection_pair {a b : WorkspaceTabSnapshot} :
    (∃ profileId target, a.connection = some (profileId, target) ∧
      b.connection = some (profileId, target.opposite)) ↔
    (∃ profileId, a.profileId = some profileId ∧ b.profileId = some profileId) ∧
      (a.kind = "terminal" ∧ b.kind = "sftp" ∨ a.kind = "sftp" ∧ b.kind = "terminal") := by
  -- the connection of a snapshot is its kind and its profile
  have hterminal : ∀ (tab : WorkspaceTabSnapshot) (profileId : Uuid),
      tab.connection = some (profileId, ConnectionTarget.terminal) ↔
        tab.kind = "terminal" ∧ tab.profileId = some profileId := by
    intro tab profileId
    rw [WorkspaceTabSnapshot.connection]
    split
    · simp_all
    · split <;> simp_all
  have hsftp : ∀ (tab : WorkspaceTabSnapshot) (profileId : Uuid),
      tab.connection = some (profileId, ConnectionTarget.sftp) ↔
        tab.kind = "sftp" ∧ tab.profileId = some profileId := by
    intro tab profileId
    rw [WorkspaceTabSnapshot.connection]
    split
    · simp_all
    · split <;> simp_all
  constructor
  · rintro ⟨profileId, target, ha, hb⟩
    cases target with
    | terminal =>
      obtain ⟨hak, hap⟩ := (hterminal a profileId).mp ha
      obtain ⟨hbk, hbp⟩ := (hsftp b profileId).mp hb
      exact ⟨⟨profileId, hap, hbp⟩, .inl ⟨hak, hbk⟩⟩
    | sftp =>
      obtain ⟨hak, hap⟩ := (hsftp a profileId).mp ha
      obtain ⟨hbk, hbp⟩ := (hterminal b profileId).mp hb
      exact ⟨⟨profileId, hap, hbp⟩, .inr ⟨hak, hbk⟩⟩
  · rintro ⟨⟨profileId, hap, hbp⟩, ⟨hak, hbk⟩ | ⟨hak, hbk⟩⟩
    · exact ⟨profileId, .terminal, (hterminal a profileId).mpr ⟨hak, hap⟩,
        (hsftp b profileId).mpr ⟨hbk, hbp⟩⟩
    · exact ⟨profileId, .sftp, (hsftp a profileId).mpr ⟨hak, hap⟩,
        (hterminal b profileId).mpr ⟨hbk, hbp⟩⟩

/-- The settings and editor pages of the restored tabs are counted in the file. -/
theorem countP_settings_restored :
    (snapshots.filterMap (s.restoredTab newDraftId home)).countP (·.kind.isSettings) =
      (snapshots.filter s.restorable).countP fun tab => decide (tab.kind = "settings") := by
  refine countP_restored s newDraftId home WorkspaceTabKind.isSettings "settings" ?_
  intro snapshot kind hkind
  rcases restoredKind_cases s (newDraftId snapshot.id) home snapshot with
    ⟨_, hnone⟩ | ⟨_, kind', hkind', hsettings, _⟩
  · exact nomatch hnone.symm.trans hkind
  · rw [Option.some.inj (hkind.symm.trans hkind')]
    exact hsettings

theorem countP_editors_restored :
    (snapshots.filterMap (s.restoredTab newDraftId home)).countP (·.kind.isSessionEditor) =
      (snapshots.filter s.restorable).countP fun tab => decide (tab.kind = "session-editor") := by
  refine countP_restored s newDraftId home WorkspaceTabKind.isSessionEditor "session-editor" ?_
  intro snapshot kind hkind
  rcases restoredKind_cases s (newDraftId snapshot.id) home snapshot with
    ⟨_, hnone⟩ | ⟨_, kind', hkind', _, heditor, _⟩
  · exact nomatch hnone.symm.trans hkind
  · rw [Option.some.inj (hkind.symm.trans hkind')]
    exact heditor

/-- The tabs of a restored workspace are sound exactly when its file is. -/
theorem restored_sound_iff (hnodup : (snapshots.map (·.id)).Nodup) :
    Sound (s.restoreWorkspaceTabs newDraftId home snapshots).1.tabs ↔ s.RestoreSafe snapshots := by
  rw [restoreWorkspaceTabs_spec s newDraftId home hnodup]
  have hsame := foldl_restoreCompanion_same
    (ids (snapshots.filterMap (s.restoredTab newDraftId home))) snapshots
    (snapshots.filterMap (s.restoredTab newDraftId home))
  have hsettings := hsame.settings.trans (countP_settings_restored s newDraftId home)
  have heditors := hsame.editors.trans (countP_editors_restored s newDraftId home)
  have hids : (ids (snapshots.filterMap (s.restoredTab newDraftId home))).Nodup :=
    hnodup.sublist (ids_restored_sublist s newDraftId home snapshots)
  -- the connection of a restored tab is that of its snapshot
  have hpaired : ∀ a ∈ snapshots, s.restorable a = true → ∀ b ∈ snapshots,
      s.restorable b = true → (Paired (snapshots.foldl (restoreCompanion
        (ids (snapshots.filterMap (s.restoredTab newDraftId home))))
          (snapshots.filterMap (s.restoredTab newDraftId home))) a.id b.id ↔
        (∃ profileId, a.profileId = some profileId ∧ b.profileId = some profileId) ∧
          (a.kind = "terminal" ∧ b.kind = "sftp" ∨ a.kind = "sftp" ∧ b.kind = "terminal")) := by
    intro a ha hra b hb hrb
    rw [Paired, hsame.connection, hsame.connection,
      connection?_restored s newDraftId home hnodup ha hra,
      connection?_restored s newDraftId home hnodup hb hrb]
    exact connection_pair
  constructor
  · intro h
    refine ⟨hsettings ▸ h.settings, heditors ▸ h.editors, fun a ha hra b hb hrb hab => ?_⟩
    have hlink := (companion?_restored_iff s newDraftId home hnodup ha hra b.id).mpr
      ⟨hab, (mem_ids_restored s newDraftId home hnodup hb).mpr hrb⟩
    obtain ⟨hback, hpair⟩ := h.companions a.id b.id hlink
    refine ⟨?_, (hpaired a ha hra b hb hrb).mp hpair⟩
    exact ((companion?_restored_iff s newDraftId home hnodup hb hrb a.id).mp hback).1
  · intro h
    constructor
    · rw [hsame.ids]
      exact hids
    · rw [hsettings]
      exact h.settings
    · rw [heditors]
      exact h.editors
    · intro x y hxy
      -- both ends of the link are restored snapshots
      have hx := mem_ids_of_companion? hxy
      rw [hsame.ids] at hx
      obtain ⟨a, ha, hra, rfl⟩ := exists_of_mem_ids s newDraftId home hx
      obtain ⟨hab, hy⟩ := (companion?_restored_iff s newDraftId home hnodup ha hra y).mp hxy
      obtain ⟨b, hb, hrb, rfl⟩ := exists_of_mem_ids s newDraftId home hy
      obtain ⟨hba, hpair⟩ := h.companions a ha hra b hb hrb hab
      refine ⟨?_, (hpaired a ha hra b hb hrb).mpr hpair⟩
      exact (companion?_restored_iff s newDraftId home hnodup hb hrb a.id).mpr
        ⟨hba, (mem_ids_restored s newDraftId home hnodup ha).mpr hra⟩

end Restored

/-! ## Operations -/

variable {s : AppState}

/-- A tab that is opened and shown. -/
theorem TabsOk.pushTab (h : s.TabsOk) {tab : WorkspaceTab} (hnew : tab.id ∉ ids s.tabs)
    (hfree : tab.companionTabId = none)
    (hsettings : tab.kind.isSettings = true → s.tabs.countP (·.kind.isSettings) = 0)
    (heditors : tab.kind.isSessionEditor = true → s.tabs.countP (·.kind.isSessionEditor) = 0) :
    (s.pushTab tab).TabsOk where
  sound := (h.sound.push hnew hfree hsettings heditors).perm
    (List.perm_append_singleton tab s.tabs).symm
  active id hid := by
    cases hid
    exact List.mem_map_of_mem (List.mem_append_right _ (List.mem_singleton_self tab))

/-- The same tabs, one of them shown. -/
theorem TabsOk.show (h : s.TabsOk) {id : Uuid} (hid : id ∈ ids s.tabs) :
    ({ s with activeTabId := some id } : AppState).TabsOk :=
  ⟨h.sound, fun _ he => Option.some.inj he ▸ hid⟩

theorem countP_eq_zero_of_find? {page : WorkspaceTab → Bool} (h : s.tabs.find? page = none) :
    s.tabs.countP page = 0 :=
  List.countP_eq_zero.mpr fun tab htab => List.find?_eq_none.mp h tab htab

theorem TabsOk.openSettingsTab (h : s.TabsOk) {newId : Uuid} (hnew : newId ∉ ids s.tabs) :
    (s.openSettingsTab newId).1.TabsOk := by
  rw [AppState.openSettingsTab, openSingletonTab]
  split
  · rename_i tab hfound
    exact h.show (List.mem_map_of_mem (List.mem_of_find?_eq_some hfound))
  · rename_i hnone
    have hsame : (fun tab : WorkspaceTab => tab.kind.samePage .settings) =
        fun tab => tab.kind.isSettings := by
      funext tab
      cases hkind : tab.kind <;> simp [WorkspaceTabKind.samePage, WorkspaceTabKind.isSettings,
        WorkspaceTabKind.isSessionEditor]
    rw [hsame] at hnone
    exact h.pushTab hnew rfl (fun _ => countP_eq_zero_of_find? hnone) fun he => nomatch he

theorem TabsOk.openSessionEditor (h : s.TabsOk) {newId : Uuid} (hnew : newId ∉ ids s.tabs)
    (editor : SessionEditorState) : (s.openSessionEditor newId editor).1.TabsOk := by
  rw [AppState.openSessionEditor]
  split
  · rename_i tab hfound
    have hmem : tab.id ∈ ids s.tabs := List.mem_map_of_mem (List.mem_of_find?_eq_some hfound)
    refine ⟨h.sound.replaceEditor _ editor, fun id hid => ?_⟩
    cases hid
    rw [(replaceEditor_spec _ editor s.tabs).1.ids]
    exact hmem
  · rename_i hnone
    exact h.pushTab hnew rfl (fun he => nomatch he) fun _ => countP_eq_zero_of_find? hnone

theorem TabsOk.openLocalShellTab (h : s.TabsOk) {newId : Uuid} (hnew : newId ∉ ids s.tabs) :
    (s.openLocalShellTab newId).1.TabsOk := by
  have h' : ({ s with localTerminalNumber := nextNumber s.localTerminalNumber } : AppState).TabsOk :=
    ⟨h.sound, h.active⟩
  exact h'.pushTab hnew rfl (fun he => nomatch he) fun he => nomatch he

/-- What `insert_connection_tab` looks for in a companion. -/
theorem connection_of_connectsTo {tab : WorkspaceTab} {profileId : Uuid}
    {target : ConnectionTarget} (h : tab.connectsTo profileId target = true) :
    tab.kind.connection = some (profileId, target) := by
  rw [WorkspaceTab.connectsTo, WorkspaceTab.sshConnectionTarget] at h
  cases hkind : tab.kind with
  | settings => simp [hkind] at h
  | sessionEditor editor => simp [hkind] at h
  | terminal state =>
    cases hbackend : state.backend <;>
      simp_all [WorkspaceTabKind.connection, TerminalTabState.sshRoute,
        TerminalTabState.connectionTarget, TerminalTabState.profileId]

theorem TabsOk.insertConnectionTab (h : s.TabsOk) {tab : WorkspaceTab} {profileId : Uuid}
    {target : ConnectionTarget} (hnew : tab.id ∉ ids s.tabs) (hfree : tab.companionTabId = none)
    (hkind : tab.kind.connection = some (profileId, target)) (companionTabId : Option Uuid) :
    (s.insertConnectionTab tab profileId target companionTabId).1.TabsOk := by
  have hterminal : tab.kind.isSettings = false ∧ tab.kind.isSessionEditor = false := by
    cases hk : tab.kind with
    | terminal state => exact ⟨rfl, rfl⟩
    | settings => rw [hk] at hkind; exact nomatch hkind
    | sessionEditor editor => rw [hk] at hkind; exact nomatch hkind
  have hpushed : Sound (tab :: s.tabs) := h.sound.push hnew hfree
    (fun he => nomatch hterminal.1.symm.trans he) fun he => nomatch hterminal.2.symm.trans he
  -- wherever the tab goes, the tabs are the old ones and the new one
  have hinsert : ∀ index, index ≤ s.tabs.length →
      (tab :: s.tabs).Perm (s.tabs.insertIdx index tab) :=
    fun index hle => (List.perm_insertIdx tab s.tabs hle).symm
  have hlast := hinsert s.tabs.length le_rfl
  rw [AppState.insertConnectionTab]
  cases hcompanion : companionTabId.filter fun companionTabId => s.tabs.any fun candidate =>
      candidate.id == companionTabId && candidate.connectsTo profileId target.opposite with
  | none =>
    refine ⟨hpushed.perm hlast, fun id hid => ?_⟩
    cases hid
    exact (hlast.map _).mem_iff.mp List.mem_cons_self
  | some companion =>
    obtain ⟨_, hany⟩ := Option.filter_eq_some_iff.mp hcompanion
    obtain ⟨candidate, hmem, hcandidate⟩ := List.any_eq_true.mp hany
    obtain ⟨hid, hconnects⟩ := Bool.and_eq_true_iff.mp hcandidate
    obtain rfl := beq_iff_eq.mp hid
    -- the candidate is another tab, and its connection is the opposite one
    have hcandidateId : candidate.id ∈ ids s.tabs := List.mem_map_of_mem hmem
    have hpaired : Paired (tab :: s.tabs) tab.id candidate.id := by
      refine ⟨profileId, target, ?_, ?_⟩
      · rw [connection?_cons, if_pos rfl, hkind]
      · rw [connection?_cons_of_mem hnew hcandidateId, connection?,
          (List.findKey_eq_some_iff h.sound.nodup).mpr ⟨hmem, rfl⟩]
        exact connection_of_connectsTo hconnects
    have hlinked : ∀ index, index ≤ s.tabs.length →
        ({ s with
          tabs := linkCompanions (s.tabs.insertIdx index tab) tab.id candidate.id
          activeTabId := some tab.id } : AppState).TabsOk := by
      intro index hle
      have hperm := hinsert index hle
      have hpaired' := hpaired.congr (connection?_perm hperm hpushed.nodup tab.id)
        (connection?_perm hperm hpushed.nodup candidate.id)
      refine ⟨(hpushed.perm hperm).link hpaired', fun id hid => ?_⟩
      cases hid
      show tab.id ∈ ids (linkCompanions _ _ _)
      rw [(sameTabs_linkCompanions _ _ _).ids]
      exact (hperm.map _).mem_iff.mp List.mem_cons_self
    refine hlinked _ ?_
    split
    · rename_i index hindex
      have hlt := (List.findIdx?_eq_some_iff_getElem.mp hindex).1
      cases target <;> simp only <;> omega
    · exact le_rfl

theorem TabsOk.openTerminalTab (h : s.TabsOk) {newId : Uuid} (hnew : newId ∉ ids s.tabs)
    (profile : SessionProfile) (companionTabId : Option Uuid) :
    (s.openTerminalTabWithCompanion newId profile companionTabId).1.TabsOk := by
  have h' : ∀ numbers, ({ s with terminalNumbers := numbers } : AppState).TabsOk :=
    fun _ => ⟨h.sound, h.active⟩
  refine (h' _).insertConnectionTab hnew rfl ?_ companionTabId
  cases hconnection : profile.connection <;>
    simp only [WorkspaceTabKind.connection, TerminalTabState.profileId,
      TerminalTabState.connectionTarget, Option.map_some]

theorem TabsOk.openSftpTab (h : s.TabsOk) {newId : Uuid} (hnew : newId ∉ ids s.tabs)
    (home : String) (profile : SessionProfile) (companionTabId : Option Uuid)
    (initialPath : Option String) :
    (s.openSftpTabWithCompanionAtPath newId home profile companionTabId initialPath).1.TabsOk :=
  h.insertConnectionTab hnew rfl rfl companionTabId

theorem TabsOk.activateTab (h : s.TabsOk) (tabId : Uuid) : (s.activateTab tabId).1.TabsOk := by
  rw [AppState.activateTab]
  split
  · rename_i hany
    obtain ⟨tab, htab, hid⟩ := List.any_eq_true.mp hany
    exact h.show (beq_iff_eq.mp hid ▸ List.mem_map_of_mem htab)
  · exact h

theorem TabsOk.setActiveTabFromSnapshot (h : s.TabsOk) (tabId : Option Uuid) :
    (s.setActiveTabFromSnapshot tabId).TabsOk := by
  cases tabId with
  | none => exact h
  | some tabId => exact h.activateTab tabId

theorem TabsOk.switchSshSftpTab (h : s.TabsOk) : s.switchSshSftpTab.1.TabsOk := by
  rw [AppState.switchSshSftpTab]
  split
  · exact h
  · rename_i activeTabId hactive
    split
    · exact h
    · simp only
      split
      · exact h
      · rename_i companion
        split
        · rename_i hany
          obtain ⟨tab, htab, hcandidate⟩ := List.any_eq_true.mp hany
          have hid := beq_iff_eq.mp (Bool.and_eq_true_iff.mp hcandidate).1
          exact h.show (hid ▸ List.mem_map_of_mem htab)
        · refine ⟨h.sound.unlink activeTabId, fun id hid => ?_⟩
          show id ∈ ids (unlinkCompanion _ _)
          rw [(sameTabs_unlinkCompanion _ _).ids]
          exact h.active id hid

/-- The same tabs in another order. -/
theorem TabsOk.reorder (h : s.TabsOk) {tabs : List WorkspaceTab} (hperm : s.tabs.Perm tabs) :
    ({ s with tabs } : AppState).TabsOk :=
  ⟨h.sound.perm hperm, fun id hid => (hperm.map _).mem_iff.mp (h.active id hid)⟩

/-- A tab taken out and put back somewhere. -/
theorem perm_moveTab {tabs : List WorkspaceTab} {source target : Nat} {tab : WorkspaceTab}
    (hsource : tabs[source]? = some tab) (htarget : target ≤ (tabs.eraseIdx source).length) :
    tabs.Perm ((tabs.eraseIdx source).insertIdx target tab) := by
  obtain ⟨hlt, rfl⟩ := List.getElem?_eq_some_iff.mp hsource
  have hback := List.perm_insertIdx tabs[source] (tabs.eraseIdx source) htarget
  exact (List.getElem_cons_eraseIdx_perm hlt).symm.trans hback.symm

theorem TabsOk.moveTabFor (h : s.TabsOk) (tabId : Uuid) (targetIndex : Nat)
    (visibleTabIds : List Uuid) : (s.moveTabFor tabId targetIndex visibleTabIds).1.TabsOk := by
  rw [AppState.moveTabFor]
  split
  · exact h
  · simp only
    split
    · exact h
    · split
      · exact h
      · rename_i globalSourceIndex _
        split
        · exact h
        · rename_i tab htab
          -- a position after a tab that was found is a position of the list
          have hfound : ∀ (id : Uuid) (index : Nat),
              (s.tabs.eraseIdx globalSourceIndex).findIdx? (·.id == id) = some index →
                index + 1 ≤ (s.tabs.eraseIdx globalSourceIndex).length :=
            fun id index hindex => (List.findIdx?_eq_some_iff_getElem.mp hindex).1
          split
          · exact h.reorder (perm_moveTab htab (Nat.min_le_right _ _))
          · rename_i index hindex
            refine h.reorder (perm_moveTab htab ?_)
            split at hindex
            · have := hfound _ _ hindex
              omega
            · split at hindex
              · obtain ⟨previous, hprevious, rfl⟩ := Option.map_eq_some_iff.mp hindex
                exact hfound _ _ hprevious
              · cases hindex
                exact Nat.zero_le _

theorem TabsOk.closeTab (h : s.TabsOk) (tabId : Uuid) : (s.closeTab tabId).1.TabsOk := by
  rw [AppState.closeTab]
  split
  · exact h
  · rename_i index hindex
    obtain ⟨hlt, hid, _⟩ := List.findIdx?_eq_some_iff_getElem.mp hindex
    obtain rfl := beq_iff_eq.mp hid
    have hperm := (List.getElem_cons_eraseIdx_perm hlt).symm
    have hclosed := h.sound.perm hperm
    have hcompanion : companion? s.tabs s.tabs[index].id = s.tabs[index].companionTabId := by
      rw [← companion?_perm hperm h.sound.nodup, companion?_cons, if_pos rfl]
    have hids := (sameTabs_releaseCompanion s.tabs[index].companionTabId s.tabs[index].id
      (s.tabs.eraseIdx index)).ids
    simp only [hcompanion]
    refine ⟨hclosed.remove, fun id hactive => ?_⟩
    show id ∈ ids (releaseCompanion _ _ _)
    change (if _ then _ else _) = some id at hactive
    split at hactive
    · -- the tab that takes the place of the closed one, or the last one
      obtain ⟨tab, htab, rfl⟩ := Option.map_eq_some_iff.mp hactive
      refine List.mem_map_of_mem ?_
      rcases Option.or_eq_some_iff.mp htab with hnext | ⟨_, hlast⟩
      · exact List.mem_of_getElem? hnext
      · exact List.mem_of_getLast? hlast
    · rename_i hother
      rw [hids]
      have hmem : id ∈ ids (s.tabs[index] :: s.tabs.eraseIdx index) :=
        (hperm.map _).mem_iff.mp (h.active id hactive)
      rcases List.mem_cons.mp hmem with rfl | hmem
      · exact absurd hactive hother
      · exact hmem

/-- A restored workspace shows its first tab, so all depends on the tabs of the file. -/
theorem restoreWorkspaceTabs_tabsOk_iff (s : AppState) (newDraftId : Uuid → Uuid) (home : String)
    {snapshots : List WorkspaceTabSnapshot} (hnodup : (snapshots.map (·.id)).Nodup) :
    (s.restoreWorkspaceTabs newDraftId home snapshots).1.TabsOk ↔ s.RestoreSafe snapshots := by
  rw [← restored_sound_iff s newDraftId home hnodup]
  refine ⟨fun h => h.sound, fun h => ⟨h, fun id hid => ?_⟩⟩
  rw [restoreWorkspaceTabs_spec s newDraftId home hnodup] at hid ⊢
  show id ∈ ids (snapshots.foldl _ _)
  rw [(foldl_restoreCompanion_same _ _ _).ids]
  exact List.mem_of_mem_head? hid

/-! ## Runs -/

/-- The inputs the operations get: ids from `Uuid::new_v4` are new, and a workspace file passes
    its validation before it is restored. -/
def Admissible (s : AppState) : TabOp → Prop
  | .openSettingsTab newId | .openSessionEditorTab newId _ | .openSessionEditorForGroup newId _ _
  | .openSessionEditorForProfile newId _ _ | .openTerminalTab newId _ _
  | .openSftpTab newId _ _ _ _ | .openLocalShellTab newId => newId ∉ ids s.tabs
  | .restoreWorkspaceTabs snapshot _ _ => snapshot.validate = .ok ()
  | _ => True

/-- Every workspace file that is restored is sound. -/
def RestoresSafely (s : AppState) : TabOp → Prop
  | .restoreWorkspaceTabs snapshot _ _ => s.RestoreSafe snapshot.tabs
  | _ => True

theorem new_tabsOk (sessions : List SessionProfile) : (new sessions).TabsOk where
  sound := ⟨List.nodup_nil, Nat.zero_le 1, Nat.zero_le 1, fun _ _ hlink => nomatch hlink⟩
  active _ hid := nomatch hid

/-- Only a restored workspace can break the invariant. -/
theorem step_tabsOk_iff (h : s.TabsOk) {op : TabOp} (hadmissible : s.Admissible op) :
    (s.step op).TabsOk ↔ s.RestoresSafely op := by
  cases op with
  | openSettingsTab newId => exact iff_of_true (h.openSettingsTab hadmissible) trivial
  | openSessionEditorTab newId draftId =>
    exact iff_of_true (h.openSessionEditor hadmissible _) trivial
  | openSessionEditorForGroup newId draftId groupName =>
    exact iff_of_true (h.openSessionEditor hadmissible _) trivial
  | openSessionEditorForProfile newId draftId profileId =>
    refine iff_of_true ?_ trivial
    rw [step, openSessionEditorForProfile]
    split
    · exact h
    · exact h.openSessionEditor hadmissible _
  | openTerminalTab newId profile companionTabId =>
    exact iff_of_true (h.openTerminalTab hadmissible profile companionTabId) trivial
  | openSftpTab newId home profile companionTabId initialPath =>
    exact iff_of_true (h.openSftpTab hadmissible home profile companionTabId initialPath) trivial
  | openLocalShellTab newId => exact iff_of_true (h.openLocalShellTab hadmissible) trivial
  | activateTab tabId => exact iff_of_true (h.activateTab tabId) trivial
  | setActiveTabFromSnapshot tabId => exact iff_of_true (h.setActiveTabFromSnapshot tabId) trivial
  | switchSshSftpTab => exact iff_of_true h.switchSshSftpTab trivial
  | moveTabFor tabId targetIndex visibleTabIds =>
    exact iff_of_true (h.moveTabFor tabId targetIndex visibleTabIds) trivial
  | closeTab tabId => exact iff_of_true (h.closeTab tabId) trivial
  | restoreWorkspaceTabs snapshot newDraftId home =>
    exact s.restoreWorkspaceTabs_tabsOk_iff newDraftId home (validate_nodup hadmissible)
  | saveSessions sessions => exact iff_of_true ⟨h.sound, h.active⟩ trivial

/-- The tabs are sound throughout exactly the runs whose restored files are. -/
theorem tabsOk_throughout_iff (sessions : List SessionProfile) (ops : List TabOp)
    (hadmissible : AllSafe step (new sessions) Admissible ops) :
    Throughout step (new sessions) TabsOk ops ↔
      AllSafe step (new sessions) RestoresSafely ops :=
  throughout_iff_allSafe (new_tabsOk sessions) fun pre op hpre h =>
    step_tabsOk_iff h (hadmissible pre op hpre)

/-- A file with two Settings tabs. -/
def twoSettings : WorkspaceSnapshot :=
  { version := 1, tabs := [{ id := 1, kind := "settings" }, { id := 2, kind := "settings" }] }

/-- An SSH terminal and its SFTP tab, and after them a restored Settings tab. -/
def tabRun : List TabOp :=
  let profile : SessionProfile := { id := 7, name := "host", connection := .ssh "" }
  [.openTerminalTab 1 profile none, .openSftpTab 2 "/" profile (some 1) none,
    .restoreWorkspaceTabs { version := 1, tabs := [{ id := 1, kind := "settings" }] } id "/"]

theorem tabsOk_throughout_tabRun : AllSafe step (new []) Admissible tabRun ∧
    (Throughout step (new []) TabsOk tabRun ↔ AllSafe step (new []) RestoresSafely tabRun) := by
  have hadmissible : AllSafe step (new []) Admissible tabRun := by
    simp only [tabRun, allSafe_cons_iff]
    refine ⟨List.not_mem_nil, ?_, rfl, allSafe_nil⟩
    show ¬(2 : Uuid) ∈ ids _
    decide
  exact ⟨hadmissible, tabsOk_throughout_iff [] tabRun hadmissible⟩

/-- `validate` accepts two Settings tabs, and both are restored. -/
theorem two_settings_restored : AllSafe step (new []) Admissible
      [.restoreWorkspaceTabs twoSettings id "/"] ∧
    ¬Throughout step (new []) TabsOk [.restoreWorkspaceTabs twoSettings id "/"] := by
  refine ⟨allSafe_cons_iff.mpr ⟨rfl, allSafe_nil⟩, fun h => ?_⟩
  have hsettings := (h _ (List.prefix_refl _)).sound.settings
  exact absurd hsettings (by decide)

end AppState

end AxSsh
