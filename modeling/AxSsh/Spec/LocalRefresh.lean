import AxSsh.Spec.AutoRefresh

/-!
# Automatic refreshes of the local view

The local view refreshes itself as the remote one does.  What differs is who looks for a refresh
that was put off: the task that has applied its listing does it under a lock of its own, so the
view may be asked for something else before.

## Key results
- `LocalPane.sound`: every action keeps its part
- `refreshes_in_safe_runs`: both views are refreshed as they should be
-/

namespace AxSsh

namespace LocalDirectoryState

/-- The state that waits for the answer to a navigation. -/
def awaiting (l : LocalDirectoryState) (pending : PendingSftpNavigation) : LocalDirectoryState :=
  { l with
    pendingNavigation := some pending
    requestId := l.requestId + 1
    loading := true
    status := "Loading local directory..." }

theorem beginRequest_refresh {l : LocalDirectoryState} (hidle : l.loading = false)
    (hask : AsksItself l.path) :
    l.beginRequest .direct (some l.path) =
      (.ok (some (l.requestId + 1, l.path)), l.awaiting (refreshOf l.path)) := by
  rw [beginRequest, beginNavigation, hidle, if_neg Bool.false_ne_true]
  simp only [requestedPath, hask.1, if_neg hask.2]
  rfl

/-- A request leaves the view waiting for it, an error leaves it alone. -/
theorem beginRequest_outcome (l : LocalDirectoryState) (kind : SftpNavigation)
    (path : Option String) :
    (∃ pending request, l.loading = false ∧ request.1 = l.requestId + 1 ∧
        l.beginRequest kind path = (.ok (some request), l.awaiting pending)) ∨
      ∃ message, l.beginRequest kind path = (.error message, l) := by
  rw [beginRequest, beginNavigation]
  obtain hbusy | hidle := Bool.eq_false_or_eq_true l.loading
  · rw [if_pos hbusy]
    exact .inr ⟨_, rfl⟩
  · rw [if_neg (by simp [hidle])]
    cases l.requestedPath kind path with
    | error message => exact .inr ⟨_, rfl⟩
    | ok requested =>
      dsimp only
      by_cases hempty : requested = ""
      · rw [if_pos hempty]
        exact .inr ⟨_, rfl⟩
      · rw [if_neg hempty]
        exact .inl ⟨{ kind, «from» := l.path, requested }, (l.requestId + 1, requested), hidle,
          rfl, rfl⟩

/-- Something is shown, or about to be. -/
def Showing (l : LocalDirectoryState) : Prop := l.loaded = true ∨ l.loading = true

theorem not_showing_iff (l : LocalDirectoryState) :
    (!l.loaded && !l.loading) = true ↔ ¬l.Showing := by
  simp [Showing]

/-- A change is told: the directory is asked for, the refresh is put off, or the change is not of
    the shown directory. -/
theorem localChange_cases {l : LocalDirectoryState} {directory : String}
    (hask : l.Showing ∧ l.path = directory → l.loading = false → AsksItself l.path) :
    ((l.Showing ∧ l.path = directory) ∧ l.loading = false) ∧
        l.beginRefreshAfterLocalChange directory =
          (.ok (some (l.requestId + 1, l.path)), l.awaiting (refreshOf l.path)) ∨
      ((l.Showing ∧ l.path = directory) ∧ l.loading = true) ∧
        l.beginRefreshAfterLocalChange directory =
          (.ok none, { l with pendingAutoRefresh := some l.path }) ∨
      ¬(l.Showing ∧ l.path = directory) ∧
        l.beginRefreshAfterLocalChange directory = (.ok none, l) := by
  rw [beginRefreshAfterLocalChange]
  by_cases hshown : l.Showing ∧ l.path = directory
  -- the guard of the source is the negation of what is shown
  · have hguard : ¬(((!l.loaded && !l.loading) || l.path != directory) = true) := by
      rw [Bool.or_eq_true, not_showing_iff, bne_iff_ne]
      exact fun h => h.elim (fun hnot => hnot hshown.1) fun hne => hne hshown.2
    rw [if_neg hguard]
    obtain hbusy | hidle := Bool.eq_false_or_eq_true l.loading
    · rw [if_pos hbusy, ← hshown.2]
      exact .inr (.inl ⟨⟨⟨hshown.1, rfl⟩, hbusy⟩, rfl⟩)
    · rw [if_neg (by simp [hidle]), ← hshown.2]
      exact .inl ⟨⟨⟨hshown.1, rfl⟩, hidle⟩, beginRequest_refresh hidle (hask hshown hidle)⟩
  · refine .inr (.inr ⟨hshown, if_pos ?_⟩)
    rw [Bool.or_eq_true, not_showing_iff, bne_iff_ne]
    by_cases hshowing : l.Showing
    · exact .inr fun hpath => hshown ⟨hshowing, hpath⟩
    · exact .inl hshowing

/-- The download went into the shown directory. -/
def Holds (l : LocalDirectoryState) (path : PathBuf) : Prop :=
  l.Showing ∧ l.path ≠ "" ∧ pathStartsWith path l.path = true

theorem beginRefreshAfterDownload_eq {l : LocalDirectoryState} {path : PathBuf} (h : l.Holds path) :
    l.beginRefreshAfterDownload path = l.beginRefreshAfterLocalChange l.path := by
  rw [beginRefreshAfterDownload, if_neg]
  rw [Bool.or_eq_true, Bool.or_eq_true, not_showing_iff]
  simp only [beq_iff_eq, Bool.not_eq_true', h.2.2]
  exact fun hno => hno.elim (fun hno => hno.elim (fun hnot => hnot h.1) h.2.1) nofun

theorem beginRefreshAfterDownload_elsewhere {l : LocalDirectoryState} {path : PathBuf}
    (h : ¬l.Holds path) : l.beginRefreshAfterDownload path = (.ok none, l) := by
  rw [beginRefreshAfterDownload, if_pos]
  rw [Bool.or_eq_true, Bool.or_eq_true, not_showing_iff]
  simp only [beq_iff_eq, Bool.not_eq_true']
  -- each disjunct of the guard says that one part of `Holds` fails
  by_contra hno
  obtain ⟨hno, hpath⟩ := not_or.mp hno
  obtain ⟨hshowing, hne⟩ := not_or.mp hno
  exact h ⟨not_not.mp hshowing, hne, Bool.eq_true_of_not_eq_false hpath⟩

/-- A refresh that was put off is due. -/
def PutOffDue (l : LocalDirectoryState) : Prop :=
  l.pendingAutoRefresh = some l.path ∧ l.loading = false

theorem pendingRefresh_cases {l : LocalDirectoryState} (hask : l.PutOffDue → AsksItself l.path) :
    l.PutOffDue ∧ l.beginPendingAutoRefresh =
        (.ok (some (l.requestId + 1, l.path)),
          ({ l with pendingAutoRefresh := none }).awaiting (refreshOf l.path)) ∨
      l.loading = true ∧ l.beginPendingAutoRefresh = (.ok none, l) ∨
      (l.loading = false ∧ ¬l.PutOffDue) ∧
        l.beginPendingAutoRefresh = (.ok none, { l with pendingAutoRefresh := none }) := by
  rw [beginPendingAutoRefresh]
  obtain hbusy | hidle := Bool.eq_false_or_eq_true l.loading
  · rw [if_pos hbusy]
    exact .inr (.inl ⟨hbusy, rfl⟩)
  rw [if_neg (by simp [hidle])]
  split
  · rename_i hslot
    refine .inr (.inr ⟨⟨hidle, fun hdue => ?_⟩, ?_⟩)
    · rw [hdue.1] at hslot
      cases hslot
    · rw [← hslot]
  · rename_i directory hslot
    dsimp only
    by_cases hpath : l.path = directory
    -- the slot is emptied before the request goes out
    · have hdue : l.PutOffDue := ⟨by rw [hslot, hpath], hidle⟩
      rw [if_neg (by simp [hpath]), ← hpath]
      exact .inl ⟨hdue, beginRequest_refresh (l := { l with pendingAutoRefresh := none }) hidle
        (hask hdue)⟩
    · rw [if_pos (by simp [hpath])]
      refine .inr (.inr ⟨⟨hidle, fun hdue => hpath ?_⟩, rfl⟩)
      rw [hdue.1] at hslot
      exact Option.some.inj hslot

/-- The user has asked for another directory than the shown one. -/
def Elsewhere (l : LocalDirectoryState) : Prop :=
  ∃ pending, l.pendingNavigation = some pending ∧ pending.requested ≠ l.path

/-- The same for a view but for its slot and for what no refresh reads. -/
structure Kept (l l' : LocalDirectoryState) : Prop where
  loaded : l'.loaded = l.loaded
  loading : l'.loading = l.loading
  path : l'.path = l.path
  back : l'.backHistory = l.backHistory
  forward : l'.forwardHistory = l.forwardHistory
  pending : l'.pendingNavigation = l.pendingNavigation
  requestId : l'.requestId = l.requestId

theorem Kept.refl (l : LocalDirectoryState) : l.Kept l := ⟨rfl, rfl, rfl, rfl, rfl, rfl, rfl⟩

/-- The same for a view with its slot. -/
def Same (l l' : LocalDirectoryState) : Prop :=
  l.Kept l' ∧ l'.pendingAutoRefresh = l.pendingAutoRefresh

theorem Same.refl (l : LocalDirectoryState) : l.Same l := ⟨.refl l, rfl⟩

theorem loadMore_same (l : LocalDirectoryState) : l.Same l.loadMore.1 := by
  rw [loadMore]
  split
  · exact .refl l
  · exact ⟨⟨rfl, rfl, rfl, rfl, rfl, rfl, rfl⟩, rfl⟩

theorem resort_same (lower : String → String) (l : LocalDirectoryState) :
    l.Same (l.resort lower) := by
  rw [resort]
  obtain ⟨hkept, hslot⟩ := loadMore_same { l with
    pendingEntries := sortLocalEntries lower (l.entries ++ l.pendingEntries) l.sort
    entries := []
    hasMore := false }
  exact ⟨⟨hkept.loaded, hkept.loading, hkept.path, hkept.back, hkept.forward, hkept.pending,
    hkept.requestId⟩, hslot⟩

theorem toggleLocalSort_same (lower : String → String) (l : LocalDirectoryState)
    (column : String) : l.Same (l.toggleLocalSort lower column).1 := by
  rw [toggleLocalSort]
  split
  · exact .refl l
  · rename_i sort _
    obtain ⟨hkept, hslot⟩ := resort_same lower { l with sort }
    exact ⟨⟨hkept.loaded, hkept.loading, hkept.path, hkept.back, hkept.forward, hkept.pending,
      hkept.requestId⟩, hslot⟩

theorem toggleSelection_kept (l : LocalDirectoryState) (path : String) (selected : Bool) :
    l.Same (l.toggleSelection path selected).1 := by
  rw [toggleSelection]
  split
  · exact .refl l
  · exact ⟨⟨rfl, rfl, rfl, rfl, rfl, rfl, rfl⟩, rfl⟩

theorem markWatcherRunning_same (l : LocalDirectoryState) : l.Same l.markWatcherRunning := by
  rw [markWatcherRunning]
  split
  · exact .refl l
  · exact ⟨⟨rfl, rfl, rfl, rfl, rfl, rfl, rfl⟩, rfl⟩

theorem markWatcherStopped_same (l : LocalDirectoryState) : l.Same l.markWatcherStopped :=
  ⟨⟨rfl, rfl, rfl, rfl, rfl, rfl, rfl⟩, rfl⟩

theorem selectAll_same (l : LocalDirectoryState) (selected : Bool) :
    l.Same (l.selectAll selected) := ⟨⟨rfl, rfl, rfl, rfl, rfl, rfl, rfl⟩, rfl⟩

theorem resetRequests_loading (l : LocalDirectoryState) : l.resetRequests.loading = false := by
  obtain hbusy | hidle := Bool.eq_false_or_eq_true l.loading
  · rw [resetRequests, SftpDirectoryState.reset]
    simp only [hbusy, if_true]
    split <;> rfl
  · rw [resetRequests, SftpDirectoryState.reset]
    simp [hidle]

/-- The histories after the listing of a path. -/
def completed (l : LocalDirectoryState) (path : String) : List String × List String :=
  completeDirectoryHistory l.pendingNavigation path l.backHistory l.forwardHistory

/-- What a listing leaves of the view. -/
structure Completed (l l' : LocalDirectoryState) (path : String) : Prop where
  loading : l'.loading = false
  path_eq : l'.path = path
  back : l'.backHistory = (l.completed path).1
  forward : l'.forwardHistory = (l.completed path).2
  slot : l'.pendingAutoRefresh = l.pendingAutoRefresh

theorem complete_completed (lower : String → String) (l : LocalDirectoryState) (path : String)
    (entries : List LocalDirectoryEntry) (truncated : Bool) (skippedEntries : Nat) :
    l.Completed (l.complete lower path entries truncated skippedEntries) path := by
  rw [complete]
  generalize hlisted : ({ l with
    pendingNavigation := none
    backHistory := (completeDirectoryHistory l.pendingNavigation path l.backHistory
      l.forwardHistory).1
    forwardHistory := (completeDirectoryHistory l.pendingNavigation path l.backHistory
      l.forwardHistory).2
    selected := if l.path ≠ path then ∅ else l.selected
    loading := false
    loaded := true
    path
    entries := []
    pendingEntries := entries
    truncated
    skippedEntries } : LocalDirectoryState) = listed
  -- sorting again touches the entries only
  obtain ⟨hkept, hslot⟩ := resort_same lower listed
  subst hlisted
  exact ⟨hkept.loading, hkept.path, hkept.back, hkept.forward, hslot⟩

end LocalDirectoryState

namespace LocalPane

/-! ## The view from outside -/

/-- A task lists what the view waits for. -/
def Owed (p : LocalPane) : Prop := ∃ path, (p.view.requestId, path) ∈ p.listing

/-- A refresh is put off, and a task that will look for it is at work. -/
structure PutOff (p : LocalPane) : Prop where
  slot : p.view.pendingAutoRefresh = some p.view.path
  task : p.view.loading = true ∧ p.Owed ∨ p.view.loading = false ∧ 0 < p.applied

/-- The path of the listing that the view takes. -/
def arrives (p : LocalPane) : LocalAction → Option String
  | .listed request (.listed path ..) =>
    if p.listing.contains request ∧ p.view.requestId = request.1 then some path else none
  | _ => none

/-- A change of the shown directory is told. -/
def Notified (p : LocalPane) : LocalAction → Prop
  | .downloaded path => p.view.Holds path
  | .watched directory => p.view.Showing ∧ p.view.path = directory
  | _ => False

/-- The connection closes. -/
def Closes : LocalAction → Prop
  | .reset => True
  | _ => False

/-- The outstanding listing is answered, or there is none any more. -/
def Concludes (p : LocalPane) (action : LocalAction) : Prop :=
  Closes action ∨ match action with
    | .listed request _ => request ∈ p.listing ∧ p.view.requestId = request.1
    | _ => False

/-- The user leaves the shown directory: the other one that was asked for arrives. -/
def Leaves (p : LocalPane) (action : LocalAction) : Prop :=
  (∃ path, p.arrives action = some path ∧ path ≠ p.view.path) ∧ p.view.Elsewhere

/-- The local view as one that is refreshed on its own. -/
def refresher (lower : String → String) :
    Refresher LocalPane LocalAction String (List String × List String) where
  step p action := (p.act lower action).2
  shown p := p.view.path
  history p := (p.view.backHistory, p.view.forwardHistory)
  request p action := (p.act lower action).1.map Prod.snd
  taken _ _ := True
  notified := Notified
  answered := arrives
  concludes := Concludes
  ends p action := p.Leaves action ∨ Closes action
  putOff := PutOff

/-- The action is about to make an automatic request. -/
def Asks (p : LocalPane) : LocalAction → Prop
  | .downloaded path => p.view.Holds path ∧ p.view.loading = false
  | .watched directory =>
    (p.view.Showing ∧ p.view.path = directory) ∧ p.view.loading = false
  | .pending => 0 < p.applied ∧ p.view.PutOffDue
  | _ => False

/-- An automatic request is made of a path that is its own trim, and where a refresh is put off,
    the shown directory arrives under the path that is shown, unless the user goes elsewhere. -/
structure Safe (p : LocalPane) (action : LocalAction) : Prop where
  asks : p.Asks action → AsksItself p.view.path
  named : ∀ path, p.arrives action = some path →
    p.view.pendingAutoRefresh = some p.view.path → path = p.view.path ∨ p.view.Elsewhere

/-- An automatic request is outstanding. -/
structure Refreshing (path : String) (history : List String × List String) (p : LocalPane) :
    Prop where
  loading : p.view.loading = true
  path_eq : p.view.path = path
  history_eq : (p.view.backHistory, p.view.forwardHistory) = history
  pending : p.view.pendingNavigation = some (refreshOf path)

/-- While the view waits, a task lists for it. -/
def Answered (p : LocalPane) : Prop := p.view.loading = true → p.Owed

/-! ## Actions -/

section

variable {lower : String → String} {p : LocalPane} {action : LocalAction}

theorem owed_of_kept {view : LocalDirectoryState} (h : p.Owed) (hkept : p.view.Kept view)
    (applied : Nat) : ({ p with view, applied } : LocalPane).Owed := by
  rw [Owed, hkept.requestId]
  exact h

theorem answered_of_kept {view : LocalDirectoryState} (h : p.Answered) (hkept : p.view.Kept view)
    (applied : Nat) : ({ p with view, applied } : LocalPane).Answered :=
  fun hloading => owed_of_kept (h (hkept.loading ▸ hloading)) hkept applied

/-- A request has its task. -/
theorem owed_load (q : LocalPane) (view : LocalDirectoryState) {request : DirectoryRequest}
    (h : request.1 = view.requestId) :
    (q.load (.ok (some request), view)).2.Owed := by
  have hmem : (view.requestId, request.2) ∈ [request] := by
    rw [← h]
    exact List.mem_singleton_self _
  exact ⟨request.2, List.mem_append_right _ hmem⟩

/-- What an action does that tells of a change: the directory is asked for, the refresh is put
    off, or the change is not of the shown directory. -/
def Tells (lower : String → String) (p : LocalPane) (action : LocalAction) : Prop :=
  p.Asks action ∧ p.act lower action =
      p.load (.ok (some (p.view.requestId + 1, p.view.path)),
        p.view.awaiting (refreshOf p.view.path)) ∨
    (p.Notified action ∧ p.view.loading = true) ∧ p.act lower action =
      (none, { p with view := { p.view with pendingAutoRefresh := some p.view.path } }) ∨
    ¬p.Notified action ∧ p.act lower action = (none, p)

theorem watched_tells (lower : String → String) {directory : String}
    (hsafe : p.Safe (.watched directory)) :
    p.Tells lower (.watched directory) := by
  rcases p.view.localChange_cases fun hshown hidle => hsafe.asks ⟨hshown, hidle⟩ with
    ⟨hdue, hchange⟩ | ⟨hbusy, hchange⟩ | ⟨hnot, hchange⟩
  · exact .inl ⟨hdue, by rw [act, hchange]⟩
  · exact .inr (.inl ⟨hbusy, by rw [act, hchange]; rfl⟩)
  · exact .inr (.inr ⟨hnot, by rw [act, hchange]; rfl⟩)

theorem downloaded_tells (lower : String → String) {path : PathBuf}
    (hsafe : p.Safe (.downloaded path)) :
    p.Tells lower (.downloaded path) := by
  by_cases hholds : p.view.Holds path
  · have heq := LocalDirectoryState.beginRefreshAfterDownload_eq hholds
    rcases p.view.localChange_cases fun _ hidle => hsafe.asks ⟨hholds, hidle⟩ with
      ⟨⟨-, hidle⟩, hchange⟩ | ⟨⟨-, hbusy⟩, hchange⟩ | ⟨hnot, -⟩
    · exact .inl ⟨⟨hholds, hidle⟩, by rw [act, heq, hchange]⟩
    · exact .inr (.inl ⟨⟨hholds, hbusy⟩, by rw [act, heq, hchange]; rfl⟩)
    · exact absurd ⟨hholds.1, rfl⟩ hnot
  · refine .inr (.inr ⟨hholds, ?_⟩)
    rw [act, LocalDirectoryState.beginRefreshAfterDownload_elsewhere hholds]
    rfl

/-- A told change does not ask while something is outstanding. -/
theorem not_asks_of_loading (hbusy : p.view.loading = true) : ¬p.Asks action := by
  intro hasks
  have hidle : p.view.loading = false := by
    cases action with
    | downloaded path => exact hasks.2
    | watched directory => exact hasks.2
    | pending => exact hasks.2.2
    | navigate | listed | markWatcherRunning | markWatcherStopped | loadMore | toggleSort
    | toggleSelection | selectAll | reset => cases hasks
  rw [hidle] at hbusy
  cases hbusy

theorem safe_told_of_loading (hbusy : p.view.loading = true)
    (htold : ∀ path, p.arrives action ≠ some path) : p.Safe action :=
  ⟨fun hasks => absurd hasks (not_asks_of_loading hbusy),
    fun path harrives => absurd harrives (htold path)⟩

/-- What is put off after an action that goes on waiting. -/
def SlotKept (l l' : LocalDirectoryState) : Prop :=
  l'.pendingAutoRefresh = l.pendingAutoRefresh ∨ l'.pendingAutoRefresh = some l.path

/-- What an action leaves that does not conclude what is outstanding. -/
structure Waits (lower : String → String) (p : LocalPane) (action : LocalAction) : Prop where
  none : (p.act lower action).1 = none
  kept : p.view.Kept (p.act lower action).2.view
  slot : SlotKept p.view (p.act lower action).2.view
  owed : p.Owed → (p.act lower action).2.Owed

theorem Tells.waits (h : p.Tells lower action) (hbusy : p.view.loading = true) :
    p.Waits lower action := by
  rcases h with ⟨hasks, -⟩ | ⟨-, heq⟩ | ⟨-, heq⟩
  · exact absurd hasks (not_asks_of_loading hbusy)
  · constructor
    all_goals rw [heq]
    · exact ⟨rfl, rfl, rfl, rfl, rfl, rfl, rfl⟩
    · exact .inr rfl
    · exact id
  · constructor
    all_goals rw [heq]
    · exact .refl p.view
    · exact .inl rfl
    · exact id

theorem waits_of_same {view : LocalDirectoryState} (hsame : p.view.Same view)
    (heq : p.act lower action = (none, { p with view })) : p.Waits lower action := by
  constructor
  all_goals rw [heq]
  · exact hsame.1
  · exact .inl hsame.2
  · exact fun howed => owed_of_kept howed hsame.1 p.applied

/-- The listing of an older request, or of a task that is gone. -/
theorem apply_ignored (lower : String → String) {request : DirectoryRequest}
    {outcome : LocalOutcome} (h : ¬p.Concludes (.listed request outcome)) :
    (p.apply lower request outcome).view = p.view ∧
      (p.apply lower request outcome).applied = p.applied ∧
      (p.Owed → (p.apply lower request outcome).Owed) := by
  have hnot : request ∈ p.listing → p.view.requestId ≠ request.1 :=
    fun hmem hid => h (.inr ⟨hmem, hid⟩)
  rw [apply]
  split
  · exact ⟨rfl, rfl, id⟩
  · rename_i hmem
    have hid := hnot (not_not.mp hmem)
    rw [if_pos hid]
    refine ⟨rfl, rfl, fun ⟨path, howed⟩ => ⟨path, (List.mem_erase_of_ne ?_).mpr howed⟩⟩
    intro heq
    exact hid (congrArg Prod.fst heq)

/-- While something is outstanding, an action that does not conclude it changes nothing but the
    slot. -/
theorem act_waiting (lower : String → String) (hbusy : p.view.loading = true)
    (hgoes : ¬p.Concludes action) :
    p.Waits lower action := by
  cases action with
  | navigate kind path =>
    refine waits_of_same (.refl p.view) ?_
    rcases p.view.beginRequest_outcome kind path with ⟨_, _, hidle, -⟩ | ⟨message, heq⟩
    · rw [hidle] at hbusy
      cases hbusy
    · rw [act, heq]
      rfl
  | downloaded path =>
    exact (downloaded_tells lower (safe_told_of_loading hbusy nofun)).waits hbusy
  | watched directory =>
    exact (watched_tells lower (safe_told_of_loading hbusy nofun)).waits hbusy
  | listed request outcome =>
    obtain ⟨hview, -, howed⟩ := apply_ignored lower hgoes
    constructor
    · rfl
    · show p.view.Kept (p.apply lower request outcome).view
      rw [hview]
      exact .refl p.view
    · show SlotKept p.view (p.apply lower request outcome).view
      rw [hview]
      exact .inl rfl
    · exact howed
  -- another task may have applied a listing before: it finds the view waiting
  | pending =>
    have hpending : p.view.beginPendingAutoRefresh = (.ok none, p.view) := by
      rw [LocalDirectoryState.beginPendingAutoRefresh, if_pos hbusy]
    by_cases hnone : p.applied = 0
    · exact waits_of_same (.refl p.view) (by rw [act, if_pos hnone])
    · constructor
      all_goals rw [act, if_neg hnone, hpending]
      · rfl
      · exact .refl p.view
      · exact .inl rfl
      · exact id
  | markWatcherRunning => exact waits_of_same (p.view.markWatcherRunning_same) rfl
  | markWatcherStopped => exact waits_of_same p.view.markWatcherStopped_same rfl
  | loadMore => exact waits_of_same p.view.loadMore_same rfl
  | toggleSort column => exact waits_of_same (p.view.toggleLocalSort_same lower column) rfl
  | toggleSelection path selected =>
    exact waits_of_same (p.view.toggleSelection_kept path selected) rfl
  | selectAll selected => exact waits_of_same (p.view.selectAll_same selected) rfl
  | reset => exact absurd (.inl trivial) hgoes

/-- What the view makes of the listing it waits for. -/
theorem apply_awaited (lower : String → String) {request : DirectoryRequest}
    (outcome : LocalOutcome) (hmem : request ∈ p.listing) (hid : p.view.requestId = request.1) :
    (p.apply lower request outcome).applied = p.applied + 1 ∧
      match outcome with
      | .listed path .. => p.view.Completed (p.apply lower request outcome).view path
      | .failed message => (p.apply lower request outcome).view = p.view.fail message := by
  rw [apply, if_neg (not_not.mpr hmem)]
  dsimp only
  rw [if_neg (not_not.mpr hid)]
  refine ⟨rfl, ?_⟩
  cases outcome with
  | listed path entries truncated skippedEntries =>
    dsimp only
    rw [LocalDirectoryState.applyLocalDirectoryListing, if_neg (not_not.mpr hid)]
    exact p.view.complete_completed lower path entries truncated skippedEntries
  | failed message =>
    dsimp only
    rw [LocalDirectoryState.applyLocalDirectoryFailure, if_neg (not_not.mpr hid)]

/-! ## Automatic requests -/

/-- What the task does that has applied its listing. -/
theorem pending_cases (lower : String → String) (hsafe : p.Safe .pending) :
    p.Asks .pending ∧ p.act lower .pending =
        ({ p with applied := p.applied - 1 } : LocalPane).load
          (.ok (some (p.view.requestId + 1, p.view.path)),
            ({ p.view with pendingAutoRefresh := none }).awaiting (refreshOf p.view.path)) ∨
      (p.applied = 0 ∨ p.view.loading = true) ∧
        p.act lower .pending = (none, { p with applied := p.applied - 1 }) ∨
      (p.view.loading = false ∧ ¬p.view.PutOffDue) ∧ p.act lower .pending =
        (none, { p with
          view := { p.view with pendingAutoRefresh := none }, applied := p.applied - 1 }) := by
  by_cases hnone : p.applied = 0
  · have hsame : ({ p with applied := p.applied - 1 } : LocalPane) = p := by
      rw [hnone, Nat.zero_sub, ← hnone]
    refine .inr (.inl ⟨.inl hnone, ?_⟩)
    rw [act, if_pos hnone, hsame]
  · have hpos : 0 < p.applied := Nat.pos_of_ne_zero hnone
    rw [act, if_neg hnone]
    rcases p.view.pendingRefresh_cases fun hdue => hsafe.asks ⟨hpos, hdue⟩ with
      ⟨hdue, heq⟩ | ⟨hbusy, heq⟩ | ⟨hidle, heq⟩
    · rw [heq]
      exact .inl ⟨⟨hpos, hdue⟩, rfl⟩
    · rw [heq]
      exact .inr (.inl ⟨.inr hbusy, rfl⟩)
    · rw [heq]
      exact .inr (.inr ⟨hidle, rfl⟩)

/-- An automatic request asks for the shown directory, and the view waits for it. -/
theorem act_request (hsafe : p.Safe action) {request : DirectoryRequest}
    (h : (p.act lower action).1 = some request) :
    ∃ (l : LocalDirectoryState) (q : LocalPane), request = (l.requestId + 1, l.path) ∧
      p.act lower action = q.load (.ok (some request), l.awaiting (refreshOf l.path)) := by
  have htells : ∀ {action}, p.Tells lower action → (p.act lower action).1 = some request →
      ∃ (l : LocalDirectoryState) (q : LocalPane), request = (l.requestId + 1, l.path) ∧
        p.act lower action = q.load (.ok (some request), l.awaiting (refreshOf l.path)) := by
    rintro action (⟨-, heq⟩ | ⟨-, heq⟩ | ⟨-, heq⟩) h
    · rw [heq] at h
      obtain rfl := Option.some.inj h
      exact ⟨p.view, p, rfl, heq⟩
    · rw [heq] at h
      cases h
    · rw [heq] at h
      cases h
  cases action with
  | downloaded path => exact htells (downloaded_tells lower hsafe) h
  | watched directory => exact htells (watched_tells lower hsafe) h
  | pending =>
    rcases pending_cases lower hsafe with ⟨-, heq⟩ | ⟨-, heq⟩ | ⟨-, heq⟩
    · rw [heq] at h
      obtain rfl := Option.some.inj h
      exact ⟨{ p.view with pendingAutoRefresh := none }, { p with applied := p.applied - 1 }, rfl,
        heq⟩
    · rw [heq] at h
      cases h
    · rw [heq] at h
      cases h
  | navigate | listed | markWatcherRunning | markWatcherStopped | loadMore | toggleSort
  | toggleSelection | selectAll | reset => cases h

/-- What was put off for another path than the shown one is dropped. -/
theorem pending_dropped (lower : String → String) (hidle : p.view.loading = false)
    (hother : p.view.pendingAutoRefresh ≠ some p.view.path) :
    (p.act lower .pending).1 = none ∧
      (0 < p.applied → (p.act lower .pending).2.view.pendingAutoRefresh = none) := by
  have hsafe : p.Safe .pending := ⟨fun hasks => absurd hasks.2.1 hother, nofun⟩
  rcases pending_cases lower hsafe with ⟨hasks, -⟩ | ⟨hnone, heq⟩ | ⟨-, heq⟩
  · exact absurd hasks.2.1 hother
  · rw [heq]
    refine ⟨rfl, fun hpos => ?_⟩
    rcases hnone with hzero | hbusy
    · omega
    · rw [hidle] at hbusy
      cases hbusy
  · rw [heq]
    exact ⟨rfl, fun _ => rfl⟩

theorem issues_of_request {request : DirectoryRequest} (h : (p.act lower action).1 = some request) :
    (refresher lower).Issues p action :=
  ⟨request.2, congrArg (Option.map Prod.snd) h, trivial⟩

/-! ## The obligations of a refresher -/

/-- While the view waits, a task lists for it. -/
theorem act_answered (h : p.Answered) (hsafe : p.Safe action) :
    (p.act lower action).2.Answered := by
  by_cases hwaits : p.view.loading = true ∧ ¬p.Concludes action
  · have hkeeps := act_waiting lower hwaits.1 hwaits.2
    exact fun _ => hkeeps.owed (h hwaits.1)
  -- an automatic request brings its own task
  have hrequest : ∀ {request}, (p.act lower action).1 = some request →
      (p.act lower action).2.Answered := by
    intro request hact _
    obtain ⟨l, q, rfl, heq⟩ := act_request hsafe hact
    rw [heq]
    exact owed_load q _ rfl
  -- the rest changes neither the request nor the tasks
  have hsame : ∀ {view}, p.view.Same view → ({ p with view } : LocalPane).Answered :=
    fun hsame => answered_of_kept h hsame.1 p.applied
  cases action with
  | navigate kind path =>
    rcases p.view.beginRequest_outcome kind path with
      ⟨pending, request, -, hid, heq⟩ | ⟨message, heq⟩
    · rw [act, heq]
      exact fun _ => owed_load p _ hid
    · rw [act, heq]
      exact h
  | downloaded path =>
    rcases downloaded_tells lower hsafe with ⟨-, heq⟩ | ⟨-, heq⟩ | ⟨-, heq⟩
    · exact hrequest (by rw [heq]; rfl)
    · rw [heq]
      exact answered_of_kept h ⟨rfl, rfl, rfl, rfl, rfl, rfl, rfl⟩ p.applied
    · rw [heq]
      exact h
  | watched directory =>
    rcases watched_tells lower hsafe with ⟨-, heq⟩ | ⟨-, heq⟩ | ⟨-, heq⟩
    · exact hrequest (by rw [heq]; rfl)
    · rw [heq]
      exact answered_of_kept h ⟨rfl, rfl, rfl, rfl, rfl, rfl, rfl⟩ p.applied
    · rw [heq]
      exact h
  -- a listing that is taken ends the waiting, one that is not leaves it
  | listed request outcome =>
    intro hloading
    by_cases hends : p.Concludes (.listed request outcome)
    · obtain ⟨hmem, hid⟩ := hends.resolve_left nofun
      obtain ⟨-, hview⟩ := apply_awaited lower outcome hmem hid
      have hbusy : (p.apply lower request outcome).view.loading = true := hloading
      cases outcome with
      | listed path entries truncated skippedEntries =>
        rw [hview.loading] at hbusy
        cases hbusy
      | failed message =>
        dsimp only at hview
        rw [hview] at hbusy
        cases hbusy
    · obtain ⟨hview, -, howed⟩ := apply_ignored lower hends
      have hbusy : (p.apply lower request outcome).view.loading = true := hloading
      rw [hview] at hbusy
      exact howed (h hbusy)
  | pending =>
    rcases pending_cases lower hsafe with ⟨-, heq⟩ | ⟨-, heq⟩ | ⟨-, heq⟩
    · exact hrequest (by rw [heq]; rfl)
    · rw [heq]
      exact h
    · rw [heq]
      exact answered_of_kept h ⟨rfl, rfl, rfl, rfl, rfl, rfl, rfl⟩ _
  | markWatcherRunning => exact hsame p.view.markWatcherRunning_same
  | markWatcherStopped => exact hsame p.view.markWatcherStopped_same
  | loadMore => exact hsame p.view.loadMore_same
  | toggleSort column => exact hsame (p.view.toggleLocalSort_same lower column)
  | toggleSelection path selected => exact hsame (p.view.toggleSelection_kept path selected)
  | selectAll selected => exact hsame (p.view.selectAll_same selected)
  | reset =>
    intro hloading
    have hidle := p.view.resetRequests_loading
    have hbusy : p.view.resetRequests.loading = true := hloading
    rw [hidle] at hbusy
    cases hbusy

theorem Tells.notices (h : p.Tells lower action) (hp : p.Answered)
    (hnotified : p.Notified action) :
    (refresher lower).Issues p action ∨ (p.act lower action).2.PutOff := by
  rcases h with ⟨-, heq⟩ | ⟨⟨-, hbusy⟩, heq⟩ | ⟨hnot, -⟩
  · exact .inl (issues_of_request (by rw [heq]; rfl))
  · rw [heq]
    exact .inr ⟨rfl, .inl ⟨hbusy, hp hbusy⟩⟩
  · exact absurd hnotified hnot

/-- When its listing is applied, a task is about to look for what was put off. -/
theorem PutOff.of_listed (h : p.PutOff) {request : DirectoryRequest} {outcome : LocalOutcome}
    (hmem : request ∈ p.listing) (hid : p.view.requestId = request.1)
    (hsafe : p.Safe (.listed request outcome)) :
    p.Leaves (.listed request outcome) ∨ (p.apply lower request outcome).PutOff := by
  obtain ⟨happlied, hview⟩ := apply_awaited lower outcome hmem hid
  have hpos : 0 < (p.apply lower request outcome).applied := by omega
  cases outcome with
  | listed path entries truncated skippedEntries =>
    have harrives : p.arrives (.listed request (.listed path entries truncated skippedEntries)) =
        some path := if_pos ⟨List.contains_iff_mem.mpr hmem, hid⟩
    -- under another path the user has asked for that directory
    by_cases hpath : path = p.view.path
    · refine .inr ⟨?_, .inr ⟨hview.loading, hpos⟩⟩
      rw [hview.slot, hview.path_eq, hpath]
      exact h.slot
    · have helse := (hsafe.named path harrives h.slot).resolve_left hpath
      exact .inl ⟨⟨path, harrives, hpath⟩, helse⟩
  | failed message =>
    dsimp only at hview
    refine .inr ⟨?_, .inr ⟨?_, hpos⟩⟩
    all_goals rw [hview]
    · exact h.slot
    · rfl

/-- A refresh that was put off stays so while the view waits. -/
theorem PutOff.of_waiting (h : p.PutOff) (hbusy : p.view.loading = true) (howed : p.Owed)
    (hsafe : p.Safe action) :
    (p.Leaves action ∨ Closes action) ∨ (p.act lower action).2.PutOff := by
  by_cases hends : p.Concludes action
  · rcases hends with hcloses | hanswer
    · exact .inl (.inr hcloses)
    · cases action with
      | listed request outcome =>
        exact (h.of_listed hanswer.1 hanswer.2 hsafe).imp_left .inl
      | navigate | downloaded | watched | pending | markWatcherRunning | markWatcherStopped
      | loadMore | toggleSort | toggleSelection | selectAll | reset => cases hanswer
  · have hwaits := act_waiting lower hbusy hends
    refine .inr ⟨?_, .inl ⟨hwaits.kept.loading.trans hbusy, hwaits.owed howed⟩⟩
    rw [hwaits.kept.path]
    exact hwaits.slot.elim (fun hsame => hsame.trans h.slot) id

theorem putOff_of_same (h : p.PutOff) (hidle : p.view.loading = false) (hpos : 0 < p.applied)
    {view : LocalDirectoryState} (hsame : p.view.Same view) :
    ({ p with view } : LocalPane).PutOff := by
  refine ⟨?_, .inr ⟨hsame.1.loading.trans hidle, hpos⟩⟩
  show view.pendingAutoRefresh = some view.path
  rw [hsame.2, hsame.1.path]
  exact h.slot

/-- Between the two locks of the task the refresh goes out, or something else is asked for. -/
theorem PutOff.of_applied (h : p.PutOff) (hidle : p.view.loading = false)
    (hpos : 0 < p.applied) (hsafe : p.Safe action) :
    ((refresher lower).Issues p action ∨ p.Leaves action ∨ Closes action) ∨
      (p.act lower action).2.PutOff := by
  -- the view is idle, so only the task that has applied its listing keeps the refresh alive
  have hkept : ∀ {view}, p.view.Same view → ({ p with view } : LocalPane).PutOff :=
    putOff_of_same h hidle hpos
  have htells : p.Tells lower action → (refresher lower).Issues p action ∨
      (p.act lower action).2.PutOff := by
    rintro (⟨-, heq⟩ | ⟨⟨-, hbusy⟩, -⟩ | ⟨-, heq⟩)
    · exact .inl (issues_of_request (by rw [heq]; rfl))
    · rw [hidle] at hbusy
      cases hbusy
    · rw [heq]
      exact .inr h
  cases action with
  -- another request takes the place of the task: its answer will look for the refresh
  | navigate kind path =>
    refine .inr ?_
    rcases p.view.beginRequest_outcome kind path with
      ⟨pending, request, -, hid, heq⟩ | ⟨message, heq⟩
    · rw [act, heq]
      exact ⟨h.slot, .inl ⟨rfl, owed_load p _ hid⟩⟩
    · rw [act, heq]
      exact h
  | downloaded path => exact (htells (downloaded_tells lower hsafe)).imp_left .inl
  | watched directory => exact (htells (watched_tells lower hsafe)).imp_left .inl
  | listed request outcome =>
    by_cases hends : p.Concludes (.listed request outcome)
    · obtain ⟨hmem, hid⟩ := hends.resolve_left nofun
      exact (h.of_listed hmem hid hsafe).imp_left fun hleaves => .inr (.inl hleaves)
    · obtain ⟨hview, happlied, -⟩ := apply_ignored lower hends
      refine .inr ⟨?_, .inr ⟨?_, ?_⟩⟩
      · show (p.apply lower request outcome).view.pendingAutoRefresh =
          some (p.apply lower request outcome).view.path
        rw [hview]
        exact h.slot
      · show (p.apply lower request outcome).view.loading = false
        rw [hview]
        exact hidle
      · show 0 < (p.apply lower request outcome).applied
        rw [happlied]
        exact hpos
  | pending =>
    rcases pending_cases lower hsafe with ⟨-, heq⟩ | ⟨hnone, -⟩ | ⟨⟨-, hnot⟩, -⟩
    -- the task finds the view idle, and the slot names what is shown
    · exact .inl (.inl (issues_of_request (by rw [heq]; rfl)))
    · rcases hnone with hzero | hbusy
      · omega
      · rw [hidle] at hbusy
        cases hbusy
    · exact absurd ⟨h.slot, hidle⟩ hnot
  | markWatcherRunning => exact .inr (hkept p.view.markWatcherRunning_same)
  | markWatcherStopped => exact .inr (hkept p.view.markWatcherStopped_same)
  | loadMore => exact .inr (hkept p.view.loadMore_same)
  | toggleSort column => exact .inr (hkept (p.view.toggleLocalSort_same lower column))
  | toggleSelection path selected => exact .inr (hkept (p.view.toggleSelection_kept path selected))
  | selectAll selected => exact .inr (hkept (p.view.selectAll_same selected))
  | reset => exact .inl (.inr (.inr trivial))

theorem act_waits (h : p.PutOff) (hsafe : p.Safe action) :
    ((refresher lower).Issues p action ∨ (refresher lower).ends p action) ∨
      (p.act lower action).2.PutOff := by
  rcases h.task with ⟨hbusy, howed⟩ | ⟨hidle, hpos⟩
  · exact (h.of_waiting hbusy howed hsafe).imp_left .inr
  · exact h.of_applied hidle hpos hsafe

theorem act_notices (h : p.Answered) (hsafe : p.Safe action) (hnotified : p.Notified action) :
    (refresher lower).Issues p action ∨ (p.act lower action).2.PutOff := by
  cases action with
  | downloaded path => exact (downloaded_tells lower hsafe).notices h hnotified
  | watched directory => exact (watched_tells lower hsafe).notices h hnotified
  | navigate | listed | pending | markWatcherRunning | markWatcherStopped | loadMore | toggleSort
  | toggleSelection | selectAll | reset => cases hnotified

theorem Refreshing.goesOn {path : String} {history : List String × List String}
    (h : Refreshing path history p) (hgoes : ¬p.Concludes action) :
    Refreshing path history (p.act lower action).2 := by
  have hwaits := act_waiting lower h.loading hgoes
  refine ⟨hwaits.kept.loading.trans h.loading, hwaits.kept.path.trans h.path_eq, ?_,
    hwaits.kept.pending.trans h.pending⟩
  rw [hwaits.kept.back, hwaits.kept.forward]
  exact h.history_eq

/-- The answer to an automatic request under the path that was asked for moves the view nowhere. -/
theorem Refreshing.answered {path : String} {history : List String × List String}
    (h : Refreshing path history p) (harrives : p.arrives action = some path) :
    (p.act lower action).2.view.path = path ∧
      ((p.act lower action).2.view.backHistory, (p.act lower action).2.view.forwardHistory) =
        history := by
  cases action with
  | listed request outcome =>
    cases outcome with
    | listed shown entries truncated skippedEntries =>
      rw [arrives] at harrives
      split at harrives
      · rename_i htask
        obtain rfl := Option.some.inj harrives
        obtain ⟨-, hview⟩ := apply_awaited lower
          (.listed shown entries truncated skippedEntries) (List.contains_iff_mem.mp htask.1)
          htask.2
        -- a direct request for the path that is shown pushes nothing on either history
        have hhistory : p.view.completed shown = history := by
          rw [← h.history_eq, LocalDirectoryState.completed, h.pending]
          simp [completeDirectoryHistory, refreshOf]
        refine ⟨hview.path_eq, ?_⟩
        rw [← hhistory]
        exact Prod.ext hview.back hview.forward
      · cases harrives
    | failed message => cases harrives
  | navigate | downloaded | watched | pending | markWatcherRunning | markWatcherStopped
  | loadMore | toggleSort | toggleSelection | selectAll | reset => cases harrives

/-- Every action keeps its part. -/
theorem sound (lower : String → String) : (refresher lower).Sound Safe Answered Refreshing where
  inv_step _ _ h hsafe := act_answered h hsafe
  asks p action path hsafe hrequest := by
    obtain ⟨request, hact, rfl⟩ := Option.map_eq_some_iff.mp hrequest
    obtain ⟨l, q, rfl, heq⟩ := act_request hsafe hact
    show l.path = (p.act lower action).2.view.path
    rw [heq]
    rfl
  begins p action path hsafe hrequest _ := by
    obtain ⟨request, hact, rfl⟩ := Option.map_eq_some_iff.mp hrequest
    obtain ⟨l, q, rfl, heq⟩ := act_request hsafe hact
    show Refreshing l.path ((p.act lower action).2.view.backHistory,
      (p.act lower action).2.view.forwardHistory) (p.act lower action).2
    rw [heq]
    exact ⟨rfl, rfl, rfl, rfl⟩
  goesOn _ _ p action h := or_iff_not_imp_left.mpr h.goesOn
  answers _ _ p action h harrives := h.answered harrives
  notices _ _ h hsafe hnotified := (act_notices h hsafe hnotified).imp_left .inl
  waits _ _ h hsafe := act_waits h hsafe

end

end LocalPane

/-! ## Both views -/

/-- A remote view before its connection opens. -/
def RemotePane.start (path : String) (l : LocalDirectoryState) : RemotePane where
  view := .start path l

/-- A local view before its first listing. -/
def LocalPane.start (path : String) : LocalPane where
  view := .forStandaloneTab path

open Transition (AllSafe allSafe_cons_iff allSafe_nil)

/-- In runs of safe actions both views are refreshed as they should be: an automatic request asks
    for the shown directory, its answer moves the view nowhere, and every change is followed by a
    request, by what excuses it, or by nothing yet because the refresh is still put off. -/
theorem refreshes_in_safe_runs (lower : String → String) (path home : String)
    {l : LocalDirectoryState} {remote : List RemoteAction} {onHost : List LocalAction}
    (hremote : AllSafe (RemotePane.refresher lower).step (.start path l) (RemotePane.Safe lower)
      remote)
    (honHost : AllSafe (LocalPane.refresher lower).step (.start home) LocalPane.Safe onHost) :
    ((RemotePane.refresher lower).AsksShown (.start path l) remote ∧
      (RemotePane.refresher lower).KeepsPlace (.start path l) remote ∧
      (RemotePane.refresher lower).LosesNothing (.start path l) remote) ∧
    (LocalPane.refresher lower).AsksShown (.start home) onHost ∧
      (LocalPane.refresher lower).KeepsPlace (.start home) onHost ∧
      (LocalPane.refresher lower).LosesNothing (.start home) onHost := by
  have hview := RemotePane.sound lower
  have hlocal := LocalPane.sound lower
  have hidle : RemotePane.Answered (.start path l) := nofun
  have hidle' : LocalPane.Answered (.start home) := nofun
  exact ⟨⟨hview.asksShown hremote, hview.keepsPlace hremote, hview.losesNothing hidle hremote⟩,
    hlocal.asksShown honHost, hlocal.keepsPlace honHost, hlocal.losesNothing hidle' honHost⟩

/-- Two uploads into the shown directory: the second refresh waits for the first one. -/
theorem two_uploads_refreshed :
    (RemotePane.refresher id).LosesNothing (.start "" {})
      [.event (.opened "/") true, .event (.directoryPage none "/a" [] false false false) true,
        .uploaded "/a" true, .uploaded "/a" true,
        .event (.directoryPage (some 2) "/a" [] false false false) true] := by
  have hask : AsksItself "/a" := ⟨by decide, by decide⟩
  have hsafe : AllSafe (RemotePane.refresher id).step (.start "" {}) (RemotePane.Safe id)
      [.event (.opened "/") true, .event (.directoryPage none "/a" [] false false false) true,
        .uploaded "/a" true, .uploaded "/a" true,
        .event (.directoryPage (some 2) "/a" [] false false false) true] := by
    refine allSafe_cons_iff.mpr ⟨⟨fun _ h => (nomatch h.1.1), nofun⟩, ?_⟩
    refine allSafe_cons_iff.mpr ⟨⟨fun _ h => (nomatch h.1.1), fun _ _ h => nomatch h⟩, ?_⟩
    refine allSafe_cons_iff.mpr ⟨⟨fun _ h => h.2 ▸ hask, nofun⟩, ?_⟩
    refine allSafe_cons_iff.mpr ⟨⟨fun _ h => h.2 ▸ hask, nofun⟩, ?_⟩
    -- the page that the first request has asked for, while the second refresh is put off
    refine allSafe_cons_iff.mpr ⟨⟨fun _ h => h.2 ▸ hask, fun _ h _ => .inl ?_⟩, allSafe_nil⟩
    exact (Option.some.inj h).symm
  exact (refreshes_in_safe_runs id "" "/" hsafe allSafe_nil).1.2.2

namespace LocalPane

/-- The local view during its first listing. -/
def linking : LocalPane :=
  (refresher id).step (start "/link") (.navigate .direct (some "/link"))

/-- The same with a change that was told. -/
def waiting : LocalPane := (refresher id).step linking (.downloaded "/link/file")

/-- The same with the listing, which has come under another path. -/
def arrived : LocalPane :=
  (refresher id).step waiting (.listed (1, "/link") (.listed "/data" [] false 0))

end LocalPane

/-- A directory whose name ends in a blank is shown, and the one without the blank is asked for;
    and a change that is told during the first listing is lost when the listing comes under the
    canonical path. -/
theorem refreshes_gone_wrong :
    ¬(RemotePane.refresher id).AsksShown (.start "" {})
        [.event (.opened "/") true, .event (.directoryPage none "/a " [] false false false) true,
          .uploaded "/a " true] ∧
      ¬(LocalPane.refresher id).LosesNothing (.start "/link")
        [.navigate .direct (some "/link"), .downloaded "/link/file",
          .listed (1, "/link") (.listed "/data" [] false 0), .pending] := by
  constructor
  · intro h
    have hasked := h [.event (.opened "/") true,
      .event (.directoryPage none "/a " [] false false false) true] (.uploaded "/a " true)
      (List.prefix_refl _) "/a" (by decide)
    revert hasked
    decide
  · intro h
    have hnotified :
        (LocalPane.refresher id).notified LocalPane.linking (.downloaded "/link/file") :=
      ⟨.inr (by decide), by decide, by decide⟩
    have hmem : ((1, "/link") : DirectoryRequest) ∈ LocalPane.waiting.listing := by decide
    -- the listing is taken: it answers the request, under its canonical path
    obtain ⟨-, hlisted⟩ := LocalPane.apply_awaited id (.listed "/data" [] false 0) hmem rfl
    have hslot : LocalPane.arrived.view.pendingAutoRefresh = some "/link" := hlisted.slot
    have hpath : LocalPane.arrived.view.path = "/data" := hlisted.path_eq
    have hidle : LocalPane.arrived.view.loading = false := hlisted.loading
    have hother : LocalPane.arrived.view.pendingAutoRefresh ≠ some LocalPane.arrived.view.path := by
      rw [hslot, hpath]
      decide
    obtain ⟨hnone, hdropped⟩ := LocalPane.pending_dropped id hidle hother
    rcases h [.navigate .direct (some "/link")] _ _ rfl hnotified with ⟨mid, b, hmid, hdone⟩ | hput
    -- neither a request nor an excuse: nobody has asked for the other path
    · have hnever : AllSafe (LocalPane.refresher id).step LocalPane.linking
          (fun s a => ¬((LocalPane.refresher id).Issues s a ∨ (LocalPane.refresher id).ends s a))
          [.downloaded "/link/file", .listed (1, "/link") (.listed "/data" [] false 0),
            .pending] := by
        refine allSafe_cons_iff.mpr ⟨?_, allSafe_cons_iff.mpr ⟨?_,
          allSafe_cons_iff.mpr ⟨?_, allSafe_nil⟩⟩⟩
        · rintro (⟨_, hrequest, -⟩ | ⟨⟨_, harrives, -⟩, -⟩ | hcloses)
          · cases hrequest
          · cases harrives
          · cases hcloses
        · rintro (⟨_, hrequest, -⟩ | ⟨-, pending, hpending, helse⟩ | hcloses)
          · cases hrequest
          · obtain rfl := Option.some.inj hpending
            exact helse rfl
          · cases hcloses
        · rintro (⟨_, hrequest, -⟩ | ⟨⟨_, harrives, -⟩, -⟩ | hcloses)
          · have hask : (LocalPane.act id LocalPane.arrived .pending).1.map Prod.snd = some _ :=
              hrequest
            rw [hnone] at hask
            cases hask
          · cases harrives
          · cases hcloses
      exact hnever mid b hmid hdone
    · exact absurd ((hdropped (by decide)).symm.trans hput.slot) nofun

end AxSsh
