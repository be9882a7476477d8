import AxSsh.ForStd.Refresher
import AxSsh.Native.AutoRefresh
import AxSsh.Spec.BrowserHistory

/-!
# Automatic refreshes of the remote view

A remote view is told of changes, and refreshes itself as a `Refresher` should while the path that
it shows is its own trim: an automatic request goes through the entry point for typed paths, which
trims.  A refresh that was put off waits in the slot until the listing that is outstanding is
answered, and no other request can go out before that.

## Key results
- `remoteChange_cases`, `pendingRefresh_cases`: what a refresh does
- `RemotePane.sound`: every action keeps its part
-/

namespace AxSsh

/-- `begin_navigation` asks for this path itself. -/
def AsksItself (path : String) : Prop := trim path = path ∧ path ≠ ""

/-- An automatic request. -/
def refreshOf (path : String) : PendingSftpNavigation :=
  { kind := .direct, «from» := path, requested := path }

namespace SftpDirectoryState

/-- The user has asked for another directory than the shown one. -/
def Elsewhere (d : SftpDirectoryState) : Prop :=
  ∃ pending, d.pendingNavigation = some pending ∧ pending.requested ≠ d.path

/-- The same for a view but for its slot and for what no refresh reads. -/
structure Kept (d d' : SftpDirectoryState) : Prop where
  isOpen : d'.open = d.open
  loading : d'.loading = d.loading
  path : d'.path = d.path
  back : d'.backHistory = d.backHistory
  forward : d'.forwardHistory = d.forwardHistory
  pending : d'.pendingNavigation = d.pendingNavigation
  requestId : d'.requestId = d.requestId

theorem Kept.refl (d : SftpDirectoryState) : d.Kept d := ⟨rfl, rfl, rfl, rfl, rfl, rfl, rfl⟩

theorem toggleSort_kept (lower : String → String) (d : SftpDirectoryState) (column : String) :
    d.Kept (d.toggleSort lower column).1 ∧
      (d.toggleSort lower column).1.pendingAutoRefresh = d.pendingAutoRefresh := by
  rw [toggleSort]
  split
  · exact ⟨.refl d, rfl⟩
  · exact ⟨⟨rfl, rfl, rfl, rfl, rfl, rfl, rfl⟩, rfl⟩

theorem toggleSelection_kept (d : SftpDirectoryState) (path : String) (selected : Bool) :
    d.Kept (d.toggleSelection path selected).1 ∧
      (d.toggleSelection path selected).1.pendingAutoRefresh = d.pendingAutoRefresh := by
  rw [toggleSelection]
  split
  · exact ⟨.refl d, rfl⟩
  · exact ⟨⟨rfl, rfl, rfl, rfl, rfl, rfl, rfl⟩, rfl⟩

/-- An automatic request goes out: the view waits, and the slot is as it was. -/
theorem beginRequest_refresh {d : SftpDirectoryState} (hidle : d.loading = false)
    (hask : AsksItself d.path) :
    d.beginRequest .direct (some d.path) =
      (.ok (some (nextRequestId d.requestId, d.path)), d.awaiting (refreshOf d.path)) := by
  rw [beginRequest, beginNavigation, hidle, if_neg Bool.false_ne_true]
  simp only [requestedPath, hask.1, if_neg hask.2]
  rfl

/-- A refresh of the shown directory is due. -/
def Due (d : SftpDirectoryState) (directory : String) : Prop :=
  d.open = true ∧ d.path = directory ∧ d.loading = false

/-- A change is told: the directory is asked for, the refresh is put off, or the change is not of
    the shown directory. -/
theorem remoteChange_cases {d : SftpDirectoryState} {directory : String}
    (hask : d.Due directory → AsksItself d.path) :
    d.Due directory ∧ d.beginRefreshAfterRemoteChange directory =
        (.ok (some (nextRequestId d.requestId, d.path)), d.awaiting (refreshOf d.path)) ∨
      (d.open = true ∧ d.path = directory ∧ d.loading = true) ∧
        d.beginRefreshAfterRemoteChange directory =
          (.ok none, { d with pendingAutoRefresh := some d.path }) ∨
      ¬(d.open = true ∧ d.path = directory) ∧
        d.beginRefreshAfterRemoteChange directory = (.ok none, d) := by
  by_cases hshown : d.open = true ∧ d.path = directory
  · obtain ⟨hopen, rfl⟩ := hshown
    -- the guard lets a change of the shown directory through
    have hguard : ¬((!d.open || d.path != d.path) = true) := by simp [hopen]
    rw [beginRefreshAfterRemoteChange, if_neg hguard]
    obtain hbusy | hidle := Bool.eq_false_or_eq_true d.loading
    · rw [if_pos hbusy]
      exact .inr (.inl ⟨⟨hopen, rfl, hbusy⟩, rfl⟩)
    · rw [if_neg (by simp [hidle])]
      have hdue : d.Due d.path := ⟨hopen, rfl, hidle⟩
      exact .inl ⟨hdue, beginRequest_refresh hidle (hask hdue)⟩
  · refine .inr (.inr ⟨hshown, ?_⟩)
    rw [beginRefreshAfterRemoteChange, if_pos]
    simp only [Bool.or_eq_true, Bool.not_eq_true', bne_iff_ne]
    by_cases hopen : d.open = true
    · exact .inr fun hpath => hshown ⟨hopen, hpath⟩
    · exact .inl (Bool.eq_false_iff.mpr hopen)

/-- A refresh that was put off is due. -/
def PutOffDue (d : SftpDirectoryState) : Prop :=
  d.pendingAutoRefresh = some d.path ∧ d.Due d.path

/-- What was put off is asked for when it is still shown and nothing is outstanding; else the slot
    is kept while something is outstanding, and emptied when nothing is. -/
theorem pendingRefresh_cases {d : SftpDirectoryState} (hask : d.PutOffDue → AsksItself d.path) :
    d.PutOffDue ∧ d.beginPendingAutoRefresh =
        (.ok (some (nextRequestId d.requestId, d.path)),
          ({ d with pendingAutoRefresh := none }).awaiting (refreshOf d.path)) ∨
      d.loading = true ∧ d.beginPendingAutoRefresh = (.ok none, d) ∨
      (d.loading = false ∧ ¬d.PutOffDue) ∧
        d.beginPendingAutoRefresh = (.ok none, { d with pendingAutoRefresh := none }) := by
  rw [beginPendingAutoRefresh]
  obtain hbusy | hidle := Bool.eq_false_or_eq_true d.loading
  · rw [if_pos hbusy]
    exact .inr (.inl ⟨hbusy, rfl⟩)
  rw [if_neg (by simp [hidle])]
  by_cases hopen : d.open = true
  · rw [if_neg (by simp [hopen])]
    split
    · rename_i hslot
      refine .inr (.inr ⟨⟨hidle, fun hdue => ?_⟩, ?_⟩)
      · rw [hdue.1] at hslot
        cases hslot
      · rw [← hslot]
    · rename_i directory hslot
      -- what was put off is told as a change, to a view whose slot is empty
      have hask' : ({ d with pendingAutoRefresh := none }).Due directory → AsksItself d.path := by
        rintro ⟨-, rfl, -⟩
        exact hask ⟨hslot, hopen, rfl, hidle⟩
      rcases remoteChange_cases hask' with ⟨⟨-, rfl, -⟩, heq⟩ | ⟨⟨-, -, hbusy⟩, -⟩ | ⟨hnot, heq⟩
      · exact .inl ⟨⟨hslot, hopen, rfl, hidle⟩, heq⟩
      · rw [hidle] at hbusy
        cases hbusy
      · refine .inr (.inr ⟨⟨hidle, fun hdue => hnot ⟨hopen, ?_⟩⟩, heq⟩)
        rw [hdue.1] at hslot
        exact Option.some.inj hslot
  · rw [if_pos (by simp [hopen])]
    exact .inr (.inr ⟨⟨hidle, fun hdue => hopen hdue.2.1⟩, rfl⟩)

end SftpDirectoryState

namespace RemotePane

variable (lower : String → String)

/-! ## The view from outside -/

/-- The worker has still to answer what the view waits for. -/
def Owed (p : RemotePane) : Prop := some p.view.requestId ∈ p.outstanding ∨ none ∈ p.outstanding

/-- A refresh is put off, and the listing that it waits for is outstanding. -/
structure PutOff (p : RemotePane) : Prop where
  isOpen : p.view.open = true
  loading : p.view.loading = true
  slot : p.view.pendingAutoRefresh = some p.view.path
  owed : p.Owed

/-- The path of the page that the view takes. -/
def arrives (p : RemotePane) : RemoteAction → Option String
  | .event (.directoryPage requestId path ..) _ =>
    if p.view.acceptsRequest requestId then some path else none
  | _ => none

/-- A change of the shown directory is told. -/
def Notified (p : RemotePane) : RemoteAction → Prop
  | .uploaded directory _ => p.view.open = true ∧ p.view.path = directory
  | .written path _ => (p.view.visibleRemoteDirectoryForFile path).isSome = true
  | _ => False

/-- The connection closes, or opens anew. -/
def Closes : RemoteAction → Prop
  | .event (.opened _) _ | .event .closed _ | .prepareForReconnect | .reset => True
  | _ => False

/-- The outstanding listing is answered, or there is none any more. -/
def Concludes (p : RemotePane) (action : RemoteAction) : Prop :=
  Closes action ∨ match action with
    | .event (.directoryPage requestId ..) _ | .event (.failed requestId _) _ =>
      p.view.acceptsRequest requestId = true
    | _ => False

/-- The user leaves the shown directory: the other one that was asked for arrives. -/
def Leaves (p : RemotePane) (action : RemoteAction) : Prop :=
  (∃ path, p.arrives action = some path ∧ path ≠ p.view.path) ∧ p.view.Elsewhere

end RemotePane

/-- Whether the worker takes the request of the action. -/
def RemoteAction.accepted : RemoteAction → Bool
  | .navigate _ _ accepted | .loadMore accepted | .uploaded _ accepted | .written _ accepted
  | .event _ accepted => accepted
  | _ => true

namespace RemotePane

/-- The automatic request of the action fails at once. -/
def Rejected (lower : String → String) (p : RemotePane) (action : RemoteAction) : Prop :=
  (p.act lower action).1.isSome = true ∧ action.accepted = false

/-- The remote view as one that is refreshed on its own. -/
def refresher (lower : String → String) :
    Refresher RemotePane RemoteAction String (List String × List String) where
  step p action := (p.act lower action).2
  shown p := p.view.path
  history p := (p.view.backHistory, p.view.forwardHistory)
  request p action := (p.act lower action).1.map Prod.snd
  taken _ action := action.accepted = true
  notified := Notified
  answered := arrives
  concludes := Concludes
  ends p action := p.Leaves action ∨ p.Rejected lower action ∨ Closes action
  putOff := PutOff

/-- The action is about to make an automatic request, and of this directory. -/
def Asks (lower : String → String) (p : RemotePane) (path : String) : RemoteAction → Prop
  | .uploaded directory _ => p.view.Due directory ∧ path = directory
  | .written file _ => p.view.visibleRemoteDirectoryForFile file = some path ∧ p.view.Due path
  | .event event _ =>
    (p.view.applySftpEvent lower event).PutOffDue ∧
      path = (p.view.applySftpEvent lower event).path
  | _ => False

/-- An automatic request is made of a path that is its own trim, and where a refresh is put off,
    the shown directory arrives under the path that is shown, unless the user goes elsewhere. -/
structure Safe (lower : String → String) (p : RemotePane) (action : RemoteAction) : Prop where
  asks : ∀ path, p.Asks lower path action → AsksItself path
  named : ∀ path, p.arrives action = some path →
    p.view.pendingAutoRefresh = some p.view.path → path = p.view.path ∨ p.view.Elsewhere

/-- An automatic request is outstanding. -/
structure Refreshing (path : String) (history : List String × List String) (p : RemotePane) :
    Prop where
  loading : p.view.loading = true
  path_eq : p.view.path = path
  history_eq : (p.view.backHistory, p.view.forwardHistory) = history
  pending : p.view.pendingNavigation = some (refreshOf path)

/-! ## Actions -/

@[simp] theorem send_path (p : RemotePane) (requestId : UInt64) (accepted : Bool) :
    (p.send requestId accepted).view.path = p.view.path := by
  cases accepted <;> rfl

/-- While the view waits, the worker owes the answer. -/
def Answered (p : RemotePane) : Prop := p.view.loading = true → p.Owed

theorem answered_send {p : RemotePane} {requestId : UInt64} (h : p.view.requestId = requestId)
    (accepted : Bool) : (p.send requestId accepted).Answered := by
  intro hloading
  cases accepted with
  | true =>
    refine .inl (List.mem_append_right _ ?_)
    rw [← h]
    exact List.mem_singleton_self _
  | false => cases hloading

theorem visible_eq {d : SftpDirectoryState} {path directory : String}
    (h : d.visibleRemoteDirectoryForFile path = some directory) :
    d.open = true ∧ d.path = directory := by
  unfold SftpDirectoryState.visibleRemoteDirectoryForFile at h
  split at h
  · cases h
  · rename_i hopen
    split at h
    · cases h
    · split at h
      · exact ⟨by simpa using hopen, Option.some.inj h⟩
      · cases h

section

variable {lower : String → String} {p : RemotePane} {action : RemoteAction}

/-- The view after a file was written. -/
def updated (d : SftpDirectoryState) (path : String) : SftpDirectoryState :=
  { d with status := s!"Updated {path}" }

theorem act_written (lower : String → String) (p : RemotePane) (path : String) (accepted : Bool) :
    p.act lower (.written path accepted) =
      match p.view.visibleRemoteDirectoryForFile path with
      | none => (none, { p with view := updated p.view path })
      | some directory => ({ p with view := updated p.view path } : RemotePane).refresh
          ((updated p.view path).beginRefreshAfterRemoteChange directory) accepted := rfl

/-- What is put off after an action that goes on waiting. -/
def SlotKept (d d' : SftpDirectoryState) : Prop :=
  d'.pendingAutoRefresh = d.pendingAutoRefresh ∨ d'.pendingAutoRefresh = some d.path

/-- While something is outstanding, a told change is put off. -/
theorem refresh_waiting {d : SftpDirectoryState} (hbusy : d.loading = true) (q : RemotePane)
    (directory : String) (accepted : Bool) :
    ∃ view,
      q.refresh (d.beginRefreshAfterRemoteChange directory) accepted = (none, { q with view }) ∧
      d.Kept view ∧ SlotKept d view := by
  -- nothing is asked for now, so the path is not trimmed
  have hask : d.Due directory → AsksItself d.path := fun hdue => by
    rw [hdue.2.2] at hbusy
    cases hbusy
  rcases d.remoteChange_cases hask with ⟨hdue, -⟩ | ⟨-, heq⟩ | ⟨-, heq⟩
  · rw [hdue.2.2] at hbusy
    cases hbusy
  · refine ⟨{ d with pendingAutoRefresh := some d.path }, ?_, ⟨rfl, rfl, rfl, rfl, rfl, rfl, rfl⟩,
      .inr rfl⟩
    rw [heq]
    rfl
  · refine ⟨d, ?_, .refl d, .inl rfl⟩
    rw [heq]
    rfl

/-- An event that the view does not take. -/
theorem applyEvent_ignored (lower : String → String) {event : SftpBrowserEvent} {accepted : Bool}
    (hgoes : ¬p.Concludes (.event event accepted)) :
    (p.applyEvent lower event).view = p.view ∧ (p.Owed → (p.applyEvent lower event).Owed) := by
  obtain ⟨hopen, hanswer⟩ := not_or.mp hgoes
  -- what is struck off is neither the awaited answer nor the first listing
  have howed : ∀ {requestId : Option UInt64}, ¬p.view.acceptsRequest requestId = true → p.Owed →
      some p.view.requestId ∈ p.outstanding.erase requestId ∨
        none ∈ p.outstanding.erase requestId := by
    intro requestId hnot howed
    cases requestId with
    | none => exact absurd rfl hnot
    | some other =>
      have hne : p.view.requestId ≠ other := fun heq =>
        hnot (by simp [heq, SftpDirectoryState.acceptsRequest])
      refine howed.imp (fun hmem => ?_) fun hmem => ?_
      · exact (List.mem_erase_of_ne fun heq => hne (Option.some.inj heq)).mpr hmem
      · exact (List.mem_erase_of_ne (Option.some_ne_none other).symm).mpr hmem
  cases event with
  | opened home => exact absurd trivial hopen
  | directoryPage requestId path entries append more truncated =>
    have hnot : (!p.view.acceptsRequest requestId) = true := by simpa using hanswer
    have hview : p.view.applySftpEvent lower
        (.directoryPage requestId path entries append more truncated) = p.view := by
      rw [SftpDirectoryState.applySftpEvent, if_pos hnot]
    exact ⟨hview, fun h => by rw [Owed, applyEvent, hview]; exact howed hanswer h⟩
  | failed requestId message =>
    have hnot : (!p.view.acceptsRequest requestId) = true := by simpa using hanswer
    have hview : p.view.applySftpEvent lower (.failed requestId message) = p.view := by
      rw [SftpDirectoryState.applySftpEvent, if_pos hnot]
    exact ⟨hview, fun h => by rw [Owed, applyEvent, hview]; exact howed hanswer h⟩
  | closed => exact absurd trivial hopen

theorem navigate_waiting (hbusy : p.view.loading = true) (kind : SftpNavigation)
    (path : Option String) (accepted : Bool) : p.navigate kind path accepted = p := by
  rw [navigate, SftpDirectoryState.beginNavigation, if_pos hbusy]

theorem loadMore_waiting (hbusy : p.view.loading = true) (accepted : Bool) :
    p.loadMore accepted = p := by
  rw [loadMore, SftpDirectoryState.beginLoadMore, if_pos hbusy]

/-- While something is outstanding, an action that does not conclude it changes nothing but the
    slot. -/
theorem act_waiting (lower : String → String) (hbusy : p.view.loading = true)
    (hgoes : ¬p.Concludes action) :
    (p.act lower action).1 = none ∧ p.view.Kept (p.act lower action).2.view ∧
      SlotKept p.view (p.act lower action).2.view ∧ (p.Owed → (p.act lower action).2.Owed) := by
  -- the worker's debts do not depend on the view but for its request
  have hsame : ∀ {view : SftpDirectoryState}, p.view.Kept view → p.Owed →
      ({ p with view } : RemotePane).Owed := fun hkept howed => by
    rw [Owed, hkept.requestId]
    exact howed
  cases action with
  | navigate kind path accepted =>
    rw [act, navigate_waiting hbusy]
    exact ⟨rfl, .refl p.view, .inl rfl, id⟩
  | loadMore accepted =>
    rw [act, loadMore_waiting hbusy]
    exact ⟨rfl, .refl p.view, .inl rfl, id⟩
  | uploaded directory accepted =>
    obtain ⟨view, heq, hkept, hslot⟩ := refresh_waiting hbusy p directory accepted
    rw [act, heq]
    exact ⟨rfl, hkept, hslot, hsame hkept⟩
  | written path accepted =>
    rw [act_written]
    split
    · exact ⟨rfl, ⟨rfl, rfl, rfl, rfl, rfl, rfl, rfl⟩, .inl rfl, id⟩
    · rename_i directory _
      obtain ⟨view, heq, hkept, hslot⟩ := refresh_waiting (d := updated p.view path) hbusy
        { p with view := updated p.view path } directory accepted
      rw [heq]
      have hkept' : p.view.Kept view := ⟨hkept.isOpen, hkept.loading, hkept.path, hkept.back,
        hkept.forward, hkept.pending, hkept.requestId⟩
      exact ⟨rfl, hkept', hslot, hsame hkept'⟩
  -- an answer to an older request changes nothing and leaves the view waiting
  | event event accepted =>
    obtain ⟨hview, howed⟩ := applyEvent_ignored lower hgoes
    have hpending : (p.applyEvent lower event).view.beginPendingAutoRefresh =
        (.ok none, (p.applyEvent lower event).view) := by
      rw [SftpDirectoryState.beginPendingAutoRefresh, if_pos (by rw [hview]; exact hbusy)]
    rw [act, hpending]
    refine ⟨rfl, ?_, ?_, howed⟩
    · show p.view.Kept (p.applyEvent lower event).view
      rw [hview]
      exact .refl p.view
    · show SlotKept p.view (p.applyEvent lower event).view
      rw [hview]
      exact .inl rfl
  | toggleSort column =>
    obtain ⟨hkept, hslot⟩ := p.view.toggleSort_kept lower column
    exact ⟨rfl, hkept, .inl hslot, hsame hkept⟩
  | toggleSelection path selected =>
    obtain ⟨hkept, hslot⟩ := p.view.toggleSelection_kept path selected
    exact ⟨rfl, hkept, .inl hslot, hsame hkept⟩
  | selectAll selected =>
    exact ⟨rfl, ⟨rfl, rfl, rfl, rfl, rfl, rfl, rfl⟩, .inl rfl, id⟩
  | prepareForReconnect => exact absurd (.inl trivial) hgoes
  | reset => exact absurd (.inl trivial) hgoes

/-! ## Automatic requests -/

theorem Safe.uploaded {directory : String} {accepted : Bool}
    (h : p.Safe lower (.uploaded directory accepted)) (hdue : p.view.Due directory) :
    AsksItself p.view.path := by
  have hask := h.asks directory ⟨hdue, rfl⟩
  rwa [← hdue.2.1] at hask

theorem Safe.written {path directory : String} {accepted : Bool}
    (h : p.Safe lower (.written path accepted))
    (hvisible : p.view.visibleRemoteDirectoryForFile path = some directory)
    (hdue : p.view.Due directory) : AsksItself p.view.path := by
  have hask := h.asks directory ⟨hvisible, hdue⟩
  rwa [← hdue.2.1] at hask

theorem Safe.event {event : SftpBrowserEvent} {accepted : Bool}
    (h : p.Safe lower (.event event accepted))
    (hdue : (p.applyEvent lower event).view.PutOffDue) :
    AsksItself (p.applyEvent lower event).view.path := h.asks _ ⟨hdue, rfl⟩

/-- An automatic request asks for the shown directory, and the view waits for it. -/
theorem act_request (hsafe : p.Safe lower action) {request : DirectoryRequest}
    (h : (p.act lower action).1 = some request) :
    ∃ (d : SftpDirectoryState) (q : RemotePane), request = (nextRequestId d.requestId, d.path) ∧
      (p.act lower action).2 =
        ({ q with view := d.awaiting (refreshOf d.path) } : RemotePane).send request.1
          action.accepted := by
  cases action with
  | uploaded directory accepted =>
    rw [act] at h ⊢
    rcases SftpDirectoryState.remoteChange_cases hsafe.uploaded with ⟨-, heq⟩ | ⟨-, heq⟩ | ⟨-, heq⟩
    · rw [heq] at h ⊢
      obtain rfl := Option.some.inj h
      exact ⟨p.view, p, rfl, rfl⟩
    · rw [heq] at h
      cases h
    · rw [heq] at h
      cases h
  | written path accepted =>
    rw [act_written] at h ⊢
    cases hvisible : p.view.visibleRemoteDirectoryForFile path with
    | none =>
      rw [hvisible] at h
      cases h
    | some directory =>
      rw [hvisible] at h
      dsimp only at h ⊢
      rcases SftpDirectoryState.remoteChange_cases (d := updated p.view path)
        (hsafe.written hvisible) with ⟨-, heq⟩ | ⟨-, heq⟩ | ⟨-, heq⟩
      · rw [heq] at h ⊢
        obtain rfl := Option.some.inj h
        exact ⟨_, _, rfl, rfl⟩
      · rw [heq] at h
        cases h
      · rw [heq] at h
        cases h
  | event event accepted =>
    rw [act] at h ⊢
    rcases SftpDirectoryState.pendingRefresh_cases hsafe.event with ⟨-, heq⟩ | ⟨-, heq⟩ | ⟨-, heq⟩
    · rw [heq] at h ⊢
      obtain rfl := Option.some.inj h
      exact ⟨{ (p.applyEvent lower event).view with pendingAutoRefresh := none },
        p.applyEvent lower event, rfl, rfl⟩
    · rw [heq] at h
      cases h
    · rw [heq] at h
      cases h
  | navigate | loadMore | toggleSort | toggleSelection | selectAll | prepareForReconnect
  | reset => cases h

theorem issues_or_rejected {request : DirectoryRequest}
    (h : (p.act lower action).1 = some request) :
    (refresher lower).Issues p action ∨ (refresher lower).ends p action := by
  obtain haccepted | hrejected := Bool.eq_false_or_eq_true action.accepted
  · exact .inl ⟨request.2, congrArg (Option.map Prod.snd) h, haccepted⟩
  · exact .inr (.inr (.inl ⟨by rw [h]; rfl, hrejected⟩))

/-! ## Nothing is left waiting for nothing -/

/-- An answer that the view takes ends its waiting, and so does a closed connection. -/
theorem applyEvent_answered (lower : String → String) (h : p.Answered) (event : SftpBrowserEvent) :
    (p.applyEvent lower event).Answered := by
  intro hloading
  -- what the view takes ends its waiting; what it does not take it did not wait for
  by_cases hends : p.Concludes (.event event true)
  · rcases hends with hcloses | hanswer
    · cases event with
      | opened home => exact .inr (List.mem_singleton_self none)
      | closed => cases hloading
      | directoryPage => cases hcloses
      | failed => cases hcloses
    · cases event with
      | opened => cases hanswer
      | closed => cases hanswer
      | directoryPage requestId path entries append more truncated =>
        have hnot : ¬((!p.view.acceptsRequest requestId) = true) := by simpa using hanswer
        rw [applyEvent, SftpDirectoryState.applySftpEvent, if_neg hnot] at hloading
        cases append <;> cases hloading
      | failed requestId message =>
        have hnot : ¬((!p.view.acceptsRequest requestId) = true) := by simpa using hanswer
        rw [applyEvent, SftpDirectoryState.applySftpEvent, if_neg hnot] at hloading
        cases hloading
  · obtain ⟨hview, howed⟩ := applyEvent_ignored lower hends
    rw [hview] at hloading
    exact howed (h hloading)

theorem answered_of_kept {view : SftpDirectoryState} (h : p.Answered) (hkept : p.view.Kept view) :
    ({ p with view } : RemotePane).Answered := by
  intro hloading
  rw [Owed, hkept.requestId]
  exact h (hkept.loading ▸ hloading)

theorem refresh_answered {d : SftpDirectoryState} {q : RemotePane} {directory : String}
    (hq : ({ q with view := d } : RemotePane).Answered) (hask : d.Due directory → AsksItself d.path)
    (accepted : Bool) :
    (q.refresh (d.beginRefreshAfterRemoteChange directory) accepted).2.Answered := by
  rcases d.remoteChange_cases hask with ⟨-, heq⟩ | ⟨-, heq⟩ | ⟨-, heq⟩
  · rw [heq]
    exact answered_send rfl accepted
  · rw [heq]
    exact answered_of_kept (p := { q with view := d }) hq ⟨rfl, rfl, rfl, rfl, rfl, rfl, rfl⟩
  · rw [heq]
    exact hq

/-- While the view waits, the worker owes the answer. -/
theorem act_answered (h : p.Answered) (hsafe : p.Safe lower action) :
    (p.act lower action).2.Answered := by
  cases action with
  -- a request that the worker rejects fails at once, and the view waits no longer
  | navigate kind path accepted =>
    rw [act, navigate]
    split
    · exact h
    · rename_i request view hbegin
      obtain ⟨hid, pending, -, rfl⟩ := SftpDirectoryState.beginNavigation_ok hbegin
      have hsend :=
        answered_send (p := { p with view := p.view.awaiting pending }) hid.symm accepted
      cases accepted with
      | true => exact hsend
      | false => exact nofun
  | loadMore accepted =>
    rw [act, loadMore]
    split
    · exact h
    · rename_i requestId view hbegin
      refine answered_send ?_ accepted
      unfold SftpDirectoryState.beginLoadMore at hbegin
      split at hbegin
      · cases hbegin
      · split at hbegin
        · cases hbegin
        · cases hbegin
          rfl
  | uploaded directory accepted => exact refresh_answered h hsafe.uploaded accepted
  | written path accepted =>
    have hupdated : ({ p with view := updated p.view path } : RemotePane).Answered :=
      answered_of_kept h ⟨rfl, rfl, rfl, rfl, rfl, rfl, rfl⟩
    rw [act_written]
    split
    · exact hupdated
    · rename_i hvisible
      exact refresh_answered hupdated (hsafe.written hvisible) accepted
  | event event accepted =>
    have hevent := applyEvent_answered lower h event
    rw [act]
    rcases SftpDirectoryState.pendingRefresh_cases hsafe.event with
      ⟨-, heq⟩ | ⟨-, heq⟩ | ⟨hidle, heq⟩
    · rw [heq]
      exact answered_send rfl accepted
    · rw [heq]
      exact hevent
    · rw [heq]
      exact answered_of_kept hevent ⟨rfl, rfl, rfl, rfl, rfl, rfl, rfl⟩
  | toggleSort column => exact answered_of_kept h (p.view.toggleSort_kept lower column).1
  | toggleSelection path selected =>
    exact answered_of_kept h (p.view.toggleSelection_kept path selected).1
  | selectAll selected => exact answered_of_kept h ⟨rfl, rfl, rfl, rfl, rfl, rfl, rfl⟩
  | prepareForReconnect => exact nofun
  | reset => exact nofun

/-! ## The obligations of a refresher -/

theorem act_notices (h : p.Answered) (hsafe : p.Safe lower action) (hnotified : p.Notified action) :
    ((refresher lower).Issues p action ∨ (refresher lower).ends p action) ∨
      (p.act lower action).2.PutOff := by
  cases action with
  | uploaded directory accepted =>
    rcases SftpDirectoryState.remoteChange_cases hsafe.uploaded with
      ⟨-, heq⟩ | ⟨⟨hopen, -, hbusy⟩, heq⟩ | ⟨hnot, -⟩
    · exact .inl (issues_or_rejected (by rw [act, heq]; rfl))
    · rw [act, heq]
      exact .inr ⟨hopen, hbusy, rfl, h hbusy⟩
    · exact absurd hnotified hnot
  | written path accepted =>
    obtain ⟨directory, hvisible⟩ := Option.isSome_iff_exists.mp hnotified
    have hshown : (updated p.view path).open = true ∧ (updated p.view path).path = directory :=
      visible_eq hvisible
    have heffect := act_written lower p path accepted
    rw [hvisible] at heffect
    dsimp only at heffect
    rcases SftpDirectoryState.remoteChange_cases (d := updated p.view path)
      (hsafe.written hvisible) with ⟨-, heq⟩ | ⟨⟨hopen, -, hbusy⟩, heq⟩ | ⟨hnot, -⟩
    · exact .inl (issues_or_rejected (by rw [heffect, heq]; rfl))
    · rw [heffect, heq]
      exact .inr ⟨hopen, hbusy, rfl, h hbusy⟩
    · exact absurd hshown hnot
  | navigate | loadMore | event | toggleSort | toggleSelection | selectAll | prepareForReconnect
  | reset => cases hnotified

/-- The answer to the outstanding listing leaves a refresh that was put off due. -/
theorem putOff_due (lower : String → String) (h : p.PutOff) {event : SftpBrowserEvent}
    {accepted : Bool} (hends : p.Concludes (.event event accepted)) (hcloses : ¬Closes (.event event accepted))
    (hshown : ∀ path, p.arrives (.event event accepted) = some path → path = p.view.path) :
    (p.applyEvent lower event).view.PutOffDue := by
  have hanswer := hends.resolve_left hcloses
  cases event with
  | opened => exact absurd trivial hcloses
  | closed => exact absurd trivial hcloses
  | directoryPage requestId path entries append more truncated =>
    have hnot : ¬((!p.view.acceptsRequest requestId) = true) := by simpa using hanswer
    obtain rfl : path = p.view.path := hshown path (if_pos hanswer)
    rw [applyEvent, SftpDirectoryState.applySftpEvent, if_neg hnot]
    cases append <;> exact ⟨h.slot, rfl, rfl, rfl⟩
  | failed requestId message =>
    have hnot : ¬((!p.view.acceptsRequest requestId) = true) := by simpa using hanswer
    rw [applyEvent, SftpDirectoryState.applySftpEvent, if_neg hnot]
    exact ⟨h.slot, h.isOpen, rfl, rfl⟩

/-- A refresh that was put off stays so until the listing is answered, and then it goes out. -/
theorem act_waits (h : p.PutOff) (hsafe : p.Safe lower action) :
    ((refresher lower).Issues p action ∨ (refresher lower).ends p action) ∨
      (p.act lower action).2.PutOff := by
  by_cases hends : p.Concludes action
  · refine .inl ?_
    by_cases hcloses : Closes action
    · exact .inr (.inr (.inr hcloses))
    by_cases hleaves : p.Leaves action
    · exact .inr (.inl hleaves)
    have hshown : ∀ path, p.arrives action = some path → path = p.view.path := by
      intro path harrives
      by_contra hpath
      -- the page under another path was asked for by the user
      have helse := (hsafe.named path harrives h.slot).resolve_left hpath
      exact hleaves ⟨⟨path, harrives, hpath⟩, helse⟩
    cases action with
    | event event accepted =>
      have hdue := putOff_due lower h hends hcloses hshown
      rcases SftpDirectoryState.pendingRefresh_cases hsafe.event with
        ⟨-, heq⟩ | ⟨hbusy, -⟩ | ⟨⟨-, hnot⟩, -⟩
      · exact issues_or_rejected (by rw [act, heq]; rfl)
      · rw [hdue.2.2.2] at hbusy
        cases hbusy
      · exact absurd hdue hnot
    | navigate | loadMore | uploaded | written | toggleSort | toggleSelection | selectAll =>
      rcases hends with hclosed | hanswer
      · cases hclosed
      · cases hanswer
    | prepareForReconnect => exact absurd trivial hcloses
    | reset => exact absurd trivial hcloses
  -- the listing goes on, so the slot can only be filled with what is shown
  · obtain ⟨-, hkept, hslot, howed⟩ := act_waiting lower h.loading hends
    refine .inr ⟨hkept.isOpen.trans h.isOpen, hkept.loading.trans h.loading, ?_, howed h.owed⟩
    rw [hkept.path]
    exact hslot.elim (fun hsame => hsame.trans h.slot) id

theorem refreshing_of_request (hsafe : p.Safe lower action) {request : DirectoryRequest}
    (h : (p.act lower action).1 = some request) (haccepted : action.accepted = true) :
    Refreshing request.2 ((p.act lower action).2.view.backHistory,
      (p.act lower action).2.view.forwardHistory) (p.act lower action).2 := by
  obtain ⟨d, q, rfl, heq⟩ := act_request hsafe h
  rw [heq, haccepted]
  exact ⟨rfl, rfl, rfl, rfl⟩

theorem Refreshing.goesOn {path : String} {history : List String × List String}
    (h : Refreshing path history p) (hgoes : ¬p.Concludes action) :
    Refreshing path history (p.act lower action).2 := by
  obtain ⟨-, hkept, -, -⟩ := act_waiting lower h.loading hgoes
  refine ⟨hkept.loading.trans h.loading, hkept.path.trans h.path_eq, ?_,
    hkept.pending.trans h.pending⟩
  rw [hkept.back, hkept.forward]
  exact h.history_eq

theorem refresh_zipper (q : RemotePane)
    (outcome : Except String (Option DirectoryRequest) × SftpDirectoryState) (accepted : Bool) :
    (q.refresh outcome accepted).2.view.zipper = outcome.2.zipper := by
  rcases outcome with ⟨_ | _ | _, view⟩ <;> cases accepted <;> rfl

theorem beginPendingAutoRefresh_zipper (d : SftpDirectoryState) :
    d.beginPendingAutoRefresh.2.zipper = d.zipper := by
  rcases d.beginPendingAutoRefresh_cases with ⟨slot, heq⟩ | ⟨pending, -, heq⟩
  · rw [heq]
    rfl
  · rw [heq]
    rfl

/-- The answer to an automatic request under the path that was asked for moves the view nowhere. -/
theorem Refreshing.answered (lower : String → String) {path : String}
    {history : List String × List String} (h : Refreshing path history p) (harrives : p.arrives action = some path) :
    (p.act lower action).2.view.zipper = ⟨history.1, path, history.2⟩ := by
  cases action with
  | event event accepted =>
    cases event with
    | directoryPage requestId page entries append more truncated =>
      rw [arrives] at harrives
      split at harrives
      · rename_i haccepts
        obtain rfl := Option.some.inj harrives
        have hnot : ¬((!p.view.acceptsRequest requestId) = true) := by simp [haccepts]
        -- a direct request for the path that is shown pushes nothing on either history
        have hhistory : completeDirectoryHistory (some (refreshOf page)) page p.view.backHistory
            p.view.forwardHistory = history := by
          rw [← h.history_eq]
          simp [completeDirectoryHistory, refreshOf]
        rw [act, refresh_zipper, beginPendingAutoRefresh_zipper, applyEvent,
          SftpDirectoryState.applySftpEvent, if_neg hnot]
        cases append with
        | true =>
          rw [← h.history_eq]
          rfl
        | false =>
          rw [← hhistory, ← h.pending]
          rfl
      · cases harrives
    | opened => cases harrives
    | failed => cases harrives
    | closed => cases harrives
  | navigate | loadMore | uploaded | written | toggleSort | toggleSelection | selectAll
  | prepareForReconnect | reset => cases harrives

/-- Every action keeps its part. -/
theorem sound (lower : String → String) :
    (refresher lower).Sound (Safe lower) Answered Refreshing where
  inv_step _ _ h hsafe := act_answered h hsafe
  asks p action path hsafe hrequest := by
    obtain ⟨request, hact, rfl⟩ := Option.map_eq_some_iff.mp hrequest
    obtain ⟨d, q, rfl, heq⟩ := act_request hsafe hact
    show d.path = (p.act lower action).2.view.path
    rw [heq, send_path]
    rfl
  begins p action path hsafe hrequest htaken := by
    obtain ⟨request, hact, rfl⟩ := Option.map_eq_some_iff.mp hrequest
    exact refreshing_of_request hsafe hact htaken
  goesOn _ _ p action h := or_iff_not_imp_left.mpr h.goesOn
  answers _ _ p action h harrives := by
    have hzipper := h.answered lower harrives
    exact ⟨congrArg Zipper.here hzipper, congrArg (fun z => (z.back, z.forward)) hzipper⟩
  notices _ _ h hsafe hnotified := act_notices h hsafe hnotified
  waits _ _ h hsafe := act_waits h hsafe

end

end RemotePane

end AxSsh
