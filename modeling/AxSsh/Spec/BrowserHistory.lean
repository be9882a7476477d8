import Mathlib.Algebra.Ring.Nat
import AxSsh.ForStd.Transition
import AxSsh.ForStd.Zipper
import AxSsh.Native.SftpDirectory

/-!
# History of the remote directory view

The path and the two histories of a browser as a bounded `Zipper`.  A page that answers the
pending navigation moves the zipper; everything else leaves it alone.  A page may name another
path than the one that was asked for, and then the histories are those of the paths that were
shown.  `Answers` is what the round trip needs of the pages.

## Key results
- `step_moved`: what one operation does to the zipper and to the pending navigation
- `step_tracked`: while pages answer their requests, the browser's moves are the zipper's
- `history_is_zipper`: the browser over whole runs
-/

namespace AxSsh

open Transition (AllSafe allSafe_cons_iff allSafe_append_iff)

/-! ## The histories as lists -/

theorem pushSftpHistory_empty (history : List String) : pushSftpHistory history "" = history :=
  if_pos (.inl rfl)

theorem pushSftpHistory_eq {path : String} (h : path ≠ "") (history : List String) :
    pushSftpHistory history path = remember sftpHistoryLimit history path := by
  simp only [pushSftpHistory, remember, h, false_or]

/-- Adjacent entries differ, and both histories together are within the limit. -/
structure HistoriesBounded (histories : List String × List String) : Prop where
  back : histories.1.IsChain (· ≠ ·)
  forward : histories.2.IsChain (· ≠ ·)
  size : histories.1.length + histories.2.length ≤ sftpHistoryLimit

theorem isChain_pushSftpHistory {history : List String} (path : String)
    (h : history.IsChain (· ≠ ·)) : (pushSftpHistory history path).IsChain (· ≠ ·) := by
  by_cases hempty : path = ""
  · rw [hempty, pushSftpHistory_empty]
    exact h
  · rw [pushSftpHistory_eq hempty]
    exact isChain_remember path h

theorem length_pushSftpHistory_le (history : List String) (path : String) :
    (pushSftpHistory history path).length ≤ history.length + 1 := by
  by_cases hempty : path = ""
  · rw [hempty, pushSftpHistory_empty]
    omega
  · rw [pushSftpHistory_eq hempty]
    exact length_remember_le _ _ _

theorem length_pushSftpHistory_le_limit {history : List String} (path : String)
    (h : history.length ≤ sftpHistoryLimit) :
    (pushSftpHistory history path).length ≤ sftpHistoryLimit := by
  by_cases hempty : path = ""
  · rw [hempty, pushSftpHistory_empty]
    exact h
  · rw [pushSftpHistory_eq hempty]
    exact length_remember_le_limit path (by decide) h

theorem length_dropLast_of_getLast? {history : List String} {path : String}
    (h : history.getLast? = some path) : history.dropLast.length + 1 = history.length := by
  obtain ⟨rest, rfl⟩ := List.getLast?_eq_some_iff.mp h
  rw [List.dropLast_concat, List.length_append, List.length_singleton]

theorem HistoriesBounded.nil : HistoriesBounded ([], []) := ⟨.nil, .nil, Nat.zero_le _⟩

/-- Whatever page arrives, the histories stay bounded. -/
theorem HistoriesBounded.complete {back forward : List String}
    (h : HistoriesBounded (back, forward)) (pending : Option PendingSftpNavigation)
    (path : String) : HistoriesBounded (completeDirectoryHistory pending path back forward) := by
  have hsize : back.length + forward.length ≤ sftpHistoryLimit := h.size
  cases pending with
  | none => exact h
  | some pending =>
    -- a visit empties the forward history, so the push keeps within the limit
    have hvisit : HistoriesBounded (if pending.from ≠ path then
        (pushSftpHistory back pending.from, []) else (back, forward)) := by
      split
      · exact ⟨isChain_pushSftpHistory _ h.back, .nil,
          length_pushSftpHistory_le_limit _ (by omega)⟩
      · exact h
    simp only [completeDirectoryHistory]
    cases pending.kind with
    | direct => exact hvisit
    | up => exact hvisit
    | back =>
      simp only
      -- one entry moves from one history to the other
      split
      · rename_i hlast
        have hdrop := length_dropLast_of_getLast? hlast
        have hpush := length_pushSftpHistory_le forward pending.from
        refine ⟨h.back.dropLast, isChain_pushSftpHistory _ h.forward, ?_⟩
        show back.dropLast.length + (pushSftpHistory forward pending.from).length ≤ _
        omega
      · exact h
    | forward =>
      simp only
      split
      · rename_i hlast
        have hdrop := length_dropLast_of_getLast? hlast
        have hpush := length_pushSftpHistory_le back pending.from
        refine ⟨isChain_pushSftpHistory _ h.back, h.forward.dropLast, ?_⟩
        show (pushSftpHistory back pending.from).length + forward.dropLast.length ≤ _
        omega
      · exact h

namespace SftpDirectoryState

variable (lower : String → String)

/-! ## One operation -/

/-- A browser before its connection opens; a restored tab has a path. -/
def start (path : String) (l : LocalDirectoryState) : SftpDirectoryState := { path, «local» := l }

/-- The path and the histories. -/
def zipper (d : SftpDirectoryState) : Zipper String := ⟨d.backHistory, d.path, d.forwardHistory⟩

/-- A navigation that was asked for in the place the browser is in. -/
def Links (d : SftpDirectoryState) (pending : PendingSftpNavigation) : Prop :=
  pending.from = d.path ∧
    (pending.kind = .back → d.backHistory.getLast? = some pending.requested) ∧
    (pending.kind = .forward → d.forwardHistory.getLast? = some pending.requested)

/-- What a page leaves of the path and the histories. -/
def shown (d : SftpDirectoryState) (path : String) : Zipper String :=
  let histories :=
    completeDirectoryHistory d.pendingNavigation path d.backHistory d.forwardHistory
  ⟨histories.1, path, histories.2⟩

/-- What a step does to the history, where it does something. -/
inductive HistoryEffect where
  | wentBack
  | wentForward
  | visited
  | shown
  | cleared
deriving DecidableEq, Repr

/-- What a page does that is not appended: it completes the pending navigation, if any. -/
def pageEffect (d : SftpDirectoryState) (path : String) : Option HistoryEffect :=
  match d.pendingNavigation with
  | none => if path = d.path then none else some .shown
  | some pending =>
    match pending.kind with
    | .back => some .wentBack
    | .forward => some .wentForward
    | _ => if path = d.path then none else some .visited

/-- The effect of an operation.  A refresh and whatever completes no navigation has none. -/
def effect (d : SftpDirectoryState) : NavigationOp → Option HistoryEffect
  | .event (.directoryPage requestId path _ append _ _) =>
    if !d.acceptsRequest requestId then none
    else if append then (if path = d.path then none else some .shown)
    else d.pageEffect path
  | .event (.opened _) | .prepareForReconnect | .reset => some .cleared
  | _ => none

/-- What one operation does to the zipper and to the pending navigation. -/
inductive Moved (d d' : SftpDirectoryState) : NavigationOp → Prop
  | stays (op : NavigationOp) : d.effect op = none → d'.zipper = d.zipper →
      (d'.pendingNavigation = d.pendingNavigation ∨ d'.pendingNavigation = none ∨
        ∃ pending, d'.pendingNavigation = some pending ∧ d.Links pending) → Moved d d' op
  | clears (op : NavigationOp) : d.effect op = some .cleared → d'.zipper = ⟨[], "", []⟩ →
      d'.pendingNavigation = none → Moved d d' op
  | completes (requestId : Option UInt64) (path : String) (entries : List SftpEntry)
      (more truncated : Bool) : d.acceptsRequest requestId = true → d'.zipper = d.shown path →
      d'.pendingNavigation = none →
      Moved d d' (.event (.directoryPage requestId path entries false more truncated))
  | appends (requestId : Option UInt64) (path : String) (entries : List SftpEntry)
      (more truncated : Bool) : d.acceptsRequest requestId = true →
      d'.zipper = ⟨d.backHistory, path, d.forwardHistory⟩ →
      d'.pendingNavigation = d.pendingNavigation →
      Moved d d' (.event (.directoryPage requestId path entries true more truncated))

/-- The state that waits for the answer to a navigation. -/
def awaiting (d : SftpDirectoryState) (pending : PendingSftpNavigation) : SftpDirectoryState :=
  { d with
    pendingNavigation := some pending
    loading := true
    requestId := nextRequestId d.requestId
    status := "Loading directory..." }

/-- A request starts where the browser is, and goes where its history points. -/
theorem beginNavigation_ok {d d' : SftpDirectoryState} {kind : SftpNavigation}
    {path : Option String} {request : DirectoryRequest}
    (h : d.beginNavigation kind path = .ok (request, d')) :
    request.1 = nextRequestId d.requestId ∧ ∃ pending, d.Links pending ∧
      d' = d.awaiting pending := by
  rw [beginNavigation] at h
  split at h
  · exact nomatch h
  · split at h
    · exact nomatch h
    · rename_i requested hrequested
      split at h
      · exact nomatch h
      · cases h
        refine ⟨rfl, _, ⟨rfl, ?_, ?_⟩, rfl⟩
        · rintro rfl
          simp only [requestedPath] at hrequested
          split at hrequested
          · exact nomatch hrequested
          · cases hrequested
            assumption
        · rintro rfl
          simp only [requestedPath] at hrequested
          split at hrequested
          · exact nomatch hrequested
          · cases hrequested
            assumption

theorem beginRequest_cases (d : SftpDirectoryState) (kind : SftpNavigation)
    (path : Option String) : (d.beginRequest kind path).2 = d ∨
      ∃ pending, d.Links pending ∧ (d.beginRequest kind path).2 = d.awaiting pending := by
  rw [beginRequest]
  split
  · exact .inl rfl
  · rename_i hbegin
    exact .inr (beginNavigation_ok hbegin).2

/-- A refresh asks for the directory again, puts the question off, or does nothing. -/
theorem beginRefreshAfterRemoteChange_cases (d : SftpDirectoryState) (directory : String) :
    (∃ refresh, (d.beginRefreshAfterRemoteChange directory).2 =
        { d with pendingAutoRefresh := refresh }) ∨
      ∃ pending, d.Links pending ∧
        (d.beginRefreshAfterRemoteChange directory).2 = d.awaiting pending := by
  rw [beginRefreshAfterRemoteChange]
  split
  · exact .inl ⟨d.pendingAutoRefresh, rfl⟩
  · split
    · exact .inl ⟨some directory, rfl⟩
    · exact (beginRequest_cases d .direct (some directory)).imp_left
        fun hsame => ⟨d.pendingAutoRefresh, hsame⟩

/-- The same for a refresh that was put off. -/
theorem beginPendingAutoRefresh_cases (d : SftpDirectoryState) :
    (∃ refresh, d.beginPendingAutoRefresh.2 = { d with pendingAutoRefresh := refresh }) ∨
      ∃ pending, d.Links pending ∧
        d.beginPendingAutoRefresh.2 = ({ d with pendingAutoRefresh := none }).awaiting pending := by
  rw [beginPendingAutoRefresh]
  split
  · exact .inl ⟨d.pendingAutoRefresh, rfl⟩
  · split
    · exact .inl ⟨none, rfl⟩
    · split
      · exact .inl ⟨d.pendingAutoRefresh, rfl⟩
      · rename_i directory _
        rcases beginRefreshAfterRemoteChange_cases { d with pendingAutoRefresh := none } directory with
          ⟨refresh, hsame⟩ | ⟨pending, hlinks, hwaits⟩
        · exact .inl ⟨refresh, hsame⟩
        · exact .inr ⟨pending, hlinks, hwaits⟩

theorem step_moved (d : SftpDirectoryState) (op : NavigationOp) :
    d.Moved (d.step lower op) op := by
  cases op with
  | beginNavigation kind path =>
    show d.Moved (d.beginRequest kind path).2 _
    rcases beginRequest_cases d kind path with hsame | ⟨pending, hlinks, hwaits⟩
    · rw [hsame]
      -- a request moves nothing; it only says where the view will go
      exact .stays _ rfl rfl (.inl rfl)
    · rw [hwaits]
      exact .stays _ rfl rfl (.inr (.inr ⟨pending, rfl, hlinks⟩))
  | beginLoadMore =>
    simp only [step, beginLoadMore]
    split
    · exact .stays _ rfl rfl (.inl rfl)
    · rename_i h
      split at h
      · exact nomatch h
      · split at h
        · exact nomatch h
        · cases h
          exact .stays _ rfl rfl (.inl rfl)
  | cancelNavigation => exact .stays _ rfl rfl (.inr (.inl rfl))
  | beginRefreshAfterRemoteChange directory =>
    show d.Moved (d.beginRefreshAfterRemoteChange directory).2 _
    rcases beginRefreshAfterRemoteChange_cases d directory with
      ⟨refresh, hsame⟩ | ⟨pending, hlinks, hwaits⟩
    · rw [hsame]
      exact .stays _ rfl rfl (.inl rfl)
    · rw [hwaits]
      exact .stays _ rfl rfl (.inr (.inr ⟨pending, rfl, hlinks⟩))
  | beginPendingAutoRefresh =>
    show d.Moved d.beginPendingAutoRefresh.2 _
    rcases beginPendingAutoRefresh_cases d with ⟨refresh, hsame⟩ | ⟨pending, hlinks, hwaits⟩
    · rw [hsame]
      exact .stays _ rfl rfl (.inl rfl)
    · rw [hwaits]
      exact .stays _ rfl rfl (.inr (.inr ⟨pending, rfl, hlinks⟩))
  | event event =>
    cases event with
    | opened home => exact .clears _ rfl rfl rfl
    | directoryPage requestId path entries append more truncated =>
      by_cases haccepts : d.acceptsRequest requestId = true
      · have hnot : ¬((!d.acceptsRequest requestId) = true) := by rw [haccepts]; exact nofun
        simp only [step, applySftpEvent, if_neg hnot]
        -- another page of the same listing is added, a first page completes the navigation
        cases append with
        | true => exact .appends requestId path entries more truncated haccepts rfl rfl
        | false => exact .completes requestId path entries more truncated haccepts rfl rfl
      · have hnot : (!d.acceptsRequest requestId) = true := by
          rw [Bool.eq_false_iff.mpr haccepts]
          rfl
        simp only [step, applySftpEvent, if_pos hnot]
        exact .stays _ (if_pos hnot) rfl (.inl rfl)
    | failed requestId message =>
      simp only [step, applySftpEvent]
      split
      · exact .stays _ rfl rfl (.inl rfl)
      · exact .stays _ rfl rfl (.inr (.inl rfl))
    | closed => exact .stays _ rfl rfl (.inl rfl)
  | toggleSort column =>
    simp only [step, toggleSort]
    split <;> exact .stays _ rfl rfl (.inl rfl)
  | toggleSelection path selected =>
    simp only [step, toggleSelection]
    split <;> exact .stays _ rfl rfl (.inl rfl)
  | selectAll selected => exact .stays _ rfl rfl (.inl rfl)
  | prepareForReconnect => exact .clears _ rfl rfl rfl
  | reset => exact .clears _ rfl rfl rfl

/-- The histories of a browser are bounded after any run. -/
theorem run_bounded (path : String) (l : LocalDirectoryState) (ops : List NavigationOp) :
    let d := ops.foldl (step lower) (start path l)
    HistoriesBounded (d.backHistory, d.forwardHistory) := by
  induction ops using List.reverseRecOn with
  | nil => exact .nil
  | append_singleton ops op ih =>
    rw [List.foldl_append]
    have hmoved := step_moved lower (ops.foldl (step lower) (start path l)) op
    revert hmoved ih
    generalize ops.foldl (step lower) (start path l) = d
    intro ih hmoved
    show HistoriesBounded ((d.step lower op).zipper.back, (d.step lower op).zipper.forward)
    cases hmoved with
    | stays _ _ hzipper => rw [hzipper]; exact ih
    | clears _ _ hzipper => rw [hzipper]; exact .nil
    | completes _ _ _ _ _ _ hzipper => rw [hzipper]; exact ih.complete _ _
    | appends _ _ _ _ _ _ hzipper => rw [hzipper]; exact ih

/-! ## The browser as a zipper -/

/-- The effects of a sequence of operations, in order. -/
def effects (d : SftpDirectoryState) : List NavigationOp → List HistoryEffect
  | [] => []
  | op :: ops => (d.effect op).toList ++ (d.step lower op).effects ops

/-- An accepted page names a path and is for what was asked: a page of a history move names
    the path the history has, and one that is appended or that nobody asked for names the path
    that is shown, unless there is no history yet. -/
def Answers (d : SftpDirectoryState) : NavigationOp → Prop
  | .event (.directoryPage requestId path _ append _ _) => d.acceptsRequest requestId = true →
      path ≠ "" ∧ (append = true → path = d.path) ∧
        (append = false → match d.pendingNavigation with
          | none => path = d.path ∨ d.backHistory = [] ∧ d.forwardHistory = []
          | some pending => pending.kind = .back ∨ pending.kind = .forward →
              path = pending.requested)
  | _ => True

/-- What the runs keep whose pages answer their requests. -/
structure Tracked (d : SftpDirectoryState) : Prop where
  good : d.zipper.Good sftpHistoryLimit
  named : d.path = "" → d.backHistory = [] ∧ d.forwardHistory = []
  links : ∀ pending, d.pendingNavigation = some pending → d.Links pending

theorem start_tracked (path : String) (l : LocalDirectoryState) : (start path l).Tracked where
  good := Zipper.good_new _ path
  named _ := ⟨rfl, rfl⟩
  links _ h := nomatch h

variable {lower}

/-- `Tracked` for the state after a step, from its zipper. -/
theorem Tracked.of_zipper {d' : SftpDirectoryState} (hgood : d'.zipper.Good sftpHistoryLimit)
    (hnamed : d'.zipper.here = "" → d'.zipper.back = [] ∧ d'.zipper.forward = [])
    (hlinks : ∀ pending, d'.pendingNavigation = some pending → d'.Links pending) : d'.Tracked :=
  ⟨hgood, hnamed, hlinks⟩

/-- A navigation is linked to the zipper only. -/
theorem Links.of_zipper {d d' : SftpDirectoryState} {pending : PendingSftpNavigation}
    (h : d.Links pending) (hzipper : d'.zipper = d.zipper) : d'.Links pending := by
  obtain ⟨hback, hpath, hforward⟩ := Zipper.mk.inj hzipper
  obtain ⟨hfrom, hb, hf⟩ := h
  refine ⟨hfrom.trans hpath.symm, fun hkind => ?_, fun hkind => ?_⟩
  · rw [hback]
    exact hb hkind
  · rw [hforward]
    exact hf hkind

/-- A new directory, by name or upwards. -/
theorem Tracked.shown_visited {d : SftpDirectoryState} (h : d.Tracked)
    {pending : PendingSftpNavigation} (hpending : d.pendingNavigation = some pending)
    (hkind : pending.kind = .direct ∨ pending.kind = .up) (path : String) :
    (d.shown path).Good sftpHistoryLimit ∧ (path = d.path → d.shown path = d.zipper) := by
  obtain ⟨hfrom, _⟩ := h.links pending hpending
  have hshown : d.shown path = if pending.from ≠ path then
      ⟨pushSftpHistory d.backHistory pending.from, path, []⟩
    else ⟨d.backHistory, path, d.forwardHistory⟩ := by
    simp only [SftpDirectoryState.shown, hpending, completeDirectoryHistory]
    rcases hkind with hkind | hkind <;> simp only [hkind] <;> split <;> rfl
  rw [hfrom] at hshown
  by_cases hsame : d.path = path
  · rw [if_neg (not_not_intro hsame)] at hshown
    rw [hshown, ← hsame]
    exact ⟨h.good, fun _ => rfl⟩
  · rw [if_pos hsame] at hshown
    refine ⟨?_, fun he => absurd he.symm hsame⟩
    by_cases hempty : d.path = ""
    · -- nothing was shown yet, so there is no history either
      obtain ⟨hback, _⟩ := h.named hempty
      rw [hshown, hempty, pushSftpHistory_empty, hback]
      exact Zipper.good_new _ path
    · have hvisit : d.shown path = d.zipper.visit sftpHistoryLimit path := by
        rw [hshown, Zipper.visit, if_neg (show ¬d.zipper.here = path from hsame),
          pushSftpHistory_eq hempty]
        rfl
      rw [hvisit]
      exact h.good.visit (by decide) path

/-- The answer of a Back. -/
theorem Tracked.shown_back {d : SftpDirectoryState} (h : d.Tracked)
    {pending : PendingSftpNavigation} (hpending : d.pendingNavigation = some pending)
    (hkind : pending.kind = .back) :
    d.backHistory ≠ [] ∧ d.shown pending.requested = d.zipper.goBack sftpHistoryLimit := by
  obtain ⟨hfrom, hback, _⟩ := h.links pending hpending
  have hlast := hback hkind
  have hsome : d.backHistory ≠ [] := by
    intro hnil
    rw [hnil] at hlast
    exact nomatch hlast
  have hnamed : d.path ≠ "" := fun hempty => hsome (h.named hempty).1
  refine ⟨hsome, ?_⟩
  simp only [SftpDirectoryState.shown, hpending, completeDirectoryHistory, hkind, if_true,
    hfrom, pushSftpHistory_eq hnamed, Zipper.goBack, zipper, hlast]

/-- The answer of a Forward. -/
theorem Tracked.shown_forward {d : SftpDirectoryState} (h : d.Tracked)
    {pending : PendingSftpNavigation} (hpending : d.pendingNavigation = some pending)
    (hkind : pending.kind = .forward) :
    d.shown pending.requested = d.zipper.goForward sftpHistoryLimit := by
  obtain ⟨hfrom, _, hforward⟩ := h.links pending hpending
  have hlast := hforward hkind
  have hnamed : d.path ≠ "" := by
    intro hempty
    rw [(h.named hempty).2] at hlast
    exact nomatch hlast
  simp only [SftpDirectoryState.shown, hpending, completeDirectoryHistory, hkind, if_true,
    hfrom, pushSftpHistory_eq hnamed, Zipper.goForward, zipper, hlast]

/-- The moves of a zipper that an effect stands for. -/
def Follows (z z' : Zipper String) : Option HistoryEffect → Prop
  | none => z' = z
  | some .wentBack => z.back ≠ [] ∧ z' = z.goBack sftpHistoryLimit
  | some .wentForward => z' = z.goForward sftpHistoryLimit
  | some _ => True

/-- A page that answers its request moves the zipper as its navigation says. -/
theorem Tracked.shown {d : SftpDirectoryState} (h : d.Tracked) {path : String}
    (hanswers : match d.pendingNavigation with
      | none => path = d.path ∨ d.backHistory = [] ∧ d.forwardHistory = []
      | some pending => pending.kind = .back ∨ pending.kind = .forward →
          path = pending.requested) :
    (d.shown path).Good sftpHistoryLimit ∧ Follows d.zipper (d.shown path) (d.pageEffect path) := by
  cases hpending : d.pendingNavigation with
  | none =>
    simp only [hpending] at hanswers
    have hshown : d.shown path = ⟨d.backHistory, path, d.forwardHistory⟩ := by
      simp only [SftpDirectoryState.shown, hpending, completeDirectoryHistory]
    simp only [pageEffect, hpending]
    -- a page that nobody has asked for shows the same directory, or the first one
    by_cases hsame : path = d.path
    · rw [if_pos hsame, hshown, hsame]
      exact ⟨h.good, rfl⟩
    · obtain ⟨hback, hforward⟩ := hanswers.resolve_left hsame
      rw [if_neg hsame, hshown, hback, hforward]
      exact ⟨Zipper.good_new _ path, trivial⟩
  | some pending =>
    simp only [hpending] at hanswers
    simp only [pageEffect, hpending]
    -- typed paths and the parent directory are pushed on the history
    have hvisited : pending.kind = .direct ∨ pending.kind = .up →
        (d.shown path).Good sftpHistoryLimit ∧ Follows d.zipper (d.shown path)
          (if path = d.path then none else some .visited) := by
      intro hkind
      obtain ⟨hgood, hsame⟩ := h.shown_visited hpending hkind path
      refine ⟨hgood, ?_⟩
      split
      · exact hsame ‹_›
      · trivial
    cases hkind : pending.kind with
    | direct => exact hvisited (.inl hkind)
    | up => exact hvisited (.inr hkind)
    | back =>
      obtain ⟨hsome, hmove⟩ := h.shown_back hpending hkind
      rw [hanswers (.inl hkind), hmove]
      exact ⟨h.good.goBack, hsome, rfl⟩
    | forward =>
      have hmove := h.shown_forward hpending hkind
      rw [hanswers (.inr hkind), hmove]
      exact ⟨h.good.goForward, rfl⟩

/-- While pages answer their requests, the browser's moves are the zipper's. -/
theorem step_tracked {d : SftpDirectoryState} (h : d.Tracked) {op : NavigationOp}
    (hanswers : d.Answers op) :
    (d.step lower op).Tracked ∧ Follows d.zipper (d.step lower op).zipper (d.effect op) := by
  -- what a step does to the zipper does not depend on which operation it was
  have hmoved := step_moved lower d op
  revert hanswers
  generalize d.step lower op = d' at hmoved ⊢
  intro hanswers
  cases hmoved with
  | stays _ heffect hzipper hpending =>
    rw [heffect]
    refine ⟨.of_zipper ?_ ?_ ?_, hzipper⟩
    · rw [hzipper]
      exact h.good
    · rw [hzipper]
      exact h.named
    · intro pending hsome
      rcases hpending with hsame | hnone | ⟨pending', hnew, hlinks⟩
      · exact (h.links pending (hsame.symm.trans hsome)).of_zipper hzipper
      · exact nomatch hnone.symm.trans hsome
      · cases Option.some.inj (hnew.symm.trans hsome)
        exact hlinks.of_zipper hzipper
  | clears _ heffect hzipper hpending =>
    rw [heffect]
    refine ⟨.of_zipper ?_ ?_ ?_, trivial⟩
    · rw [hzipper]
      exact Zipper.good_new _ ""
    · rw [hzipper]
      exact fun _ => ⟨rfl, rfl⟩
    · exact fun pending hsome => nomatch hpending.symm.trans hsome
  | completes requestId path entries more truncated haccepts hzipper hpending =>
    obtain ⟨hnamed, _, hpage⟩ := hanswers haccepts
    obtain ⟨hgood, hfollows⟩ := h.shown (hpage rfl)
    have heffect : d.effect (.event (.directoryPage requestId path entries false more truncated)) =
        d.pageEffect path := by
      simp only [effect, haccepts, Bool.not_true, Bool.false_eq_true, if_false]
    rw [heffect, hzipper]
    refine ⟨.of_zipper ?_ ?_ ?_, hfollows⟩
    · rw [hzipper]
      exact hgood
    · rw [hzipper]
      exact fun hempty => absurd hempty hnamed
    · exact fun pending hsome => nomatch hpending.symm.trans hsome
  | appends requestId path entries more truncated haccepts hzipper hpending =>
    obtain ⟨_, hsame, _⟩ := hanswers haccepts
    -- a further page of the shown directory
    have hpath : path = d.path := hsame rfl
    have hzipper' : d'.zipper = d.zipper := by
      rw [hzipper, hpath]
      rfl
    have heffect : d.effect (.event (.directoryPage requestId path entries true more truncated)) =
        none := by
      simp only [effect, haccepts, hpath, Bool.not_true, Bool.false_eq_true, if_false, if_true]
    rw [heffect]
    refine ⟨.of_zipper ?_ ?_ ?_, hzipper'⟩
    · rw [hzipper']
      exact h.good
    · rw [hzipper']
      exact h.named
    · intro pending hsome
      exact (h.links pending (hpending.symm.trans hsome)).of_zipper hzipper'

/-! ## Runs whose pages answer -/

/-- A run whose pages answer their requests stays tracked. -/
theorem Tracked.run {d : SftpDirectoryState} (h : d.Tracked) {ops : List NavigationOp}
    (hanswers : AllSafe (step lower) d Answers ops) : (ops.foldl (step lower) d).Tracked :=
  hanswers.preserves h fun _ _ hd hop => (step_tracked hd hop).1

/-- A run without effect leaves path and histories alone. -/
theorem Tracked.run_quiet {d : SftpDirectoryState} (h : d.Tracked) {ops : List NavigationOp}
    (hanswers : AllSafe (step lower) d Answers ops) (heffects : d.effects lower ops = []) :
    (ops.foldl (step lower) d).zipper = d.zipper := by
  induction ops generalizing d with
  | nil => rfl
  | cons op ops ih =>
    obtain ⟨hop, hops⟩ := allSafe_cons_iff.mp hanswers
    obtain ⟨htracked, hfollows⟩ := step_tracked h hop
    rw [effects] at heffects
    obtain ⟨hnone, hrest⟩ := List.append_eq_nil_iff.mp heffects
    rw [Option.toList_eq_nil_iff] at hnone
    rw [hnone] at hfollows
    rw [List.foldl_cons, ih htracked hops hrest]
    exact hfollows

/-- The first effect of a run: a move of the zipper, and what comes after it. -/
theorem Tracked.run_effect {d : SftpDirectoryState} (h : d.Tracked) {ops : List NavigationOp}
    (hanswers : AllSafe (step lower) d Answers ops) {e : HistoryEffect}
    {es : List HistoryEffect} (heffects : d.effects lower ops = e :: es) :
    ∃ d' rest, d'.Tracked ∧ AllSafe (step lower) d' Answers rest ∧ d'.effects lower rest = es ∧
      Follows d.zipper d'.zipper (some e) ∧
      rest.foldl (step lower) d' = ops.foldl (step lower) d := by
  induction ops generalizing d with
  | nil => exact nomatch heffects
  | cons op ops ih =>
    obtain ⟨hop, hops⟩ := allSafe_cons_iff.mp hanswers
    obtain ⟨htracked, hfollows⟩ := step_tracked h hop
    rw [effects] at heffects
    cases heffect : d.effect op with
    | none =>
      rw [heffect] at heffects hfollows
      have hsame : (d.step lower op).zipper = d.zipper := hfollows
      obtain ⟨d', rest, htracked', hrest, heffects', hfollows', hend⟩ := ih htracked hops heffects
      rw [hsame] at hfollows'
      exact ⟨d', rest, htracked', hrest, heffects', hfollows', hend⟩
    | some e' =>
      rw [heffect] at heffects hfollows
      obtain ⟨rfl, hes⟩ := List.cons.inj heffects
      exact ⟨d.step lower op, ops, htracked, hops, hes, hfollows, rfl⟩

/-- A Back and then a Forward restore path and histories, whatever else happens around them
    that completes no navigation. -/
theorem Tracked.back_forward {d : SftpDirectoryState} (h : d.Tracked) {ops : List NavigationOp}
    (hanswers : AllSafe (step lower) d Answers ops)
    (heffects : d.effects lower ops = [.wentBack, .wentForward]) :
    (ops.foldl (step lower) d).zipper = d.zipper := by
  obtain ⟨d₁, ops₁, h₁, hanswers₁, heffects₁, ⟨hback, hmove₁⟩, hend₁⟩ :=
    h.run_effect hanswers heffects
  obtain ⟨d₂, ops₂, h₂, hanswers₂, heffects₂, hmove₂, hend₂⟩ :=
    h₁.run_effect hanswers₁ heffects₁
  have hmove : d₂.zipper = d₁.zipper.goForward sftpHistoryLimit := hmove₂
  rw [← hend₁, ← hend₂, h₂.run_quiet hanswers₂ heffects₂, hmove, hmove₁]
  exact h.good.goForward_goBack hback

/-! ## Navigations without success -/

/-- The path, the histories and the entries. -/
def onDisplay (d : SftpDirectoryState) :
    String × List String × List String × List SftpEntry :=
  (d.path, d.backHistory, d.forwardHistory, d.entries)

/-- Requests, cancellations, failures and pages that are not accepted, and whatever else is
    neither an accepted page nor a new connection nor a click on a column. -/
def AcceptsNoPage (d : SftpDirectoryState) : NavigationOp → Prop
  | .event (.directoryPage requestId _ _ _ _ _) => d.acceptsRequest requestId = false
  | .event (.opened _) | .prepareForReconnect | .reset | .toggleSort _ => False
  | _ => True

variable (lower) in
/-- Without an accepted page, what is on display stays. -/
theorem step_onDisplay {d : SftpDirectoryState} {op : NavigationOp} (h : d.AcceptsNoPage op) :
    (d.step lower op).onDisplay = d.onDisplay := by
  cases op with
  | beginNavigation kind path =>
    show (d.beginRequest kind path).2.onDisplay = _
    rcases beginRequest_cases d kind path with hsame | ⟨pending, _, hwaits⟩
    · rw [hsame]
    · rw [hwaits]
      rfl
  | beginLoadMore =>
    simp only [step, beginLoadMore]
    split
    · rfl
    · rename_i hbegin
      split at hbegin
      · exact nomatch hbegin
      · split at hbegin
        · exact nomatch hbegin
        · cases hbegin
          rfl
  | cancelNavigation => rfl
  | beginRefreshAfterRemoteChange directory =>
    show (d.beginRefreshAfterRemoteChange directory).2.onDisplay = _
    rcases beginRefreshAfterRemoteChange_cases d directory with
      ⟨refresh, hsame⟩ | ⟨pending, _, hwaits⟩
    · rw [hsame]
      rfl
    · rw [hwaits]
      rfl
  | beginPendingAutoRefresh =>
    show d.beginPendingAutoRefresh.2.onDisplay = _
    rcases beginPendingAutoRefresh_cases d with ⟨refresh, hsame⟩ | ⟨pending, _, hwaits⟩
    · rw [hsame]
      rfl
    · rw [hwaits]
      rfl
  | event event =>
    cases event with
    | opened home => exact h.elim
    -- a page that is not accepted shows nothing
    | directoryPage requestId path entries append more truncated =>
      have hrefused : (!d.acceptsRequest requestId) = true := by
        rw [show d.acceptsRequest requestId = false from h]
        rfl
      simp only [step, applySftpEvent, if_pos hrefused]
    | failed requestId message =>
      simp only [step, applySftpEvent]
      split <;> rfl
    | closed => rfl
  | toggleSort column => exact h.elim
  | toggleSelection path selected =>
    simp only [step, toggleSelection]
    split <;> rfl
  | selectAll selected => rfl
  | prepareForReconnect => exact h.elim
  | reset => exact h.elim

/-! ## Request ids -/

/-- Request ids count up from 1 and skip 0 when they wrap. -/
theorem toNat_nextRequestId (requestId : UInt64) :
    (nextRequestId requestId).toNat =
      if requestId.toNat + 1 = 2 ^ 64 then 1 else requestId.toNat + 1 := by
  have hlt := requestId.toNat_lt
  have hadd : (requestId + 1).toNat = (requestId.toNat + 1) % 2 ^ 64 := by
    rw [UInt64.toNat_add]
    rfl
  have hone : (1 : UInt64).toNat = 1 := rfl
  show (if requestId + 1 ≤ 1 then (1 : UInt64) else requestId + 1).toNat = _
  split
  · rename_i hle
    rw [UInt64.le_iff_toNat_le] at hle
    split <;> omega
  · rename_i hle
    rw [UInt64.le_iff_toNat_le] at hle
    split <;> omega

variable (lower) in
/-- An operation issues a new id or keeps the old one; only `reset` forgets it. -/
theorem step_requestId (d : SftpDirectoryState) {op : NavigationOp} (h : op ≠ .reset) :
    (d.step lower op).requestId = d.requestId ∨
      (d.step lower op).requestId = nextRequestId d.requestId := by
  cases op with
  | beginNavigation kind path =>
    show (d.beginRequest kind path).2.requestId = _ ∨ (d.beginRequest kind path).2.requestId = _
    -- a request that is refused takes no number
    rcases beginRequest_cases d kind path with hsame | ⟨pending, _, hwaits⟩
    · rw [hsame]
      exact .inl rfl
    · rw [hwaits]
      exact .inr rfl
  | beginLoadMore =>
    simp only [step, beginLoadMore]
    split
    · exact .inl rfl
    · rename_i hbegin
      split at hbegin
      · exact nomatch hbegin
      · split at hbegin
        · exact nomatch hbegin
        · cases hbegin
          exact .inr rfl
  | cancelNavigation => exact .inl rfl
  | beginRefreshAfterRemoteChange directory =>
    show (d.beginRefreshAfterRemoteChange directory).2.requestId = _ ∨
      (d.beginRefreshAfterRemoteChange directory).2.requestId = _
    rcases beginRefreshAfterRemoteChange_cases d directory with
      ⟨refresh, hsame⟩ | ⟨pending, _, hwaits⟩
    · rw [hsame]
      exact .inl rfl
    · rw [hwaits]
      exact .inr rfl
  | beginPendingAutoRefresh =>
    show d.beginPendingAutoRefresh.2.requestId = _ ∨ d.beginPendingAutoRefresh.2.requestId = _
    rcases beginPendingAutoRefresh_cases d with ⟨refresh, hsame⟩ | ⟨pending, _, hwaits⟩
    · rw [hsame]
      exact .inl rfl
    · rw [hwaits]
      exact .inr rfl
  | event event =>
    cases event with
    | opened home => exact .inr rfl
    | directoryPage requestId path entries append more truncated =>
      simp only [step, applySftpEvent]
      split
      · exact .inl rfl
      · cases append <;> exact .inl rfl
    | failed requestId message =>
      simp only [step, applySftpEvent]
      split <;> exact .inl rfl
    | closed => exact .inl rfl
  | toggleSort column =>
    simp only [step, toggleSort]
    split <;> exact .inl rfl
  | toggleSelection path selected =>
    simp only [step, toggleSelection]
    split <;> exact .inl rfl
  | selectAll selected => exact .inl rfl
  | prepareForReconnect => exact .inr rfl
  | reset => exact absurd rfl h

variable (lower) in
/-- How many ids a run issues. -/
def newerRequests (d : SftpDirectoryState) : List NavigationOp → Nat
  | [] => 0
  | op :: ops => (if (d.step lower op).requestId = d.requestId then 0 else 1) +
      (d.step lower op).newerRequests ops

variable (lower) in
/-- The ids run through all values but 0 before one comes again. -/
theorem run_requestId {d : SftpDirectoryState} {ops : List NavigationOp}
    (hreset : .reset ∉ ops) (hpos : 1 ≤ d.requestId.toNat) :
    1 ≤ (ops.foldl (step lower) d).requestId.toNat ∧
      (ops.foldl (step lower) d).requestId.toNat - 1 =
        (d.requestId.toNat - 1 + d.newerRequests lower ops) % (2 ^ 64 - 1) := by
  induction ops generalizing d with
  | nil =>
    have hlt := d.requestId.toNat_lt
    simp only [List.foldl_nil, newerRequests]
    omega
  | cons op ops ih =>
    have hop : op ≠ .reset := fun he => hreset (he ▸ List.mem_cons_self)
    have hops : .reset ∉ ops := fun hmem => hreset (List.mem_cons_of_mem op hmem)
    have hnext := toNat_nextRequestId d.requestId
    have hlt := d.requestId.toNat_lt
    rw [List.foldl_cons, newerRequests]
    by_cases hsame : (d.step lower op).requestId = d.requestId
    · have hrun := ih (d := d.step lower op) hops (by rw [hsame]; exact hpos)
      rw [hsame] at hrun
      rw [if_pos hsame, Nat.zero_add]
      exact hrun
    -- the number is that of the next request, past zero
    · have hnew := (step_requestId lower d hop).resolve_left hsame
      have hpos' : 1 ≤ (d.step lower op).requestId.toNat := by
        rw [hnew, hnext]
        split <;> omega
      obtain ⟨hge, heq⟩ := ih (d := d.step lower op) hops hpos'
      rw [if_neg hsame]
      refine ⟨hge, heq.trans ?_⟩
      rw [hnew, hnext]
      split <;> omega

/-- The id of a request is not issued again by the next `2 ^ 64 - 2` requests. -/
theorem superseded_refused {d d' : SftpDirectoryState} {kind : SftpNavigation}
    {path : Option String} {request : DirectoryRequest}
    (h : d.beginNavigation kind path = .ok (request, d')) {ops : List NavigationOp}
    (hreset : .reset ∉ ops) (hpos : 0 < d'.newerRequests lower ops)
    (hlt : d'.newerRequests lower ops < 2 ^ 64 - 1) :
    (ops.foldl (step lower) d').acceptsRequest (some request.1) = false := by
  obtain ⟨hid, pending, _, hwaits⟩ := beginNavigation_ok h
  have hsame : d'.requestId = request.1 := by rw [hwaits, hid]; rfl
  have hnext := toNat_nextRequestId d.requestId
  have hge : 1 ≤ d'.requestId.toNat := by
    rw [hsame, hid, hnext]
    split <;> omega
  obtain ⟨hge', heq⟩ := run_requestId lower hreset hge
  have hbound := d'.requestId.toNat_lt
  simp only [acceptsRequest, beq_eq_false_iff_ne]
  rw [← hsame]
  intro he
  rw [← he] at heq
  omega

/-! ## The history of a browser -/

variable (lower) in
/-- After any run the histories are bounded and adjacent entries differ; while the pages answer
    their requests, a completed Back and a completed Forward restore path and histories; what
    fails, is cancelled or is not accepted changes nothing on display; and a page for an older
    request is not accepted. -/
theorem history_is_zipper (path : String) (l : LocalDirectoryState) (ops : List NavigationOp) :
    let d := ops.foldl (step lower) (start path l)
    (d.backHistory.IsChain (· ≠ ·) ∧ d.forwardHistory.IsChain (· ≠ ·) ∧
      d.backHistory.length ≤ sftpHistoryLimit ∧ d.forwardHistory.length ≤ sftpHistoryLimit) ∧
    (∀ more, AllSafe (step lower) (start path l) Answers (ops ++ more) →
      d.effects lower more = [.wentBack, .wentForward] →
      (more.foldl (step lower) d).zipper = d.zipper) ∧
    (∀ more, AllSafe (step lower) d AcceptsNoPage more →
      (more.foldl (step lower) d).onDisplay = d.onDisplay) ∧
    ∀ kind target request d', d.beginNavigation kind target = .ok (request, d') →
      ∀ more, .reset ∉ more → 0 < d'.newerRequests lower more →
        d'.newerRequests lower more < 2 ^ 64 - 1 →
        (more.foldl (step lower) d').acceptsRequest (some request.1) = false := by
  intro d
  obtain ⟨hback, hforward, hsize⟩ := run_bounded lower path l ops
  refine ⟨⟨hback, hforward, (Nat.le_add_right _ _).trans hsize, (Nat.le_add_left _ _).trans hsize⟩,
    fun more hanswers heffects => ?_, fun more hrefused => ?_,
    fun _ _ _ _ hbegin _ hreset hpos hlt => superseded_refused hbegin hreset hpos hlt⟩
  · obtain ⟨hbefore, hmore⟩ := allSafe_append_iff.mp hanswers
    exact ((start_tracked path l).run hbefore).back_forward hmore heffects
  · exact hrefused.preserves (P := fun s => s.onDisplay = d.onDisplay) rfl
      fun s op hs hop => (step_onDisplay lower hop).trans hs

/-- The page that answers a Back names another directory than the history does, and the way
    forward then leads back to that one. -/
theorem redirected_back_is_not_undone :
    let d := [.event (.opened "/a"), .event (.directoryPage none "/a" [] false false false),
      .beginNavigation .direct (some "/b"),
      .event (.directoryPage (some 2) "/b" [] false false false)].foldl (step id) (start "" {})
    let more := [.beginNavigation .back none,
      .event (.directoryPage (some 3) "/x" [] false false false), .beginNavigation .forward none,
      .event (.directoryPage (some 4) "/b" [] false false false)]
    d.effects id more = [.wentBack, .wentForward] ∧
      d.zipper = ⟨["/a"], "/b", []⟩ ∧ (more.foldl (step id) d).zipper = ⟨["/x"], "/b", []⟩ := by
  decide

end SftpDirectoryState

end AxSsh
