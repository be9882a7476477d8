import AxSsh.ForStd.Transition
import AxSsh.Native.SftpDirectory

/-!
# Paging of the local directory

What the local side shows of a listing, page by page.  `Paged` relates the state to the last
completed listing, which `LocalView` carries along.  Sorting starts the paging over, and it
cannot do so while a request is in flight: `load_more` then refuses the first page.

## Key results
- `compareRows_trans`: the row comparators are total preorders
- `LocalView.step_paged_iff`: a step keeps `Paged` exactly when it is `PagingSafe`
- `LocalView.paged_throughout_iff`: the same for whole runs
-/

namespace AxSsh

open Transition (Throughout AllSafe throughout_iff_allSafe)

variable (lower : String → String)

/-! ## Comparators -/

theorem reverseIf_trans {α : Type} {cmp : α → α → Ordering} (h : Std.TransCmp cmp)
    (descending : Bool) : Std.TransCmp fun a b => reverseIf descending (cmp a b) := by
  cases descending with
  | false => exact h
  | true =>
    have hswap : (fun a b => reverseIf true (cmp a b)) = fun a b => cmp b a := by
      funext a b
      exact Std.OrientedCmp.eq_swap.symm
    rw [hswap]
    exact Std.TransCmp.opposite

theorem compareNumeric_trans (descending : Bool) :
    Std.TransCmp fun a b => compareNumeric a b descending :=
  reverseIf_trans (inferInstanceAs (Std.TransOrd Nat)) descending

theorem compareOptional_trans (descending : Bool) :
    Std.TransCmp fun a b => compareOptional a b descending := by
  have hnumeric := compareNumeric_trans descending
  have horiented : Std.OrientedCmp fun a b => compareOptional a b descending := by
    constructor
    intro a b
    cases a with
    | none => cases b <;> rfl
    | some a =>
      cases b with
      | none => rfl
      | some b => exact hnumeric.eq_swap
  constructor
  intro a b c hab hbc
  cases a with
  | none =>
    cases b with
    | none => exact hbc
    | some b => exact nomatch hab
  | some a =>
    cases c with
    | none => rfl
    | some c =>
      cases b with
      | none => exact nomatch hbc
      | some b => exact hnumeric.isLE_trans hab hbc

theorem compareOn_trans {α β : Type} {cmp : β → β → Ordering} (h : Std.TransCmp cmp)
    (f : α → β) : Std.TransCmp fun a b => cmp (f a) (f b) where
  eq_swap := h.eq_swap
  isLE_trans := h.isLE_trans

theorem then_trans {α : Type} {first second : α → α → Ordering} (h₁ : Std.TransCmp first)
    (h₂ : Std.TransCmp second) : Std.TransCmp fun a b => (first a b).then (second a b) :=
  inferInstanceAs (Std.TransCmp (compareLex first second))

/-- The rows are compared by a total preorder, whatever the column. -/
theorem compareRows_trans {α : Type} (sort : SftpSortState) (name path : α → String)
    (size : α → Nat) (modified : α → Option Nat) :
    Std.TransCmp (compareRows lower sort name path size modified) := by
  have hstring : Std.TransOrd String := inferInstance
  have htext := compareOn_trans hstring fun a => lower (name a)
  have hpath := compareOn_trans hstring path
  -- the name and then the path decide where the column does not
  have hthen {column : α → α → Ordering} (hcolumn : Std.TransCmp column) :=
    then_trans (then_trans hcolumn htext) hpath
  unfold compareRows
  cases sort.column with
  | name => exact hthen (reverseIf_trans htext sort.descending)
  | size => exact hthen (compareOn_trans (compareNumeric_trans sort.descending) size)
  | modified => exact hthen (compareOn_trans (compareOptional_trans sort.descending) modified)

theorem sortLocalEntries_perm (entries : List LocalDirectoryEntry) (sort : SftpSortState) :
    (sortLocalEntries lower entries sort).Perm entries :=
  List.mergeSort_perm entries _

/-- A sorted listing is in the order of its comparator. -/
theorem sortLocalEntries_sorted (entries : List LocalDirectoryEntry) (sort : SftpSortState) :
    (sortLocalEntries lower entries sort).Pairwise
      fun left right => (compareLocal lower sort left right).isLE := by
  have h : Std.TransCmp (compareLocal lower sort) := by
    unfold compareLocal
    exact compareRows_trans lower sort LocalDirectoryEntry.name LocalDirectoryEntry.path
      LocalDirectoryEntry.size LocalDirectoryEntry.modified
  have htrans : ∀ a b c, (compareLocal lower sort a b).isLE = true →
      (compareLocal lower sort b c).isLE = true → (compareLocal lower sort a c).isLE = true :=
    fun _ _ _ hab hbc => h.isLE_trans hab hbc
  have htotal : ∀ a b,
      ((compareLocal lower sort a b).isLE || (compareLocal lower sort b a).isLE) = true := by
    intro a b
    have hswap : compareLocal lower sort b a = (compareLocal lower sort a b).swap := h.eq_swap
    rw [hswap]
    cases compareLocal lower sort a b <;> rfl
  exact List.pairwise_mergeSort htrans htotal entries

/-! ## Paged listings -/

namespace LocalDirectoryState

/-- What is shown and what is not yet form the listing in sorted order, the shown part is
    whole pages, and `has_more` tells whether there is a part not shown. -/
structure Paged (l : LocalDirectoryState) (listing : List LocalDirectoryEntry) : Prop where
  perm : (l.entries ++ l.pendingEntries).Perm listing
  sorted : (l.entries ++ l.pendingEntries).Pairwise
    fun left right => (compareLocal lower l.sort left right).isLE
  pages : l.pendingEntries ≠ [] → localDirectoryPageSize ∣ l.entries.length
  more : l.hasMore = true ↔ l.pendingEntries ≠ []

/-- Two states show the same listing in the same way. -/
structure SameListing (l l' : LocalDirectoryState) : Prop where
  entries : l'.entries = l.entries
  pendingEntries : l'.pendingEntries = l.pendingEntries
  sort : l'.sort = l.sort
  hasMore : l'.hasMore = l.hasMore

variable {lower}

theorem SameListing.refl (l : LocalDirectoryState) : l.SameListing l := ⟨rfl, rfl, rfl, rfl⟩

theorem SameListing.paged_iff {l l' : LocalDirectoryState} (h : l.SameListing l')
    (listing : List LocalDirectoryEntry) : l'.Paged lower listing ↔ l.Paged lower listing := by
  constructor
  · intro ⟨hperm, hsorted, hpages, hmore⟩
    rw [h.entries, h.pendingEntries] at hperm hsorted
    rw [h.sort] at hsorted
    rw [h.entries, h.pendingEntries] at hpages
    rw [h.hasMore, h.pendingEntries] at hmore
    exact ⟨hperm, hsorted, hpages, hmore⟩
  · intro ⟨hperm, hsorted, hpages, hmore⟩
    constructor
    · rw [h.entries, h.pendingEntries]
      exact hperm
    · rw [h.entries, h.pendingEntries, h.sort]
      exact hsorted
    · rw [h.entries, h.pendingEntries]
      exact hpages
    · rw [h.hasMore, h.pendingEntries]
      exact hmore

theorem length_take_of_drop {α : Type} {n : Nat} {rest : List α} (h : rest.drop n ≠ []) :
    (rest.take n).length = n := by
  have hlen : n < rest.length := by
    by_contra hle
    exact h (List.drop_of_length_le (by omega))
  rw [List.length_take]
  omega

/-- The next page keeps the listing paged. -/
theorem Paged.loadMore {l : LocalDirectoryState} {listing : List LocalDirectoryEntry}
    (h : l.Paged lower listing) : l.loadMore.1.Paged lower listing := by
  rw [LocalDirectoryState.loadMore]
  split
  · exact h
  · rename_i hmore
    -- another page moves from the pending entries to the shown ones
    have hsame : (l.entries ++ l.pendingEntries.take localDirectoryPageSize) ++
        l.pendingEntries.drop localDirectoryPageSize = l.entries ++ l.pendingEntries := by
      rw [List.append_assoc, List.take_append_drop]
    constructor
    · show ((l.entries ++ l.pendingEntries.take localDirectoryPageSize) ++
        l.pendingEntries.drop localDirectoryPageSize).Perm listing
      rw [hsame]
      exact h.perm
    · show ((l.entries ++ l.pendingEntries.take localDirectoryPageSize) ++
        l.pendingEntries.drop localDirectoryPageSize).Pairwise _
      rw [hsame]
      exact h.sorted
    · intro hrest
      have hsome : l.pendingEntries ≠ [] := by
        intro hnil
        rw [hnil, List.isEmpty_nil, Bool.or_true] at hmore
        exact hmore rfl
      show localDirectoryPageSize ∣
        (l.entries ++ l.pendingEntries.take localDirectoryPageSize).length
      rw [List.length_append, length_take_of_drop hrest]
      exact Nat.dvd_add (h.pages hsome) (Nat.dvd_refl _)
    · show (!(l.pendingEntries.drop localDirectoryPageSize).isEmpty) = true ↔ _
      rw [Bool.not_eq_true', List.isEmpty_eq_false_iff]
      rfl

/-- Sorting starts over with the first page, when no request is in flight. -/
theorem resort_paged {l : LocalDirectoryState} {listing : List LocalDirectoryEntry}
    (hloading : l.loading = false) (hperm : (l.entries ++ l.pendingEntries).Perm listing) :
    (l.resort lower).Paged lower listing := by
  have hsorted := sortLocalEntries_sorted lower (l.entries ++ l.pendingEntries) l.sort
  have hperm' := (sortLocalEntries_perm lower (l.entries ++ l.pendingEntries) l.sort).trans hperm
  simp only [resort, LocalDirectoryState.loadMore, hloading, Bool.false_or]
  cases hlist : sortLocalEntries lower (l.entries ++ l.pendingEntries) l.sort with
  | nil =>
    rw [hlist] at hperm'
    exact ⟨hperm', .nil, fun h => absurd rfl h, ⟨fun h => (nomatch h), fun h => absurd rfl h⟩⟩
  | cons entry rest =>
    rw [hlist] at hsorted hperm'
    simp only [List.isEmpty_cons, Bool.false_eq_true, if_false]
    have hsame := List.take_append_drop localDirectoryPageSize (entry :: rest)
    constructor
    · show (([] ++ (entry :: rest).take localDirectoryPageSize) ++
        (entry :: rest).drop localDirectoryPageSize).Perm listing
      rw [List.nil_append, hsame]
      exact hperm'
    · show (([] ++ (entry :: rest).take localDirectoryPageSize) ++
        (entry :: rest).drop localDirectoryPageSize).Pairwise _
      rw [List.nil_append, hsame]
      exact hsorted
    · intro hrest
      show localDirectoryPageSize ∣ ([] ++ (entry :: rest).take localDirectoryPageSize).length
      exact ⟨1, by rw [Nat.mul_one, List.nil_append, length_take_of_drop hrest]⟩
    · show (!((entry :: rest).drop localDirectoryPageSize).isEmpty) = true ↔
        (entry :: rest).drop localDirectoryPageSize ≠ []
      simp only [Bool.not_eq_true', List.isEmpty_eq_false_iff]

/-- Sorting while a request is in flight hides every row: the listing stays paged only when
    it is empty. -/
theorem resort_loading_paged_iff {l : LocalDirectoryState} {listing : List LocalDirectoryEntry}
    (hloading : l.loading = true) (hperm : (l.entries ++ l.pendingEntries).Perm listing) :
    (l.resort lower).Paged lower listing ↔ l.entries ++ l.pendingEntries = [] := by
  have hperm' := sortLocalEntries_perm lower (l.entries ++ l.pendingEntries) l.sort
  simp only [resort, LocalDirectoryState.loadMore, hloading, Bool.true_or, if_true]
  constructor
  · intro h
    have hnil : sortLocalEntries lower (l.entries ++ l.pendingEntries) l.sort = [] := by
      by_contra hne
      exact nomatch h.more.mpr hne
    rw [hnil] at hperm'
    exact hperm'.nil_eq.symm
  · intro hempty
    rw [hempty] at hperm' hperm ⊢
    have hnil : sortLocalEntries lower [] l.sort = [] := hperm'.eq_nil
    constructor
    · show ([] ++ sortLocalEntries lower [] l.sort).Perm listing
      rw [hnil]
      exact hperm
    · show ([] ++ sortLocalEntries lower [] l.sort).Pairwise _
      rw [hnil]
      exact .nil
    · exact fun hne => absurd hnil hne
    · exact ⟨fun hmore => (nomatch hmore), fun hne => absurd hnil hne⟩

/-! ## Operations that keep the listing as it is -/

theorem beginRequest_same (l : LocalDirectoryState) (kind : SftpNavigation)
    (path : Option String) : l.SameListing (l.beginRequest kind path).2 := by
  unfold beginRequest beginNavigation
  by_cases hloading : l.loading = true
  · simp only [if_pos hloading]
    exact .refl l
  · simp only [if_neg hloading]
    cases l.requestedPath kind path with
    | error message => exact .refl l
    | ok requested =>
      by_cases hempty : requested = ""
      · simp only [if_pos hempty]
        exact .refl l
      · simp only [if_neg hempty]
        exact ⟨rfl, rfl, rfl, rfl⟩

theorem beginRefreshAfterLocalChange_same (l : LocalDirectoryState) (directory : String) :
    l.SameListing (l.beginRefreshAfterLocalChange directory).2 := by
  rw [beginRefreshAfterLocalChange]
  split
  · exact .refl l
  · split
    · exact ⟨rfl, rfl, rfl, rfl⟩
    · exact beginRequest_same l .direct (some directory)

theorem beginRefreshAfterDownload_same (l : LocalDirectoryState) (path : PathBuf) :
    l.SameListing (l.beginRefreshAfterDownload path).2 := by
  rw [beginRefreshAfterDownload]
  split
  · exact .refl l
  · exact beginRefreshAfterLocalChange_same l l.path

theorem beginPendingAutoRefresh_same (l : LocalDirectoryState) :
    l.SameListing l.beginPendingAutoRefresh.2 := by
  unfold beginPendingAutoRefresh
  by_cases hloading : l.loading = true
  · simp only [if_pos hloading]
    exact .refl l
  · simp only [if_neg hloading]
    cases l.pendingAutoRefresh with
    | none => exact .refl l
    | some directory =>
      by_cases hmoved : (l.path != directory) = true
      · simp only [if_pos hmoved]
        exact ⟨rfl, rfl, rfl, rfl⟩
      · simp only [if_neg hmoved]
        obtain ⟨hentries, hpending, hsort, hmore⟩ :=
          beginRequest_same { l with pendingAutoRefresh := none } .direct (some directory)
        exact ⟨hentries, hpending, hsort, hmore⟩

theorem applyLocalDirectoryFailure_same (l : LocalDirectoryState) (requestId : UInt64)
    (message : String) : l.SameListing (l.applyLocalDirectoryFailure requestId message) := by
  rw [applyLocalDirectoryFailure]
  split
  · exact .refl l
  · exact ⟨rfl, rfl, rfl, rfl⟩

theorem toggleSelection_same (l : LocalDirectoryState) (path : String) (selected : Bool) :
    l.SameListing (l.toggleSelection path selected).1 := by
  rw [toggleSelection]
  split
  · exact .refl l
  · exact ⟨rfl, rfl, rfl, rfl⟩

theorem resetRequests_same (l : LocalDirectoryState) : l.SameListing l.resetRequests := by
  simp only [resetRequests, SftpDirectoryState.reset]
  split
  · split <;> exact ⟨rfl, rfl, rfl, rfl⟩
  · exact ⟨rfl, rfl, rfl, rfl⟩

/-- A completed listing is paged from its first page on. -/
theorem complete_paged (l : LocalDirectoryState) (path : String)
    (entries : List LocalDirectoryEntry) (truncated : Bool) (skipped : Nat) :
    (l.complete lower path entries truncated skipped).Paged lower entries := by
  let fresh : LocalDirectoryState := { l with
    pendingNavigation := none
    backHistory :=
      (completeDirectoryHistory l.pendingNavigation path l.backHistory l.forwardHistory).1
    forwardHistory :=
      (completeDirectoryHistory l.pendingNavigation path l.backHistory l.forwardHistory).2
    selected := if l.path ≠ path then ∅ else l.selected
    loading := false
    loaded := true
    path
    entries := []
    pendingEntries := entries
    truncated
    skippedEntries := skipped }
  have hpaged : (fresh.resort lower).Paged lower entries := resort_paged rfl (List.Perm.refl entries)
  have hsame : (fresh.resort lower).SameListing (l.complete lower path entries truncated skipped) :=
    ⟨rfl, rfl, rfl, rfl⟩
  exact (hsame.paged_iff entries).mpr hpaged

/-- Sorting is safe unless it happens under a request with rows on display. -/
def PagingSafe (l : LocalDirectoryState) : LocalOp → Prop
  | .toggleSort column =>
    l.sort.toggleColumn column = none ∨ l.loading = false ∨ l.entries ++ l.pendingEntries = []
  | _ => True

theorem toggleLocalSort_paged_iff {l : LocalDirectoryState} {listing : List LocalDirectoryEntry}
    (h : l.Paged lower listing) (column : String) :
    (l.toggleLocalSort lower column).1.Paged lower listing ↔ l.PagingSafe (.toggleSort column) := by
  rw [toggleLocalSort]
  cases hcolumn : l.sort.toggleColumn column with
  | none => exact iff_of_true h (.inl hcolumn)
  | some sort =>
    by_cases hloading : l.loading = true
    · have hhidden : ({ l with sort }.resort lower).Paged lower listing ↔
          l.entries ++ l.pendingEntries = [] := resort_loading_paged_iff hloading h.perm
      refine hhidden.trans ⟨fun hempty => .inr (.inr hempty), ?_⟩
      rintro (hnone | hidle | hempty)
      · exact nomatch hcolumn.symm.trans hnone
      · exact nomatch hloading.symm.trans hidle
      · exact hempty
    · have hidle : l.loading = false := Bool.eq_false_iff.mpr hloading
      have hshown : ({ l with sort }.resort lower).Paged lower listing :=
        resort_paged hidle h.perm
      exact iff_of_true hshown (.inr (.inl hidle))

end LocalDirectoryState

/-! ## Runs -/

/-- The local side with the listing that was completed last. -/
structure LocalView where
  directory : LocalDirectoryState
  listing : List LocalDirectoryEntry

namespace LocalView

/-- The listing an operation completes, if it does. -/
def completed (v : LocalView) : LocalOp → List LocalDirectoryEntry
  | .listing requestId _ entries _ _ =>
    if v.directory.requestId ≠ requestId then v.listing else entries
  | _ => v.listing

def step (v : LocalView) (op : LocalOp) : LocalView :=
  { directory := v.directory.step lower op, listing := v.completed op }

/-- A browser's local side before its first listing; that of an SFTP tab has a path. -/
def start (path : Option String) : LocalView :=
  { directory := match path with
      | none => {}
      | some path => .forStandaloneTab path
    listing := [] }

def Paged (v : LocalView) : Prop := v.directory.Paged lower v.listing

def PagingSafe (v : LocalView) (op : LocalOp) : Prop := v.directory.PagingSafe op

theorem start_paged (path : Option String) : (start path).Paged lower := by
  cases path <;> exact ⟨.refl [], .nil, fun h => absurd rfl h,
    ⟨fun h => (nomatch h), fun h => absurd rfl h⟩⟩

/-- A step keeps the view paged exactly when it is safe. -/
theorem step_paged_iff {v : LocalView} (h : v.Paged lower) (op : LocalOp) :
    (v.step lower op).Paged lower ↔ v.PagingSafe op := by
  -- operations that leave the listing alone
  have hkept : ∀ l', v.directory.SameListing l' → (l'.Paged lower v.listing ↔ True) :=
    fun l' hsame => iff_of_true ((hsame.paged_iff v.listing).mpr h) trivial
  cases op with
  | markWatcherRunning =>
    refine hkept v.directory.markWatcherRunning ?_
    rw [LocalDirectoryState.markWatcherRunning]
    split
    · exact .refl _
    · exact ⟨rfl, rfl, rfl, rfl⟩
  | markWatcherStopped => exact hkept _ ⟨rfl, rfl, rfl, rfl⟩
  | beginNavigation kind path => exact hkept _ (v.directory.beginRequest_same kind path)
  | beginRefreshAfterDownload path =>
    exact hkept _ (v.directory.beginRefreshAfterDownload_same path)
  | beginRefreshAfterLocalChange directory =>
    exact hkept _ (v.directory.beginRefreshAfterLocalChange_same directory)
  | beginPendingAutoRefresh => exact hkept _ v.directory.beginPendingAutoRefresh_same
  | listing requestId path entries truncated skipped =>
    refine iff_of_true ?_ trivial
    simp only [Paged, step, completed, LocalDirectoryState.step,
      LocalDirectoryState.applyLocalDirectoryListing]
    split
    · exact h
    · exact v.directory.complete_paged path entries truncated skipped
  | failure requestId message =>
    exact hkept _ (v.directory.applyLocalDirectoryFailure_same requestId message)
  | loadMore => exact iff_of_true (LocalDirectoryState.Paged.loadMore h) trivial
  | toggleSort column => exact v.directory.toggleLocalSort_paged_iff h column
  | toggleSelection path selected =>
    exact hkept _ (v.directory.toggleSelection_same path selected)
  | selectAll selected => exact hkept _ ⟨rfl, rfl, rfl, rfl⟩
  | reset => exact hkept _ v.directory.resetRequests_same

/-- The listing is paged throughout exactly the runs that never sort rows under a request. -/
theorem paged_throughout_iff (path : Option String) (ops : List LocalOp) :
    Throughout (step lower) (start path) (Paged lower) ops ↔
      AllSafe (step lower) (start path) PagingSafe ops :=
  throughout_iff_allSafe (start_paged lower path) fun _ op _ h => step_paged_iff lower h op

/-- A directory of one file is shown, a refresh is requested, and the list is sorted before
    the answer: no row is left on display and `has_more` denies that there are any. -/
theorem sorted_while_loading_hides_rows : ¬Throughout (step id) (start (some "/a")) (Paged id)
    [.beginNavigation .direct (some "/a"),
      .listing 1 "/a" [⟨"x", "/a/x", false, false, 1, none⟩] false 0,
      .beginNavigation .direct (some "/a"), .toggleSort "name"] := by
  intro h
  have hpaged := h _ (List.prefix_refl _)
  exact absurd (hpaged.more.mpr (by decide +kernel)) (by decide +kernel)

end LocalView

end AxSsh
