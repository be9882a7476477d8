import AxSsh.Native.RemoteBrowser

/-!
# Paging of a remote directory

The pages the receiver gets of the current listing against the READDIR replies the listing has
read.  A page leaves what does not fit in the buffer of the cursor, and no reply is read while
the buffer holds anything, so an error finds nothing buffered.

## Key results
- `readPage_spec`: one page takes its entries from the buffer and the replies, in order
- `emitPage_cases`: everything emitting a page can do
- `RemoteBrowser.Listed`: pages, buffer and replies agree
- `BrowserRun.listing_pages`: so they do in every run
-/

namespace AxSsh

/-! ## What a listing has received -/

/-- The entries of a reply to READDIR. -/
def Reply.files : Reply (List File) → List File
  | .ok files => files
  | .elapsed | .failed _ => []

/-- The reply ends the directory: end of file, or a batch without entries. -/
def Reply.isEnd : Reply (List File) → Bool
  | .ok files => files.isEmpty
  | .failed (.status .eof _) => true
  | .elapsed | .failed _ => false

/-- The entries that pass the filter, as they are shown. -/
def passing (parent : String) (files : List File) : List SftpEntry :=
  files.filterMap (boundedEntry parent)

def received (reads : List (Reply (List File))) : List File := reads.flatMap Reply.files

def EndReported (reads : List (Reply (List File))) : Prop := ∃ reply ∈ reads, reply.isEnd

/-- The pages of the last listing: a page that does not append starts a new one. -/
def listingPages (events : List SftpBrowserEvent) : List (List SftpEntry) :=
  events.foldl (fun pages event => match event with
    | .directoryPage _ _ entries append _ _ => if append then pages ++ [entries] else [entries]
    | .opened _ | .failed _ _ | .closed => pages) []

/-- What the last page said about further ones. -/
def listingHasMore (events : List SftpBrowserEvent) : Bool :=
  events.foldl (fun more event => match event with
    | .directoryPage _ _ _ _ hasMore _ => hasMore
    | .opened _ | .failed _ _ | .closed => more) true

@[simp] theorem passing_append (parent : String) (files files' : List File) :
    passing parent (files ++ files') = passing parent files ++ passing parent files' :=
  List.filterMap_append

@[simp] theorem received_append (reads reads' : List (Reply (List File))) :
    received (reads ++ reads') = received reads ++ received reads' := by
  simp [received]

@[simp] theorem received_cons (reply : Reply (List File)) (reads : List (Reply (List File))) :
    received (reply :: reads) = reply.files ++ received reads := rfl

theorem EndReported.append_right {reads' : List (Reply (List File))} (h : EndReported reads')
    (reads : List (Reply (List File))) : EndReported (reads ++ reads') := by
  obtain ⟨reply, hmem, hend⟩ := h
  exact ⟨reply, List.mem_append_right _ hmem, hend⟩

@[simp] theorem listingPages_page (events : List SftpBrowserEvent) (requestId : Option UInt64)
    (path : String) (entries : List SftpEntry) (append hasMore truncated : Bool) :
    listingPages (events ++ [.directoryPage requestId path entries append hasMore truncated]) =
      if append then listingPages events ++ [entries] else [entries] := by
  simp [listingPages]

@[simp] theorem listingHasMore_page (events : List SftpBrowserEvent) (requestId : Option UInt64)
    (path : String) (entries : List SftpEntry) (append hasMore truncated : Bool) :
    listingHasMore (events ++ [.directoryPage requestId path entries append hasMore truncated]) =
      hasMore := by
  simp [listingHasMore]

/-! ## Taking entries from the buffer -/

/-- The page and the rest of the buffer are the page before and the buffer before. -/
theorem takeEntries_append (parent : String) (page : List SftpEntry) (files : List File) :
    (takeEntries parent page files).1 ++ passing parent (takeEntries parent page files).2 =
      page ++ passing parent files := by
  induction files generalizing page with
  | nil => rfl
  | cons file files ih =>
    unfold takeEntries
    split
    · cases hentry : boundedEntry parent file with
      | none => simpa [passing, hentry] using ih page
      | some entry => simpa [passing, hentry] using ih (page ++ [entry])
    · rfl

theorem length_takeEntries_le (parent : String) {page : List SftpEntry} (files : List File)
    (hpage : page.length ≤ maxPageEntries) :
    (takeEntries parent page files).1.length ≤ maxPageEntries := by
  induction files generalizing page with
  | nil => exact hpage
  | cons file files ih =>
    unfold takeEntries
    split
    · rename_i hroom
      cases boundedEntry parent file with
      | none => exact ih hpage
      | some entry =>
        refine ih ?_
        rw [List.length_append, List.length_singleton]
        omega
    · exact hpage

/-- Something stays in the buffer only behind a full page. -/
theorem takeEntries_rest (parent : String) (page : List SftpEntry) (files : List File)
    (hroom : (takeEntries parent page files).1.length < maxPageEntries) :
    (takeEntries parent page files).2 = [] := by
  induction files generalizing page with
  | nil => rfl
  | cons file files ih =>
    unfold takeEntries at hroom ⊢
    split at hroom
    · rename_i hlt
      rw [if_pos hlt]
      cases hentry : boundedEntry parent file with
      | none => exact ih page (by simpa [hentry] using hroom)
      | some entry => exact ih (page ++ [entry]) (by simpa [hentry] using hroom)
    · rename_i hfull
      exact absurd hroom hfull

/-- Nothing is taken exactly when nothing passes the filter. -/
theorem takeEntries_empty_iff (parent : String) (files : List File) :
    (takeEntries parent [] files).1.isEmpty ↔ passing parent files = [] := by
  have happend := takeEntries_append parent [] files
  rw [List.nil_append] at happend
  constructor
  · intro hempty
    have hnil : (takeEntries parent [] files).1 = [] := List.isEmpty_iff.mp hempty
    have hrest := takeEntries_rest parent [] files (by rw [hnil]; decide)
    rw [← happend, hnil, hrest]
    rfl
  · intro hnone
    rw [hnone] at happend
    exact List.isEmpty_iff.mpr (List.append_eq_nil_iff.mp happend).1

/-! ## Reading a page -/

/-- The entries of the page, none when it could not be read. -/
def PageRead.entries (read : PageRead) : List SftpEntry :=
  match read.page with
  | .ok entries => entries
  | .error _ => []

/-- What reading a page of `cursor` may do. -/
structure PageRead.Of (cursor : DirectoryCursor) (read : PageRead) : Prop where
  path : read.cursor.path = cursor.path
  handle : read.cursor.handle = cursor.handle
  accounted : read.entries ++ passing cursor.path read.cursor.pending =
    passing cursor.path cursor.pending ++ passing cursor.path (received read.reads)
  bounded : read.entries.length ≤ maxPageEntries
  finished : read.cursor.done → read.cursor.pending = [] ∧ EndReported read.reads

theorem readBatches_spec (cursor : DirectoryCursor) (hdone : cursor.done = false)
    (hpending : cursor.pending = []) (replies : List (Reply (List File))) :
    PageRead.Of cursor (readBatches cursor replies) := by
  have hfailed : ∀ reply : Reply (List File), reply.files = [] → ∀ error,
      PageRead.Of cursor ⟨cursor, [reply], .error error⟩ := by
    intro reply hfiles error
    exact
      { path := rfl
        handle := rfl
        accounted := by simp [PageRead.entries, received, hfiles, passing]
        bounded := Nat.zero_le _
        finished := fun h => absurd h (by simp [hdone]) }
  have hend : ∀ reply : Reply (List File), reply.files = [] → reply.isEnd →
      PageRead.Of cursor ⟨{ cursor with done := true }, [reply], .ok []⟩ := by
    intro reply hfiles hisEnd
    exact
      { path := rfl
        handle := rfl
        accounted := by simp [PageRead.entries, received, hfiles, passing]
        bounded := Nat.zero_le _
        finished := fun _ => ⟨hpending, reply, List.mem_singleton_self reply, hisEnd⟩ }
  induction replies with
  | nil => exact hfailed .elapsed rfl _
  | cons reply replies ih =>
    unfold readBatches
    split
    · exact hfailed .elapsed rfl _
    · exact hend (.ok []) rfl rfl
    · rename_i files _
      have happend := takeEntries_append cursor.path [] files
      rw [List.nil_append] at happend
      dsimp only
      split
      · -- nothing of the batch passes: the cursor is as it was
        rename_i hempty
        have hnil : (takeEntries cursor.path [] files).1 = [] := List.isEmpty_iff.mp hempty
        have hrest := takeEntries_rest cursor.path [] files (by rw [hnil]; decide)
        have hnone := (takeEntries_empty_iff cursor.path files).mp hempty
        have hsame : ({ cursor with pending := (takeEntries cursor.path [] files).2 } :
            DirectoryCursor) = cursor := by
          rw [hrest, ← hpending]
        rw [hsame]
        exact
          { path := ih.path
            handle := ih.handle
            accounted := by
              rw [received_cons, passing_append, Reply.files, hnone, List.nil_append]
              exact ih.accounted
            bounded := ih.bounded
            finished := fun h => ⟨(ih.finished h).1, (ih.finished h).2.append_right [.ok files]⟩ }
      · exact
          { path := rfl
            handle := rfl
            accounted := by
              simpa [PageRead.entries, received, Reply.files, hpending, passing] using happend
            bounded := length_takeEntries_le cursor.path files (Nat.zero_le _)
            finished := fun h => absurd h (by simp [hdone]) }
    · exact hend _ rfl rfl
    · exact hfailed _ rfl _

/-- One page takes its entries from the buffer and the replies, in order. -/
theorem readPage_spec (cursor : DirectoryCursor) (hdone : cursor.done = false)
    (replies : List (Reply (List File))) : PageRead.Of cursor (readPage cursor replies) := by
  unfold readPage
  rw [if_neg (Bool.eq_false_iff.mp hdone)]
  have happend := takeEntries_append cursor.path [] cursor.pending
  rw [List.nil_append] at happend
  dsimp only
  split
  · rename_i hempty
    have hnil : (takeEntries cursor.path [] cursor.pending).1 = [] := List.isEmpty_iff.mp hempty
    have hrest := takeEntries_rest cursor.path [] cursor.pending (by rw [hnil]; decide)
    have hnone := (takeEntries_empty_iff cursor.path cursor.pending).mp hempty
    have hspec := readBatches_spec
      { cursor with pending := (takeEntries cursor.path [] cursor.pending).2 } hdone hrest replies
    exact
      { path := hspec.path
        handle := hspec.handle
        accounted := by
          rw [hspec.accounted, hrest, hnone]
          rfl
        bounded := hspec.bounded
        finished := hspec.finished }
  · exact
      { path := rfl
        handle := rfl
        accounted := by simpa [PageRead.entries, received, passing] using happend
        bounded := length_takeEntries_le cursor.path cursor.pending (Nat.zero_le _)
        finished := fun h => absurd h (by simp [hdone]) }

/-! ## Emitting a page -/

@[simp] theorem closeCursor_events (log : BrowserLog) (cursor : DirectoryCursor) :
    (closeCursor log cursor).events = log.events := by
  unfold closeCursor
  split <;> rfl

theorem closeCurrent_events (log : BrowserLog) (cursor : Option DirectoryCursor) :
    (closeCurrent log cursor).events = log.events := by
  cases cursor with
  | none => rfl
  | some cursor => exact closeCursor_events log cursor

@[simp] theorem closeCursor_receiverOpen (log : BrowserLog) (cursor : DirectoryCursor) :
    (closeCursor log cursor).receiverOpen = log.receiverOpen := by
  unfold closeCursor
  split <;> rfl

theorem BrowserLog.send_received {log : BrowserLog} {receives : Bool}
    (h : (log.receiverOpen && receives) = true) (event : SftpBrowserEvent) :
    log.send receives event = ({ log with events := log.events ++ [event] }, true) :=
  if_pos h

theorem BrowserLog.send_dropped {log : BrowserLog} {receives : Bool}
    (h : ¬(log.receiverOpen && receives) = true) (event : SftpBrowserEvent) :
    log.send receives event = ({ log with receiverOpen := false }, false) :=
  if_neg h

/-- Everything emitting a page can do: the page is not read, it is read and nobody receives it,
    or it is received, and then the handle is closed when the directory is done. -/
theorem emitPage_cases (log : BrowserLog) (cursor : DirectoryCursor) (requestId : Option UInt64)
    (append : Bool) (replies : Replies) {read : PageRead}
    (hread : readPage cursor replies.readdirs = read) :
    (∃ error, read.page = .error error ∧
      emitPage log cursor requestId append replies = ⟨read.cursor, read.reads, log, .error error⟩) ∨
    (∃ entries, read.page = .ok entries ∧ ¬(log.receiverOpen && replies.receives) = true ∧
      emitPage log cursor requestId append replies =
        ⟨read.cursor, read.reads, { log with receiverOpen := false },
          .error ⟨["SFTP event receiver dropped"], .sendFailed⟩⟩) ∨
    (∃ entries log', read.page = .ok entries ∧ (log.receiverOpen && replies.receives) = true ∧
      log' = { log with events := log.events ++ [.directoryPage requestId read.cursor.path entries
        append (!read.cursor.done) read.cursor.truncated] } ∧
      emitPage log cursor requestId append replies =
        if read.cursor.done then
          ⟨{ read.cursor with handle := "" }, read.reads, closeCursor log' read.cursor, .ok ()⟩
        else ⟨read.cursor, read.reads, log', .ok ()⟩) := by
  unfold emitPage
  rw [hread]
  dsimp only
  cases hpage : read.page with
  | error error => exact Or.inl ⟨error, rfl, rfl⟩
  | ok entries =>
    refine Or.inr ?_
    by_cases hreceives : (log.receiverOpen && replies.receives) = true
    · refine Or.inr ⟨entries, _, rfl, hreceives, rfl, ?_⟩
      dsimp only
      rw [BrowserLog.send_received hreceives]
    · refine Or.inl ⟨entries, rfl, hreceives, ?_⟩
      dsimp only
      rw [BrowserLog.send_dropped hreceives]

/-- A page that is not emitted leaves no trace with the receiver. -/
theorem emitPage_error_events {log : BrowserLog} {cursor : DirectoryCursor}
    {requestId : Option UInt64} {append : Bool} {replies : Replies} {error : BrowserError}
    (h : (emitPage log cursor requestId append replies).result = .error error) :
    (emitPage log cursor requestId append replies).log.events = log.events ∧
      ((emitPage log cursor requestId append replies).log.receiverOpen → log.receiverOpen) := by
  obtain ⟨_, _, hemit⟩ | ⟨_, _, _, hemit⟩ | ⟨_, _, _, _, _, hemit⟩ :=
    emitPage_cases log cursor requestId append replies rfl
  · rw [hemit]
    exact ⟨rfl, id⟩
  · rw [hemit]
    exact ⟨rfl, fun h => nomatch h⟩
  · rw [hemit] at h
    split at h <;> exact nomatch h

/-- An emitted page is the last event; the cursor has read it and keeps its handle unless it is
    done. -/
theorem emitPage_ok {log : BrowserLog} {cursor : DirectoryCursor} {requestId : Option UInt64}
    {append : Bool} {replies : Replies} {read : PageRead}
    (hread : readPage cursor replies.readdirs = read) {emitted : PageEmitted}
    (hemitted : emitPage log cursor requestId append replies = emitted)
    (h : emitted.result = .ok ()) :
    (∃ handle, emitted.cursor = { read.cursor with handle }) ∧ emitted.reads = read.reads ∧
      log.receiverOpen ∧ emitted.log.receiverOpen ∧
      emitted.log.events = log.events ++ [.directoryPage requestId read.cursor.path read.entries
        append (!read.cursor.done) read.cursor.truncated] := by
  obtain ⟨_, _, hemit⟩ | ⟨_, _, _, hemit⟩ | ⟨entries, log', hpage, hreceives, hlog, hemit⟩ :=
    emitPage_cases log cursor requestId append replies hread
  · rw [← hemitted, hemit] at h
    exact nomatch h
  · rw [← hemitted, hemit] at h
    exact nomatch h
  · have hopen : log.receiverOpen = true := (Bool.and_eq_true_iff.mp hreceives).1
    have hentries : read.entries = entries := by rw [PageRead.entries, hpage]
    rw [hentries]
    rw [hemit] at hemitted
    split at hemitted
    · subst hemitted hlog
      exact ⟨⟨"", rfl⟩, rfl, hopen, by simpa using hopen, by simp⟩
    · subst hemitted hlog
      exact ⟨⟨read.cursor.handle, rfl⟩, rfl, hopen, hopen, rfl⟩

/-! ## Opening a directory -/

/-- The cursor of a directory that was just opened. -/
def freshCursor (path handle : String) : DirectoryCursor :=
  { path, handle, pending := [], done := false, truncated := false }

/-- The directory is not opened, or it is opened and its first page emitted. -/
theorem openAndEmit_cases (debug : String → String) (log : BrowserLog) (path : String)
    (requestId : Option UInt64) (replies : Replies) :
    (∃ error, (openDirectory debug log path replies.opendir).1 = .error error ∧
      openAndEmit debug log path requestId replies = (.error error, log)) ∨
    (∃ handle emitted, replies.opendir = .ok handle ∧
      emitPage { log with opened := log.opened ++ [handle] } (freshCursor path handle) requestId
        false replies = emitted ∧
      openAndEmit debug log path requestId replies =
        (emitted.result.map fun _ => (emitted.cursor, emitted.reads), emitted.log)) := by
  unfold openAndEmit openDirectory
  cases validateRemotePath path with
  | error error => exact Or.inl ⟨error, rfl, rfl⟩
  | ok =>
    cases replies.opendir with
    | elapsed => exact Or.inl ⟨_, rfl, rfl⟩
    | failed error => exact Or.inl ⟨_, rfl, rfl⟩
    | ok handle => exact Or.inr ⟨handle, _, rfl, rfl, rfl⟩

theorem openAndEmit_error_events {debug : String → String} {log log' : BrowserLog} {path : String}
    {requestId : Option UInt64} {replies : Replies} {error : BrowserError}
    (h : openAndEmit debug log path requestId replies = (.error error, log')) :
    log'.events = log.events ∧ (log'.receiverOpen → log.receiverOpen) := by
  obtain ⟨_, _, hopen⟩ | ⟨handle, emitted, _, hemitted, hopen⟩ :=
    openAndEmit_cases debug log path requestId replies
  · rw [hopen] at h
    obtain ⟨_, rfl⟩ := Prod.mk.inj h
    exact ⟨rfl, id⟩
  · rw [hopen] at h
    obtain ⟨hresult, rfl⟩ := Prod.mk.inj h
    cases hcase : emitted.result with
    | error _ =>
      subst hemitted
      exact emitPage_error_events hcase
    | ok _ =>
      rw [hcase] at hresult
      exact nomatch hresult

/-! ## The current listing -/

/-- The pages of the current listing, the buffer of its cursor and the replies it has read agree.
    Once the receiver is dropped there is nobody to page to, and only the order is left. -/
structure RemoteBrowser.Listed (b : RemoteBrowser) (c : DirectoryCursor) : Prop where
  accounted : b.log.receiverOpen →
    (listingPages b.log.events).flatten ++ passing c.path c.pending =
      passing c.path (received b.reads)
  inOrder : (listingPages b.log.events).flatten <+: passing c.path (received b.reads)
  bounded : ∀ page ∈ listingPages b.log.events, page.length ≤ maxPageEntries
  complete : listingHasMore b.log.events = false →
    EndReported b.reads ∧ (listingPages b.log.events).flatten = passing c.path (received b.reads)
  drained : c.done → c.pending = [] ∧ EndReported b.reads
  closing : listingHasMore b.log.events = false → c.done

namespace RemoteBrowser

variable {b b' : RemoteBrowser} {c : DirectoryCursor} {read : PageRead}

/-- A step that reads nothing and emits no page changes nothing about the listing. -/
theorem Listed.unchanged (h : b.Listed c) (hreads : b'.reads = b.reads)
    (hpages : listingPages b'.log.events = listingPages b.log.events)
    (hmore : listingHasMore b'.log.events = listingHasMore b.log.events)
    (hopen : b'.log.receiverOpen → b.log.receiverOpen) : b'.Listed c where
  accounted := fun h' => by rw [hpages, hreads]; exact h.accounted (hopen h')
  inOrder := by rw [hpages, hreads]; exact h.inOrder
  bounded := by rw [hpages]; exact h.bounded
  complete := by rw [hmore, hpages, hreads]; exact h.complete
  drained := by rw [hreads]; exact h.drained
  closing := by rw [hmore]; exact h.closing

/-- The first page of a listing. -/
theorem Listed.firstPage {path handle handle' : String}
    (hread : PageRead.Of (freshCursor path handle) read) (hreads : b.reads = read.reads)
    (hpages : listingPages b.log.events = [read.entries])
    (hmore : listingHasMore b.log.events = !read.cursor.done) :
    b.Listed { read.cursor with handle := handle' } := by
  -- the first page and what the cursor holds make up what was received
  have hall : read.entries ++ passing read.cursor.path read.cursor.pending =
      passing read.cursor.path (received read.reads) := by
    have haccounted := hread.accounted
    rw [← hread.path] at haccounted
    exact haccounted
  have hdone : listingHasMore b.log.events = false → read.cursor.done = true := fun h => by
    simpa [hmore] using h
  exact
    { accounted := fun _ => by
        rw [hpages, hreads]
        simpa using hall
      inOrder := by
        rw [hpages, hreads]
        exact ⟨_, by simpa using hall⟩
      bounded := by
        rw [hpages]
        intro page hmem
        obtain rfl := List.mem_singleton.mp hmem
        exact hread.bounded
      complete := fun h => by
        obtain ⟨hpending, hend⟩ := hread.finished (hdone h)
        rw [hpages, hreads, ← hall, hpending]
        exact ⟨hend, by simp [passing]⟩
      drained := fun h => by
        rw [hreads]
        exact hread.finished h
      closing := hdone }

/-- A page was read for a listing that has more, and it was not emitted. -/
theorem Listed.pageLost (h : b.Listed c) (hdone : c.done = false) (hread : PageRead.Of c read)
    (hreads : b'.reads = b.reads ++ read.reads)
    (hpages : listingPages b'.log.events = listingPages b.log.events)
    (hmore : listingHasMore b'.log.events = listingHasMore b.log.events)
    (hopen : b'.log.receiverOpen → b.log.receiverOpen ∧ read.entries = []) :
    b'.Listed read.cursor := by
  have hnotDone : ¬listingHasMore b.log.events = false := fun hfalse =>
    absurd (h.closing hfalse) (by simp [hdone])
  exact
    { accounted := fun h' => by
        obtain ⟨hbefore, hempty⟩ := hopen h'
        have haccounted := hread.accounted
        rw [hempty, List.nil_append] at haccounted
        rw [hpages, hreads, hread.path, haccounted, received_append, passing_append,
          ← List.append_assoc, h.accounted hbefore]
      inOrder := by
        rw [hpages, hreads, hread.path, received_append, passing_append]
        exact h.inOrder.trans (List.prefix_append _ _)
      bounded := by rw [hpages]; exact h.bounded
      complete := fun hfalse => absurd (hmore ▸ hfalse) hnotDone
      drained := fun hfinished => by
        obtain ⟨hpending, hend⟩ := hread.finished hfinished
        rw [hreads]
        exact ⟨hpending, hend.append_right _⟩
      closing := fun hfalse => absurd (hmore ▸ hfalse) hnotDone }

/-- A further page of the listing. -/
theorem Listed.nextPage {handle' : String} (h : b.Listed c) (hread : PageRead.Of c read)
    (hopen : b.log.receiverOpen) (hreads : b'.reads = b.reads ++ read.reads)
    (hpages : listingPages b'.log.events = listingPages b.log.events ++ [read.entries])
    (hmore : listingHasMore b'.log.events = !read.cursor.done) :
    b'.Listed { read.cursor with handle := handle' } := by
  -- the pages so far, then what the cursor still holds, make up what was received
  have hall : (listingPages b'.log.events).flatten ++ passing read.cursor.path read.cursor.pending =
      passing read.cursor.path (received b'.reads) := by
    calc (listingPages b'.log.events).flatten ++ passing read.cursor.path read.cursor.pending
        = (listingPages b.log.events).flatten ++
            (read.entries ++ passing c.path read.cursor.pending) := by
          simp [hpages, hread.path]
      _ = ((listingPages b.log.events).flatten ++ passing c.path c.pending) ++
            passing c.path (received read.reads) := by
          rw [hread.accounted, List.append_assoc]
      _ = passing read.cursor.path (received b'.reads) := by
          rw [h.accounted hopen, hreads, received_append, passing_append, hread.path]
  have hdone : listingHasMore b'.log.events = false → read.cursor.done = true := fun h => by
    simpa [hmore] using h
  have hdrained : read.cursor.done = true → read.cursor.pending = [] ∧ EndReported b'.reads := by
    intro hfinished
    obtain ⟨hpending, hend⟩ := hread.finished hfinished
    rw [hreads]
    exact ⟨hpending, hend.append_right _⟩
  exact
    { accounted := fun _ => hall
      inOrder := ⟨_, hall⟩
      bounded := by
        rw [hpages]
        intro page hmem
        cases List.mem_append.mp hmem with
        | inl hold => exact h.bounded page hold
        | inr hnew =>
          obtain rfl := List.mem_singleton.mp hnew
          exact hread.bounded
      complete := fun hfalse => by
        obtain ⟨hpending, hend⟩ := hdrained (hdone hfalse)
        rw [hpending] at hall
        exact ⟨hend, by simpa [passing] using hall⟩
      drained := hdrained
      closing := hdone }

/-! ## Steps -/

theorem sendRequestError_spec (log : BrowserLog) (receives : Bool) (requestId : Option UInt64)
    (error : BrowserError) {log' : BrowserLog}
    (h : sendRequestError log receives requestId error = log') :
    listingPages log'.events = listingPages log.events ∧
      listingHasMore log'.events = listingHasMore log.events ∧
      (log'.receiverOpen → log.receiverOpen) := by
  subst h
  unfold sendRequestError BrowserLog.send
  split
  · exact ⟨by simp [listingPages], by simp [listingHasMore], id⟩
  · exact ⟨rfl, rfl, fun h => nomatch h⟩

/-- A failed request ends the loop or is reported. -/
theorem requestFailed_running {requestId : Option UInt64} {receives : Bool} {error : BrowserError}
    (h : b.requestFailed requestId receives error = .running b') :
    b'.cursor = b.cursor ∧ b'.reads = b.reads ∧
      sendRequestError b.log receives requestId error = b'.log := by
  unfold requestFailed at h
  split at h
  · exact nomatch h
  · obtain rfl := BrowserRun.running.inj h
    exact ⟨rfl, rfl, rfl⟩

theorem requestFailed_ended {requestId : Option UInt64} {receives : Bool} {error : BrowserError}
    {result : Except BrowserError Unit} {log : BrowserLog}
    (h : b.requestFailed requestId receives error = .ended result log) : log = b.log := by
  unfold requestFailed at h
  split at h
  · exact (BrowserRun.ended.inj h).2.symm
  · exact nomatch h

/-- A request that fails keeps the listing, as long as it has only read the log's way. -/
theorem Listed.requestFailed (h : b.Listed c) {requestId : Option UInt64} {receives : Bool}
    {error : BrowserError} (hfailed : b.requestFailed requestId receives error = .running b') :
    b'.Listed c := by
  obtain ⟨_, hreads, hlog⟩ := requestFailed_running hfailed
  obtain ⟨hpages, hmore, hopen⟩ := sendRequestError_spec _ _ _ _ hlog
  exact h.unchanged hreads hpages hmore hopen

/-- Opening a directory and emitting its first page starts a listing. -/
theorem listed_of_openAndEmit {debug : String → String} {log log' : BrowserLog} {path : String}
    {requestId : Option UInt64} {replies : Replies} {reads : List (Reply (List File))}
    (h : openAndEmit debug log path requestId replies = (.ok (c, reads), log'))
    (hreads : b.reads = reads) (hevents : b.log.events = log'.events) : b.Listed c := by
  obtain ⟨_, _, hopen⟩ | ⟨handle, emitted, _, hemitted, hopen⟩ :=
    openAndEmit_cases debug log path requestId replies
  · rw [hopen] at h
    exact nomatch (Prod.mk.inj h).1
  · rw [hopen] at h
    obtain ⟨hresult, hlog⟩ := Prod.mk.inj h
    cases hcase : emitted.result with
    | error _ =>
      rw [hcase] at hresult
      exact nomatch hresult
    | ok _ =>
      rw [hcase] at hresult
      obtain ⟨hcursor, hread⟩ := Prod.mk.inj (Except.ok.inj hresult)
      obtain ⟨⟨handle', hhandle⟩, hsame, _, _, hpage⟩ := emitPage_ok rfl hemitted hcase
      rw [← hcursor, hhandle]
      have hspec := readPage_spec (freshCursor path handle) rfl replies.readdirs
      refine Listed.firstPage hspec (by rw [hreads, ← hread, hsame]) ?_ ?_
      · rw [hevents, ← hlog, hpage]
        simp
      · rw [hevents, ← hlog, hpage]
        simp

variable {debug : String → String}

theorem listCanonical_listed {requestId : Option UInt64} {canonical : String} {replies : Replies}
    (hc : b.cursor = some c) (h : b.Listed c)
    (hstep : b.listCanonical debug requestId canonical replies = .running b') :
    ∃ c', b'.cursor = some c' ∧ b'.Listed c' := by
  unfold listCanonical at hstep
  split at hstep
  · -- the directory may have been opened, but the receiver has seen nothing of it
    rename_i error log hopen
    obtain ⟨hevents, hreceiver⟩ := openAndEmit_error_events hopen
    have hkept : RemoteBrowser.Listed { b with log } c :=
      h.unchanged rfl (congrArg listingPages hevents) (congrArg listingHasMore hevents) hreceiver
    exact ⟨c, (requestFailed_running hstep).1.trans hc, hkept.requestFailed hstep⟩
  · rename_i next reads log hopen
    obtain rfl := BrowserRun.running.inj hstep
    exact ⟨next, rfl, listed_of_openAndEmit hopen rfl (closeCurrent_events log b.cursor)⟩

theorem list_listed {requestId : Option UInt64} {path : String} {replies : Replies}
    (hc : b.cursor = some c) (h : b.Listed c)
    (hstep : b.list debug requestId path replies = .running b') :
    ∃ c', b'.cursor = some c' ∧ b'.Listed c' := by
  unfold list at hstep
  split at hstep
  · exact ⟨c, (requestFailed_running hstep).1.trans hc, h.requestFailed hstep⟩
  · split at hstep
    · exact ⟨c, (requestFailed_running hstep).1.trans hc, h.requestFailed hstep⟩
    · exact listCanonical_listed hc h hstep

theorem loadMore_listed {requestId : UInt64} {replies : Replies}
    (hc : b.cursor = some c) (h : b.Listed c)
    (hstep : b.loadMore requestId replies = .running b') :
    ∃ c', b'.cursor = some c' ∧ b'.Listed c' := by
  unfold loadMore at hstep
  rw [hc] at hstep
  dsimp only at hstep
  split at hstep
  · obtain rfl := BrowserRun.running.inj hstep
    obtain ⟨hpages, hmore, hopen⟩ := sendRequestError_spec b.log replies.receives _ _ rfl
    exact ⟨c, rfl, h.unchanged rfl hpages hmore hopen⟩
  · rename_i hdone
    have hdone : c.done = false := Bool.eq_false_iff.mpr hdone
    have hspec := readPage_spec c hdone replies.readdirs
    split at hstep
    · rename_i error herror
      -- the page was read, but nobody has taken it
      have hlost : RemoteBrowser.Listed
          { b with
            cursor := some (readPage c replies.readdirs).cursor
            reads := b.reads ++ (readPage c replies.readdirs).reads
            log := (emitPage b.log c (some requestId) true replies).log }
          (readPage c replies.readdirs).cursor := by
        obtain ⟨hevents, _⟩ := emitPage_error_events herror
        refine h.pageLost hdone hspec rfl (congrArg listingPages hevents)
          (congrArg listingHasMore hevents) fun hopen => ?_
        -- not read, or read after the receiver has gone; a page that is taken reports no error
        obtain ⟨_, hpage, hemit⟩ | ⟨_, _, _, hemit⟩ | ⟨_, _, _, _, _, hemit⟩ :=
          emitPage_cases b.log c (some requestId) true replies rfl
        · exact ⟨(emitPage_error_events herror).2 hopen, by rw [PageRead.entries, hpage]⟩
        · rw [hemit] at hopen
          exact nomatch hopen
        · rw [hemit] at herror
          split at herror <;> exact nomatch herror
      obtain ⟨hcursor, hreads⟩ : (emitPage b.log c (some requestId) true replies).cursor =
          (readPage c replies.readdirs).cursor ∧
          (emitPage b.log c (some requestId) true replies).reads =
            (readPage c replies.readdirs).reads := by
        obtain ⟨_, _, hemit⟩ | ⟨_, _, _, hemit⟩ | ⟨_, _, _, _, _, hemit⟩ :=
          emitPage_cases b.log c (some requestId) true replies rfl
        · rw [hemit]
          exact ⟨rfl, rfl⟩
        · rw [hemit]
          exact ⟨rfl, rfl⟩
        · rw [hemit] at herror
          split at herror <;> exact nomatch herror
      rw [hcursor, hreads] at hstep
      exact ⟨_, (requestFailed_running hstep).1, hlost.requestFailed hstep⟩
    · rename_i hok
      obtain rfl := BrowserRun.running.inj hstep
      obtain ⟨⟨handle, hcursor⟩, hreads, hopen, _, hpage⟩ := emitPage_ok rfl rfl hok
      refine ⟨_, congrArg some hcursor, h.nextPage hspec hopen (congrArg (b.reads ++ ·) hreads) ?_ ?_⟩
      · rw [hpage]
        simp
      · rw [hpage]
        simp

/-- Ending the loop emits nothing. -/
theorem list_ended {requestId : Option UInt64} {path : String} {replies : Replies}
    {result : Except BrowserError Unit} {log : BrowserLog}
    (hstep : b.list debug requestId path replies = .ended result log) :
    log.events = b.log.events := by
  unfold list listCanonical at hstep
  split at hstep
  · rw [requestFailed_ended hstep]
  · split at hstep
    · rw [requestFailed_ended hstep]
    · split at hstep
      · rename_i hopen
        rw [requestFailed_ended hstep]
        exact (openAndEmit_error_events hopen).1
      · exact nomatch hstep

theorem loadMore_ended {requestId : UInt64} {replies : Replies}
    {result : Except BrowserError Unit} {log : BrowserLog}
    (hstep : b.loadMore requestId replies = .ended result log) : log.events = b.log.events := by
  unfold loadMore at hstep
  split at hstep
  · exact nomatch hstep
  · split at hstep
    · exact nomatch hstep
    · dsimp only at hstep
      split at hstep
      · rename_i herror
        rw [requestFailed_ended hstep]
        exact (emitPage_error_events herror).1
      · exact nomatch hstep

end RemoteBrowser

namespace BrowserRun

variable {debug : String → String}

/-- A turn of the loop keeps the listing, or starts a new one. -/
theorem step_listed {b b' : RemoteBrowser} {c : DirectoryCursor} {input : BrowserInput}
    (hc : b.cursor = some c) (h : b.Listed c)
    (hstep : (running b).step debug input = .running b') :
    ∃ c', b'.cursor = some c' ∧ b'.Listed c' := by
  cases input with
  | start =>
    obtain rfl := BrowserRun.running.inj hstep
    exact ⟨c, hc, h⟩
  | channelClosed => exact nomatch hstep
  | commandsClosed => exact nomatch hstep
  | command command replies =>
    cases command with
    | list requestId path => exact RemoteBrowser.list_listed hc h hstep
    | loadMore requestId => exact RemoteBrowser.loadMore_listed hc h hstep
    | close => exact nomatch hstep

theorem events_of_ended {b : RemoteBrowser} {input : BrowserInput}
    {result : Except BrowserError Unit} {log : BrowserLog}
    (hstep : (running b).step debug input = .ended result log) : log.events = b.log.events := by
  have hfinish : ∀ closeSession, b.finish closeSession = .ended result log →
      log.events = b.log.events := by
    intro closeSession h
    rw [← (BrowserRun.ended.inj h).2]
    exact closeCurrent_events b.log b.cursor
  cases input with
  | start => exact nomatch hstep
  | channelClosed => rw [(BrowserRun.ended.inj hstep).2]
  | commandsClosed closeSession => exact hfinish _ hstep
  | command command replies =>
    cases command with
    | list requestId path => exact RemoteBrowser.list_ended hstep
    | loadMore requestId => exact RemoteBrowser.loadMore_ended hstep
    | close => exact hfinish _ hstep

/-- What `startBrowser` leaves: a first listing, or nothing shown. -/
theorem start_listed {initialPath : String} {handshake : Reply Unit} {home : Reply (List File)}
    {openedReceived : Bool} {replies : Replies} {b : RemoteBrowser}
    (hstart : startBrowser debug initialPath handshake home openedReceived replies = .running b) :
    ∃ c, b.cursor = some c ∧ b.Listed c := by
  unfold startBrowser at hstart
  dsimp only at hstart
  split at hstart
  · exact nomatch hstart
  split at hstart
  · exact nomatch hstart
  split at hstart
  · exact nomatch hstart
  split at hstart
  · exact nomatch hstart
  split at hstart
  · exact nomatch hstart
  rename_i hopen
  obtain rfl := BrowserRun.running.inj hstart
  exact ⟨_, rfl, RemoteBrowser.listed_of_openAndEmit hopen rfl rfl⟩

theorem start_ended {initialPath : String} {handshake : Reply Unit} {home : Reply (List File)}
    {openedReceived : Bool} {replies : Replies} {result : Except BrowserError Unit}
    {log : BrowserLog}
    (hstart : startBrowser debug initialPath handshake home openedReceived replies =
      .ended result log) :
    listingPages log.events = [] ∧ listingHasMore log.events = true := by
  -- the home directory is announced before any page
  have hopened : ∀ home log received, BrowserLog.new.send openedReceived (.opened home) =
      (log, received) → listingPages log.events = [] ∧ listingHasMore log.events = true := by
    intro home log received hsend
    cases openedReceived with
    | false =>
      obtain ⟨rfl, _⟩ := Prod.mk.inj hsend
      exact ⟨rfl, rfl⟩
    | true =>
      obtain ⟨rfl, _⟩ := Prod.mk.inj hsend
      exact ⟨rfl, rfl⟩
  -- the errors of the source in their order, the last one that of the first listing
  unfold startBrowser at hstart
  dsimp only at hstart
  split at hstart
  · rw [← (BrowserRun.ended.inj hstart).2]
    exact ⟨rfl, rfl⟩
  split at hstart
  · rw [← (BrowserRun.ended.inj hstart).2]
    exact ⟨rfl, rfl⟩
  split at hstart
  · rename_i hsend
    rw [← (BrowserRun.ended.inj hstart).2]
    exact hopened _ _ _ hsend
  rename_i hsend
  split at hstart
  · rw [← (BrowserRun.ended.inj hstart).2]
    exact hopened _ _ _ hsend
  split at hstart
  · rename_i hopen
    rw [← (BrowserRun.ended.inj hstart).2, (openAndEmit_error_events hopen).1]
    exact hopened _ _ _ hsend
  · exact nomatch hstart

/-- In every run of the browser loop: between two commands the pages shown of the current listing,
    what its cursor has buffered and the replies of the server agree, and when the loop ends the
    receiver has what it had after the last command. -/
theorem listing_pages (debug : String → String) (inputs : List BrowserInput) :
    (∀ b, inputs.foldl (step debug) idle = .running b → ∃ c, b.cursor = some c ∧ b.Listed c) ∧
    (∀ result log, inputs.foldl (step debug) idle = .ended result log →
      listingPages log.events = [] ∧ listingHasMore log.events = true ∨
      ∃ before b, before <+: inputs ∧ before.foldl (step debug) idle = .running b ∧
        log.events = b.log.events) := by
  induction inputs using List.reverseRecOn with
  | nil => exact ⟨fun _ h => (nomatch h), fun _ _ h => (nomatch h)⟩
  | append_singleton inputs input ih =>
    obtain ⟨hrunning, hended⟩ := ih
    rw [List.foldl_append, List.foldl_cons, List.foldl_nil]
    cases hrun : inputs.foldl (step debug) idle with
    | idle =>
      cases input with
      | start =>
        exact ⟨fun b h => start_listed h, fun result log h => Or.inl (start_ended h)⟩
      | channelClosed => exact ⟨fun _ h => (nomatch h), fun _ _ h => (nomatch h)⟩
      | command => exact ⟨fun _ h => (nomatch h), fun _ _ h => (nomatch h)⟩
      | commandsClosed => exact ⟨fun _ h => (nomatch h), fun _ _ h => (nomatch h)⟩
    | running b =>
      obtain ⟨c, hc, hlisted⟩ := hrunning b hrun
      refine ⟨fun b' h => step_listed hc hlisted h, fun result log h => Or.inr ?_⟩
      exact ⟨inputs, b, List.prefix_append _ _, hrun, events_of_ended h⟩
    -- a browser that has ended takes no input any more
    | ended result log =>
      refine ⟨fun b' h => ?_, fun result' log' h => ?_⟩
      · cases input <;> exact nomatch h
      · obtain ⟨_, rfl⟩ : result = result' ∧ log = log' := by
          cases input <;> exact BrowserRun.ended.inj h
        rcases hended result log hrun with hnone | ⟨before, b, hpre, hbefore, hevents⟩
        · exact Or.inl hnone
        · exact Or.inr ⟨before, b, hpre.trans (List.prefix_append _ _), hbefore, hevents⟩

/-- An empty batch ends a listing, whatever the server would have sent next. -/
theorem empty_batch_ends_listing : ¬∀ (debug : String → String) (inputs : List BrowserInput)
    (b : RemoteBrowser), inputs.foldl (step debug) idle = .running b →
    listingHasMore b.log.events = false → ∃ text, .failed (.status .eof text) ∈ b.reads := by
  intro h
  let root : File := ⟨"/", true, false, none, none⟩
  let file : File := ⟨"a", false, false, none, none⟩
  let replies : Replies :=
    { realpath := .elapsed
      opendir := .ok "h"
      readdirs := [.ok [], .ok [file], .failed (.status .eof "end of file")]
      receives := true
      closeSession := .ok () }
  have hrun : [BrowserInput.start "" (.ok ()) (.ok [root]) true replies].foldl (step id) idle =
      .running
        { home := "/"
          cursor := some ⟨"/", "", [], true, false⟩
          reads := [.ok []]
          log := ⟨["h"], ["h"], [.opened "/", .directoryPage none "/" [] false false false], true⟩ } := by
    decide
  obtain ⟨text, hmem⟩ := h _ _ _ hrun (by decide)
  exact nomatch List.mem_singleton.mp hmem

end BrowserRun

end AxSsh
