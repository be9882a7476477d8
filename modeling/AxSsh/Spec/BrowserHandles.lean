import AxSsh.Spec.RemotePaging

/-!
# Directory handles of the remote browser

Every handle OPENDIR returns is to be closed once, and between two commands the only one that is
not closed yet is the one of the cursor.  `List` drops the cursor of the new directory when its
first page fails, and a lost connection ends the loop as it is; both leave a handle behind.

## Key results
- `emitPage_handles`: emitting a page closes the handle it takes from the cursor
- `BrowserRun.step_disciplined_iff`: a turn keeps `Disciplined` exactly when it is `HandleSafe`
- `BrowserRun.disciplined_throughout_iff`: the same for whole runs
-/

namespace AxSsh

open Transition (Throughout AllSafe throughout_iff_allSafe)

/-! ## Handles -/

/-- The handle a cursor is responsible for. -/
def DirectoryCursor.owned (cursor : DirectoryCursor) : List String :=
  if cursor.handle = "" then [] else [cursor.handle]

def RemoteBrowser.owned (b : RemoteBrowser) : List String :=
  match b.cursor with
  | some cursor => cursor.owned
  | none => []

theorem RemoteBrowser.owned_some {b : RemoteBrowser} {cursor : DirectoryCursor}
    (h : b.cursor = some cursor) : b.owned = cursor.owned := by
  rw [RemoteBrowser.owned, h]

/-- Between two commands the handles are closed but for the cursor's, and at the end all are. -/
def BrowserRun.Disciplined : BrowserRun → Prop
  | .idle => True
  | .running b => b.log.opened.Perm (b.log.closed ++ b.owned)
  | .ended _ log => log.opened.Perm log.closed

@[simp] theorem closeCursor_opened (log : BrowserLog) (cursor : DirectoryCursor) :
    (closeCursor log cursor).opened = log.opened := by
  unfold closeCursor
  split <;> rfl

@[simp] theorem closeCursor_closed (log : BrowserLog) (cursor : DirectoryCursor) :
    (closeCursor log cursor).closed = log.closed ++ cursor.owned := by
  unfold closeCursor DirectoryCursor.owned
  split
  · rw [List.append_nil]
  · rfl

/-- Closing what the loop has open closes what it owns. -/
theorem closeCurrent_handles (b : RemoteBrowser) (log : BrowserLog) :
    (closeCurrent log b.cursor).opened = log.opened ∧
      (closeCurrent log b.cursor).closed = log.closed ++ b.owned := by
  unfold RemoteBrowser.owned
  cases b.cursor with
  | none => exact ⟨rfl, (List.append_nil _).symm⟩
  | some cursor => exact ⟨closeCursor_opened log cursor, closeCursor_closed log cursor⟩

@[simp] theorem sendRequestError_opened (log : BrowserLog) (receives : Bool)
    (requestId : Option UInt64) (error : BrowserError) :
    (sendRequestError log receives requestId error).opened = log.opened := by
  unfold sendRequestError BrowserLog.send
  split <;> rfl

@[simp] theorem sendRequestError_closed (log : BrowserLog) (receives : Bool)
    (requestId : Option UInt64) (error : BrowserError) :
    (sendRequestError log receives requestId error).closed = log.closed := by
  unfold sendRequestError BrowserLog.send
  split <;> rfl

/-! ## Replies that fail a request -/

/-- The request found no connection any more. -/
def Reply.lost {α : Type} : Reply α → Bool
  | .elapsed => true
  | .failed error => browserTransportFailed ⟨[], .client error⟩
  | .ok _ => false

/-- A READDIR reply that a page is made from. -/
def Reply.delivers : Reply (List File) → Bool
  | .ok _ | .failed (.status .eof _) => true
  | .elapsed | .failed _ => false

/-- The READDIR reply that decides about the next page: batches of which no entry passes are
    read over. -/
def decisive (path : String) : List (Reply (List File)) → Reply (List File)
  | [] => .elapsed
  | reply :: replies =>
    match reply with
    | .ok files =>
      if files ≠ [] ∧ passing path files = [] then decisive path replies else reply
    | .elapsed | .failed _ => reply

theorem Reply.delivers_failed {error : SftpClientError}
    (h : ∀ text, error = .status .eof text → False) : (Reply.failed error).delivers = false := by
  unfold Reply.delivers
  split
  · rename_i heq
    exact nomatch heq
  · rename_i text heq
    exact (h text (Reply.failed.inj heq)).elim
  · rfl
  · rfl

/-- A page is read exactly when the decisive reply delivers one, and otherwise the error tells
    whether the connection is lost. -/
def PageRead.Decided (read : PageRead) (reply : Reply (List File)) : Prop :=
  match read.page with
  | .ok _ => reply.delivers = true
  | .error error => reply.delivers = false ∧ browserTransportFailed error = reply.lost

theorem readBatches_decided (cursor : DirectoryCursor) (replies : List (Reply (List File))) :
    (readBatches cursor replies).Decided (decisive cursor.path replies) := by
  induction replies generalizing cursor with
  | nil => exact ⟨rfl, rfl⟩
  | cons reply replies ih =>
    unfold readBatches decisive
    split
    · exact ⟨rfl, rfl⟩
    · rfl
    · rename_i files hfiles
      have hempty := takeEntries_empty_iff cursor.path files
      dsimp only
      split
      · rename_i htaken
        rw [if_pos ⟨hfiles, hempty.mp htaken⟩]
        exact ih _
      · rename_i htaken
        rw [if_neg fun h => htaken (hempty.mpr h.2)]
        rfl
    · rfl
    · rename_i error hne
      exact ⟨Reply.delivers_failed hne, rfl⟩

/-- The reply that decides about the next page of a cursor; a buffer with entries needs none. -/
def pageReply (cursor : DirectoryCursor) (replies : List (Reply (List File))) :
    Reply (List File) :=
  if passing cursor.path cursor.pending = [] then decisive cursor.path replies
  else .ok cursor.pending

theorem readPage_decided {cursor : DirectoryCursor} (hdone : cursor.done = false)
    (replies : List (Reply (List File))) :
    (readPage cursor replies).Decided (pageReply cursor replies) := by
  unfold readPage pageReply
  rw [if_neg (Bool.eq_false_iff.mp hdone)]
  have hempty := takeEntries_empty_iff cursor.path cursor.pending
  dsimp only
  split
  · rename_i htaken
    rw [if_pos (hempty.mp htaken)]
    exact readBatches_decided _ replies
  · rename_i htaken
    rw [if_neg fun h => htaken (hempty.mpr h)]
    rfl

/-! ## Emitting a page -/

/-- What emitting a page does to the handles, and when it fails. -/
structure PageEmitted.Of (log : BrowserLog) (cursor : DirectoryCursor) (replies : Replies)
    (emitted : PageEmitted) : Prop where
  opened : emitted.log.opened = log.opened
  ok : emitted.result = .ok () →
    ((log.receiverOpen && replies.receives) && (pageReply cursor replies.readdirs).delivers) ∧
      emitted.log.closed ++ emitted.cursor.owned = log.closed ++ cursor.owned
  error : ∀ error, emitted.result = .error error →
    ¬((log.receiverOpen && replies.receives) &&
        (pageReply cursor replies.readdirs).delivers) = true ∧
      browserTransportFailed error = (pageReply cursor replies.readdirs).lost ∧
      emitted.log.closed = log.closed ∧ emitted.cursor.owned = cursor.owned

theorem Reply.lost_of_delivers {reply : Reply (List File)} (h : reply.delivers) :
    reply.lost = false := by
  unfold Reply.delivers at h
  split at h
  · rfl
  · rfl
  · exact nomatch h
  · exact nomatch h

/-- Emitting a page closes the handle it takes from the cursor, and a page that is not emitted
    leaves the cursor its handle. -/
theorem emitPage_handles (log : BrowserLog) (cursor : DirectoryCursor) (hdone : cursor.done = false)
    (requestId : Option UInt64) (append : Bool) (replies : Replies) :
    PageEmitted.Of log cursor replies (emitPage log cursor requestId append replies) := by
  have hhandle : (readPage cursor replies.readdirs).cursor.owned = cursor.owned := by
    rw [DirectoryCursor.owned, (readPage_spec cursor hdone replies.readdirs).handle, DirectoryCursor.owned]
  have hdecided := readPage_decided hdone replies.readdirs
  unfold PageRead.Decided at hdecided
  obtain ⟨cause, hpage, hemit⟩ | ⟨entries, hpage, hreceives, hemit⟩ |
      ⟨entries, log', hpage, hreceives, hlog, hemit⟩ :=
    emitPage_cases log cursor requestId append replies rfl
  -- the page was not read, it was read and not taken, or it was taken
  · rw [hpage] at hdecided
    rw [hemit]
    exact
      { opened := rfl
        ok := fun h => nomatch h
        error := fun error h => by
          obtain rfl := Except.error.inj h
          exact ⟨by simp [hdecided.1], hdecided.2, rfl, hhandle⟩ }
  · rw [hpage] at hdecided
    rw [hemit]
    exact
      { opened := rfl
        ok := fun h => nomatch h
        error := fun error h => by
          obtain rfl := Except.error.inj h
          exact ⟨fun hboth => hreceives (Bool.and_eq_true_iff.mp hboth).1,
            (Reply.lost_of_delivers hdecided).symm, rfl, hhandle⟩ }
  · rw [hpage] at hdecided
    have hboth : ((log.receiverOpen && replies.receives) &&
        (pageReply cursor replies.readdirs).delivers) = true :=
      Bool.and_eq_true_iff.mpr ⟨hreceives, hdecided⟩
    rw [hemit]
    subst hlog
    split
    -- the last page closes the handle
    · exact
        { opened := closeCursor_opened _ _
          ok := fun _ => ⟨hboth, by
            rw [closeCursor_closed, hhandle]
            exact List.append_nil _⟩
          error := fun error h => nomatch h }
    · exact
        { opened := rfl
          ok := fun _ => ⟨hboth, by rw [hhandle]⟩
          error := fun error h => nomatch h }

/-! ## Opening a directory -/

theorem validateRemotePath_error {path : String} {error : BrowserError}
    (h : validateRemotePath path = .error error) : browserTransportFailed error = false := by
  unfold validateRemotePath at h
  split at h
  · obtain rfl := Except.error.inj h
    rfl
  · exact nomatch h

theorem normalizeRemotePath_error {path : String} {error : BrowserError}
    (h : normalizeRemotePath path = .error error) : browserTransportFailed error = false := by
  unfold normalizeRemotePath at h
  dsimp only [bind, Except.bind] at h
  split at h
  · rename_i hinvalid
    obtain rfl := Except.error.inj h
    exact validateRemotePath_error hinvalid
  · exact nomatch h

theorem normalizeRemotePath_valid {path normalized : String}
    (h : normalizeRemotePath path = .ok normalized) : validateRemotePath normalized = .ok () := by
  unfold normalizeRemotePath at h
  dsimp only [bind, Except.bind] at h
  split at h
  · exact nomatch h
  · rename_i hvalid
    obtain rfl := Except.ok.inj h
    exact hvalid

theorem resolveRemotePath_error {current home path : String} {error : BrowserError}
    (h : resolveRemotePath current home path = .error error) :
    browserTransportFailed error = false := by
  unfold resolveRemotePath at h
  dsimp only [bind, Except.bind] at h
  split at h
  · rename_i hinvalid
    obtain rfl := Except.error.inj h
    exact validateRemotePath_error hinvalid
  · exact normalizeRemotePath_error h

theorem resolveRemotePath_valid {current home path resolved : String}
    (h : resolveRemotePath current home path = .ok resolved) :
    validateRemotePath resolved = .ok () := by
  unfold resolveRemotePath at h
  dsimp only [bind, Except.bind] at h
  split at h
  · exact nomatch h
  · exact normalizeRemotePath_valid h

theorem canonicalize_error {debug : String → String} {path : String} {realpath : Reply (List File)}
    (hvalid : validateRemotePath path = .ok ()) {error : BrowserError}
    (h : canonicalize debug path realpath = .error error) :
    browserTransportFailed error = realpath.lost := by
  unfold canonicalize at h
  rw [hvalid] at h
  cases realpath with
  | elapsed =>
    obtain rfl := Except.error.inj h
    rfl
  | failed cause =>
    obtain rfl := Except.error.inj h
    rfl
  | ok files =>
    cases files with
    | nil =>
      obtain rfl := Except.error.inj h
      rfl
    | cons file files =>
      change (validateRemotePath file.filename >>= fun _ => pure file.filename) = _ at h
      cases hname : validateRemotePath file.filename with
      | error cause =>
        rw [hname] at h
        obtain rfl := Except.error.inj h
        exact validateRemotePath_error hname
      | ok =>
        rw [hname] at h
        exact nomatch h

theorem canonicalize_valid {debug : String → String} {path canonical : String}
    {realpath : Reply (List File)} (h : canonicalize debug path realpath = .ok canonical) :
    validateRemotePath canonical = .ok () ∧ realpath.lost = false := by
  unfold canonicalize at h
  cases hpath : validateRemotePath path with
  | error cause =>
    rw [hpath] at h
    exact nomatch h
  | ok =>
    rw [hpath] at h
    cases realpath with
    | elapsed => exact nomatch h
    | failed cause => exact nomatch h
    | ok files =>
      cases files with
      | nil => exact nomatch h
      | cons file files =>
        change (validateRemotePath file.filename >>= fun _ => pure file.filename) = _ at h
        cases hname : validateRemotePath file.filename with
        | error cause =>
          rw [hname] at h
          exact nomatch h
        | ok =>
          rw [hname] at h
          obtain rfl := Except.ok.inj h
          exact ⟨hname, rfl⟩

/-- A handle OPENDIR returns is one to keep account of, and the first page behind it is read and
    received. -/
def FirstPageDelivered (receiverOpen : Bool) (path : String) (replies : Replies) : Prop :=
  ∀ handle, replies.opendir = .ok handle → handle ≠ "" ∧
    ((receiverOpen && replies.receives) && (decisive path replies.readdirs).delivers) = true

theorem owned_freshCursor (path handle : String) :
    (freshCursor path handle).owned = if handle = "" then [] else [handle] := rfl

/-- Where the directory is not opened, the log is as before. -/
theorem openAndEmit_refused (debug : String → String) (log : BrowserLog)
    (requestId : Option UInt64) {path : String} {replies : Replies} (hvalid : validateRemotePath path = .ok ())
    (hrefused : ∀ handle, replies.opendir ≠ .ok handle) :
    ∃ error, openAndEmit debug log path requestId replies = (.error error, log) ∧
      browserTransportFailed error = replies.opendir.lost := by
  unfold openAndEmit openDirectory
  rw [hvalid]
  cases hopendir : replies.opendir with
  | elapsed => exact ⟨_, rfl, rfl⟩
  | failed error => exact ⟨_, rfl, rfl⟩
  | ok handle => exact absurd hopendir (hrefused handle)

/-- Where it is opened, the new cursor answers for its handle, or the page failed and nobody
    does. -/
theorem openAndEmit_opened {debug : String → String} {log log' : BrowserLog} {path handle : String}
    {requestId : Option UInt64} {replies : Replies}
    {result : Except BrowserError (DirectoryCursor × List (Reply (List File)))}
    (hvalid : validateRemotePath path = .ok ()) (hopendir : replies.opendir = .ok handle)
    (h : openAndEmit debug log path requestId replies = (result, log')) :
    log'.opened = log.opened ++ [handle] ∧
      (∀ error, result = .error error → log'.closed = log.closed ∧
        ¬((log.receiverOpen && replies.receives) &&
          (decisive path replies.readdirs).delivers) = true) ∧
      (∀ c reads, result = .ok (c, reads) →
        ((log.receiverOpen && replies.receives) && (decisive path replies.readdirs).delivers) ∧
        log'.closed ++ c.owned = log.closed ++ (freshCursor path handle).owned) := by
  have hspec := emitPage_handles { log with opened := log.opened ++ [handle] }
    (freshCursor path handle) rfl requestId false replies
  -- the first page of a cursor decides whether the listing is delivered
  have hreply : pageReply (freshCursor path handle) replies.readdirs =
      decisive path replies.readdirs := if_pos rfl
  unfold openAndEmit openDirectory at h
  rw [hvalid, hopendir] at h
  obtain ⟨hresult, hlog⟩ := Prod.mk.inj h
  subst hlog
  refine ⟨hspec.opened, fun error herror => ?_, fun c reads hok => ?_⟩
  · subst herror
    cases hcase : (emitPage { log with opened := log.opened ++ [handle] }
        (freshCursor path handle) requestId false replies).result with
    | ok => rw [freshCursor] at hcase; rw [hcase] at hresult; exact nomatch hresult
    | error cause =>
      obtain ⟨hnot, _, hclosed, _⟩ := hspec.error cause hcase
      rw [hreply] at hnot
      exact ⟨hclosed, hnot⟩
  · subst hok
    cases hcase : (emitPage { log with opened := log.opened ++ [handle] }
        (freshCursor path handle) requestId false replies).result with
    | error cause => rw [freshCursor] at hcase; rw [hcase] at hresult; exact nomatch hresult
    | ok =>
      rw [freshCursor] at hcase
      rw [hcase] at hresult
      obtain ⟨hcursor, _⟩ := Prod.mk.inj (Except.ok.inj hresult)
      obtain ⟨hdelivered, hclosed⟩ := hspec.ok hcase
      rw [hreply] at hdelivered
      rw [← hcursor]
      exact ⟨hdelivered, hclosed⟩

/-! ## Counting handles -/

section

variable {opened closed rest : List String}

theorem perm_closed_iff (h : opened.Perm (closed ++ rest)) : opened.Perm closed ↔ rest = [] := by
  constructor
  · intro hclosed
    have hlength := (h.symm.trans hclosed).length_eq
    rw [List.length_append] at hlength
    exact List.length_eq_zero_iff.mp (by omega)
  · intro hrest
    rw [hrest, List.append_nil] at h
    exact h

theorem not_perm_opened (h : opened.Perm (closed ++ rest)) (handle : String)
    {closed' : List String} (hle : closed'.length ≤ (closed ++ rest).length) :
    ¬(opened ++ [handle]).Perm closed' := by
  intro hperm
  have hbefore := h.length_eq
  have hafter := hperm.length_eq
  rw [List.length_append, List.length_singleton] at hafter
  omega

/-- An opened handle is accounted for by its cursor, unless it is the empty one. -/
theorem perm_opened_iff (h : opened.Perm (closed ++ rest)) (path handle : String) :
    (opened ++ [handle]).Perm (closed ++ (freshCursor path handle).owned ++ rest) ↔
      handle ≠ "" := by
  rw [owned_freshCursor]
  split
  · rename_i hempty
    rw [List.append_nil]
    exact iff_of_false (not_perm_opened h handle le_rfl) fun hne => hne hempty
  · rename_i hne
    refine iff_of_true ?_ hne
    calc (opened ++ [handle]).Perm (closed ++ rest ++ [handle]) := h.append_right [handle]
      List.Perm _ (closed ++ [handle] ++ rest) := by
        rw [List.append_assoc, List.append_assoc]
        exact List.perm_append_comm.append_left closed

end

/-! ## Turns -/

namespace RemoteBrowser

/-- `List` opens a directory only to show it, and finds the connection there as long as the
    cursor has a handle. -/
def ListSafe (debug : String → String) (b : RemoteBrowser) (path : String) (replies : Replies) :
    Prop :=
  ∀ resolved, resolveRemotePath b.directory b.home path = .ok resolved →
    (replies.realpath.lost → b.owned = []) ∧
    ∀ canonical, canonicalize debug resolved replies.realpath = .ok canonical →
      (replies.opendir.lost → b.owned = []) ∧
      FirstPageDelivered b.log.receiverOpen canonical replies

/-- `LoadMore` finds the connection there where it needs it. -/
def LoadMoreSafe (b : RemoteBrowser) (replies : Replies) : Prop :=
  ∀ c, b.cursor = some c → c.done = false →
    (pageReply c replies.readdirs).lost → c.owned = []

variable {b : RemoteBrowser}

/-- A failed request keeps the discipline unless it gives up a connection with a handle open. -/
theorem requestFailed_disciplined (h : (BrowserRun.running b).Disciplined)
    (requestId : Option UInt64) (receives : Bool) (error : BrowserError) :
    (b.requestFailed requestId receives error).Disciplined ↔
      (browserTransportFailed error → b.owned = []) := by
  unfold requestFailed
  split
  · rename_i hlost
    exact (perm_closed_iff h).trans ⟨fun hnone _ => hnone, fun hnone => hnone hlost⟩
  · rename_i hkept
    refine iff_of_true ?_ fun hlost => absurd hlost hkept
    change List.Perm (sendRequestError b.log receives requestId error).opened
      ((sendRequestError b.log receives requestId error).closed ++ b.owned)
    rw [sendRequestError_opened, sendRequestError_closed]
    exact h

/-- A request that fails after it opened a directory leaves a handle behind. -/
theorem requestFailed_leaks (h : (BrowserRun.running b).Disciplined) {log : BrowserLog}
    {handle : String} (hopened : log.opened = b.log.opened ++ [handle])
    (hclosed : log.closed = b.log.closed) (requestId : Option UInt64) (receives : Bool)
    (error : BrowserError) :
    ¬(requestFailed { b with log } requestId receives error).Disciplined := by
  unfold requestFailed
  split
  · change ¬List.Perm log.opened log.closed
    rw [hopened, hclosed]
    exact not_perm_opened h handle (by rw [List.length_append]; omega)
  · change ¬List.Perm (sendRequestError log receives requestId error).opened
      ((sendRequestError log receives requestId error).closed ++ b.owned)
    rw [sendRequestError_opened, sendRequestError_closed, hopened, hclosed]
    exact not_perm_opened h handle le_rfl

theorem listCanonical_disciplined_iff (debug : String → String)
    (h : (BrowserRun.running b).Disciplined) (requestId : Option UInt64) {canonical : String}
    (hvalid : validateRemotePath canonical = .ok ()) (replies : Replies) :
    (b.listCanonical debug requestId canonical replies).Disciplined ↔
      (replies.opendir.lost → b.owned = []) ∧
        FirstPageDelivered b.log.receiverOpen canonical replies := by
  by_cases hopendir : ∃ handle, replies.opendir = .ok handle
  · obtain ⟨handle, hopendir⟩ := hopendir
    have hfirst : FirstPageDelivered b.log.receiverOpen canonical replies ↔ handle ≠ "" ∧
        ((b.log.receiverOpen && replies.receives) &&
          (decisive canonical replies.readdirs).delivers) = true := by
      constructor
      · intro hdelivered
        exact hdelivered handle hopendir
      · intro hdelivered handle' heq
        obtain rfl := Reply.ok.inj (hopendir.symm.trans heq)
        exact hdelivered
    rw [hfirst, hopendir]
    unfold listCanonical
    split
    · -- the first page is not emitted
      rename_i error log hopen
      obtain ⟨hopened, herror, _⟩ := openAndEmit_opened hvalid hopendir hopen
      obtain ⟨hclosed, hnot⟩ := herror error rfl
      refine iff_of_false (requestFailed_leaks h hopened hclosed _ _ _) fun hboth => ?_
      exact hnot hboth.2.2
    · rename_i next reads log hopen
      obtain ⟨hopened, _, hok⟩ := openAndEmit_opened hvalid hopendir hopen
      obtain ⟨hdelivered, hclosed⟩ := hok next reads rfl
      obtain ⟨hkept, hprevious⟩ := closeCurrent_handles b log
      have hhandles : List.Perm (closeCurrent log b.cursor).opened
          ((closeCurrent log b.cursor).closed ++ next.owned) ↔
          (b.log.opened ++ [handle]).Perm
            (b.log.closed ++ (freshCursor canonical handle).owned ++ b.owned) := by
        rw [hkept, hprevious, hopened, ← hclosed]
        refine List.Perm.congr_right ?_ _
        rw [List.append_assoc, List.append_assoc]
        exact List.perm_append_comm.append_left log.closed
      refine (hhandles.trans (perm_opened_iff h canonical handle)).trans ?_
      exact ⟨fun hne => ⟨fun hlost => (nomatch hlost), hne, hdelivered⟩, fun hboth => hboth.2.1⟩
  · have hrefused : ∀ handle, replies.opendir ≠ .ok handle := fun handle heq =>
      hopendir ⟨handle, heq⟩
    obtain ⟨error, hopen, hlost⟩ := openAndEmit_refused debug b.log requestId hvalid hrefused
    unfold listCanonical
    rw [hopen]
    refine (requestFailed_disciplined h requestId replies.receives error).trans ?_
    rw [hlost]
    exact ⟨fun hnone => ⟨hnone, fun handle heq => absurd heq (hrefused handle)⟩,
      fun hboth => hboth.1⟩

/-- Without a cursor a failed request leaves open just what is not closed. -/
theorem requestFailed_unowned (hnone : b.owned = []) (requestId : Option UInt64) (receives : Bool)
    (error : BrowserError) :
    (b.requestFailed requestId receives error).Disciplined ↔ b.log.opened.Perm b.log.closed := by
  unfold requestFailed
  split
  · exact Iff.rfl
  · change List.Perm (sendRequestError b.log receives requestId error).opened
      ((sendRequestError b.log receives requestId error).closed ++ b.owned) ↔ _
    rw [sendRequestError_opened, sendRequestError_closed, hnone, List.append_nil]

theorem list_disciplined_iff (debug : String → String) (h : (BrowserRun.running b).Disciplined)
    (requestId : Option UInt64) (path : String) (replies : Replies) :
    (b.list debug requestId path replies).Disciplined ↔ b.ListSafe debug path replies := by
  unfold list ListSafe
  cases hresolve : resolveRemotePath b.directory b.home path with
  -- a path that cannot be resolved loses no reply
  | error error =>
    refine iff_of_true ?_ fun _ heq => nomatch heq
    refine (requestFailed_disciplined h _ _ _).mpr fun hlost => ?_
    exact absurd hlost (by simp [resolveRemotePath_error hresolve])
  | ok resolved =>
    have hvalid := resolveRemotePath_valid hresolve
    dsimp only
    cases hcanonical : canonicalize debug resolved replies.realpath with
    | error error =>
      refine (requestFailed_disciplined h _ _ _).trans ?_
      rw [canonicalize_error hvalid hcanonical]
      constructor
      · intro hnone resolved' heq
        obtain rfl := Except.ok.inj heq
        exact ⟨hnone, fun canonical hok => (nomatch hcanonical.symm.trans hok)⟩
      · intro hsafe
        exact (hsafe resolved rfl).1
    | ok canonical =>
      obtain ⟨hcanonicalValid, hrealpath⟩ := canonicalize_valid hcanonical
      -- from here on it is the listing of a canonical path
      refine (listCanonical_disciplined_iff debug h requestId hcanonicalValid replies).trans ?_
      constructor
      · intro hsafe resolved' heq
        obtain rfl := Except.ok.inj heq
        refine ⟨fun hlost => absurd hlost (by simp [hrealpath]), fun canonical' hok => ?_⟩
        obtain rfl := Except.ok.inj (hcanonical.symm.trans hok)
        exact hsafe
      · intro hsafe
        exact (hsafe resolved rfl).2 canonical hcanonical

theorem loadMore_disciplined_iff (h : (BrowserRun.running b).Disciplined) (requestId : UInt64)
    (replies : Replies) : (b.loadMore requestId replies).Disciplined ↔ b.LoadMoreSafe replies := by
  -- an error that is reported opens and closes nothing
  have hreported : ∀ error, (BrowserRun.running { b with
      log := sendRequestError b.log replies.receives (some requestId) error }).Disciplined := by
    intro error
    change List.Perm (sendRequestError b.log replies.receives (some requestId) error).opened
      ((sendRequestError b.log replies.receives (some requestId) error).closed ++ b.owned)
    rw [sendRequestError_opened, sendRequestError_closed]
    exact h
  unfold loadMore LoadMoreSafe
  cases hc : b.cursor with
  | none =>
    refine iff_of_true ?_ fun c heq => nomatch heq
    have hnone := hreported (.ofMessage "SFTP directory is not open")
    rw [hc] at hnone
    exact hnone
  | some c =>
    have howned := owned_some hc
    dsimp only
    split
    · rename_i hdone
      refine iff_of_true ?_ fun c' heq hmore => ?_
      · have hsome := hreported (.ofMessage "SFTP directory has no additional page")
        rw [hc] at hsome
        exact hsome
      · obtain rfl := Option.some.inj heq
        exact absurd (hdone.symm.trans hmore) (by decide)
    · rename_i hdone
      have hdone : c.done = false := Bool.eq_false_iff.mpr hdone
      have hspec := emitPage_handles b.log c hdone (some requestId) true replies
      have hperm : List.Perm b.log.opened (b.log.closed ++ c.owned) := howned ▸ h
      split
      · rename_i error herror
        obtain ⟨_, hlost, hclosed, howns⟩ := hspec.error error herror
        have hkept : (BrowserRun.running
            { b with
              cursor := some (emitPage b.log c (some requestId) true replies).cursor
              reads := b.reads ++ (emitPage b.log c (some requestId) true replies).reads
              log := (emitPage b.log c (some requestId) true replies).log }).Disciplined := by
          change List.Perm _ (_ ++ DirectoryCursor.owned _)
          rw [hspec.opened, hclosed, howns]
          exact hperm
        -- after a lost page the request fails, and the cursor's handle must not be open then
        refine (requestFailed_disciplined hkept _ _ _).trans ?_
        rw [hlost]
        change (_ → DirectoryCursor.owned _ = []) ↔ _
        rw [howns]
        constructor
        · intro hnone c' heq _
          obtain rfl := Option.some.inj heq
          exact hnone
        · intro hsafe
          exact hsafe c rfl hdone
      · rename_i hok
        obtain ⟨hboth, hclosed⟩ := hspec.ok hok
        have hdelivers := (Bool.and_eq_true_iff.mp hboth).2
        refine iff_of_true ?_ fun c' heq _ hlost => ?_
        · change List.Perm _ (_ ++ DirectoryCursor.owned _)
          rw [hspec.opened, hclosed]
          exact hperm
        · obtain rfl := Option.some.inj heq
          -- a page that was delivered is not lost
          rw [Reply.lost_of_delivers hdelivers] at hlost
          exact nomatch hlost

end RemoteBrowser

/-- The start shows the initial directory if it opens it. -/
def StartSafe (debug : String → String) (initialPath : String) (handshake : Reply Unit)
    (home : Reply (List File)) (openedReceived : Bool) (replies : Replies) : Prop :=
  handshake = .ok () → ∀ home', canonicalize debug "." home = .ok home' → openedReceived →
    ∀ initial, resolveRemotePath home' home' initialPath = .ok initial →
      FirstPageDelivered true initial replies

theorem startBrowser_disciplined_iff (debug : String → String) (initialPath : String)
    (handshake : Reply Unit) (home : Reply (List File)) (openedReceived : Bool)
    (replies : Replies) :
    (startBrowser debug initialPath handshake home openedReceived replies).Disciplined ↔
      StartSafe debug initialPath handshake home openedReceived replies := by
  unfold startBrowser StartSafe
  cases handshake with
  | elapsed => exact iff_of_true (.refl _) fun heq => nomatch heq
  | failed error => exact iff_of_true (.refl _) fun heq => nomatch heq
  | ok =>
    dsimp only [Reply.context]
    cases hhome : canonicalize debug "." home with
    | error error => exact iff_of_true (.refl _) fun _ home' heq => nomatch heq
    | ok home' =>
      cases openedReceived with
      | false => exact iff_of_true (.refl _) fun _ _ _ heq => nomatch heq
      | true =>
        -- the start shows its directory as a `List` without a cursor would
        let b : RemoteBrowser :=
          ⟨home', none, [], { BrowserLog.new with events := [.opened home'] }⟩
        have hrunning : (BrowserRun.running b).Disciplined := .refl _
        have hsend : BrowserLog.new.send true (.opened home') = (b.log, true) := rfl
        dsimp only
        rw [hsend]
        dsimp only
        cases hresolve : resolveRemotePath home' home' initialPath with
        | error error =>
          refine iff_of_true (.refl _) fun _ home'' heq _ initial hinitial => ?_
          obtain rfl := Except.ok.inj heq
          exact nomatch hresolve.symm.trans hinitial
        | ok initial =>
          have hlist := b.listCanonical_disciplined_iff debug hrunning none
            (resolveRemotePath_valid hresolve) replies
          refine Iff.trans ?_ (hlist.trans ?_)
          · unfold RemoteBrowser.listCanonical
            dsimp only
            rcases openAndEmit debug b.log initial none replies with ⟨error | ⟨cursor, reads⟩, log⟩
            · have hnone : RemoteBrowser.owned ⟨home', none, [], log⟩ = [] := rfl
              exact (RemoteBrowser.requestFailed_unowned hnone none replies.receives error).symm
            · exact Iff.rfl
          constructor
          · intro hboth _ home'' heq _ initial' hinitial
            obtain rfl := Except.ok.inj heq
            obtain rfl := Except.ok.inj (hresolve.symm.trans hinitial)
            exact hboth.2
          · intro hsafe
            exact ⟨fun _ => rfl, hsafe rfl home' rfl rfl initial hresolve⟩

namespace BrowserRun

/-- A turn keeps the discipline exactly when it leaves no handle behind. -/
def HandleSafe (debug : String → String) : BrowserRun → BrowserInput → Prop
  | .idle, .start initialPath handshake home openedReceived replies =>
    StartSafe debug initialPath handshake home openedReceived replies
  | .running b, .channelClosed => b.owned = []
  | .running b, .command (.list _ path) replies => b.ListSafe debug path replies
  | .running b, .command (.loadMore _) replies => b.LoadMoreSafe replies
  | _, _ => True

theorem finish_disciplined {b : RemoteBrowser} (h : (running b).Disciplined)
    (closeSession : Except SftpClientError Unit) : (b.finish closeSession).Disciplined := by
  change List.Perm (closeCurrent b.log b.cursor).opened (closeCurrent b.log b.cursor).closed
  obtain ⟨hopened, hclosed⟩ := closeCurrent_handles b b.log
  rw [hopened, hclosed]
  exact h

theorem step_disciplined_iff (debug : String → String) {run : BrowserRun} (h : run.Disciplined)
    (input : BrowserInput) : (run.step debug input).Disciplined ↔ run.HandleSafe debug input := by
  cases run with
  | idle =>
    cases input with
    | start => exact startBrowser_disciplined_iff debug _ _ _ _ _
    | channelClosed => exact iff_of_true trivial trivial
    | command => exact iff_of_true trivial trivial
    | commandsClosed => exact iff_of_true trivial trivial
  | running b =>
    cases input with
    | start => exact iff_of_true h trivial
    | channelClosed => exact perm_closed_iff h
    | commandsClosed closeSession => exact iff_of_true (finish_disciplined h closeSession) trivial
    | command command replies =>
      cases command with
      | list requestId path => exact b.list_disciplined_iff debug h requestId path replies
      | loadMore requestId => exact b.loadMore_disciplined_iff h requestId replies
      | close => exact iff_of_true (finish_disciplined h replies.closeSession) trivial
  | ended result log => cases input <;> exact iff_of_true h trivial

/-- The discipline holds through exactly those runs of which no turn leaves a handle behind. -/
theorem disciplined_throughout_iff (debug : String → String) (inputs : List BrowserInput) :
    Throughout (step debug) idle Disciplined inputs ↔
      AllSafe (step debug) idle (HandleSafe debug) inputs :=
  throughout_iff_allSafe trivial fun _ input _ h => step_disciplined_iff debug h input

/-- A directory that opens and cannot be read keeps its handle while the loop goes on. -/
theorem unreadable_directory_leaks : ¬∀ (debug : String → String) (inputs : List BrowserInput),
    Throughout (step debug) idle Disciplined inputs := by
  intro h
  let replies : Replies :=
    { realpath := .ok [⟨"/b", true, false, none, none⟩]
      opendir := .ok "b"
      readdirs := [.failed (.status .permissionDenied "Permission denied")]
      receives := true
      closeSession := .ok () }
  let inputs : List BrowserInput :=
    [.start "/a" (.ok ()) (.ok [⟨"/", true, false, none, none⟩]) true
      { replies with opendir := .ok "a", readdirs := [.ok [⟨"f", false, false, none, none⟩]] },
      .command (.list (some 1) "/b") replies]
  let shown : SftpBrowserEvent :=
    .directoryPage none "/a" [⟨"f", "/a/f", false, false, 0, none⟩] false true false
  let denied : SftpBrowserEvent :=
    .failed (some 1) "cannot read remote directory: Permission denied"
  have hrun : inputs.foldl (step id) idle = running
      { home := "/"
        cursor := some ⟨"/a", "a", [], false, false⟩
        reads := [.ok [⟨"f", false, false, none, none⟩]]
        log := ⟨["a", "b"], [], [.opened "/", shown, denied], true⟩ } := by
    decide
  have hdisciplined := h id inputs inputs List.prefix_rfl
  rw [hrun] at hdisciplined
  exact absurd hdisciplined.length_eq (by decide)

end BrowserRun

end AxSsh
