import AxSsh.Spec.EditReads

/-!
# The publication guard of a remote edit

`write_edit_file` renames its temporary file onto the target only when all of the data is in it and
the target is as expected, and otherwise leaves the target alone.  An error that comes after the
server has confirmed the rename still looks like a save that failed.

## Key results
- `rename_allowed`: what a run has said before it asks for the rename
- `writeGuarded_unopened`, `writeGuarded_unanswered_iff`, `writeGuarded_ready_iff`: the kinds of runs
- `editFile_guarded_iff`: when every part of the guard holds
-/

namespace AxSsh

namespace SftpEdit

open Dialogue

/-- The data is in the closed file, and the target was as expected before the file was opened and
    is so again right before the rename. -/
structure RenameAllowed (edit : EditWrite) (source target : RemotePath)
    (before : List EditEvent) : Prop where
  onto : target = edit.path.toList
  guarded : ∃ original current handle middle,
    original.Matches edit.expectedSize edit.expectedModified ∧
    current.Matches edit.expectedSize edit.expectedModified ∧
    current.permissions = original.permissions ∧ Written handle edit.data middle ∧
    .answered (.close handle) (.reply (.status .ok)) ∈ middle ∧
    before = inspection target original ++ opening source (.reply (.handle handle)) ++ middle ++
      inspection target current

/-- The server did not refuse to create the file. -/
def MayExist (temporary : RemotePath) (said : List EditEvent) : Prop :=
  .sent (.openNew temporary) ∈ said ∧
    ∀ code, .answered (.openNew temporary) (.reply (.status code)) ∉ said

structure WriteGuarded (edit : EditWrite) (out : EditProgram SftpWriteResult) : Prop where
  renames : ∀ source target before after,
    out.said = before ++ .sent (.posixRename source target) :: after →
      RenameAllowed edit source target before
  /-- Only the rename changes the target. -/
  untouched : ∀ request, .sent request ∈ out.said → edit.path.toList ∈ request.changes →
    ∃ source, request = .posixRename source edit.path.toList
  /-- A run that does not ask for the rename removes what it may have created. -/
  cleans : (∀ source target, .sent (.posixRename source target) ∉ out.said) →
    ∀ temporary, MayExist temporary out.said → .sent (.remove temporary) ∈ out.said
  /-- An error means that the server did not confirm the rename. -/
  unconfirmed : (∀ value, out.result ≠ .ok value) → ∀ source target,
    .answered (.posixRename source target) (.reply (.status .ok)) ∉ out.said

/-- The answer to opening the temporary file says whether it exists. -/
def OpenAnswered (answer : SftpAnswer) : Prop :=
  (∃ handle, answer = .reply (.handle handle)) ∨ ∃ code, answer = .reply (.status code)

/-- The answers that let a run ask for the rename. -/
structure Renames (server : EditServer) (edit : EditWrite) (posixRename : Option String)
    (uuid : List Char) : Prop where
  answers : ∃ original temporary current handle,
    Opens server edit posixRename uuid original temporary ∧
    server .openFile = .reply (.handle handle) ∧
    (∀ index < chunkCount edit.data, (server (.write index)).Confirms) ∧
    (original.permissions.isSome → (server .setPermissions).Confirms) ∧
    (server .close).Confirms ∧ Unchanged server edit original current

/-- The answers under which a save is guarded. -/
structure SavesSafely (server : EditServer) (edit : EditWrite) (posixRename : Option String)
    (uuid : List Char) : Prop where
  opened : (∃ original temporary, Opens server edit posixRename uuid original temporary) →
    OpenAnswered (server .openFile)
  verified : Renames server edit posixRename uuid → (server .publish).Confirms →
    Verified server edit

section Guard

variable {server : EditServer} {edit : EditWrite} {posixRename : Option String}
  {uuid : List Char} {original current : FileAttributes} {temporary : RemotePath}
  {handle : String} {out : EditProgram SftpWriteResult}

theorem Opens.unique {original' : FileAttributes} {temporary' : RemotePath}
    (h : Opens server edit posixRename uuid original temporary)
    (h' : Opens server edit posixRename uuid original' temporary') :
    original' = original ∧ temporary' = temporary := by
  constructor
  · have hsame := h'.inspected.symm.trans h.inspected
    cases hsame
    rfl
  · exact Option.some.inj (h'.temporary.symm.trans h.temporary)

theorem harmless_inspection (path : RemotePath) (attrs : FileAttributes) :
    ∀ e ∈ inspection path attrs, e.Harmless := by
  intro e he
  rcases List.mem_pair.mp he with rfl | rfl <;> rfl

theorem not_harmless_rename {source target : RemotePath} :
    ¬(EditEvent.sent (.posixRename source target)).Harmless := nofun

/-! ## Runs that do not open a temporary file -/

theorem writeGuarded_of_harmless (h : Says EditEvent.Harmless out) : WriteGuarded edit out where
  renames source target before after hsaid :=
    absurd (h _ (hsaid ▸ List.mem_append_right _ List.mem_cons_self)) not_harmless_rename
  untouched request hmem hchanges := by
    have hnone : request.changes = [] := h _ hmem
    rw [hnone] at hchanges
    cases hchanges
  cleans _ temporary hexists := absurd (h _ hexists.1) nofun
  unconfirmed _ source target hmem := absurd (h _ hmem) nofun

theorem writeGuarded_unopened
    (h : ∀ original temporary, ¬Opens server edit posixRename uuid original temporary) :
    WriteGuarded edit (writeEditFile server edit posixRename uuid) :=
  writeGuarded_of_harmless (writeEditFile_unopened h).1

theorem savesSafely_unopened
    (h : ∀ original temporary, ¬Opens server edit posixRename uuid original temporary) :
    SavesSafely server edit posixRename uuid where
  opened := fun ⟨original, temporary, hopens⟩ => absurd hopens (h original temporary)
  verified := fun ⟨original, temporary, _, _, hopens, _⟩ => absurd hopens (h original temporary)

/-! ## Runs that do not ask for the rename -/

/-- The event changes no path or creates or removes the temporary file. -/
def OnTemporary (temporary : RemotePath) (e : EditEvent) : Prop :=
  e.Harmless ∨ e.request = .openNew temporary ∨ e.request = .remove temporary

theorem OnTemporary.untouched {request : EditRequest}
    (h : OnTemporary temporary (.sent request)) (hfresh : temporary ≠ edit.path.toList) :
    edit.path.toList ∉ request.changes := by
  intro hchanges
  rcases h with hnone | rfl | rfl
  · have hnone : request.changes = [] := hnone
    rw [hnone] at hchanges
    cases hchanges
  · exact hfresh (List.mem_singleton.mp hchanges).symm
  · exact hfresh (List.mem_singleton.mp hchanges).symm

theorem OnTemporary.not_rename {e : EditEvent} (h : OnTemporary temporary e)
    (source target : RemotePath) : e.request ≠ .posixRename source target := by
  intro heq
  rcases h with hnone | hopen | hremove
  · rw [EditEvent.Harmless, heq] at hnone
    cases hnone
  · cases heq.symm.trans hopen
  · cases heq.symm.trans hremove

theorem OnTemporary.created {other : RemotePath} (h : OnTemporary temporary (.sent (.openNew other))) :
    other = temporary := by
  rcases h with hnone | hopen | hremove
  · cases hnone
  · cases hopen
    rfl
  · cases hremove

theorem writeGuarded_of_onTemporary (hall : ∀ e ∈ out.said, OnTemporary temporary e)
    (hfresh : temporary ≠ edit.path.toList)
    (hcleans : MayExist temporary out.said → .sent (.remove temporary) ∈ out.said) :
    WriteGuarded edit out where
  renames source target before after hsplit := by
    have hmem := hall (.sent (.posixRename source target))
      (hsplit ▸ List.mem_append_right _ List.mem_cons_self)
    exact absurd rfl (hmem.not_rename source target)
  untouched request hmem hchanges := absurd hchanges ((hall _ hmem).untouched hfresh)
  cleans _ other hexists := by
    obtain rfl := (hall _ hexists.1).created
    exact hcleans hexists
  unconfirmed _ source target hmem := (hall _ hmem).not_rename source target rfl

theorem onTemporary_inspection (path : RemotePath) (attrs : FileAttributes) :
    ∀ e ∈ inspection path attrs, OnTemporary temporary e :=
  fun e he => .inl (harmless_inspection path attrs e he)

theorem onTemporary_opening (answer : SftpAnswer) :
    ∀ e ∈ opening temporary answer, OnTemporary temporary e := by
  intro e he
  rcases List.mem_pair.mp he with rfl | rfl <;> exact .inr (.inl rfl)

theorem onTemporary_removal : ∀ e ∈ removal server temporary, OnTemporary temporary e := by
  intro e he
  rcases List.mem_pair.mp he with rfl | rfl <;> exact .inr (.inr rfl)

/-! ## Runs that get no handle -/

theorem writeGuarded_unanswered_iff
    (h : Opens server edit posixRename uuid original temporary)
    (hopen : ∀ handle, server .openFile ≠ .reply (.handle handle))
    (hfresh : temporary ≠ edit.path.toList) :
    WriteGuarded edit (writeEditFile server edit posixRename uuid) ↔
      OpenAnswered (server .openFile) := by
  obtain ⟨hsaid, hfails⟩ := writeEditFile_unanswered h hopen
  have hrename (source target) : EditEvent.sent (.posixRename source target) ∉
      (writeEditFile server edit posixRename uuid).said := by
    simp [hsaid, inspection, opening]
  constructor
  · intro hguarded
    by_contra hanswered
    have hexists : MayExist temporary (writeEditFile server edit posixRename uuid).said := by
      refine ⟨by simp [hsaid, opening], fun code hmem => hanswered (.inr ⟨code, ?_⟩)⟩
      simpa [hsaid, inspection, opening, eq_comm] using hmem
    have hremoved := hguarded.cleans hrename temporary hexists
    simp [hsaid, inspection, opening] at hremoved
  · intro hanswered
    obtain ⟨handle, hhandle⟩ | ⟨code, hcode⟩ := hanswered
    · exact absurd hhandle (hopen handle)
    · refine writeGuarded_of_onTemporary ?_ hfresh fun hexists => ?_
      · rw [hsaid]
        exact List.forall_mem_append.mpr
          ⟨onTemporary_inspection _ _, onTemporary_opening _⟩
      · exact absurd (by simp [hsaid, opening, hcode]) (hexists.2 code)

/-! ## Runs with an open temporary file -/

/-- What a run with an open temporary file says before it inspects the target again. -/
def uploading (server : EditServer) (edit : EditWrite) (original : FileAttributes)
    (temporary : RemotePath) (handle : String) : List EditEvent :=
  inspection edit.path.toList original ++ opening temporary (.reply (.handle handle)) ++
    ((writeTemporary server handle edit.data original.permissions).said ++
      closing handle (server .close))

theorem onTemporary_uploading :
    ∀ e ∈ uploading server edit original temporary handle, OnTemporary temporary e := by
  simp only [uploading, List.forall_mem_append]
  refine ⟨⟨onTemporary_inspection _ _, onTemporary_opening _⟩, ?_, ?_⟩
  · exact fun e he => .inl (harmless_writeTemporary e he)
  · intro e he
    rcases List.mem_pair.mp he with rfl | rfl <;> exact .inl rfl

/-- The result and the events of such a run. -/
theorem writeEditFile_uploaded (h : Opens server edit posixRename uuid original temporary)
    (hopen : server .openFile = .reply (.handle handle)) :
    writeEditFile server edit posixRename uuid =
      let published := publishEdit server edit original temporary
        (writtenResult server edit original handle) (closedResult server handle)
      ⟨published.result, uploading server edit original temporary handle ++
        (published.said ++ if published.result.isOk then [] else removal server temporary)⟩ := by
  rw [writeEditFile_opened h hopen, finishEdit_eq]
  simp [uploading, closing]

theorem isOk_eq_false {r : Except EditError SftpWriteResult} (h : ∀ value, r ≠ .ok value) :
    r.isOk = false := by
  cases r with
  | error e => rfl
  | ok value => exact absurd rfl (h value)

theorem writeGuarded_unready (h : Opens server edit posixRename uuid original temporary)
    (hopen : server .openFile = .reply (.handle handle))
    (hready : ∀ current, ¬Ready server edit original current
      (writtenResult server edit original handle) (closedResult server handle))
    (hfresh : temporary ≠ edit.path.toList) :
    WriteGuarded edit (writeEditFile server edit posixRename uuid) := by
  obtain ⟨hharmless, hfails⟩ := publishEdit_unready hready
  rw [writeEditFile_uploaded h hopen]
  dsimp only
  rw [isOk_eq_false hfails]
  refine writeGuarded_of_onTemporary ?_ hfresh fun _ => by simp [removal]
  simp only [Bool.false_eq_true, if_false, List.forall_mem_append]
  exact ⟨onTemporary_uploading, fun e he => .inl (hharmless e he), onTemporary_removal⟩

/-- What such a run says before it asks for the rename. -/
theorem rename_allowed (h : Opens server edit posixRename uuid original temporary)
    (hready : Ready server edit original current (writtenResult server edit original handle)
      (closedResult server handle)) :
    RenameAllowed edit temporary edit.path.toList
      (uploading server edit original temporary handle ++
        inspection edit.path.toList current) := by
  refine ⟨rfl, original, current, handle,
    (writeTemporary server handle edit.data original.permissions).said ++
      closing handle (server .close),
    h.expected, hready.expected, hready.permissions, ?_, ?_, rfl⟩
  · intro i byte hbyte
    obtain ⟨offset, chunk, hle, hchunk, hmem⟩ := writeTemporary_written hready.written i byte hbyte
    exact ⟨offset, chunk, hle, hchunk, List.mem_append_left _ hmem⟩
  · have hclosed : (server .close).Confirms := expect_done_iff.mp hready.closed
    refine List.mem_append_right _ ?_
    rw [hclosed]
    exact List.mem_cons_of_mem _ List.mem_cons_self

theorem writeGuarded_ready_iff (h : Opens server edit posixRename uuid original temporary)
    (hopen : server .openFile = .reply (.handle handle))
    (hready : Ready server edit original current
      (writtenResult server edit original handle) (closedResult server handle))
    (hfresh : temporary ≠ edit.path.toList) :
    WriteGuarded edit (writeEditFile server edit posixRename uuid) ↔
      ((server .publish).Confirms → Verified server edit) := by
  obtain ⟨rest, hrest, hsaid, hsucceeds⟩ := publishEdit_ready hready
  rw [writeEditFile_uploaded h hopen]
  dsimp only
  generalize hpublished : publishEdit server edit original temporary
    (writtenResult server edit original handle) (closedResult server handle) = published at *
  generalize hremoved : (if published.result.isOk then [] else removal server temporary) = removed
  have hremoval : ∀ e ∈ removed, OnTemporary temporary e := by
    rw [← hremoved]
    split
    · exact nofun
    · exact onTemporary_removal
  -- before and after the rename only the temporary file is touched
  have hbefore : ∀ e ∈ uploading server edit original temporary handle ++
      inspection edit.path.toList current, OnTemporary temporary e :=
    List.forall_mem_append.mpr ⟨onTemporary_uploading, onTemporary_inspection _ _⟩
  have hafter : ∀ e ∈ rest ++ removed, OnTemporary temporary e :=
    List.forall_mem_append.mpr ⟨fun e he => .inl (hrest e he), hremoval⟩
  have hrun : uploading server edit original temporary handle ++ (published.said ++ removed) =
      (uploading server edit original temporary handle ++ inspection edit.path.toList current) ++
        .sent (.posixRename temporary edit.path.toList) ::
          .answered (.posixRename temporary edit.path.toList) (server .publish) ::
            (rest ++ removed) := by
    rw [hsaid]
    simp
  rw [hrun]
  constructor
  · intro hguarded hconfirms
    by_contra hverified
    -- a confirmed rename without a verified text would be reported as a failure
    refine hguarded.unconfirmed (fun value hvalue => ?_) temporary edit.path.toList ?_
    · exact hverified (hsucceeds.mp ⟨value, hvalue⟩).2
    · rw [hconfirms]
      exact List.mem_append_right _ (List.mem_cons_of_mem _ List.mem_cons_self)
  · intro hverified
    constructor
    · intro source target before after hsplit
      -- there is one rename in the run, so it splits there only
      let P (e : EditEvent) : Prop := ∃ source target, e = .sent (.posixRename source target)
      have hpre (e) (he : e ∈ uploading server edit original temporary handle ++
          inspection edit.path.toList current) : ¬P e := by
        rintro ⟨s, t, rfl⟩
        exact (hbefore _ he).not_rename s t rfl
      have hpost (e) (he : e ∈ EditEvent.answered (.posixRename temporary edit.path.toList)
          (server .publish) :: (rest ++ removed)) : ¬P e := by
        rintro ⟨s, t, rfl⟩
        rcases List.mem_cons.mp he with heq | he
        · cases heq
        · exact (hafter _ he).not_rename s t rfl
      obtain ⟨rfl, heq, -⟩ := split_unique hsplit hpre hpost ⟨source, target, rfl⟩
      cases heq
      exact rename_allowed h hready
    · intro request hmem hchanges
      rcases List.mem_append.mp hmem with hmem | hmem
      · exact absurd hchanges ((hbefore _ hmem).untouched hfresh)
      · simp only [List.mem_cons, EditEvent.sent.injEq, reduceCtorEq, false_or] at hmem
        rcases hmem with rfl | hmem
        · exact ⟨temporary, rfl⟩
        · exact absurd hchanges ((hafter _ hmem).untouched hfresh)
    · intro hnone
      exact absurd (List.mem_append_right _ List.mem_cons_self)
        (hnone temporary edit.path.toList)
    · intro hfails source target hmem
      rcases List.mem_append.mp hmem with hmem | hmem
      · exact (hbefore _ hmem).not_rename source target rfl
      · simp only [List.mem_cons, reduceCtorEq, false_or, EditEvent.answered.injEq] at hmem
        rcases hmem with ⟨-, hconfirms⟩ | hmem
        · obtain ⟨value, hvalue⟩ := hsucceeds.mpr ⟨hconfirms.symm, hverified hconfirms.symm⟩
          exact hfails value hvalue
        · exact (hafter _ hmem).not_rename source target rfl

/-! ## Every run -/

/-- The answers that let a run ask for the rename are those that make it ready. -/
theorem renames_iff (h : Opens server edit posixRename uuid original temporary)
    (hopen : server .openFile = .reply (.handle handle)) :
    Renames server edit posixRename uuid ↔ ∃ current, Ready server edit original current
      (writtenResult server edit original handle) (closedResult server handle) := by
  constructor
  · rintro ⟨original', temporary', current, handle', hopens, -, hwritten, hmode, hclosed, hsame⟩
    obtain ⟨rfl, rfl⟩ := h.unique hopens
    exact ⟨current, hsame, writeTemporary_eq_ok_iff.mpr ⟨hwritten, hmode⟩,
      expect_done_iff.mpr hclosed⟩
  · rintro ⟨current, hready⟩
    obtain ⟨hwritten, hmode⟩ := writeTemporary_eq_ok_iff.mp hready.written
    exact ⟨original, temporary, current, handle, h, hopen, hwritten, hmode,
      expect_done_iff.mp hready.closed, hready.toUnchanged⟩

theorem writeEditFile_guarded_iff (hfresh : temporaryPath edit uuid ≠ some edit.path.toList) :
    WriteGuarded edit (writeEditFile server edit posixRename uuid) ↔
      SavesSafely server edit posixRename uuid := by
  by_cases hopens : ∃ original temporary, Opens server edit posixRename uuid original temporary
  · obtain ⟨original, temporary, h⟩ := hopens
    have hfresh' : temporary ≠ edit.path.toList := fun heq => hfresh (heq ▸ h.temporary)
    by_cases hopen : ∃ handle, server .openFile = .reply (.handle handle)
    · obtain ⟨handle, hopen⟩ := hopen
      by_cases hready : ∃ current, Ready server edit original current
          (writtenResult server edit original handle) (closedResult server handle)
      · have hrenames := (renames_iff h hopen).mpr hready
        obtain ⟨current, hready⟩ := hready
        rw [writeGuarded_ready_iff h hopen hready hfresh']
        exact ⟨fun hverified => ⟨fun _ => .inl ⟨handle, hopen⟩, fun _ => hverified⟩,
          fun hsafe => hsafe.verified hrenames⟩
      · have hguarded := writeGuarded_unready h hopen (not_exists.mp hready) hfresh'
        refine iff_of_true hguarded ⟨fun _ => .inl ⟨handle, hopen⟩, fun hrenames => ?_⟩
        exact absurd ((renames_iff h hopen).mp hrenames) hready
    · rw [writeGuarded_unanswered_iff h (not_exists.mp hopen) hfresh']
      refine ⟨fun hanswered => ⟨fun _ => hanswered, fun hrenames => ?_⟩,
        fun hsafe => hsafe.opened ⟨original, temporary, h⟩⟩
      obtain ⟨-, -, -, handle, -, hhandle, -⟩ := hrenames
      exact absurd ⟨handle, hhandle⟩ hopen
  · have hnone (original temporary) : ¬Opens server edit posixRename uuid original temporary :=
      fun h => hopens ⟨original, temporary, h⟩
    exact iff_of_true (writeGuarded_unopened hnone) (savesSafely_unopened hnone)

end Guard

/-- A save and a download are guarded exactly when the server says whether it created the temporary
    file, and the last inspection agrees with a rename that the server confirmed.  The name of the
    temporary file is a new one. -/
theorem editFile_guarded_iff (server readServer : EditServer) (edit : EditWrite)
    (posixRename : Option String) (uuid : List Char) (path : RemotePath) (maxBytes : Nat)
    (hfresh : temporaryPath edit uuid ≠ some edit.path.toList) :
    WriteGuarded edit (writeEditFile server edit posixRename uuid) ∧
        ReadGuarded readServer path (readEditFile readServer path maxBytes) ↔
      SavesSafely server edit posixRename uuid := by
  rw [and_iff_left (readEditFile_guarded readServer path maxBytes)]
  exact writeEditFile_guarded_iff hfresh

/-! ## One save -/

def noteEdit : EditWrite where
  operationId := .nil
  path := "/note"
  maxBytes := 1024 * 1024
  data := [104, 105]
  expectedSize := 1
  expectedModified := some 7

def noteAttributes (size modified : Nat) : FileAttributes where
  size := some size
  mtime := some modified
  permissions := some 0o100644
  symlink := false
  regular := true

/-- A server that confirms everything, and answers the last inspection as given. -/
def noteServer (verify : SftpAnswer) : EditServer
  | .inspect | .recheck | .checkHandle | .confirmHandle => .reply (.attrs (noteAttributes 1 7))
  | .openFile => .reply (.handle "h")
  | .read _ => .reply (.status .eof)
  | .verify => verify
  | _ => .reply (.status .ok)

theorem note_fresh : temporaryPath noteEdit ['u'] ≠ some noteEdit.path.toList := by
  simp [temporaryPath, noteEdit, rsplitOnce]

theorem note_opens (verify : SftpAnswer) :
    Opens (noteServer verify) noteEdit (some "1") ['u'] (noteAttributes 1 7)
      "/.axssh-edit-u".toList where
  limit := rfl
  fits := by decide
  path := by simp [validateRemotePath, noteEdit, isControl, bailIf]
  inspected := rfl
  expected := ⟨rfl, rfl, rfl, rfl⟩
  atomic := rfl
  temporary := by simp [temporaryPath, noteEdit, rsplitOnce]

/-- The save is published and the last inspection finds it. -/
theorem noteEdit_guarded :
    WriteGuarded noteEdit (writeEditFile (noteServer (.reply (.attrs (noteAttributes 2 8)))) noteEdit
      (some "1") ['u']) :=
  ((editFile_guarded_iff _ (noteServer .timedOut) noteEdit (some "1") ['u'] "/note".toList 0
    note_fresh).mpr ⟨fun _ => .inl ⟨"h", rfl⟩, fun _ _ => ⟨_, rfl, rfl, rfl⟩⟩).1

/-- The save is published, and the last inspection times out. -/
theorem noteEdit_unguarded :
    ¬(WriteGuarded noteEdit (writeEditFile (noteServer .timedOut) noteEdit (some "1") ['u']) ∧
      ReadGuarded (noteServer .timedOut) "/note".toList
        (readEditFile (noteServer .timedOut) "/note".toList (1024 * 1024))) := by
  intro ⟨hwrite, _⟩
  have hsafe := (writeEditFile_guarded_iff note_fresh).mp hwrite
  have hrenames : Renames (noteServer .timedOut) noteEdit (some "1") ['u'] :=
    ⟨noteAttributes 1 7, _, noteAttributes 1 7, "h", note_opens _, rfl, fun _ _ => rfl,
      fun _ => rfl, rfl, (note_opens .timedOut).path, rfl, ⟨rfl, rfl, rfl, rfl⟩, rfl⟩
  obtain ⟨saved, hverify, -⟩ := hsafe.verified hrenames rfl
  cases hverify

end SftpEdit

end AxSsh
