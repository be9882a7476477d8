import AxSsh.ForStd.Except
import AxSsh.Native.EditPublication

/-!
# The requests of a remote edit

What the parts of `write_edit_file` ask the server for, and when each of them succeeds.

## Key results
- `requireFingerprint_eq_ok_iff`, `attributes_eq_ok_iff`: the checks
- `writeRemoteBytes_eq_ok_iff`, `writeRemoteBytes_acknowledged`: the window of writes
- `prepareEdit_eq_ok_iff`, `publishEdit_ready`, `publishEdit_unready`: the parts around it
- `writeEditFile_unopened`, `writeEditFile_unanswered`, `writeEditFile_opened`: a whole run
-/

namespace AxSsh

namespace SftpEdit

open Dialogue

/-- The paths a request may change.  A handle stands for the file it was opened for. -/
def EditRequest.changes : EditRequest → List RemotePath
  | .lstat _ | .openRead _ | .fstat _ | .read .. | .write .. | .fsetstat .. | .close _ => []
  | .openNew path | .remove path => [path]
  | .posixRename source target => [source, target]

def EditEvent.request : EditEvent → EditRequest
  | .sent request | .answered request _ => request

/-- The event belongs to a request that changes no path. -/
def EditEvent.Harmless (e : EditEvent) : Prop := e.request.changes = []

/-- The server confirms the request. -/
abbrev SftpAnswer.Confirms (answer : SftpAnswer) : Prop := answer = .reply (.status .ok)

/-- A regular file with the size and the modification time of the fingerprint. -/
structure FileAttributes.Matches (attrs : FileAttributes) (size : Nat) (modified : Option Nat) :
    Prop where
  regular : attrs.regular = true
  link : attrs.symlink = false
  size : attrs.size = some size
  modified : attrs.mtime = modified

section Checks

variable {attrs : FileAttributes} {size : Nat} {modified : Option Nat}

@[simp] theorem bailIf_eq_ok_iff {condition : Bool} {message : String} :
    bailIf condition message = .ok () ↔ condition = false := by
  cases condition <;> simp [bailIf]

theorem validateAttributes_eq_ok_iff :
    validateAttributes attrs = .ok () ↔
      attrs.symlink = false ∧ attrs.regular = true ∧ attrs.size.isSome := by
  rw [validateAttributes, Except.bind_eq_ok_iff]
  simp [and_assoc]

theorem requireFingerprint_eq_ok_iff :
    requireFingerprint attrs size modified = .ok () ↔ attrs.Matches size modified := by
  rw [requireFingerprint, Except.bind_eq_ok_iff]
  constructor
  · intro ⟨_, hvalid, hsame⟩
    obtain ⟨hlink, hregular, -⟩ := validateAttributes_eq_ok_iff.mp hvalid
    simp only [bailIf_eq_ok_iff, Bool.or_eq_false_iff, bne_eq_false_iff_eq] at hsame
    exact ⟨hregular, hlink, hsame.1, hsame.2⟩
  · intro ⟨hregular, hlink, hsize, hmodified⟩
    refine ⟨(), validateAttributes_eq_ok_iff.mpr ⟨hlink, hregular, by simp [hsize]⟩, ?_⟩
    simp [hsize, hmodified]

theorem expect_eq_ok_iff {α : Type} {take : SftpPacket → Option α} {late wrong : EditError}
    {answer : SftpAnswer} {value : α} :
    answer.expect take late wrong = .ok value ↔
      ∃ packet, answer = .reply packet ∧ take packet = some value := by
  cases answer with
  | timedOut | failed => simp [SftpAnswer.expect]
  | reply packet =>
    simp only [SftpAnswer.expect, SftpAnswer.reply.injEq, exists_eq_left']
    split <;> simp_all

theorem expect_done_iff {late wrong : EditError} {answer : SftpAnswer} :
    answer.expect SftpPacket.done? late wrong = .ok () ↔ answer.Confirms := by
  rw [expect_eq_ok_iff]
  constructor
  · rintro ⟨packet, rfl, hpacket⟩
    unfold SftpPacket.done? at hpacket
    split at hpacket
    · rfl
    · cases hpacket
  · exact fun h => ⟨_, h, rfl⟩

theorem expect_attrs_iff {late wrong : EditError} {answer : SftpAnswer} :
    answer.expect SftpPacket.attrs? late wrong = .ok attrs ↔ answer = .reply (.attrs attrs) := by
  rw [expect_eq_ok_iff]
  constructor
  · rintro ⟨packet, rfl, hpacket⟩
    unfold SftpPacket.attrs? at hpacket
    split at hpacket <;> cases hpacket
    rfl
  · exact fun h => ⟨_, h, rfl⟩

theorem expect_handle_iff {late wrong : EditError} {answer : SftpAnswer} {handle : String} :
    answer.expect SftpPacket.handle? late wrong = .ok handle ↔
      answer = .reply (.handle handle) := by
  rw [expect_eq_ok_iff]
  constructor
  · rintro ⟨packet, rfl, hpacket⟩
    unfold SftpPacket.handle? at hpacket
    split at hpacket <;> cases hpacket
    rfl
  · exact fun h => ⟨_, h, rfl⟩

end Checks

section Requests

variable {server : EditServer} {path : RemotePath} {step : EditStep} {attrs : FileAttributes}

theorem says_ask {P : EditEvent → Prop} {α : Type} {request : EditRequest}
    {take : SftpPacket → Option α} {late wrong : EditError} (hsent : P (.sent request))
    (hanswered : P (.answered request (server step))) :
    Says P (ask server step request take late wrong) := by
  intro e he
  rcases List.mem_pair.mp he with rfl | rfl
  · exact hsent
  · exact hanswered

/-- A request with an answer as expected. -/
theorem ask_bind_of_ok {α β : Type} {request : EditRequest} {take : SftpPacket → Option α}
    {late wrong : EditError} {k : α → EditProgram β} {value : α}
    (h : (server step).expect take late wrong = .ok value) :
    ask server step request take late wrong >>= k =
      ⟨(k value).result,
        .sent request :: .answered request (server step) :: (k value).said⟩ := by
  rw [bind_of_ok (m := ask server step request take late wrong) (a := value) h]
  rfl

/-- What a program that starts with a request says. -/
theorem said_ask_bind {α β : Type} {request : EditRequest} {take : SftpPacket → Option α}
    {late wrong : EditError} {k : α → EditProgram β} {P : EditEvent → Prop}
    (hk : ∀ value, Says P (k value)) :
    ∃ rest, (∀ e ∈ rest, P e) ∧ (ask server step request take late wrong >>= k).said =
      .sent request :: .answered request (server step) :: rest := by
  cases h : (server step).expect take late wrong with
  | error e =>
    refine ⟨[], nofun, ?_⟩
    rw [bind_of_error (m := ask server step request take late wrong) h]
    rfl
  | ok value =>
    refine ⟨(k value).said, hk value, ?_⟩
    rw [ask_bind_of_ok h]

/-- The events of an inspection that succeeds. -/
def inspection (path : RemotePath) (attrs : FileAttributes) : List EditEvent :=
  [.sent (.lstat path), .answered (.lstat path) (.reply (.attrs attrs))]

theorem attributes_eq_ok_iff :
    (attributes server step path).result = .ok attrs ↔
      validateRemotePath path = .ok () ∧ server step = .reply (.attrs attrs) ∧
        validateAttributes attrs = .ok () := by
  simp only [attributes, result_bind_eq_ok_iff, result_lift, result_pure, ask, expect_attrs_iff]
  simp

theorem said_attributes (h : (attributes server step path).result = .ok attrs) :
    (attributes server step path).said = inspection path attrs := by
  obtain ⟨hpath, hserver, hvalid⟩ := attributes_eq_ok_iff.mp h
  rw [attributes, lift_bind_of_ok hpath, ask_bind_of_ok (expect_attrs_iff.mpr hserver),
    lift_bind_of_ok hvalid, hserver]
  rfl

theorem harmless_attributes : Says EditEvent.Harmless (attributes server step path) := by
  refine .bind (.lift _) fun _ _ => .bind (says_ask rfl rfl) fun _ _ => ?_
  exact .bind (.lift _) fun _ _ => .pure _

end Requests

/-! ## The window of writes -/

section Writes

variable {server : EditServer} {handle : String} {data : FileData} {window rest : List Nat}
  {permissions : Option Nat}

/-- The server confirmed the write of a chunk. -/
def acknowledgement (handle : String) (data : FileData) (index : Nat) : EditEvent :=
  .answered (writeRequest handle data index) (.reply (.status .ok))

/-- Every byte of the data was in a write that the server confirmed. -/
def Written (handle : String) (data : FileData) (events : List EditEvent) : Prop :=
  ∀ i byte, data[i]? = some byte → ∃ offset chunk, offset ≤ i ∧ chunk[i - offset]? = some byte ∧
    .answered (.write handle offset chunk) (.reply (.status .ok)) ∈ events

theorem acknowledge_eq_ok_iff {index : Nat} :
    (acknowledge server handle data index).result = .ok () ↔ (server (.write index)).Confirms :=
  expect_done_iff

theorem said_acknowledge {index : Nat} (h : (server (.write index)).Confirms) :
    (acknowledge server handle data index).said = [acknowledgement handle data index] := by
  simp [acknowledge, receive, acknowledgement, h]

theorem harmless_acknowledge {index : Nat} :
    Says EditEvent.Harmless (acknowledge server handle data index) := by
  intro e he
  obtain rfl := List.mem_singleton.mp he
  rfl

theorem makeRoom_cases (server : EditServer) (handle : String) (data : FileData)
    (window : List Nat) :
    makeRoom server handle data window = pure window ∨
      ∃ first rest, window = first :: rest ∧
        makeRoom server handle data window =
          (acknowledge server handle data first >>= fun _ => pure rest) := by
  unfold makeRoom
  split
  · cases window with
    | nil =>
      rename_i hfull
      exact absurd hfull (by decide)
    | cons first rest => exact .inr ⟨first, rest, rfl, rfl⟩
  · exact .inl rfl

theorem drainWindow_eq_ok_iff :
    (drainWindow server handle data window).result = .ok () ↔
      ∀ index ∈ window, (server (.write index)).Confirms := by
  induction window with
  | nil => simp [drainWindow]
  | cons index window ih =>
    rw [drainWindow, result_bind_eq_ok_iff, exists_punit, acknowledge_eq_ok_iff, ih]
    simp

theorem drainWindow_acknowledged (h : (drainWindow server handle data window).result = .ok ()) :
    ∀ index ∈ window,
      acknowledgement handle data index ∈ (drainWindow server handle data window).said := by
  induction window with
  | nil => exact nofun
  | cons index window ih =>
    obtain ⟨_, hfirst, hrest⟩ := result_bind_eq_ok_iff.mp h
    intro i hi
    rw [drainWindow, said_bind_of_ok hfirst, List.mem_append]
    rcases List.mem_cons.mp hi with rfl | hi
    · left
      simp [said_acknowledge (acknowledge_eq_ok_iff.mp hfirst)]
    · exact .inr (ih hrest i hi)

theorem harmless_drainWindow : Says EditEvent.Harmless (drainWindow server handle data window) := by
  induction window with
  | nil => exact .pure _
  | cons index window ih => exact .bind harmless_acknowledge fun _ _ => ih

theorem writeChunks_eq_ok_iff :
    (writeChunks server handle data rest window).result = .ok () ↔
      ∀ index ∈ window ++ rest, (server (.write index)).Confirms := by
  induction rest generalizing window with
  | nil => rw [writeChunks, drainWindow_eq_ok_iff, List.append_nil]
  | cons index rest ih =>
    rw [writeChunks, result_bind_eq_ok_iff]
    obtain hroom | ⟨first, others, rfl, hroom⟩ := makeRoom_cases server handle data window
    · rw [hroom]
      simp [result_bind_eq_ok_iff, ih]
    · rw [hroom]
      simp [result_bind_eq_ok_iff, ih, acknowledge_eq_ok_iff]

theorem writeChunks_acknowledged (h : (writeChunks server handle data rest window).result = .ok ()) :
    ∀ index ∈ window ++ rest,
      acknowledgement handle data index ∈ (writeChunks server handle data rest window).said := by
  induction rest generalizing window with
  | nil =>
    rw [List.append_nil]
    exact drainWindow_acknowledged h
  | cons next rest ih =>
    rw [writeChunks] at h ⊢
    obtain ⟨window', hwindow, hrest⟩ := result_bind_eq_ok_iff.mp h
    rw [said_bind_of_ok hwindow]
    obtain ⟨_, -, hloop⟩ := result_bind_eq_ok_iff.mp hrest
    have hlater : ∀ index ∈ window' ++ next :: rest, acknowledgement handle data index ∈
        (writeChunks server handle data rest (window' ++ [next])).said := by
      simpa using ih hloop
    intro index hindex
    obtain hroom | ⟨first, others, rfl, hroom⟩ := makeRoom_cases server handle data window
    · rw [hroom] at hwindow
      cases hwindow
      exact List.mem_append_right _ (List.mem_cons_of_mem _ (hlater index hindex))
    · rw [hroom] at hwindow ⊢
      obtain ⟨_, hfirst, hothers⟩ := result_bind_eq_ok_iff.mp hwindow
      cases hothers
      rcases List.mem_cons.mp hindex with rfl | hindex
      · refine List.mem_append_left _ ?_
        rw [said_bind_of_ok hfirst, said_acknowledge (acknowledge_eq_ok_iff.mp hfirst)]
        exact List.mem_cons_self
      · exact List.mem_append_right _ (List.mem_cons_of_mem _ (hlater index hindex))

theorem harmless_writeChunks :
    Says EditEvent.Harmless (writeChunks server handle data rest window) := by
  induction rest generalizing window with
  | nil => exact harmless_drainWindow
  | cons index rest ih =>
    have hroom : Says EditEvent.Harmless (makeRoom server handle data window) := by
      obtain heq | ⟨first, others, -, heq⟩ := makeRoom_cases server handle data window
      · exact heq ▸ .pure _
      · exact heq ▸ .bind harmless_acknowledge fun _ _ => .pure _
    exact .bind hroom fun _ _ => .bind (.say rfl) fun _ _ => ih

theorem writeRemoteBytes_eq_ok_iff :
    (writeRemoteBytes server handle data).result = .ok () ↔
      ∀ index < chunkCount data, (server (.write index)).Confirms := by
  rw [writeRemoteBytes, writeChunks_eq_ok_iff, List.nil_append]
  simp only [List.mem_range]

/-- The chunks have every byte. -/
theorem writeRemoteBytes_acknowledged
    (h : (writeRemoteBytes server handle data).result = .ok ()) :
    Written handle data (writeRemoteBytes server handle data).said := by
  intro i byte hbyte
  obtain ⟨hlt, -⟩ := List.getElem?_eq_some_iff.mp hbyte
  have hindex : i / chunkBytes < chunkCount data := by
    unfold chunkCount chunkBytes
    omega
  refine ⟨i / chunkBytes * chunkBytes, chunkAt data (i / chunkBytes), Nat.div_mul_le_self _ _, ?_,
    writeChunks_acknowledged h (i / chunkBytes)
      (List.mem_append_right _ (List.mem_range.mpr hindex))⟩
  have hmod : i - i / chunkBytes * chunkBytes < chunkBytes := by
    unfold chunkBytes
    omega
  have hadd : i / chunkBytes * chunkBytes + (i - i / chunkBytes * chunkBytes) = i :=
    Nat.add_sub_cancel' (Nat.div_mul_le_self _ _)
  rw [chunkAt, List.getElem?_take_of_lt hmod, List.getElem?_drop, hadd, hbyte]

theorem harmless_writeRemoteBytes :
    Says EditEvent.Harmless (writeRemoteBytes server handle data) := by
  rw [writeRemoteBytes]
  exact harmless_writeChunks

/-- The end of `writeTemporary`. -/
def permissionUpdate (server : EditServer) (handle : String) (permissions : Option Nat) :
    EditProgram Unit :=
  match permissions with
  | some permissions =>
    ask server .setPermissions (.fsetstat handle (permissions &&& 0o777)) SftpPacket.done?
      (.text "SFTP edit permission update timed out")
      (.text "cannot preserve remote edit permissions")
  | none => pure ()

theorem writeTemporary_eq :
    writeTemporary server handle data permissions =
      writeRemoteBytes server handle data >>= fun _ => permissionUpdate server handle permissions :=
  rfl

theorem writeTemporary_eq_ok_iff :
    (writeTemporary server handle data permissions).result = .ok () ↔
      (∀ index < chunkCount data, (server (.write index)).Confirms) ∧
        (permissions.isSome → (server .setPermissions).Confirms) := by
  rw [writeTemporary_eq, result_bind_unit_iff, writeRemoteBytes_eq_ok_iff]
  cases permissions with
  | none => simp [permissionUpdate]
  | some mode => simp [permissionUpdate, ask, expect_done_iff]

theorem writeTemporary_written
    (h : (writeTemporary server handle data permissions).result = .ok ()) :
    Written handle data (writeTemporary server handle data permissions).said := by
  rw [writeTemporary_eq] at h ⊢
  have hwritten := (result_bind_unit_iff.mp h).1
  intro i byte hbyte
  obtain ⟨offset, chunk, hle, hchunk, hmem⟩ := writeRemoteBytes_acknowledged hwritten i byte hbyte
  exact ⟨offset, chunk, hle, hchunk, mem_said_bind.mpr (.inl hmem)⟩

theorem harmless_writeTemporary :
    Says EditEvent.Harmless (writeTemporary server handle data permissions) := by
  rw [writeTemporary_eq]
  refine .bind harmless_writeRemoteBytes fun _ _ => ?_
  cases permissions with
  | none => exact .pure _
  | some mode => exact says_ask rfl rfl

end Writes

/-! ## The parts of a run -/

section Runs

variable {server : EditServer} {edit : EditWrite} {posixRename : Option String}
  {uuid : List Char} {original current : FileAttributes} {temporary : RemotePath}
  {handle : String} {written closed : Except EditError Unit}

def temporaryPath (edit : EditWrite) (uuid : List Char) : Option RemotePath :=
  (rsplitOnce '/' edit.path.toList).map fun parts => parts.1 ++ "/.axssh-edit-".toList ++ uuid

/-- The checks before the temporary file let the run open it. -/
structure Opens (server : EditServer) (edit : EditWrite) (posixRename : Option String)
    (uuid : List Char) (original : FileAttributes) (temporary : RemotePath) : Prop where
  limit : validateEditLimit edit.maxBytes = .ok ()
  fits : edit.data.length ≤ edit.maxBytes
  path : validateRemotePath edit.path.toList = .ok ()
  inspected : server .inspect = .reply (.attrs original)
  expected : original.Matches edit.expectedSize edit.expectedModified
  atomic : posixRename = some "1"
  temporary : temporaryPath edit uuid = some temporary

/-- The target is as before when it is inspected again. -/
structure Unchanged (server : EditServer) (edit : EditWrite)
    (original current : FileAttributes) : Prop where
  path : validateRemotePath edit.path.toList = .ok ()
  rechecked : server .recheck = .reply (.attrs current)
  expected : current.Matches edit.expectedSize edit.expectedModified
  permissions : current.permissions = original.permissions

/-- The last inspection finds a file of the new size. -/
def Verified (server : EditServer) (edit : EditWrite) : Prop :=
  ∃ saved, server .verify = .reply (.attrs saved) ∧ validateAttributes saved = .ok () ∧
    saved.size = some edit.data.length

theorem FileAttributes.Matches.valid {attrs : FileAttributes} {size : Nat} {modified : Option Nat}
    (h : attrs.Matches size modified) : validateAttributes attrs = .ok () :=
  validateAttributes_eq_ok_iff.mpr ⟨h.link, h.regular, by simp [h.size]⟩

theorem prepareEdit_eq_ok_iff :
    (prepareEdit server edit posixRename uuid).result = .ok (original, temporary) ↔
      Opens server edit posixRename uuid original temporary := by
  unfold prepareEdit
  simp only [result_bind_eq_ok_iff, result_lift, result_pure, exists_punit,
    attributes_eq_ok_iff, requireFingerprint_eq_ok_iff, bailIf_eq_ok_iff]
  constructor
  · rintro ⟨hlimit, hfits, found, ⟨hpath, hserver, -⟩, hmatches, hatomic, name, hname, heq⟩
    cases heq
    refine ⟨hlimit, by simpa using hfits, hpath, hserver, hmatches, by simpa using hatomic, ?_⟩
    split at hname <;> cases hname
    rename_i parent name hsplit
    rw [temporaryPath, hsplit]
    rfl
  · intro h
    refine ⟨h.limit, by simpa using h.fits, original, ⟨h.path, h.inspected, h.expected.valid⟩,
      h.expected, by simp [h.atomic], temporary, ?_, rfl⟩
    obtain ⟨⟨parent, name⟩, hsplit, rfl⟩ := Option.map_eq_some_iff.mp h.temporary
    rw [hsplit]

theorem harmless_prepareEdit :
    Says EditEvent.Harmless (prepareEdit server edit posixRename uuid) := by
  refine .bind (.lift _) fun _ _ => .bind (.lift _) fun _ _ => ?_
  refine .bind harmless_attributes fun _ _ => .bind (.lift _) fun _ _ => ?_
  exact .bind (.lift _) fun _ _ => .bind (.lift _) fun _ _ => .pure _

theorem Opens.said_prepareEdit (h : Opens server edit posixRename uuid original temporary) :
    (prepareEdit server edit posixRename uuid).said = inspection edit.path.toList original := by
  have hattrs : (attributes server .inspect edit.path.toList).result = .ok original :=
    attributes_eq_ok_iff.mpr ⟨h.path, h.inspected, h.expected.valid⟩
  have hfits : bailIf (decide (edit.maxBytes < edit.data.length))
      s!"edited file exceeds the {edit.maxBytes}-byte edit limit" = .ok () := by
    simpa using h.fits
  have hatomic : bailIf (posixRename != some "1")
      "server does not support atomic SFTP overwrite; local edit is retained" = .ok () := by
    simp [h.atomic]
  unfold prepareEdit
  rw [lift_bind_of_ok h.limit, lift_bind_of_ok hfits, said_bind_of_ok hattrs,
    lift_bind_of_ok (requireFingerprint_eq_ok_iff.mpr h.expected), lift_bind_of_ok hatomic,
    said_attributes hattrs]
  obtain ⟨⟨parent, name⟩, hsplit, -⟩ := Option.map_eq_some_iff.mp h.temporary
  rw [hsplit]
  exact List.append_nil _

/-! ### Publishing -/

/-- The rename is asked for. -/
structure Ready (server : EditServer) (edit : EditWrite) (original current : FileAttributes)
    (written closed : Except EditError Unit) : Prop extends
    Unchanged server edit original current where
  written : written = .ok ()
  closed : closed = .ok ()

theorem ready_of_checks {value : Unit} (hdone : written.bind (fun _ => closed) = .ok value)
    (hattrs : (attributes server .recheck edit.path.toList).result = .ok current)
    (hmatches : requireFingerprint current edit.expectedSize edit.expectedModified = .ok ())
    (hpermissions : (current.permissions != original.permissions) = false) :
    Ready server edit original current written closed := by
  obtain ⟨hpath, hserver, -⟩ := attributes_eq_ok_iff.mp hattrs
  cases hwritten : written with
  | error e =>
    rw [hwritten] at hdone
    cases hdone
  | ok _ =>
    rw [hwritten] at hdone
    exact ⟨⟨hpath, hserver, requireFingerprint_eq_ok_iff.mp hmatches, by simpa using hpermissions⟩,
      rfl, hdone⟩

/-- The rename is not asked for: the target is not touched, and the save fails. -/
theorem publishEdit_unready (h : ∀ current, ¬Ready server edit original current written closed) :
    Says EditEvent.Harmless (publishEdit server edit original temporary written closed) ∧
      ∀ value, (publishEdit server edit original temporary written closed).result ≠ .ok value := by
  unfold publishEdit
  constructor
  · refine .bind (.lift _) fun _ hdone => .bind harmless_attributes fun current hattrs => ?_
    refine .bind (.lift _) fun _ hmatches => .bind (.lift _) fun _ hpermissions => ?_
    exact absurd (ready_of_checks hdone hattrs hmatches (bailIf_eq_ok_iff.mp hpermissions))
      (h current)
  · intro value hvalue
    simp only [result_bind_eq_ok_iff, result_lift, exists_punit] at hvalue
    obtain ⟨hdone, current, hattrs, hmatches, hpermissions, -⟩ := hvalue
    exact h current (ready_of_checks hdone hattrs hmatches (bailIf_eq_ok_iff.mp hpermissions))

theorem said_renameEdit (server : EditServer) (edit : EditWrite) (temporary : RemotePath) :
    ∃ rest, (∀ e ∈ rest, e.Harmless) ∧ (renameEdit server edit temporary).said =
      .sent (.posixRename temporary edit.path.toList) ::
        .answered (.posixRename temporary edit.path.toList) (server .publish) :: rest := by
  unfold renameEdit
  refine said_ask_bind fun packet => .bind (.lift _) fun _ _ => ?_
  exact .bind harmless_attributes fun _ _ => .bind (.lift _) fun _ _ => .pure _

theorem renameEdit_succeeds_iff (hpath : validateRemotePath edit.path.toList = .ok ()) :
    (∃ value, (renameEdit server edit temporary).result = .ok value) ↔
      (server .publish).Confirms ∧ Verified server edit := by
  simp only [renameEdit, result_bind_eq_ok_iff, result_lift, result_pure, exists_punit,
    bailIf_eq_ok_iff, ask, expect_eq_ok_iff, attributes_eq_ok_iff]
  constructor
  · rintro ⟨value, packet, ⟨p, hserver, hp⟩, hok, saved, ⟨-, hverify, hvalid⟩, hsize, -⟩
    cases hp
    obtain rfl : packet = .status .ok := by simpa using hok
    exact ⟨hserver, saved, hverify, hvalid, by simpa using hsize⟩
  · rintro ⟨hserver, saved, hverify, hvalid, hsize⟩
    exact ⟨.updated edit.path.toList edit.data.length saved.mtime, .status .ok,
      ⟨_, hserver, rfl⟩, rfl, saved, ⟨hpath, hverify, hvalid⟩, by simp [hsize], rfl⟩

/-- The rename is asked for after the second inspection; the save succeeds when the server confirms
    it and the last inspection finds the new size. -/
theorem publishEdit_ready (h : Ready server edit original current written closed) :
    ∃ rest, (∀ e ∈ rest, e.Harmless) ∧
      (publishEdit server edit original temporary written closed).said =
        inspection edit.path.toList current ++
          .sent (.posixRename temporary edit.path.toList) ::
          .answered (.posixRename temporary edit.path.toList) (server .publish) :: rest ∧
      ((∃ value, (publishEdit server edit original temporary written closed).result = .ok value) ↔
        (server .publish).Confirms ∧ Verified server edit) := by
  have hdone : written.bind (fun _ => closed) = .ok () := by
    rw [h.written, h.closed]
    rfl
  have hattrs : (attributes server .recheck edit.path.toList).result = .ok current :=
    attributes_eq_ok_iff.mpr ⟨h.path, h.rechecked, h.expected.valid⟩
  have hpermissions : bailIf (current.permissions != original.permissions)
      "remote permissions changed before edit publication" = .ok () := by
    simp [h.permissions]
  obtain ⟨rest, hrest, hsaid⟩ := said_renameEdit server edit temporary
  unfold publishEdit
  rw [lift_bind_of_ok hdone, bind_of_ok hattrs, said_attributes hattrs,
    lift_bind_of_ok (requireFingerprint_eq_ok_iff.mpr h.expected), lift_bind_of_ok hpermissions]
  exact ⟨rest, hrest, by rw [hsaid], renameEdit_succeeds_iff h.path⟩

/-! ### A whole run -/

/-- What a run says with the temporary file open. -/
def opening (temporary : RemotePath) (answer : SftpAnswer) : List EditEvent :=
  [.sent (.openNew temporary), .answered (.openNew temporary) answer]

def removal (server : EditServer) (temporary : RemotePath) : List EditEvent :=
  [.sent (.remove temporary), .answered (.remove temporary) (server .cleanup)]

/-- The results that `publishEdit` starts from. -/
def writtenResult (server : EditServer) (edit : EditWrite) (original : FileAttributes)
    (handle : String) : Except EditError Unit :=
  (writeTemporary server handle edit.data original.permissions).result

def closedResult (server : EditServer) (handle : String) : Except EditError Unit :=
  (closeFile server handle "SFTP edit temporary close timed out"
    "cannot close temporary remote edit file").result

theorem finishEdit_eq :
    finishEdit server edit original temporary handle =
      let published := publishEdit server edit original temporary
        (writtenResult server edit original handle) (closedResult server handle)
      ⟨published.result,
        (writeTemporary server handle edit.data original.permissions).said ++
          ([.sent (.close handle), .answered (.close handle) (server .close)] ++
            (published.said ++
              if published.result.isOk then [] else removal server temporary))⟩ := by
  unfold finishEdit
  rw [bind_of_ok result_attempt, bind_of_ok result_attempt, bind_of_ok result_attempt]
  dsimp only [writtenResult, closedResult]
  split
  · rfl
  · rfl

theorem writeEditFile_unopened
    (h : ∀ original temporary, ¬Opens server edit posixRename uuid original temporary) :
    Says EditEvent.Harmless (writeEditFile server edit posixRename uuid) ∧
      ∀ value, (writeEditFile server edit posixRename uuid).result ≠ .ok value := by
  unfold writeEditFile
  constructor
  · refine .bind harmless_prepareEdit fun (original, temporary) hprepare => ?_
    exact absurd (prepareEdit_eq_ok_iff.mp hprepare) (h original temporary)
  · intro value hvalue
    obtain ⟨⟨original, temporary⟩, hprepare, -⟩ := result_bind_eq_ok_iff.mp hvalue
    exact h original temporary (prepareEdit_eq_ok_iff.mp hprepare)

theorem writeEditFile_unanswered
    (h : Opens server edit posixRename uuid original temporary)
    (hopen : ∀ handle, server .openFile ≠ .reply (.handle handle)) :
    (writeEditFile server edit posixRename uuid).said =
        inspection edit.path.toList original ++ opening temporary (server .openFile) ∧
      ∀ value, (writeEditFile server edit posixRename uuid).result ≠ .ok value := by
  have hprepare := prepareEdit_eq_ok_iff.mpr h
  unfold writeEditFile
  rw [bind_of_ok hprepare, h.said_prepareEdit]
  cases hanswer : (server .openFile).expect SftpPacket.handle?
      (.text "SFTP edit temporary open timed out")
      (.text "cannot create temporary remote edit file") with
  | ok handle => exact absurd (expect_handle_iff.mp hanswer) (hopen handle)
  | error e =>
    dsimp only
    rw [bind_of_error hanswer]
    exact ⟨rfl, nofun⟩

theorem writeEditFile_opened (h : Opens server edit posixRename uuid original temporary)
    (hopen : server .openFile = .reply (.handle handle)) :
    writeEditFile server edit posixRename uuid =
      ⟨(finishEdit server edit original temporary handle).result,
        inspection edit.path.toList original ++ (opening temporary (.reply (.handle handle)) ++
          (finishEdit server edit original temporary handle).said)⟩ := by
  have hprepare := prepareEdit_eq_ok_iff.mpr h
  unfold writeEditFile
  rw [bind_of_ok hprepare, h.said_prepareEdit]
  dsimp only
  rw [ask_bind_of_ok (expect_handle_iff.mpr hopen), hopen]
  rw [opening, List.cons_append, List.cons_append, List.nil_append]

end Runs

end SftpEdit

end AxSsh
