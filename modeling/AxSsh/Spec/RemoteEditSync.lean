import AxSsh.ForStd.Transition
import AxSsh.Native.RemoteEdit

/-!
# Remote edits stay synchronised

`Linked` ties an edit to the worker: the write it waits for is the one in flight, which carries the
version that was acknowledged last, and `uploaded` is the stamp of that version.  `Settled` is what
a pass of the watcher establishes: nothing is left to upload, up to the write it waits for.

The worker answers every operation once, so a failure under the identifier of the edit itself is of
its download, and none comes after the copy was accepted.

## Key results
- `step_linked`: every step keeps an edit and the worker together
- `finish_settled`, `step_settled`: what a pass establishes, and what keeps it
- `remote_edit_synchronised`: both, over every run
-/

namespace AxSsh

/-- The fields that the worker and an edit agree on are the same. -/
structure RemoteEdit.SameLink (edit edit' : RemoteEdit) : Prop where
  localPath : edit'.localPath = edit.localPath
  path : edit'.path = edit.path
  pending : edit'.pending = edit.pending
  size : edit'.expectedSize = edit.expectedSize
  modified : edit'.expectedModified = edit.expectedModified
  uploaded : edit'.uploaded = edit.uploaded

/-- Identifiers are distinct, and those of the writes in flight are of no edit but `id`. -/
structure RemoteEdits.Apart (id : Uuid) (inFlight : List EditWrite) (edits : RemoteEdits) : Prop where
  nodup : (edits.files.map (·.id)).Nodup
  foreign : ∀ other ∈ edits.files, other.id ≠ id → ∀ write ∈ inFlight,
    other.id ≠ write.operationId ∧ other.awaits write.operationId = false

namespace EditState

variable {φ : Type}

/-- An edit waits for the write in flight, and has the version acknowledged last. -/
structure LinkedEdit (stamp : FileData → ContentStamp) (inFlight : List EditWrite)
    (remote : EditVersion) (edit : RemoteEdit) : Prop where
  localPath : edit.localPath.isSome
  path : ∀ write ∈ inFlight, write.path = edit.path
  pending : edit.pending = inFlight.head?.map fun write => (write.operationId, stamp write.data)
  size : edit.expectedSize = remote.size
  modified : edit.expectedModified = remote.modified
  uploaded : edit.uploaded = stamp remote.data

structure Linked (stamp : FileData → ContentStamp) (s : EditState φ) : Prop where
  apart : s.edits.Apart s.id s.inFlight
  single : s.inFlight.length ≤ 1
  carries : ∀ write ∈ s.inFlight,
    write.expectedSize = s.remote.size ∧ write.expectedModified = s.remote.modified
  edit : ∀ edit, s.edits.find s.id = some edit → LinkedEdit stamp s.inFlight s.remote edit
  reading : s.watcher.reading.isSome → ∀ edit, s.edits.find s.id = some edit → edit.pending = none

/-- Nothing is left to upload, up to the pending write. -/
structure Settled (stamp : FileData → ContentStamp) (s : EditState φ) : Prop where
  pending : ∀ edit, s.edits.find s.id = some edit → ∀ operationId uploading,
    edit.pending = some (operationId, uploading) → uploading = stamp s.copy.1
  uploaded : ∀ edit, s.edits.find s.id = some edit → s.connected → s.edits.autoUpload →
    edit.failed = false → edit.pending = none → s.copy.1.length ≤ s.maxBytes →
    edit.uploaded = stamp s.copy.1
  reading : ∀ reading data fingerprint, s.watcher.reading = some reading →
    reading.result = some (.ok (some (data, fingerprint))) → data = s.copy.1

/-- An identifier that `Uuid::new_v4` can draw. -/
def FreshId (s : EditState φ) (newId : Uuid) : Prop :=
  newId ≠ s.id ∧ (∀ edit ∈ s.edits.files, edit.id ≠ newId ∧ edit.awaits newId = false) ∧
    ∀ write ∈ s.inFlight, write.operationId ≠ newId

/-- The worker answers a write with its path. -/
def Echoes (write : EditWrite) : SftpWriteEvent → Prop
  | .updated operationId path _ _ => operationId = write.operationId → path = write.path
  | _ => True

/-- New identifiers are new, other watchers are of other edits, and no failure is of the download
    that ended. -/
def Admissible (s : EditState φ) : EditLabel φ → Prop
  | .finish operationId _ => s.FreshId operationId
  | .open newId _ => s.FreshId newId
  | .accept id _ _ _ _ => id ≠ s.id
  | .saveOther id _ operationId _ => id ≠ s.id ∧ s.FreshId operationId
  | .copyErrorOther id _ => id ≠ s.id
  | .event event =>
    (∀ write ∈ s.inFlight, Echoes write event) ∧ ∀ message, event ≠ .failed s.id message
  | _ => True

/-- What can leave something to upload: another content, auto-upload switched on, a failure
    cleared, or a larger limit. -/
def Disturbs (s : EditState φ) : EditLabel φ → Prop
  | .change data _ => data ≠ s.copy.1
  | .setAutoUpload enabled => enabled ∧ s.edits.autoUpload = false
  | .requestUpload => s.edits.current = some s.id ∧
    ∃ edit, s.edits.find s.id = some edit ∧ edit.failed
  | .setMaxBytes maxBytes => s.maxBytes < maxBytes
  | _ => False

end EditState

/-! ## One edit -/

namespace RemoteEdit

theorem SameLink.refl (edit : RemoteEdit) : edit.SameLink edit := ⟨rfl, rfl, rfl, rfl, rfl, rfl⟩

theorem sameLink_requestUpload (edit : RemoteEdit) : edit.SameLink edit.requestUpload :=
  ⟨rfl, rfl, rfl, rfl, rfl, rfl⟩

theorem sameLink_copyError (message : String) (edit : RemoteEdit) :
    edit.SameLink (edit.copyError message) :=
  ⟨rfl, rfl, rfl, rfl, rfl, rfl⟩

theorem sameLink_opened (result : Except String Unit) (edit : RemoteEdit) :
    edit.SameLink (edit.opened result) ∧ (edit.opened result).id = edit.id ∧
      (edit.opened result).failed = edit.failed := by
  cases result with
  | ok _ => exact ⟨⟨rfl, rfl, rfl, rfl, rfl, rfl⟩, rfl, rfl⟩
  | error _ => exact ⟨⟨rfl, rfl, rfl, rfl, rfl, rfl⟩, rfl, rfl⟩

theorem SameLink.awaits {edit edit' : RemoteEdit} (h : edit.SameLink edit') (operationId : Uuid) :
    edit'.awaits operationId = edit.awaits operationId := by
  rw [RemoteEdit.awaits, RemoteEdit.awaits, h.pending]

/-- A saved copy is queued, or needs no upload now. -/
theorem queueEditSave_cases (edit : RemoteEdit) (autoUpload : Bool) (maxBytes : Nat)
    (data : FileData) (stamp : ContentStamp) (operationId : Uuid) (queued : Except String Unit) :
    ∃ edit' sent, edit.queueEditSave autoUpload maxBytes data stamp operationId queued =
        (edit', sent) ∧ edit'.id = edit.id ∧
      ((sent = none ∧ edit.SameLink edit' ∧
          (edit.pending = none → edit'.failed = false → autoUpload = true →
            data.length ≤ maxBytes → edit.uploaded = stamp)) ∨
        (sent = some (edit.write operationId maxBytes data) ∧ edit.pending = none ∧
          edit'.pending = some (operationId, stamp) ∧
          edit'.localPath = edit.localPath ∧ edit'.path = edit.path ∧
          edit'.expectedSize = edit.expectedSize ∧
          edit'.expectedModified = edit.expectedModified ∧ edit'.uploaded = edit.uploaded)) := by
  unfold queueEditSave
  dsimp only
  -- too large, unchanged, waiting or switched off; else the write is queued
  split
  · rename_i hlarge
    refine ⟨_, _, rfl, rfl, .inl ⟨rfl, ⟨rfl, rfl, rfl, rfl, rfl, rfl⟩, fun _ _ _ hlen => ?_⟩⟩
    omega
  split
  · rename_i hsame
    exact ⟨_, _, rfl, rfl, .inl ⟨rfl, ⟨rfl, rfl, rfl, rfl, rfl, rfl⟩, fun _ _ _ _ => hsame.symm⟩⟩
  split
  · rename_i hwaits
    refine ⟨_, _, rfl, rfl, .inl ⟨rfl, ⟨rfl, rfl, rfl, rfl, rfl, rfl⟩, fun hnone hok hauto _ => ?_⟩⟩
    dsimp only at hok
    simp [hnone, hok, hauto] at hwaits
  · rename_i hidle
    cases queued with
    | ok _ =>
      have hnone : edit.pending = none := by
        cases hpending : edit.pending with
        | none => rfl
        | some pending => simp [hpending] at hidle
      exact ⟨_, _, rfl, rfl, .inr ⟨rfl, hnone, rfl, rfl, rfl, rfl, rfl, rfl⟩⟩
    | error _ =>
      exact ⟨_, _, rfl, rfl, .inl ⟨rfl, ⟨rfl, rfl, rfl, rfl, rfl, rfl⟩, fun _ hok => nomatch hok⟩⟩

end RemoteEdit

/-! ## The edits of a tab -/

namespace RemoteEdits

variable {id : Uuid} {inFlight : List EditWrite} {edits : RemoteEdits}

theorem find_modify {f : RemoteEdit → RemoteEdit} (hf : ∀ edit, (f edit).id = edit.id)
    (target id : Uuid) :
    (edits.modify target f).find id =
      if id = target then (edits.find target).map f else edits.find id :=
  List.findKey_modifyKey hf target id edits.files

/-- Fewer writes in flight. -/
theorem Apart.mono {inFlight' : List EditWrite} (h : edits.Apart id inFlight)
    (hsub : ∀ write ∈ inFlight', write ∈ inFlight) : edits.Apart id inFlight' :=
  ⟨h.nodup, fun other hother hid write hwrite => h.foreign other hother hid write (hsub write hwrite)⟩

theorem Apart.congr {edits' : RemoteEdits} (h : edits.Apart id inFlight)
    (hfiles : edits'.files = edits.files) : edits'.Apart id inFlight := by
  obtain ⟨hnodup, hforeign⟩ := h
  exact ⟨hfiles ▸ hnodup, hfiles ▸ hforeign⟩

theorem Apart.modify {f : RemoteEdit → RemoteEdit} (h : edits.Apart id inFlight) (target : Uuid)
    (hf : ∀ edit, (f edit).id = edit.id)
    (hawaits : ∀ edit, edit.id ≠ id → ∀ write ∈ inFlight, edit.awaits write.operationId = false →
      (f edit).awaits write.operationId = false) :
    (edits.modify target f).Apart id inFlight := by
  refine ⟨?_, fun other hother hid write hwrite => ?_⟩
  · have hkeys : (edits.files.modifyKey RemoteEdit.id target f).map RemoteEdit.id =
        edits.files.map RemoteEdit.id := List.map_key_modifyKey hf target edits.files
    rw [RemoteEdits.modify, hkeys]
    exact h.nodup
  · rcases List.mem_modifyKey hother with hold | ⟨before, hbefore, rfl⟩
    · exact h.foreign other hold hid write hwrite
    · rw [hf] at hid ⊢
      obtain ⟨hne, hfalse⟩ := h.foreign before hbefore hid write hwrite
      exact ⟨hne, hawaits before hid write hwrite hfalse⟩

theorem Apart.filter (h : edits.Apart id inFlight) (p : RemoteEdit → Bool) (current : Option Uuid) :
    Apart id inFlight { edits with files := edits.files.filter p, current } :=
  ⟨h.nodup.sublist (List.filter_sublist.map _),
    fun other hother => h.foreign other (List.mem_filter.mp hother).1⟩

theorem Apart.drop (h : edits.Apart id inFlight) (edit : RemoteEdit) :
    (edits.drop edit).Apart id inFlight :=
  ⟨h.nodup.sublist ((List.eraseP_sublist).map _),
    fun other hother => h.foreign other (List.mem_of_mem_eraseP hother)⟩

theorem Apart.stopCurrent (h : edits.Apart id inFlight) : edits.stopCurrent.Apart id inFlight := by
  unfold RemoteEdits.stopCurrent
  dsimp only
  split
  · exact h.filter _ _
  · exact h.congr rfl

theorem find_stopCurrent {edit : RemoteEdit} (hfind : edits.stopCurrent.find id = some edit) :
    edits.find id = some edit := by
  unfold RemoteEdits.stopCurrent at hfind
  dsimp only at hfind
  split at hfind
  · rename_i stopped hcurrent
    simp only [RemoteEdits.find] at hfind ⊢
    rw [List.findKey_filter_ne] at hfind
    split at hfind
    · cases hfind
    · exact hfind
  · exact hfind

theorem open_spec {edits' : RemoteEdits} {newId : Uuid} {path : String} {new : Bool}
    (h : edits.Apart id inFlight) (hopen : edits.open newId path = .ok (edits', new))
    (hid : newId ≠ id) (hids : ∀ edit ∈ edits.files, edit.id ≠ newId)
    (hwrites : ∀ write ∈ inFlight, write.operationId ≠ newId) :
    edits'.Apart id inFlight ∧ edits'.find id = edits.find id ∧
      edits'.autoUpload = edits.autoUpload := by
  unfold RemoteEdits.open at hopen
  split at hopen
  · cases hopen
    exact ⟨h.congr rfl, rfl, rfl⟩
  · split at hopen
    · exact nomatch hopen
    · cases hopen
      refine ⟨⟨?_, fun other hother hne write hwrite => ?_⟩, ?_, rfl⟩
      · dsimp only
        rw [List.map_append, List.nodup_append]
        refine ⟨h.nodup, List.nodup_singleton newId, fun a ha b hb => ?_⟩
        obtain ⟨edit, hedit, rfl⟩ := List.mem_map.mp ha
        obtain rfl := List.mem_singleton.mp hb
        exact hids edit hedit
      · rcases List.mem_append.mp hother with hold | hnew
        · exact h.foreign other hold hne write hwrite
        · obtain rfl := List.mem_singleton.mp hnew
          exact ⟨fun heq => hwrites write hwrite heq.symm, rfl⟩
      · show List.findKey RemoteEdit.id id (edits.files ++ [{ id := newId, path }]) = _
        rw [List.findKey_append_singleton, if_neg hid, Option.or_none]
        rfl

/-- A request changes the current edit only. -/
theorem requestUpload_spec {edits' : RemoteEdits} (h : edits.requestUpload = .ok edits') :
    ∃ target, edits.current = some target ∧ edits' = edits.modify target .requestUpload := by
  unfold RemoteEdits.requestUpload at h
  split at h
  · exact nomatch h
  rename_i target hcurrent
  split at h
  · exact nomatch h
  split at h
  · exact nomatch h
  · cases h
    exact ⟨target, hcurrent, rfl⟩

/-- The edit that was found is replaced. -/
theorem replace_spec (id : Uuid) {target : Uuid} {edit edit' : RemoteEdit} (hfind : edits.find target = some edit)
    (hid : edit'.id = edit.id) :
    (edits.modify target fun _ => edit').files.map (·.id) = edits.files.map (·.id) ∧
      (edits.modify target fun _ => edit').find id =
        if id = target then some edit' else edits.find id := by
  have hkey : edit.id = target := List.key_of_findKey hfind
  constructor
  · obtain ⟨l₁, l₂, hfiles, hmod⟩ := List.exists_modifyKey hfind fun _ => edit'
    rw [RemoteEdits.modify, hmod, hfiles]
    simp [hid]
  · have hlookup : (edits.files.modifyKey RemoteEdit.id target fun _ => edit').findKey
        RemoteEdit.id id = _ :=
      List.findKey_modifyKey_of_key (fun _ _ => hid.trans hkey) id edits.files
    rw [RemoteEdits.find, RemoteEdits.modify, hlookup]
    simp only [RemoteEdits.find] at hfind ⊢
    rw [hfind, Option.map_some]

theorem Apart.replace {target : Uuid} {edit edit' : RemoteEdit} (h : edits.Apart id inFlight)
    (hfind : edits.find target = some edit) (hid : edit'.id = edit.id)
    (hforeign : target ≠ id → ∀ write ∈ inFlight, edit'.awaits write.operationId = false) :
    (edits.modify target fun _ => edit').Apart id inFlight := by
  refine ⟨(replace_spec id hfind hid).1 ▸ h.nodup, fun other hother hne write hwrite => ?_⟩
  rcases List.mem_modifyKey hother with hold | ⟨_, _, rfl⟩
  · exact h.foreign other hold hne write hwrite
  · have hkey : edit.id = target := List.key_of_findKey hfind
    rw [hid] at hne ⊢
    exact ⟨(h.foreign edit (List.mem_of_findKey hfind) hne write hwrite).1,
      hforeign (hkey ▸ hne) write hwrite⟩

/-- The pass of another watcher does not touch the edit. -/
theorem queueSavedCopy_other (h : edits.Apart id inFlight) {other : Uuid} (hother : other ≠ id)
    (maxBytes : Nat) (data : FileData) (stamp : ContentStamp) {operationId : Uuid}
    (hfresh : ∀ write ∈ inFlight, write.operationId ≠ operationId)
    (queued : Except String Unit) :
    (edits.queueSavedCopy other maxBytes data stamp operationId queued).1.Apart id inFlight ∧
      (edits.queueSavedCopy other maxBytes data stamp operationId queued).1.find id =
        edits.find id ∧
      (edits.queueSavedCopy other maxBytes data stamp operationId queued).1.autoUpload =
        edits.autoUpload := by
  unfold queueSavedCopy
  split
  · exact ⟨h, rfl, rfl⟩
  · rename_i edit hfind
    obtain ⟨edit', sent, hqueue, hid, hcases⟩ :=
      edit.queueEditSave_cases edits.autoUpload maxBytes data stamp operationId queued
    rw [hqueue]
    refine ⟨h.replace hfind hid fun hne write hwrite => ?_, ?_, rfl⟩
    · have hkey : edit.id = other := List.key_of_findKey hfind
      rcases hcases with ⟨-, hsame, -⟩ | ⟨-, -, hpending, -⟩
      · rw [hsame.awaits]
        exact (h.foreign edit (List.mem_of_findKey hfind) (hkey ▸ hne) write hwrite).2
      · simp [RemoteEdit.awaits, hpending, Ne.symm (hfresh write hwrite)]
    · exact (replace_spec id hfind hid).2.trans (if_neg (Ne.symm hother))

/-! ## Events -/

theorem find_drop (h : edits.Apart id inFlight) {edit : RemoteEdit} (hne : edit.id ≠ id) :
    (edits.drop edit).find id = edits.find id := by
  have herase : edits.files.eraseP (·.id == edit.id) = edits.files.filter (·.id ≠ edit.id) := by
    rw [List.eraseP_eq_filter h.nodup fun x hx => beq_iff_eq.mp hx]
    refine List.filter_congr fun x _ => ?_
    by_cases hx : x.id = edit.id <;> simp [hx]
  simp only [RemoteEdits.find, RemoteEdits.drop, herase]
  rw [List.findKey_filter_ne, if_neg (Ne.symm hne)]

/-- An event about another edit, or about none. -/
theorem find_applyResult_of_ne (h : edits.Apart id inFlight) (event : SftpWriteEvent)
    (hother : ∀ edit, edits.subject? event = some edit → edit.id ≠ id) :
    (edits.applyResult event).find id = edits.find id := by
  unfold applyResult
  split
  · rename_i edit _ _ _ _ hsubject
    rw [find_modify (f := .updated _ _) fun _ => rfl, if_neg (Ne.symm (hother edit hsubject))]
  · rename_i edit _ _ hsubject
    split
    · exact find_drop h (hother edit hsubject)
    · rw [find_modify (f := .fail _) fun _ => rfl, if_neg (Ne.symm (hother edit hsubject))]
  · rfl

theorem Apart.applyResult (h : edits.Apart id inFlight) (event : SftpWriteEvent) :
    (edits.applyResult event).Apart id inFlight := by
  unfold RemoteEdits.applyResult
  split
  · exact h.modify _ (fun _ => rfl) fun _ _ _ _ _ => rfl
  · split
    · exact h.drop _
    · exact h.modify _ (fun _ => rfl) fun _ _ _ _ _ => rfl
  · exact h

theorem autoUpload_applyResult (event : SftpWriteEvent) :
    (edits.applyResult event).autoUpload = edits.autoUpload := by
  unfold RemoteEdits.applyResult
  split
  · rfl
  · split <;> rfl
  · rfl

theorem applyResult_none {event : SftpWriteEvent} (h : edits.subject? event = none) :
    edits.applyResult event = edits := by
  unfold RemoteEdits.applyResult
  simp [h]

theorem applyResult_updated {operationId : Uuid} {path : String} {size : Nat} {modified : Option Nat}
    {edit : RemoteEdit} (h : edits.subject? (.updated operationId path size modified) = some edit) :
    edits.applyResult (.updated operationId path size modified) =
      edits.modify edit.id (.updated size modified) := by
  unfold RemoteEdits.applyResult
  rw [h]

theorem applyResult_failed {operationId : Uuid} {message : String} {edit : RemoteEdit}
    (h : edits.subject? (.failed operationId message) = some edit)
    (hlocal : edit.localPath.isNone = false) :
    edits.applyResult (.failed operationId message) = edits.modify edit.id (.fail message) := by
  unfold RemoteEdits.applyResult
  simp [h, hlocal]

/-- What the subject of an event has to do with it. -/
theorem of_subject {event : SftpWriteEvent} {edit : RemoteEdit}
    (h : edits.subject? event = some edit) :
    edit ∈ edits.files ∧ (edit.awaits event.operationId = true ∨
      ∃ message, event = .failed edit.id message) := by
  unfold subject? at h
  split at h
  · have hfound := List.find?_some h
    rw [Bool.and_eq_true] at hfound
    exact ⟨List.mem_of_find?_eq_some h, .inl hfound.2⟩
  · have hfound := List.find?_some h
    rw [Bool.or_eq_true, beq_iff_eq] at hfound
    refine ⟨List.mem_of_find?_eq_some h, hfound.symm.imp_right fun heq => ?_⟩
    exact ⟨_, by rw [heq]⟩
  · exact nomatch h

end RemoteEdits

/-! ## Steps -/

namespace EditState

variable {φ : Type} {stamp : FileData → ContentStamp} {s : EditState φ}

theorem LinkedEdit.congr {inFlight : List EditWrite} {remote : EditVersion} {edit edit' : RemoteEdit}
    (h : LinkedEdit stamp inFlight remote edit) (hsame : edit.SameLink edit') :
    LinkedEdit stamp inFlight remote edit' where
  localPath := by rw [hsame.localPath]; exact h.localPath
  path := by rw [hsame.path]; exact h.path
  pending := by rw [hsame.pending]; exact h.pending
  size := by rw [hsame.size]; exact h.size
  modified := by rw [hsame.modified]; exact h.modified
  uploaded := by rw [hsame.uploaded]; exact h.uploaded

/-- A change of the edits, and of the watcher, that leaves the link as it is. -/
theorem Linked.of_edits (h : Linked stamp s) {s' : EditState φ} (hid : s'.id = s.id)
    (hflight : s'.inFlight = s.inFlight) (hremote : s'.remote = s.remote)
    (hreading : s'.watcher.reading.isSome → s.watcher.reading.isSome)
    (hapart : s'.edits.Apart s.id s.inFlight)
    (hfind : ∀ edit', s'.edits.find s.id = some edit' →
      ∃ edit, s.edits.find s.id = some edit ∧ edit.SameLink edit') : Linked stamp s' where
  apart := by rw [hid, hflight]; exact hapart
  single := by rw [hflight]; exact h.single
  carries := by rw [hflight, hremote]; exact h.carries
  edit edit' hedit' := by
    rw [hid] at hedit'
    obtain ⟨edit, hedit, hsame⟩ := hfind edit' hedit'
    rw [hflight, hremote]
    exact (h.edit edit hedit).congr hsame
  reading hsome edit' hedit' := by
    rw [hid] at hedit'
    obtain ⟨edit, hedit, hsame⟩ := hfind edit' hedit'
    rw [hsame.pending]
    exact h.reading (hreading hsome) edit hedit

/-- A change of one edit, which keeps the link if it is this one. -/
theorem Linked.modify (h : Linked stamp s) {s' : EditState φ} {target : Uuid}
    {f : RemoteEdit → RemoteEdit} (hedits : s'.edits = s.edits.modify target f)
    (hid : s'.id = s.id) (hflight : s'.inFlight = s.inFlight) (hremote : s'.remote = s.remote)
    (hreading : s'.watcher.reading.isSome → s.watcher.reading.isSome)
    (hkey : ∀ edit, (f edit).id = edit.id) (hpending : ∀ edit, (f edit).pending = edit.pending)
    (hsame : target = s.id → ∀ edit : RemoteEdit, edit.SameLink (f edit)) : Linked stamp s' := by
  refine h.of_edits hid hflight hremote hreading ?_ fun edit' hedit' => ?_
  · rw [hedits]
    refine h.apart.modify target hkey fun edit _ write _ hfalse => ?_
    rw [RemoteEdit.awaits, hpending]
    exact hfalse
  · rw [hedits, RemoteEdits.find_modify hkey] at hedit'
    split at hedit'
    · rename_i htarget
      obtain ⟨edit, hedit, rfl⟩ := Option.map_eq_some_iff.mp hedit'
      exact ⟨edit, htarget ▸ hedit, hsame htarget.symm edit⟩
    · exact ⟨edit', hedit', .refl edit'⟩

/-- A turn of the loop begins to read only while no write is pending. -/
theorem reading_tick (now : Nat) (signalled : Bool) (found : Option (RemoteEdit × Bool × Nat))
    (watcher : EditWatcher φ) :
    (watcher.tick now signalled found).reading = watcher.reading ∨
      ∃ reading edit rest, (watcher.tick now signalled found).reading = some reading ∧
        reading.result = none ∧ found = some (edit, rest) ∧ edit.pending = none := by
  unfold EditWatcher.tick
  split
  · exact .inl rfl
  rename_i edit autoUpload maxBytes
  have hkept : (if signalled then { watcher with dirtyAt := some now } else watcher).reading =
      watcher.reading := by
    split <;> rfl
  dsimp only
  generalize (if signalled then { watcher with dirtyAt := some now } else watcher) = next at hkept ⊢
  split
  · exact .inl hkept
  split
  · exact .inl hkept
  · rename_i hpending
    exact .inr ⟨_, edit, _, rfl, rfl, rfl, by simpa using hpending⟩

theorem linked_tick [DecidableEq φ] (h : Linked stamp s) (now : Nat) (signalled : Bool) :
    Linked stamp (s.step stamp (.tick now signalled)) := by
  simp only [step]
  split
  · refine { h with reading := fun hsome edit hedit => ?_ }
    obtain hsame | ⟨-, found, rest, -, -, hfound, hnone⟩ :=
      reading_tick now signalled s.connectedEdit s.watcher
    · exact h.reading (hsame ▸ hsome) edit hedit
    · unfold connectedEdit at hfound
      split at hfound
      · obtain ⟨edit', hedit', heq⟩ := Option.map_eq_some_iff.mp hfound
        obtain rfl := Option.some.inj (hedit.symm.trans hedit')
        rw [← hnone, ← (Prod.mk.inj heq).1]
      · exact nomatch hfound
  · exact h

theorem linked_read [DecidableEq φ] (h : Linked stamp s) (failure : Option String) :
    Linked stamp (s.step stamp (.read failure)) := by
  refine h.of_edits rfl rfl rfl ?_ h.apart fun edit hedit => ⟨edit, hedit, .refl edit⟩
  simp only [step, EditWatcher.read]
  split
  · rename_i hreading
    exact fun _ => by rw [hreading]; rfl
  · exact fun hsome => hsome

/-- At most one write is in flight. -/
theorem Linked.inFlight_cases (h : Linked stamp s) :
    s.inFlight = [] ∨ ∃ write, s.inFlight = [write] := by
  cases hflight : s.inFlight with
  | nil => exact .inl rfl
  | cons write rest =>
    cases rest with
    | nil => exact .inr ⟨write, rfl⟩
    | cons _ _ =>
      have hsingle := h.single
      rw [hflight] at hsingle
      exact absurd hsingle (by simp)

/-- Queueing what a pass has read. -/
theorem linked_queue (h : Linked stamp s) {operationId : Uuid} (hfresh : s.FreshId operationId)
    (data : FileData) (queued : Except String Unit)
    {watcher : EditWatcher φ} (hidle : watcher.reading = none) :
    Linked stamp { s with
      watcher
      edits := (s.edits.queueSavedCopy s.id s.maxBytes data (stamp data) operationId queued).1
      inFlight := s.inFlight ++
        (s.edits.queueSavedCopy s.id s.maxBytes data (stamp data) operationId queued).2.toList } := by
  unfold RemoteEdits.queueSavedCopy
  split
  · rename_i hnone
    dsimp only
    rw [Option.toList_none, List.append_nil]
    exact h.of_edits rfl rfl rfl (by rw [hidle]; exact nofun) h.apart
      fun edit hedit => ⟨edit, hedit, .refl edit⟩
  · rename_i edit hedit
    obtain ⟨edit', sent, hqueue, hid, hcases⟩ :=
      edit.queueEditSave_cases s.edits.autoUpload s.maxBytes data (stamp data) operationId queued
    have hfind : (s.edits.modify s.id fun _ => edit').find s.id = some edit' :=
      (RemoteEdits.replace_spec s.id hedit hid).2.trans (if_pos rfl)
    have hlinked := h.edit edit hedit
    rcases hcases with ⟨rfl, hsame, -⟩ | ⟨rfl, hnone, hpending, hlocal, hpath, hsize, hmodified, hup⟩
    · rw [hqueue]
      dsimp only
      rw [Option.toList_none, List.append_nil]
      refine h.of_edits rfl rfl rfl (by rw [hidle]; exact nofun) ?_ fun found hfound => ?_
      · exact h.apart.replace hedit hid fun hne => absurd rfl hne
      · obtain rfl := Option.some.inj (hfind.symm.trans hfound)
        exact ⟨edit, hedit, hsame⟩
    -- a write is queued only where none was pending, so none is on its way
    · have hnil : s.inFlight = [] := by
        have hhead := hlinked.pending
        rw [hnone] at hhead
        exact List.head?_eq_none_iff.mp (Option.map_eq_none_iff.mp hhead.symm)
      obtain ⟨-, hids, -⟩ := hfresh
      rw [hqueue]
      dsimp only
      rw [hnil, List.nil_append, Option.toList_some]
      refine ⟨⟨?_, fun other hother hne write hwrite => ?_⟩, Nat.le_refl 1, fun write hwrite => ?_,
        fun found hfound => ?_, fun hsome => ?_⟩
      · dsimp only
        rw [(RemoteEdits.replace_spec s.id hedit hid).1]
        exact h.apart.nodup
      · obtain rfl := List.mem_singleton.mp hwrite
        rcases List.mem_modifyKey hother with hold | ⟨_, _, rfl⟩
        · exact hids other hold
        · exact absurd (hid.trans (List.key_of_findKey hedit)) hne
      · obtain rfl := List.mem_singleton.mp hwrite
        exact ⟨hlinked.size, hlinked.modified⟩
      · obtain rfl := Option.some.inj (hfind.symm.trans hfound)
        refine ⟨hlocal ▸ hlinked.localPath, fun write hwrite => ?_, hpending,
          hsize.trans hlinked.size, hmodified.trans hlinked.modified, hup.trans hlinked.uploaded⟩
        obtain rfl := List.mem_singleton.mp hwrite
        exact hpath.symm
      · rw [hidle] at hsome
        exact nomatch hsome

theorem linked_finish (h : Linked stamp s) {operationId : Uuid} (hfresh : s.FreshId operationId)
    (queued : Except String Unit) : Linked stamp (s.finish stamp operationId queued) := by
  unfold finish
  split
  · exact h
  · exact h.of_edits rfl rfl rfl nofun h.apart fun edit hedit => ⟨edit, hedit, .refl edit⟩
  · dsimp only
    split
    · exact linked_queue h hfresh _ queued rfl
    · exact h.of_edits rfl rfl rfl nofun h.apart fun edit hedit => ⟨edit, hedit, .refl edit⟩
  · dsimp only
    split
    · exact h.modify rfl rfl rfl rfl nofun (fun _ => rfl) (fun _ => rfl)
        fun _ => RemoteEdit.sameLink_copyError _
    · exact h.of_edits rfl rfl rfl nofun h.apart fun edit hedit => ⟨edit, hedit, .refl edit⟩

/-- An event that the edit does not wait for, and that is no failure of its download, is of no
    concern to it. -/
theorem find_applyResult_of_stale (h : Linked stamp s) {event : SftpWriteEvent}
    (hstale : ∀ edit, s.edits.find s.id = some edit → edit.awaits event.operationId = false)
    (hdownload : ∀ message, event ≠ .failed s.id message) :
    (s.edits.applyResult event).find s.id = s.edits.find s.id := by
  refine RemoteEdits.find_applyResult_of_ne h.apart event fun edit hsubject hid => ?_
  obtain ⟨hmem, hawaits | ⟨message, hfailed⟩⟩ := RemoteEdits.of_subject hsubject
  · have hfind := (List.findKey_eq_some_iff h.apart.nodup).mpr ⟨hmem, hid⟩
    rw [hstale edit hfind] at hawaits
    exact nomatch hawaits
  · rw [hid] at hfailed
    exact hdownload message hfailed

/-- The event that answers the write in flight is about the edit, if the edit is still there. -/
theorem subject_of_answer (h : Linked stamp s) {write : EditWrite} (hflight : s.inFlight = [write])
    {event : SftpWriteEvent} (hevent : event.operationId = write.operationId)
    (hdownload : ∀ message, event ≠ .failed s.id message) {edit : RemoteEdit}
    (hsubject : s.edits.subject? event = some edit) : s.edits.find s.id = some edit := by
  obtain ⟨hmem, hcases⟩ := RemoteEdits.of_subject hsubject
  by_cases hid : edit.id = s.id
  · exact (List.findKey_eq_some_iff h.apart.nodup).mpr ⟨hmem, hid⟩
  · obtain ⟨hne, hfalse⟩ := h.apart.foreign edit hmem hid write (by rw [hflight]; exact List.mem_singleton_self write)
    rcases hcases with hawaits | ⟨message, rfl⟩
    · rw [hevent, hfalse] at hawaits
      exact nomatch hawaits
    · exact absurd hevent hne

/-- The answer to the write in flight changes the edit, if it is still there. -/
theorem find_applyResult_answer (h : Linked stamp s) {write : EditWrite}
    (hflight : s.inFlight = [write]) {event : SftpWriteEvent}
    (hevent : event.operationId = write.operationId)
    (hdownload : ∀ message, event ≠ .failed s.id message) :
    (∀ path size modified, event = .updated write.operationId path size modified →
      path = write.path →
      (s.edits.applyResult event).find s.id = (s.edits.find s.id).map (.updated size modified)) ∧
    (∀ message, event = .failed write.operationId message →
      (s.edits.applyResult event).find s.id = (s.edits.find s.id).map (.fail message)) := by
  have hsubject : ∀ edit, s.edits.subject? event = some edit → s.edits.find s.id = some edit :=
    fun edit => subject_of_answer h hflight hevent hdownload
  -- the edit of the one write on its way waits for exactly this answer
  have hawaits : ∀ edit, s.edits.find s.id = some edit →
      edit ∈ s.edits.files ∧ edit.id = s.id ∧ edit.localPath.isNone = false ∧
        edit.path = write.path ∧ edit.awaits write.operationId = true := by
    intro edit hedit
    have hlinked := h.edit edit hedit
    have hpending := hlinked.pending
    rw [hflight] at hpending
    refine ⟨List.mem_of_findKey hedit, List.key_of_findKey hedit, ?_, ?_, ?_⟩
    · rw [Option.isNone_eq_false_iff]
      exact hlinked.localPath
    · exact (hlinked.path write (by rw [hflight]; exact List.mem_singleton_self write)).symm
    · rw [RemoteEdit.awaits, hpending]
      simp
  constructor
  · rintro path size modified rfl rfl
    cases hfind : s.edits.find s.id with
    | none =>
      cases hsub : s.edits.subject? (.updated write.operationId write.path size modified) with
      | none => rw [RemoteEdits.applyResult_none hsub, hfind, Option.map_none]
      | some found => exact absurd (hfind.symm.trans (hsubject found hsub)) nofun
    | some edit =>
      obtain ⟨hmem, hid, -, hpath, hwaits⟩ := hawaits edit hfind
      have hsome : (s.edits.subject? (.updated write.operationId write.path size modified)).isSome :=
        List.find?_isSome.mpr ⟨edit, hmem, by rw [hpath, hwaits]; simp⟩
      obtain ⟨found, hsub⟩ := Option.isSome_iff_exists.mp hsome
      obtain rfl := Option.some.inj ((hsubject found hsub).symm.trans hfind)
      rw [RemoteEdits.applyResult_updated hsub,
        RemoteEdits.find_modify (f := .updated size modified) fun _ => rfl, hid, if_pos rfl, hfind]
  · rintro message rfl
    cases hfind : s.edits.find s.id with
    | none =>
      cases hsub : s.edits.subject? (.failed write.operationId message) with
      | none => rw [RemoteEdits.applyResult_none hsub, hfind, Option.map_none]
      | some found => exact absurd (hfind.symm.trans (hsubject found hsub)) nofun
    | some edit =>
      obtain ⟨hmem, hid, hlocal, -, hwaits⟩ := hawaits edit hfind
      have hsome : (s.edits.subject? (.failed write.operationId message)).isSome :=
        List.find?_isSome.mpr ⟨edit, hmem, by rw [hwaits]; simp⟩
      obtain ⟨found, hsub⟩ := Option.isSome_iff_exists.mp hsome
      obtain rfl := Option.some.inj ((hsubject found hsub).symm.trans hfind)
      rw [RemoteEdits.applyResult_failed hsub hlocal,
        RemoteEdits.find_modify (f := .fail message) fun _ => rfl, hid, if_pos rfl, hfind]

/-- The state after an answer to the write in flight. -/
theorem linked_answer (h : Linked stamp s) (event : SftpWriteEvent) {s' : EditState φ} (hid : s'.id = s.id)
    (hedits : s'.edits = s.edits.applyResult event) (hdone : s'.inFlight = [])
    (hedit : ∀ edit', s'.edits.find s.id = some edit' →
      edit'.pending = none ∧ LinkedEdit stamp [] s'.remote edit') : Linked stamp s' where
  apart := by
    rw [hid, hedits, hdone]
    exact (h.apart.applyResult event).mono nofun
  single := by
    rw [hdone]
    exact Nat.zero_le 1
  carries := by
    rw [hdone]
    exact nofun
  edit edit' hedit' := by
    rw [hdone]
    exact (hedit edit' (hid ▸ hedit')).2
  reading _ edit' hedit' := (hedit edit' (hid ▸ hedit')).1

/-- An event answers the write in flight, or is of no concern to the edit. -/
theorem stale_or_answer (h : Linked stamp s) {event : SftpWriteEvent}
    (hdownload : ∀ message, event ≠ .failed s.id message) :
    (s.answered event = s ∧
        (s.edits.applyResult event).find s.id = s.edits.find s.id) ∨
      ∃ write, s.inFlight = [write] ∧ event.operationId = write.operationId ∧
        ∀ edit, s.edits.find s.id = some edit →
          edit.pending = some (write.operationId, stamp write.data) := by
  by_cases hstale : ∀ write ∈ s.inFlight, write.operationId ≠ event.operationId
  · have hnone : s.inFlight.find? (·.operationId == event.operationId) = none :=
      List.find?_eq_none.mpr fun write hwrite => by simpa using hstale write hwrite
    refine .inl ⟨?_, find_applyResult_of_stale h (fun edit hedit => ?_) hdownload⟩
    · unfold answered
      simp [hnone]
    · rw [RemoteEdit.awaits, (h.edit edit hedit).pending]
      -- at most one write is on its way
      obtain hnil | ⟨write, hflight⟩ := h.inFlight_cases
      · rw [hnil]
        rfl
      · have hne := hstale write (by rw [hflight]; exact List.mem_singleton_self write)
        rw [hflight]
        simpa using hne
  · obtain hnil | ⟨write, hflight⟩ := h.inFlight_cases
    · rw [hnil] at hstale
      exact absurd nofun hstale
    refine .inr ⟨write, hflight, ?_, fun edit hedit => ?_⟩
    · by_contra hne
      refine hstale fun other hother => ?_
      rw [hflight] at hother
      obtain rfl := List.mem_singleton.mp hother
      exact Ne.symm hne
    · rw [(h.edit edit hedit).pending, hflight]
      rfl

theorem linked_event [DecidableEq φ] (h : Linked stamp s) {event : SftpWriteEvent}
    (hechoes : ∀ write ∈ s.inFlight, Echoes write event)
    (hdownload : ∀ message, event ≠ .failed s.id message) :
    Linked stamp (s.step stamp (.event event)) := by
  simp only [step]
  split
  rotate_left
  · exact h
  -- the event answers the write that is on its way, or it is stale
  obtain ⟨hsame, hfind⟩ | ⟨write, hflight, hevent, hpending⟩ := stale_or_answer h hdownload
  · rw [hsame]
    exact h.of_edits rfl rfl rfl (fun hsome => hsome) (h.apart.applyResult event)
      fun edit hedit => ⟨edit, hfind ▸ hedit, .refl edit⟩
  · have hfound : s.inFlight.find? (·.operationId == event.operationId) = some write := by
      rw [hflight, hevent, List.find?_singleton]
      simp
    have hdone : s.inFlight.filter (·.operationId ≠ event.operationId) = [] := by
      rw [hflight, hevent]
      simp
    obtain ⟨hupdated, hfailed⟩ := find_applyResult_answer h hflight hevent hdownload
    cases event with
    | updated operationId path size modified =>
      obtain rfl : operationId = write.operationId := hevent
      have hpath := hechoes write (by rw [hflight]; exact List.mem_singleton_self write) rfl
      have hanswered : s.answered (.updated write.operationId path size modified) =
          { s with inFlight := [], remote := { data := write.data, size, modified } } := by
        unfold answered
        simp only [hfound, hdone]
      rw [hanswered]
      refine linked_answer h _ rfl rfl rfl fun edit' hedit' => ?_
      rw [hupdated path size modified rfl hpath] at hedit'
      obtain ⟨edit, hedit, rfl⟩ := Option.map_eq_some_iff.mp hedit'
      refine ⟨rfl, (h.edit edit hedit).localPath, nofun, rfl, rfl, rfl, ?_⟩
      simp only [RemoteEdit.updated, hpending edit hedit]
    | failed operationId message =>
      obtain rfl : operationId = write.operationId := hevent
      have hanswered : s.answered (.failed write.operationId message) =
          { s with inFlight := [] } := by
        unfold answered
        simp only [hfound, hdone]
      rw [hanswered]
      refine linked_answer h _ rfl rfl rfl fun edit' hedit' => ?_
      rw [hfailed message rfl] at hedit'
      obtain ⟨edit, hedit, rfl⟩ := Option.map_eq_some_iff.mp hedit'
      have hlinked := h.edit edit hedit
      exact ⟨rfl, hlinked.localPath, nofun, rfl, hlinked.size, hlinked.modified, hlinked.uploaded⟩
    -- what is left of the events answers no write
    | completed operationId path =>
      have hsame : s.answered (.completed operationId path) = s := by
        unfold answered
        simp only [hfound]
      rw [hsame, RemoteEdits.applyResult_none rfl]
      exact h
    | editFile operationId path data size modified =>
      have hsame : s.answered (.editFile operationId path data size modified) = s := by
        unfold answered
        simp only [hfound]
      rw [hsame, RemoteEdits.applyResult_none rfl]
      exact h
    | metadata operationId path size modified =>
      have hsame : s.answered (.metadata operationId path size modified) = s := by
        unfold answered
        simp only [hfound]
      rw [hsame, RemoteEdits.applyResult_none rfl]
      exact h

/-- Every step keeps the edit and the worker together. -/
theorem step_linked [DecidableEq φ] (h : Linked stamp s) {label : EditLabel φ}
    (hlabel : s.Admissible label) : Linked stamp (s.step stamp label) := by
  -- labels that leave the edit and its writes as they were
  have hkept : ∀ {s' : EditState φ}, s'.id = s.id → s'.inFlight = s.inFlight →
      s'.remote = s.remote → s'.watcher = s.watcher → s'.edits.Apart s.id s.inFlight →
      s'.edits.find s.id = s.edits.find s.id → Linked stamp s' :=
    fun hid hflight hremote hwatcher hapart hfind =>
      h.of_edits hid hflight hremote (fun hsome => hwatcher ▸ hsome) hapart
        fun edit hedit => ⟨edit, hfind ▸ hedit, .refl edit⟩
  cases label with
  | tick now signalled => exact linked_tick h now signalled
  | read failure => exact linked_read h failure
  | finish operationId queued => exact linked_finish h hlabel queued
  | change data fingerprint => exact hkept rfl rfl rfl rfl h.apart rfl
  | requestUpload =>
    simp only [step]
    split
    · rename_i edits hrequest
      obtain ⟨target, -, rfl⟩ := RemoteEdits.requestUpload_spec hrequest
      exact h.modify rfl rfl rfl rfl (fun hsome => hsome) (fun _ => rfl) (fun _ => rfl)
        fun _ => RemoteEdit.sameLink_requestUpload
    · exact h
  | setAutoUpload enabled => exact hkept rfl rfl rfl rfl (h.apart.congr rfl) rfl
  | setMaxBytes maxBytes => exact hkept rfl rfl rfl rfl h.apart rfl
  | event event => exact linked_event h hlabel.1 hlabel.2
  | «open» newId path =>
    simp only [step]
    split
    · rename_i edits new hopen
      obtain ⟨hne, hids, hwrites⟩ := hlabel
      obtain ⟨hapart, hfind, -⟩ :=
        RemoteEdits.open_spec h.apart hopen hne (fun edit hedit => (hids edit hedit).1) hwrites
      exact hkept rfl rfl rfl rfl hapart hfind
    · exact h
  | accept id localPath data size modified =>
    exact h.modify rfl rfl rfl rfl (fun hsome => hsome) (fun _ => rfl) (fun _ => rfl)
      fun hid => absurd hid hlabel
  | opened id result =>
    exact h.modify rfl rfl rfl rfl (fun hsome => hsome)
      (fun edit => (RemoteEdit.sameLink_opened result edit).2.1)
      (fun edit => (RemoteEdit.sameLink_opened result edit).1.pending)
      fun _ edit => (RemoteEdit.sameLink_opened result edit).1
  | saveOther id data operationId queued =>
    obtain ⟨hne, -, -, hwrites⟩ := hlabel
    obtain ⟨hapart, hfind, -⟩ := RemoteEdits.queueSavedCopy_other h.apart hne s.maxBytes data
      (stamp data) hwrites queued
    exact hkept rfl rfl rfl rfl hapart hfind
  | copyErrorOther id message =>
    exact h.modify rfl rfl rfl rfl (fun hsome => hsome) (fun _ => rfl) (fun _ => rfl)
      fun _ => RemoteEdit.sameLink_copyError message
  | stopCurrent =>
    exact h.of_edits rfl rfl rfl (fun hsome => hsome) h.apart.stopCurrent
      fun edit hedit => ⟨edit, RemoteEdits.find_stopCurrent hedit, .refl edit⟩
  | reset =>
    exact h.of_edits rfl rfl rfl (fun hsome => hsome) ⟨List.nodup_nil, nofun⟩
      fun edit hedit => nomatch hedit
  | disconnect => exact hkept rfl rfl rfl rfl h.apart rfl

/-- The copy of a new edit was accepted. -/
theorem downloaded_linked {edits : RemoteEdits} {id : Uuid} {path : String}
    (hnodup : (edits.files.map (·.id)).Nodup) (hfind : edits.find id = some { id, path })
    (localPath : String) (version : EditVersion) (maxBytes : Nat) (fingerprint : φ) (now : Nat) :
    Linked stamp (downloaded stamp edits id localPath version maxBytes fingerprint now) := by
  have hedit : ∀ edit, (downloaded stamp edits id localPath version maxBytes fingerprint
      now).edits.find id = some edit →
      edit = RemoteEdit.accept localPath (stamp version.data) version.size version.modified
        { id, path } := by
    intro edit hedit
    rw [downloaded, RemoteEdits.find_modify
      (f := .accept localPath (stamp version.data) version.size version.modified) fun _ => rfl,
      if_pos rfl, hfind] at hedit
    exact (Option.some.inj hedit).symm
  refine ⟨⟨?_, fun _ _ _ _ => nofun⟩, Nat.zero_le 1, nofun, fun edit h => ?_, nofun⟩
  · let accept := RemoteEdit.accept localPath (stamp version.data) version.size version.modified
    have hkeys : (edits.files.modifyKey RemoteEdit.id id accept).map RemoteEdit.id =
        edits.files.map RemoteEdit.id :=
      List.map_key_modifyKey (f := accept) (fun _ => rfl) id edits.files
    rw [downloaded, RemoteEdits.modify, hkeys]
    exact hnodup
  · obtain rfl := hedit edit h
    exact ⟨rfl, nofun, rfl, rfl, rfl, rfl⟩

/-! ## What a pass establishes -/

/-- A change of the edits that leaves nothing more to upload. -/
theorem Settled.of_edits (h : Settled stamp s) {s' : EditState φ} (hid : s'.id = s.id)
    (hcopy : s'.copy.1 = s.copy.1) (hconnected : s'.connected → s.connected)
    (hlimit : s'.maxBytes ≤ s.maxBytes)
    (hreading : ∀ reading data fingerprint, s'.watcher.reading = some reading →
      reading.result = some (.ok (some (data, fingerprint))) → data = s.copy.1)
    (hfind : ∀ edit', s'.edits.find s.id = some edit' →
      (s'.edits.autoUpload → s.edits.autoUpload) ∧
      ∃ edit, s.edits.find s.id = some edit ∧ edit.SameLink edit' ∧
        (edit'.failed = false → edit.failed = false)) : Settled stamp s' where
  pending edit' hedit' operationId uploading hpending := by
    obtain ⟨-, edit, hedit, hsame, -⟩ := hfind edit' (hid ▸ hedit')
    rw [hcopy]
    exact h.pending edit hedit operationId uploading (hsame.pending ▸ hpending)
  uploaded edit' hedit' hlive hauto hok hnone hlen := by
    obtain ⟨hautos, edit, hedit, hsame, hfailed⟩ := hfind edit' (hid ▸ hedit')
    rw [hcopy] at hlen ⊢
    rw [hsame.uploaded]
    exact h.uploaded edit hedit (hconnected hlive) (hautos hauto) (hfailed hok)
      (hsame.pending ▸ hnone) (hlen.trans hlimit)
  reading reading data fingerprint hread hresult := by
    rw [hcopy]
    exact hreading reading data fingerprint hread hresult

/-- A pass that read the copy as it is leaves nothing to upload, up to the write it queued. -/
theorem finish_settled (hl : Linked stamp s) {data : FileData} {fingerprint : φ}
    (hread : s.watcher.reading.bind (·.result) = some (.ok (some (data, fingerprint))))
    (hdata : data = s.copy.1) (operationId : Uuid) (queued : Except String Unit) :
    Settled stamp (s.finish stamp operationId queued) := by
  -- while a reading goes on no write is pending
  have hidle : ∀ edit, s.edits.find s.id = some edit → edit.pending = none :=
    hl.reading (by cases hreading : s.watcher.reading with
      | none => rw [hreading] at hread; exact nomatch hread
      | some _ => rfl)
  unfold finish
  rw [hread]
  dsimp only
  split
  · unfold RemoteEdits.queueSavedCopy
    split
    · rename_i hnone
      exact ⟨fun edit hedit => absurd (hnone.symm.trans hedit) nofun,
        fun edit hedit => absurd (hnone.symm.trans hedit) nofun, nofun⟩
    rename_i edit hedit
    obtain ⟨edit', sent, hqueue, hid, hcases⟩ :=
      edit.queueEditSave_cases s.edits.autoUpload s.maxBytes data (stamp data) operationId queued
    have hfind : (s.edits.modify s.id fun _ => edit').find s.id = some edit' :=
      (RemoteEdits.replace_spec s.id hedit hid).2.trans (if_pos rfl)
    rw [hqueue]
    refine ⟨fun found hfound op uploading hpending => ?_,
      fun found hfound _ hauto hok hnone hlen => ?_, nofun⟩
    -- what is pending now is what was read, and that is the copy
    · obtain rfl := Option.some.inj (hfind.symm.trans hfound)
      rcases hcases with ⟨-, hsame, -⟩ | ⟨-, -, hqueued, -⟩
      · rw [hsame.pending, hidle edit hedit] at hpending
        exact nomatch hpending
      · obtain ⟨-, rfl⟩ := Prod.mk.inj (Option.some.inj (hqueued.symm.trans hpending))
        rw [hdata]
    · obtain rfl := Option.some.inj (hfind.symm.trans hfound)
      rcases hcases with ⟨-, hsame, huploaded⟩ | ⟨-, -, hqueued, -⟩
      · rw [hsame.uploaded, huploaded (hidle edit hedit) hok hauto (hdata ▸ hlen), hdata]
      · exact absurd (hqueued.symm.trans hnone) nofun
  -- without a connection nothing is queued and nothing is promised
  · rename_i hconnected
    refine ⟨fun edit hedit op uploading hpending => ?_, fun _ _ hlive => absurd hlive hconnected,
      nofun⟩
    rw [hidle edit hedit] at hpending
    exact nomatch hpending

theorem settled_event [DecidableEq φ] (hl : Linked stamp s) (h : Settled stamp s)
    {event : SftpWriteEvent} (hechoes : ∀ write ∈ s.inFlight, Echoes write event)
    (hdownload : ∀ message, event ≠ .failed s.id message) :
    Settled stamp (s.step stamp (.event event)) := by
  simp only [step]
  split
  rotate_left
  · exact h
  have hkept : (s.answered event).id = s.id ∧ (s.answered event).copy = s.copy ∧
      (s.answered event).connected = s.connected ∧ (s.answered event).maxBytes = s.maxBytes ∧
      (s.answered event).watcher = s.watcher := by
    unfold answered
    split <;> exact ⟨rfl, rfl, rfl, rfl, rfl⟩
  obtain ⟨hid, hcopy, hconnected, hlimit, hwatcher⟩ := hkept
  -- what holds of the edit after the event, with the copy as it is
  have hfinds : ∀ edit', (s.edits.applyResult event).find s.id = some edit' →
      (∀ operationId uploading, edit'.pending = some (operationId, uploading) →
        uploading = stamp s.copy.1) ∧
      (s.connected → s.edits.autoUpload → edit'.failed = false → edit'.pending = none →
        s.copy.1.length ≤ s.maxBytes → edit'.uploaded = stamp s.copy.1) := by
    intro edit' hedit'
    -- the event answers the write that is on its way, or it is stale
    obtain ⟨-, hfind⟩ | ⟨write, hflight, hevent, hpending⟩ := stale_or_answer hl hdownload
    · rw [hfind] at hedit'
      exact ⟨h.pending edit' hedit', h.uploaded edit' hedit'⟩
    obtain ⟨hupdated, hfailed⟩ := find_applyResult_answer hl hflight hevent hdownload
    have hunchanged (hnone : s.edits.subject? event = none) :
        (∀ operationId uploading, edit'.pending = some (operationId, uploading) →
          uploading = stamp s.copy.1) ∧
        (s.connected → s.edits.autoUpload → edit'.failed = false → edit'.pending = none →
          s.copy.1.length ≤ s.maxBytes → edit'.uploaded = stamp s.copy.1) := by
      rw [RemoteEdits.applyResult_none hnone] at hedit'
      exact ⟨h.pending edit' hedit', h.uploaded edit' hedit'⟩
    cases event with
    | updated operationId path size modified =>
      obtain rfl : operationId = write.operationId := hevent
      have hpath := hechoes write (by rw [hflight]; exact List.mem_singleton_self write) rfl
      rw [hupdated path size modified rfl hpath] at hedit'
      obtain ⟨edit, hedit, rfl⟩ := Option.map_eq_some_iff.mp hedit'
      -- what was written is what was pending, so the uploaded text is that of the copy
      refine ⟨nofun, fun _ _ _ _ _ => ?_⟩
      simp only [RemoteEdit.updated, hpending edit hedit]
      exact h.pending edit hedit _ _ (hpending edit hedit)
    | failed operationId message =>
      obtain rfl : operationId = write.operationId := hevent
      rw [hfailed message rfl] at hedit'
      obtain ⟨edit, hedit, rfl⟩ := Option.map_eq_some_iff.mp hedit'
      exact ⟨nofun, fun _ _ hok => nomatch hok⟩
    | completed operationId path => exact hunchanged rfl
    | editFile operationId path data size modified => exact hunchanged rfl
    | metadata operationId path size modified => exact hunchanged rfl
  refine ⟨fun edit' hedit' => ?_, fun edit' hedit' hlive hauto => ?_, ?_⟩
  · rw [hid] at hedit'
    rw [hcopy]
    exact (hfinds edit' hedit').1
  · rw [hid] at hedit'
    rw [RemoteEdits.autoUpload_applyResult] at hauto
    rw [hcopy, hlimit]
    exact (hfinds edit' hedit').2 (hconnected ▸ hlive) hauto
  · rw [hwatcher, hcopy]
    exact h.reading

/-- A read finds the copy as it is. -/
theorem data_of_read [DecidableEq φ] {copy : FileData × φ} {watcher : EditWatcher φ}
    (h : ∀ reading data fingerprint, watcher.reading = some reading →
      reading.result = some (.ok (some (data, fingerprint))) → data = copy.1)
    {failure : Option String} {reading : EditReading φ} {data : FileData} {fingerprint : φ}
    (hread : (watcher.read copy failure).reading = some reading)
    (hresult : reading.result = some (.ok (some (data, fingerprint)))) : data = copy.1 := by
  unfold EditWatcher.read at hread
  split at hread
  · split at hread
    · obtain rfl := Option.some.inj hread
      have hcopy := Option.some.inj hresult
      unfold EditWatcher.readCopy at hcopy
      split at hcopy
      · exact nomatch hcopy
      split at hcopy
      · exact nomatch hcopy
      split at hcopy
      · exact nomatch hcopy
      · exact congrArg Prod.fst (Option.some.inj (Except.ok.inj hcopy)).symm
    · exact h reading data fingerprint hread hresult
  · exact h reading data fingerprint hread hresult

/-- What does not disturb the edit keeps it settled. -/
theorem step_settled [DecidableEq φ] (hl : Linked stamp s) (h : Settled stamp s)
    {label : EditLabel φ} (hlabel : s.Admissible label) (hquiet : ¬s.Disturbs label) :
    Settled stamp (s.step stamp label) := by
  -- labels that leave the edit, the copy and the limits as they were
  have hkept : ∀ {s' : EditState φ}, s'.id = s.id → s'.copy = s.copy → s'.connected = s.connected →
      s'.maxBytes = s.maxBytes → s'.watcher = s.watcher →
      s'.edits.autoUpload = s.edits.autoUpload → s'.edits.find s.id = s.edits.find s.id →
      Settled stamp s' :=
    fun hid hcopy hconnected hlimit hwatcher hauto hfind =>
      h.of_edits hid (congrArg Prod.fst hcopy) (fun hlive => hconnected ▸ hlive)
        (Nat.le_of_eq hlimit) (hwatcher ▸ h.reading) fun edit hedit =>
        ⟨fun hon => hauto ▸ hon, edit, hfind ▸ hedit, .refl edit, fun hok => hok⟩
  -- labels that touch one edit: another than this one, or this one with its link kept
  have hmodified : ∀ {target : Uuid} {f : RemoteEdit → RemoteEdit} (_ : ∀ edit, (f edit).id = edit.id)
      (_ : target = s.id → ∀ edit, s.edits.find s.id = some edit → edit.SameLink (f edit) ∧
        ((f edit).failed = false → edit.failed = false)),
      Settled stamp { s with edits := s.edits.modify target f } := by
    intro target f hkey hsame
    refine h.of_edits rfl rfl (fun hlive => hlive) (Nat.le_refl _) h.reading fun edit' hedit' => ?_
    refine ⟨fun hon => hon, ?_⟩
    rw [RemoteEdits.find_modify hkey] at hedit'
    split at hedit'
    · rename_i htarget
      obtain ⟨edit, hedit, rfl⟩ := Option.map_eq_some_iff.mp hedit'
      rw [← htarget] at hedit
      exact ⟨edit, hedit, hsame htarget.symm edit hedit⟩
    · exact ⟨edit', hedit', .refl edit', fun hok => hok⟩
  cases label with
  | tick now signalled =>
    simp only [step]
    split
    · refine ⟨h.pending, h.uploaded, fun reading data fingerprint hread hresult => ?_⟩
      -- a reading that has just begun has no result yet
      obtain hsame | ⟨started, -, -, hstarted, hnone, -⟩ :=
        reading_tick now signalled s.connectedEdit s.watcher
      · exact h.reading reading data fingerprint (hsame ▸ hread) hresult
      · obtain rfl := Option.some.inj (hstarted.symm.trans hread)
        exact absurd (hnone.symm.trans hresult) nofun
    · exact h
  | read failure =>
    refine ⟨h.pending, h.uploaded, fun reading data fingerprint hread hresult => ?_⟩
    exact data_of_read h.reading hread hresult
  | finish operationId queued =>
    cases hread : s.watcher.reading.bind (·.result) with
    | none =>
      have hsame : s.finish stamp operationId queued = s := by
        rw [finish, hread]
      show Settled stamp (s.finish stamp operationId queued)
      rw [hsame]
      exact h
    | some result =>
      match result, hread with
      | .ok (some (data, fingerprint)), hread =>
        obtain ⟨reading, hreading, hresult⟩ := Option.bind_eq_some_iff.mp hread
        exact finish_settled hl hread (h.reading reading data fingerprint hreading hresult) _ _
      | .ok none, hread =>
        show Settled stamp (s.finish stamp operationId queued)
        rw [finish, hread]
        exact ⟨h.pending, h.uploaded, nofun⟩
      | .error message, hread =>
        show Settled stamp (s.finish stamp operationId queued)
        rw [finish, hread]
        dsimp only
        split
        · have hmodify : Settled stamp { s with
              edits := s.edits.modify s.id (.copyError message) } :=
            hmodified (fun _ => rfl) fun _ edit _ =>
              ⟨edit.sameLink_copyError message, fun hok => hok⟩
          exact ⟨hmodify.pending, hmodify.uploaded, nofun⟩
        · exact ⟨h.pending, h.uploaded, nofun⟩
  | change data fingerprint =>
    exact h.of_edits rfl (not_not.mp hquiet) (fun hlive => hlive) (Nat.le_refl _) h.reading
      fun edit hedit => ⟨fun hon => hon, edit, hedit, .refl edit, fun hok => hok⟩
  | requestUpload =>
    simp only [step]
    split
    · rename_i edits hrequest
      obtain ⟨target, hcurrent, rfl⟩ := RemoteEdits.requestUpload_spec hrequest
      refine hmodified (f := .requestUpload) (fun _ => rfl) fun htarget edit hedit =>
        ⟨edit.sameLink_requestUpload, fun _ => ?_⟩
      rw [htarget] at hcurrent
      -- asking for an upload takes the failure back, which would disturb a settled edit
      by_contra hfailed
      exact hquiet ⟨hcurrent, edit, hedit, by simpa using hfailed⟩
    · exact h
  | setAutoUpload enabled =>
    refine h.of_edits rfl rfl (fun hlive => hlive) (Nat.le_refl _) h.reading fun edit hedit =>
      ⟨fun hon => ?_, edit, hedit, .refl edit, fun hok => hok⟩
    by_contra hoff
    exact hquiet ⟨hon, by simpa using hoff⟩
  | setMaxBytes maxBytes =>
    exact h.of_edits rfl rfl (fun hlive => hlive) (Nat.not_lt.mp hquiet) h.reading
      fun edit hedit => ⟨fun hon => hon, edit, hedit, .refl edit, fun hok => hok⟩
  | event event => exact settled_event hl h hlabel.1 hlabel.2
  | «open» newId path =>
    simp only [step]
    split
    · rename_i edits new hopen
      obtain ⟨hne, hids, hwrites⟩ := hlabel
      obtain ⟨-, hfind, hauto⟩ :=
        RemoteEdits.open_spec hl.apart hopen hne (fun edit hedit => (hids edit hedit).1) hwrites
      exact hkept rfl rfl rfl rfl rfl hauto hfind
    · exact h
  | accept id localPath data size modified =>
    exact hmodified (f := .accept localPath (stamp data) size modified) (fun _ => rfl)
      fun hid => absurd hid hlabel
  | opened id result =>
    refine hmodified (fun edit => (RemoteEdit.sameLink_opened result edit).2.1) fun _ edit _ => ?_
    obtain ⟨hsame, -, hfailed⟩ := RemoteEdit.sameLink_opened result edit
    exact ⟨hsame, fun hok => hfailed ▸ hok⟩
  | saveOther id data operationId queued =>
    obtain ⟨hne, -, -, hwrites⟩ := hlabel
    obtain ⟨-, hfind, hauto⟩ := RemoteEdits.queueSavedCopy_other hl.apart hne s.maxBytes data
      (stamp data) hwrites queued
    exact hkept rfl rfl rfl rfl rfl hauto hfind
  | copyErrorOther id message =>
    exact hmodified (f := .copyError message) (fun _ => rfl) fun _ edit _ =>
      ⟨edit.sameLink_copyError message, fun hok => hok⟩
  | stopCurrent =>
    exact h.of_edits rfl rfl (fun hlive => hlive) (Nat.le_refl _) h.reading fun edit hedit =>
      ⟨fun hon => hon, edit, RemoteEdits.find_stopCurrent hedit, .refl edit, fun hok => hok⟩
  -- after a reset there is neither a pending write nor an uploaded copy to speak of
  | reset => exact ⟨nofun, nofun, h.reading⟩
  | disconnect =>
    exact h.of_edits rfl rfl nofun (Nat.le_refl _) h.reading fun edit hedit =>
      ⟨fun hon => hon, edit, hedit, .refl edit, fun hok => hok⟩

/-! ## Runs -/

/-- What holds of an edit in every state: the write in flight, if any, carries the version that was
    acknowledged last, `uploaded` is its stamp, and other acknowledgements change nothing. -/
structure Synchronised (stamp : FileData → ContentStamp) (s : EditState φ) : Prop where
  single : s.inFlight.length ≤ 1
  carries : ∀ write ∈ s.inFlight,
    write.expectedSize = s.remote.size ∧ write.expectedModified = s.remote.modified
  uploaded : ∀ edit, s.edits.find s.id = some edit → edit.uploaded = stamp s.remote.data
  stale : ∀ event, (∀ message, event ≠ .failed s.id message) →
    (∀ edit, s.edits.find s.id = some edit → edit.awaits event.operationId = false) →
    (s.edits.applyResult event).find s.id = s.edits.find s.id

theorem Linked.synchronised (h : Linked stamp s) : Synchronised stamp s where
  single := h.single
  carries := h.carries
  uploaded edit hedit := (h.edit edit hedit).uploaded
  stale _ hdownload hstale := find_applyResult_of_stale h hstale hdownload

/-- Over every run of an edit, and after every pass that read the copy as it still is. -/
theorem remote_edit_synchronised [DecidableEq φ] {edits : RemoteEdits} {id : Uuid} {path : String}
    (hnodup : (edits.files.map (·.id)).Nodup) (hfind : edits.find id = some { id, path })
    (localPath : String) (version : EditVersion) (maxBytes : Nat) (fingerprint : φ) (now : Nat)
    {labels : List (EditLabel φ)}
    (hlabels : Transition.AllSafe (step stamp)
      (downloaded stamp edits id localPath version maxBytes fingerprint now) Admissible labels) :
    let start := downloaded stamp edits id localPath version maxBytes fingerprint now
    Synchronised stamp (labels.foldl (step stamp) start) ∧
      ∀ before operationId queued after data fingerprint,
        labels = before ++ .finish operationId queued :: after →
        (before.foldl (step stamp) start).watcher.reading.bind (·.result) =
          some (.ok (some (data, fingerprint))) →
        data = (before.foldl (step stamp) start).copy.1 →
        Transition.AllSafe (step stamp)
          ((before.foldl (step stamp) start).step stamp (.finish operationId queued))
          (fun s label => ¬s.Disturbs label) after →
        Settled stamp (labels.foldl (step stamp) start) := by
  intro start
  have hstart : Linked stamp start :=
    downloaded_linked hnodup hfind localPath version maxBytes fingerprint now
  refine ⟨(hlabels.preserves hstart fun s label hs hlabel => step_linked hs hlabel).synchronised, ?_⟩
  rintro before operationId queued after data fingerprint rfl hread hdata hquiet
  obtain ⟨hbefore, hrest⟩ := Transition.allSafe_append_iff.mp hlabels
  obtain ⟨hfinish, hafter⟩ := Transition.allSafe_cons_iff.mp hrest
  have hlinked : Linked stamp (before.foldl (step stamp) start) :=
    hbefore.preserves hstart fun s label hs hlabel => step_linked hs hlabel
  have hsettled := finish_settled hlinked hread hdata operationId queued
  have hnext := step_linked hlinked hfinish
  rw [List.foldl_append, List.foldl_cons]
  -- from the upload on the labels are both admissible and quiet
  have hboth : Transition.AllSafe (step stamp)
      ((before.foldl (step stamp) start).step stamp (.finish operationId queued))
      (fun s label => s.Admissible label ∧ ¬s.Disturbs label) after :=
    fun pre label hpre => ⟨hafter pre label hpre, hquiet pre label hpre⟩
  exact (hboth.preserves (P := fun s => Linked stamp s ∧ Settled stamp s) ⟨hnext, hsettled⟩
    fun s label hs hlabel =>
      ⟨step_linked hs.1 hlabel.1, step_settled hs.1 hs.2 hlabel.1 hlabel.2⟩).2

/-- A stamp that tells short contents apart. -/
def shortStamp (data : FileData) : ContentStamp := Vector.ofFn fun i => data.getD i 0

/-- One edit of a file with two bytes. -/
def motd : EditState Nat :=
  downloaded shortStamp { files := [{ id := 1, path := "/etc/motd" }], current := some 1 } 1
    "/tmp/edit-motd" ⟨[1, 2], 2, some 5⟩ 1024 0 0

/-- A change that is saved, read, uploaded and acknowledged. -/
theorem saved_change_settled :
    let labels : List (EditLabel Nat) := [.change [3] 1, .tick 600 true, .read none,
      .finish 7 (.ok ()), .event (.updated 7 "/etc/motd" 1 (some 9))]
    Synchronised shortStamp (labels.foldl (step shortStamp) motd) ∧
      Settled shortStamp (labels.foldl (step shortStamp) motd) := by
  intro labels
  have hlabels : Transition.AllSafe (step shortStamp) motd Admissible labels := by
    refine Transition.allSafe_cons_iff.mpr ⟨trivial, Transition.allSafe_cons_iff.mpr ⟨trivial,
      Transition.allSafe_cons_iff.mpr ⟨trivial, Transition.allSafe_cons_iff.mpr ⟨?_,
        Transition.allSafe_cons_iff.mpr ⟨?_, Transition.allSafe_nil⟩⟩⟩⟩⟩
    · exact ⟨by decide, by decide, by decide⟩
    · exact ⟨fun write hwrite => by
        obtain rfl := List.mem_singleton.mp hwrite
        exact fun _ => rfl, nofun⟩
  obtain ⟨hsynchronised, hsettled⟩ := remote_edit_synchronised (by decide)
    (by decide : RemoteEdits.find _ 1 = some { id := 1, path := "/etc/motd" }) "/tmp/edit-motd" ⟨[1, 2], 2, some 5⟩ 1024 0 0 hlabels
  exact ⟨hsynchronised, hsettled [.change [3] 1, .tick 600 true, .read none] 7 (.ok ())
    [.event (.updated 7 "/etc/motd" 1 (some 9))] [3] 1 rfl (by decide) (by decide)
    (Transition.allSafe_cons_iff.mpr ⟨nofun, Transition.allSafe_nil⟩)⟩

def switchedOn : List (EditLabel Nat) :=
  [.setAutoUpload false, .change [3] 1, .tick 600 true, .read none, .finish 7 (.ok ()),
    .setAutoUpload true]

def failedDownload : List (EditLabel Nat) :=
  [.change [3] 1, .tick 600 true, .read none, .finish 7 (.ok ()), .event (.failed 1 "late"),
    .requestUpload, .tick 900 false, .read none, .finish 8 (.ok ())]

/-- A pass while auto-upload is off leaves the change where it is, also right after auto-upload is
    switched on; and a failure under the identifier of the edit frees it for a second write. -/
theorem switched_on_and_failed_download :
    let s := switchedOn.foldl (step shortStamp) motd
    (s.edits.autoUpload = true ∧ s.watcher.reading.isNone ∧ s.copy = ([3], 1) ∧
      (s.edits.find 1).map (fun edit => (edit.failed, edit.pending, edit.uploaded)) =
        some (false, none, shortStamp [1, 2]) ∧
      shortStamp [1, 2] ≠ shortStamp [3]) ∧
    (failedDownload.foldl (step shortStamp) motd).inFlight.map (·.operationId) = [7, 8] := by
  decide

end EditState

end AxSsh
