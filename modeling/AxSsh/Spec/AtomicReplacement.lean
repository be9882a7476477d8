import AxSsh.Native.AtomicFiles
import Mathlib.Data.List.Infix

/-!
# Replacing a file

What the three writers leave on the disk when a call of theirs fails.  The two of the persistence
layer keep their temporary file under a guard: up to the rename a failure leaves every file as it
was.  The one of `known_hosts` has no guard, so a failure after its first call leaves the temporary
file behind.

## Key results
- `writeFileContentsWithSync_spec`: everything up to the rename
- `atomicReplace_iff`: when the writer of `known_hosts` leaves nothing behind
- `atomic_replacement`: the three writers
-/

namespace AxSsh

namespace Persistence

open Faulty (Triple Post)
open KnownHostsFile (atomicReplace temporaryPath)

/-! ## The disk -/

/-- The content of a file, with its mode. -/
def Disk.fileAt (disk : Disk) (path : DiskPath) : Option (List UInt8 × Nat) :=
  match disk.entries path with
  | some (.file bytes mode) => some (bytes, mode)
  | _ => none

section Set

variable {disk : Disk} {path p : DiskPath} {entry : Option Entry}

@[simp] theorem set_entries_self : (disk.set path entry).entries path = entry :=
  Function.update_self ..

theorem set_entries_of_ne (h : p ≠ path) : (disk.set path entry).entries p = disk.entries p :=
  Function.update_of_ne h ..

theorem set_fileAt_of_ne (h : p ≠ path) : (disk.set path entry).fileAt p = disk.fileAt p := by
  rw [Disk.fileAt, Disk.fileAt, set_entries_of_ne h]

theorem fileAt_of_entries {bytes : List UInt8} {mode : Nat}
    (h : disk.entries p = some (.file bytes mode)) : disk.fileAt p = some (bytes, mode) := by
  rw [Disk.fileAt, h]

end Set

/-! ## What a writer leaves -/

/-- The destination is as before, and so is every other file but for a temporary one that must not
    be removed. -/
structure Kept (path : DiskPath) (disk₀ disk : Disk) : Prop where
  destination : disk.fileAt path = disk₀.fileAt path
  others : ∀ p, p ≠ path → disk.fileAt p = disk₀.fileAt p ∨
    disk₀.mayRemove p = false ∧ disk₀.fileAt p = none

/-- The destination has the new content, and every other file is as before. -/
structure Published (path : DiskPath) (bytes : List UInt8) (disk₀ disk : Disk) : Prop where
  destination : disk.fileAt path = some (bytes, 0o600)
  others : ∀ p, p ≠ path → disk.fileAt p = disk₀.fileAt p

/-- Nothing but directories has changed. -/
structure SameFiles (disk₀ disk : Disk) : Prop where
  files : ∀ p, disk.fileAt p = disk₀.fileAt p
  mayRemove : disk.mayRemove = disk₀.mayRemove

/-- A temporary file has come, and nothing else has changed but directories. -/
structure Holds (temporary : DiskPath) (disk₀ : Disk) (written : List UInt8) (mode : Nat)
    (disk : Disk) : Prop where
  content : disk.entries temporary = some (.file written mode)
  fresh : disk₀.fileAt temporary = none
  files : ∀ p, p ≠ temporary → disk.fileAt p = disk₀.fileAt p
  mayRemove : disk.mayRemove = disk₀.mayRemove

/-- The temporary file is there, with any content. -/
def Left (temporary : DiskPath) (disk₀ disk : Disk) : Prop :=
  ∃ written mode, Holds temporary disk₀ written mode disk

variable {path temporary : DiskPath} {disk₀ disk : Disk} {written bytes : List UInt8}
  {mode mode' : Nat} {message : String}

theorem SameFiles.refl : SameFiles disk disk := ⟨fun _ => rfl, rfl⟩

theorem SameFiles.kept (h : SameFiles disk₀ disk) : Kept path disk₀ disk :=
  ⟨h.files path, fun p _ => Or.inl (h.files p)⟩

theorem Holds.left (h : Holds temporary disk₀ written mode disk) :
    Left temporary disk₀ disk :=
  ⟨written, mode, h⟩

/-- The temporary file may change. -/
theorem Holds.set (h : Holds temporary disk₀ written mode disk) :
    Holds temporary disk₀ bytes mode'
      (disk.set temporary (some (.file bytes mode'))) where
  content := set_entries_self
  fresh := h.fresh
  files := fun p hp => by rw [set_fileAt_of_ne hp, h.files p hp]
  mayRemove := h.mayRemove

/-! ## The calls on the temporary file -/

theorem setPermissions_spec :
    Triple (Holds temporary disk₀ written mode) (setPermissions message temporary mode')
      (fun _ => Holds temporary disk₀ written mode') (Left temporary disk₀) := by
  refine Triple.call (fun disk h => h.left) ?_
  intro disk _ disk' h hset
  rw [h.content] at hset
  obtain ⟨-, rfl⟩ := Prod.mk.inj (Except.ok.inj hset)
  exact h.set

/-- Wherever the writing fails, the temporary file is there. -/
theorem writeAll_spec :
    Triple (Holds temporary disk₀ written mode) (writeAll message temporary bytes)
      (fun _ => Holds temporary disk₀ (written ++ bytes) mode)
      (Left temporary disk₀) := by
  induction bytes generalizing written with
  | nil =>
    rw [List.append_nil]
    exact Triple.pure fun disk h => h
  | cons byte bytes ih =>
    refine Triple.bind (Q := fun _ => Holds temporary disk₀ (written ++ [byte]) mode) ?_ ?_
    · refine Triple.call (fun disk h => h.left) ?_
      intro disk _ disk' h hwrite
      rw [h.content] at hwrite
      obtain ⟨-, rfl⟩ := Prod.mk.inj (Except.ok.inj hwrite)
      exact h.set
    · intro _
      rw [List.append_cons written byte bytes]
      exact ih

theorem syncAll_spec :
    Triple (Holds temporary disk₀ written mode) (syncAll message)
      (fun _ => Holds temporary disk₀ written mode) (Left temporary disk₀) := by
  refine Triple.call (fun disk h => h.left) ?_
  intro disk _ disk' h hsync
  obtain ⟨-, rfl⟩ := Prod.mk.inj (Except.ok.inj hsync)
  exact h

theorem rename_spec :
    Triple (Holds temporary disk₀ bytes 0o600) (rename message temporary path)
      (fun _ => Published path bytes disk₀) (Left temporary disk₀) := by
  refine Triple.call (fun disk h => h.left) ?_
  intro disk _ disk' h hrename
  split at hrename
  · next heq =>
    obtain ⟨-, rfl⟩ := Prod.mk.inj (Except.ok.inj hrename)
    subst heq
    exact ⟨fileAt_of_entries h.content, h.files⟩
  next hne =>
  split at hrename
  · cases hrename
  obtain ⟨-, rfl⟩ := Prod.mk.inj (Except.ok.inj hrename)
  refine ⟨?_, fun p hp => ?_⟩
  · rw [set_fileAt_of_ne (Ne.symm hne), fileAt_of_entries (set_entries_self.trans h.content)]
  · by_cases htemp : p = temporary
    · -- the temporary file has moved away
      rw [htemp, h.fresh, Disk.fileAt, set_entries_self]
    · rw [set_fileAt_of_ne htemp, set_fileAt_of_ne hp, h.files p htemp]

/-! ## Giving up -/

/-- What is left counts as kept where it must not be removed. -/
theorem Left.kept_iff (h : Left temporary disk₀ disk) :
    Kept path disk₀ disk ↔ temporary ≠ path ∧ disk₀.mayRemove temporary = false := by
  obtain ⟨written, mode, h⟩ := h
  have hcontent := fileAt_of_entries h.content
  constructor
  · intro hkept
    have hne : temporary ≠ path := by
      rintro rfl
      have hsame := hkept.destination
      rw [hcontent, h.fresh] at hsame
      cases hsame
    obtain hsame | ⟨hremove, -⟩ := hkept.others temporary hne
    · rw [hcontent, h.fresh] at hsame
      cases hsame
    · exact ⟨hne, hremove⟩
  · rintro ⟨hne, hremove⟩
    refine ⟨h.files path (Ne.symm hne), fun p _ => ?_⟩
    by_cases htemp : p = temporary
    · rw [htemp]
      exact Or.inr ⟨hremove, h.fresh⟩
    · exact Or.inl (h.files p htemp)

theorem removeFile_spec (hne : temporary ≠ path) :
    Triple (Left temporary disk₀) (removeFile temporary) (fun _ => Kept path disk₀)
      (Kept path disk₀) := by
  refine Triple.reliably ?_
  intro disk hleft
  obtain ⟨written, mode, h⟩ := hleft
  have hfile : disk.isFile temporary = true := by rw [Disk.isFile, h.content]
  unfold Faulty.call
  dsimp only
  rw [hfile, Bool.and_true]
  by_cases hremove : disk.mayRemove temporary = true
  · rw [if_pos hremove]
    have hfiles : ∀ p, (disk.set temporary none).fileAt p = disk₀.fileAt p := by
      intro p
      by_cases htemp : p = temporary
      · rw [htemp, h.fresh, Disk.fileAt, set_entries_self]
      · rw [set_fileAt_of_ne htemp, h.files p htemp]
    exact ⟨hfiles path, fun p _ => Or.inl (hfiles p)⟩
  · rw [if_neg hremove]
    rw [h.mayRemove] at hremove
    exact h.left.kept_iff.mpr ⟨hne, Bool.eq_false_iff.mpr hremove⟩

theorem cleanup_spec {E : Disk → Prop} (hne : temporary ≠ path) :
    Triple (Left temporary disk₀) (cleanupTemporaryFile temporary)
      (fun _ => Kept path disk₀) E := by
  refine Triple.bind (Triple.attempt (removeFile_spec hne)) fun r => Triple.pure ?_
  cases r <;> exact fun _ h => h

theorem giveUp_spec {α : Type} {Q : α → Disk → Prop} (hne : temporary ≠ path) :
    Triple (Left temporary disk₀)
      (do cleanupTemporaryFile temporary; Faulty.fail message : Faulty Disk α) Q
      (Kept path disk₀) :=
  Triple.bind (cleanup_spec hne) fun _ => Triple.fail fun _ h => h

/-- The guard of a temporary file turns what is left into what is kept. -/
theorem withTemporaryPath_spec {P : Disk → Prop} {body : Faulty Disk Unit}
    {Q : Unit → Disk → Prop} (hne : temporary ≠ path)
    (h : Triple P body Q (Left temporary disk₀)) :
    Triple P (withTemporaryPath temporary body) Q (Kept path disk₀) := by
  refine Triple.bind (Triple.attempt h) fun r => ?_
  cases r with
  | ok _ => exact Triple.pure fun _ h => h
  | error e => exact giveUp_spec hne

/-! ## The temporary file -/

theorem fileName_eq_some {name : List Char} (h : fileName path = some name) :
    path = (parent path).getD [] ++ [name] := by
  unfold fileName at h
  split at h
  · cases h
  next name' hlast =>
  split at h
  · cases h
  obtain rfl := Option.some.inj h
  obtain ⟨before, rfl⟩ := List.getLast?_eq_some_iff.mp hlast
  rw [parent, if_neg (by simp), Option.getD_some, List.dropLast_concat]

/-- The name of a temporary file is longer than that of the file. -/
theorem temporary_ne {name : List Char} (h : fileName path = some name) (uuid : List Char) :
    (parent path).getD [] ++ [temporaryName name uuid] ≠ path := by
  intro heq
  conv_rhs at heq => rw [fileName_eq_some h]
  have hname : temporaryName name uuid = name :=
    List.singleton_inj.mp (List.append_cancel_left heq)
  have hlen := congrArg List.length hname
  simp only [temporaryName, List.length_append, List.length_singleton] at hlen
  omega

theorem SameFiles.created (h : SameFiles disk₀ disk) (hnone : disk.entries temporary = none) :
    Holds temporary disk₀ [] mode (disk.set temporary (some (.file [] mode))) where
  content := set_entries_self
  fresh := by rw [← h.files temporary, Disk.fileAt, hnone]
  files := fun p hp => by rw [set_fileAt_of_ne hp, h.files p]
  mayRemove := h.mayRemove

theorem createNew_spec :
    Triple (SameFiles disk₀) (createNew message temporary mode)
      (fun created disk => if created then Holds temporary disk₀ [] mode disk
        else SameFiles disk₀ disk) (Kept path disk₀) := by
  refine Triple.call (fun disk h => h.kept) ?_
  intro disk created disk' h hcreate
  split at hcreate
  · obtain ⟨rfl, rfl⟩ := Prod.mk.inj (Except.ok.inj hcreate)
    exact h
  next hnone =>
  have hnone : disk.entries temporary = none := by simpa using hnone
  split at hcreate
  · obtain ⟨rfl, rfl⟩ := Prod.mk.inj (Except.ok.inj hcreate)
    exact h.created hnone
  · cases hcreate

theorem openedIsFile_spec :
    Triple (Holds temporary disk₀ [] mode) (openedIsFile message temporary)
      (fun _ => Holds temporary disk₀ [] mode) (Left temporary disk₀) := by
  refine Triple.call (fun disk h => h.left) ?_
  intro disk _ disk' h hopened
  obtain ⟨-, rfl⟩ := Prod.mk.inj (Except.ok.inj hopened)
  exact h

theorem tryTemporaryNames_spec {name : List Char} (hname : fileName path = some name)
    (uuids : List (List Char)) :
    Triple (SameFiles disk₀) (tryTemporaryNames ((parent path).getD []) name uuids)
      (fun temporary disk => Holds temporary disk₀ [] 0o600 disk ∧ temporary ≠ path)
      (Kept path disk₀) := by
  induction uuids with
  | nil => exact Triple.fail fun disk h => h.kept
  | cons uuid uuids ih =>
    have hne := temporary_ne hname uuid
    refine Triple.bind createNew_spec fun created => ?_
    cases created with
    | false => exact ih
    | true =>
      refine Triple.bind (Triple.attempt openedIsFile_spec) fun isFile => ?_
      match isFile with
      | .error e => exact giveUp_spec hne
      | .ok false =>
        exact (giveUp_spec hne).mono (fun disk h => h.left) (fun _ _ h => h) fun _ h => h
      | .ok true => exact Triple.pure fun disk h => ⟨h, hne⟩

/-- Everything up to the rename. -/
theorem writeFileContentsWithSync_spec (disk₀ : Disk) (newUuid : Nat → List Char)
    (path : DiskPath) (bytes : List UInt8) (syncParent : DiskPath → Faulty Disk Unit) :
    Triple (SameFiles disk₀) (writeFileContentsWithSync newUuid path bytes none syncParent)
      (fun _ => Published path bytes disk₀) (Kept path disk₀) := by
  refine Triple.bind
    (Q := fun temporary disk => Holds temporary disk₀ [] 0o600 disk ∧ temporary ≠ path) ?_
    fun temporary => Triple.assume fun hne => ?_
  · unfold createPrivateTemporaryFile
    cases hname : fileName path with
    | none => exact Triple.fail fun disk h => h.kept
    | some name => exact tryTemporaryNames_spec hname _
  · refine Triple.bind (withTemporaryPath_spec hne ?_) fun _ => Triple.pure fun _ h => h
    refine Triple.bind setPermissions_spec fun _ => ?_
    refine Triple.bind writeAll_spec fun _ => ?_
    exact Triple.bind syncAll_spec fun _ => rename_spec

/-! ## The two writers of the persistence layer -/

theorem createDirAll_spec :
    Triple (SameFiles disk₀) (createDirAll message path)
      (fun _ disk => SameFiles disk₀ disk ∧ disk.isFile path = false) (Kept temporary disk₀) := by
  refine Triple.call (fun disk h => h.kept) ?_
  intro disk _ disk' h hcreate
  split at hcreate
  · cases hcreate
  next hfiles =>
  obtain ⟨-, rfl⟩ := Prod.mk.inj (Except.ok.inj hcreate)
  have hfile : ∀ p ∈ path.inits, disk.isFile p = false := by simpa using hfiles
  refine ⟨⟨fun p => ?_, h.mayRemove⟩, ?_⟩
  · -- a directory comes only where there was nothing
    rw [← h.files p, Disk.fileAt, Disk.fileAt]
    dsimp only
    split_ifs with hnew
    · rw [Option.isNone_iff_eq_none.mp (Bool.and_eq_true_iff.mp hnew).2]
    · rfl
  · have hpath := hfile path ((List.mem_inits path path).mpr List.prefix_rfl)
    rw [Disk.isFile] at hpath ⊢
    dsimp only
    split_ifs
    · rfl
    · exact hpath

theorem setPrivateDirectoryPermissions_spec :
    Triple (fun disk => SameFiles disk₀ disk ∧ disk.isFile path = false)
      (setPrivateDirectoryPermissions path) (fun _ => SameFiles disk₀) (Kept temporary disk₀) := by
  refine Triple.bind (Q := fun _ disk => SameFiles disk₀ disk ∧ disk.isFile path = false) ?_
    fun mode => ?_
  · refine Triple.call (fun disk h => h.1.kept) ?_
    intro disk _ disk' h hmode
    split at hmode
    · obtain ⟨-, rfl⟩ := Prod.mk.inj (Except.ok.inj hmode)
      exact h
    · obtain ⟨-, rfl⟩ := Prod.mk.inj (Except.ok.inj hmode)
      exact h
    · cases hmode
  · split
    · exact Triple.pure fun disk h => h.1
    · refine Triple.call (fun disk h => h.1.kept) ?_
      rintro disk _ disk' ⟨h, hfile⟩ hset
      split at hset
      · next heq =>
        rw [Disk.isFile, heq] at hfile
        cases hfile
      · next heq =>
        obtain ⟨-, rfl⟩ := Prod.mk.inj (Except.ok.inj hset)
        refine ⟨fun p => ?_, h.mayRemove⟩
        by_cases hp : p = path
        · rw [hp, ← h.files path, Disk.fileAt, set_entries_self, Disk.fileAt, heq]
        · rw [set_fileAt_of_ne hp, h.files p]
      · cases hset

/-- The steps of `write_user_file_atomically` up to the rename. -/
def userPublication (newUuid : Nat → List Char) (path : DiskPath) (bytes : List UInt8) :
    Faulty Disk Unit := do
  let directory := (parent path).getD []
  createDirAll ("failed to create " ++ display directory) directory
  writeFileContentsWithSync newUuid path bytes none syncParentDirectory

/-- The steps of `write_private_file_atomically` up to the rename. -/
def privatePublication (newUuid : Nat → List Char) (path : DiskPath) (bytes : List UInt8) :
    Faulty Disk Unit := do
  match parent path with
  | some directory => do
    createDirAll ("failed to create " ++ display directory) directory
    setPrivateDirectoryPermissions directory
    writeFileContentsWithSync newUuid path bytes none syncParentDirectory
  | none => writeFileContentsWithSync newUuid path bytes none syncParentDirectory

theorem userPublication_spec (newUuid : Nat → List Char) (path : DiskPath) (bytes : List UInt8) :
    Triple (SameFiles disk₀) (userPublication newUuid path bytes)
      (fun _ => Published path bytes disk₀) (Kept path disk₀) := by
  refine Triple.bind createDirAll_spec fun _ => ?_
  exact (writeFileContentsWithSync_spec disk₀ newUuid path bytes syncParentDirectory).mono
    (fun _ h => h.1) (fun _ _ h => h) fun _ h => h

theorem privatePublication_spec (newUuid : Nat → List Char) (path : DiskPath)
    (bytes : List UInt8) :
    Triple (SameFiles disk₀) (privatePublication newUuid path bytes)
      (fun _ => Published path bytes disk₀) (Kept path disk₀) := by
  have hwrite := writeFileContentsWithSync_spec disk₀ newUuid path bytes
    syncParentDirectory
  unfold privatePublication
  split
  · refine Triple.bind createDirAll_spec fun _ => ?_
    exact Triple.bind setPrivateDirectoryPermissions_spec fun _ => hwrite
  · exact hwrite

/-- A writer whose steps up to the rename are `publication`: if one of them fails it ends there and
    nothing is changed, and otherwise the new content is there whatever comes after. -/
structure ReplacesAtomically (path : DiskPath) (bytes : List UInt8)
    (publication whole : Faulty Disk Unit) : Prop where
  failed : ∀ disk faults e disk' rest, publication disk faults = (.error e, disk', rest) →
    whole disk faults = (.error e, disk', rest) ∧ Kept path disk disk'
  published : ∀ disk faults disk' rest, publication disk faults = (.ok (), disk', rest) →
    (∃ r rest', whole disk faults = (r, disk', rest')) ∧ Published path bytes disk disk'

theorem replacesAtomically_of {publication finish : Faulty Disk Unit}
    (h : ∀ disk, Triple (SameFiles disk) publication (fun _ => Published path bytes disk)
      (Kept path disk))
    (hfinish : ∀ disk faults, ∃ r rest, finish disk faults = (r, disk, rest)) :
    ReplacesAtomically path bytes publication (publication >>= fun _ => finish) where
  failed := by
    intro disk faults e disk' rest hrun
    have hpost := (h disk).run SameFiles.refl faults
    rw [hrun] at hpost
    exact ⟨Faulty.bind_error hrun, hpost⟩
  published := by
    intro disk faults disk' rest hrun
    have hpost := (h disk).run SameFiles.refl faults
    rw [hrun] at hpost
    obtain ⟨r, rest', hlast⟩ := hfinish disk' rest
    exact ⟨⟨r, rest', (Faulty.bind_ok hrun).trans hlast⟩, hpost⟩

theorem syncAll_keeps (message : String) (disk : Disk) (faults : List Bool) :
    ∃ r rest, syncAll message disk faults = (r, disk, rest) := by
  unfold syncAll Faulty.call
  split
  · exact ⟨_, _, rfl⟩
  · exact ⟨_, _, rfl⟩

/-- What comes after the rename. -/
def syncDirectory : Option DiskPath → Faulty Disk Unit
  | some directory => syncParentDirectory directory
  | none => pure ()

theorem syncDirectory_keeps (directory : Option DiskPath) (disk : Disk) (faults : List Bool) :
    ∃ r rest, syncDirectory directory disk faults = (r, disk, rest) := by
  cases directory with
  | none => exact ⟨_, _, rfl⟩
  | some directory => exact syncAll_keeps _ disk faults

theorem writeFileContentsAtomically_eq (newUuid : Nat → List Char) (path : DiskPath)
    (bytes : List UInt8) (directory : Option DiskPath) :
    writeFileContentsAtomically newUuid path bytes directory =
      writeFileContentsWithSync newUuid path bytes none syncParentDirectory >>= fun _ =>
        syncDirectory directory := by
  unfold writeFileContentsAtomically writeFileContentsWithSync
  simp only [bind_assoc, pure_bind]
  cases directory <;> rfl

theorem writeUserFileAtomically_replaces (newUuid : Nat → List Char) (path : DiskPath)
    (bytes : List UInt8) :
    ReplacesAtomically path bytes (userPublication newUuid path bytes)
      (writeUserFileAtomically newUuid path bytes) := by
  have heq : writeUserFileAtomically newUuid path bytes =
      userPublication newUuid path bytes >>= fun _ =>
        syncDirectory (some ((parent path).getD [])) := by
    unfold writeUserFileAtomically userPublication
    simp only [writeFileContentsAtomically_eq, bind_assoc]
  rw [heq]
  exact replacesAtomically_of (fun disk => userPublication_spec newUuid path bytes)
    (syncDirectory_keeps _)

theorem writePrivateFileAtomically_replaces (newUuid : Nat → List Char) (path : DiskPath)
    (bytes : List UInt8) :
    ReplacesAtomically path bytes (privatePublication newUuid path bytes)
      (writePrivateFileAtomically newUuid path bytes) := by
  have heq : writePrivateFileAtomically newUuid path bytes =
      privatePublication newUuid path bytes >>= fun _ => syncDirectory (parent path) := by
    unfold writePrivateFileAtomically privatePublication
    cases parent path with
    | none => exact writeFileContentsAtomically_eq newUuid path bytes none
    | some directory => simp only [writeFileContentsAtomically_eq, bind_assoc]
  rw [heq]
  exact replacesAtomically_of (fun disk => privatePublication_spec newUuid path bytes)
    (syncDirectory_keeps _)

/-! ## The writer of `known_hosts` -/

/-- A path that `create_new` can create. -/
def Disk.Creatable (disk : Disk) (path : DiskPath) : Prop :=
  disk.entries path = none ∧ (parent path).any disk.isDirectory = true

/-- No call fails after the one that creates the temporary file, and the destination is no
    directory. -/
def StepsSucceed (disk : Disk) (path : DiskPath) (bytes : List UInt8) (faults : List Bool) : Prop :=
  Faulty.Faultless (bytes.length + 3) faults.tail ∧ disk.isDirectory path = false

/-- What `atomic_replace` does with its temporary file. -/
def fillAndRename (temporary path : DiskPath) (bytes : List UInt8) : Faulty Disk Unit := do
  writeAll "write_all" temporary bytes
  syncAll "sync_all"
  setPermissions "set_permissions" temporary 0o600
  rename ("cannot replace " ++ display path) temporary path

theorem fillAndRename_spec :
    Triple (Holds temporary disk₀ [] mode) (fillAndRename temporary path bytes)
      (fun _ => Published path bytes disk₀) (Left temporary disk₀) := by
  refine Triple.bind writeAll_spec fun _ => ?_
  refine Triple.bind syncAll_spec fun _ => ?_
  exact Triple.bind setPermissions_spec fun _ => rename_spec

section Runs

open Faulty

variable {faults : List Bool} {k : Unit → Faulty Disk Unit}

theorem set_set {entry entry' : Option Entry} :
    (disk.set path entry).set path entry' = disk.set path entry' := by
  unfold Disk.set
  dsimp only
  rw [Function.update_idem]

theorem writeAll_bind_succeeds_iff :
    Succeeds (writeAll message temporary bytes >>= k)
        (disk.set temporary (some (.file written mode))) faults ↔
      Faultless bytes.length faults ∧
        Succeeds (k ()) (disk.set temporary (some (.file (written ++ bytes) mode)))
          (faults.drop bytes.length) := by
  induction bytes generalizing written faults with
  | nil =>
    rw [writeAll, pure_bind, List.append_nil, List.length_nil, List.drop_zero]
    exact (and_iff_right (faultless_zero faults)).symm
  | cons byte bytes ih =>
    rw [writeAll, bind_assoc, call_bind_succeeds_iff (a := ())
      (t := disk.set temporary (some (.file (written ++ [byte]) mode))), ih, List.length_cons,
      faultless_succ_iff, List.append_assoc, List.singleton_append, List.drop_tail, and_assoc]
    rw [set_entries_self]
    dsimp only
    rw [set_set]

theorem rename_succeeds_iff :
    Succeeds (rename message temporary path) (disk.set temporary (some (.file bytes mode)))
        faults ↔
      faults.head? ≠ some true ∧ (temporary = path ∨ disk.isDirectory path = false) := by
  rw [rename, call_succeeds_iff, set_entries_self]
  by_cases heq : temporary = path
  · simp [heq]
  · have hdir : (disk.set temporary (some (.file bytes mode))).isDirectory path =
        disk.isDirectory path := by
      rw [Disk.isDirectory, Disk.isDirectory, set_entries_of_ne (Ne.symm heq)]
    rw [hdir]
    cases hpath : disk.isDirectory path <;> simp [heq]

theorem fillAndRename_succeeds_iff :
    Succeeds (fillAndRename temporary path bytes)
        (disk.set temporary (some (.file [] mode))) faults ↔
      Faultless (bytes.length + 3) faults ∧
        (temporary = path ∨ disk.isDirectory path = false) := by
  rw [fillAndRename, writeAll_bind_succeeds_iff, List.nil_append, syncAll,
    call_bind_succeeds_iff rfl, setPermissions, call_bind_succeeds_iff (a := ())
    (t := disk.set temporary (some (.file bytes 0o600))), rename_succeeds_iff, faultless_add_iff,
    faultless_succ_iff, faultless_succ_iff, faultless_succ_iff, and_assoc, and_assoc, and_assoc,
    and_iff_left (faultless_zero _)]
  rw [set_entries_self]
  dsimp only
  rw [set_set]

theorem createNew_eq_ok (hhead : faults.head? ≠ some true) (h : disk.Creatable path) :
    createNew message path mode disk faults =
      (.ok true, disk.set path (some (.file [] mode)), faults.tail) := by
  refine call_of_ok hhead ?_
  rw [h.1, h.2]
  rfl

theorem atomicReplace_of_created {uuid : List Char} (hhead : faults.head? ≠ some true)
    (h : disk.Creatable (temporaryPath path uuid)) :
    atomicReplace uuid path bytes disk faults =
      fillAndRename (temporaryPath path uuid) path bytes
        (disk.set (temporaryPath path uuid) (some (.file [] 0o644))) faults.tail :=
  bind_ok (createNew_eq_ok hhead h)

theorem atomicReplace_of_not_created {uuid : List Char} (bytes : List UInt8)
    (h : faults.head? = some true ∨ ¬disk.Creatable (temporaryPath path uuid)) :
    ∃ e rest, atomicReplace uuid path bytes disk faults = (.error e, disk, rest) := by
  by_cases hhead : faults.head? = some true
  · exact ⟨_, _, bind_error (call_of_fault hhead)⟩
  have hcreatable := h.resolve_left hhead
  by_cases hnone : disk.entries (temporaryPath path uuid) = none
  · have hparent : (parent (temporaryPath path uuid)).any disk.isDirectory = false :=
      Bool.eq_false_iff.mpr fun hparent => hcreatable ⟨hnone, hparent⟩
    refine ⟨_, _, bind_error (call_of_error hhead (e := "open") ?_)⟩
    rw [hnone, hparent]
    rfl
  · refine ⟨_, _, bind_ok (call_of_ok hhead (a := false) (t := disk) ?_)⟩
    rw [if_pos (Option.isSome_iff_ne_none.mpr hnone)]

/-- The writer of `known_hosts` changes either everything or nothing iff it creates no temporary
    file, or no later step of it fails, or the file must not be removed anyway. -/
theorem atomicReplace_iff (uuid : List Char) (path : DiskPath) (bytes : List UInt8) (disk : Disk)
    (faults : List Bool) :
    Post (fun _ => Published path bytes disk) (Kept path disk)
        (atomicReplace uuid path bytes disk faults) ↔
      (faults.head? = some true ∨ ¬disk.Creatable (temporaryPath path uuid)) ∨
        StepsSucceed disk path bytes faults ∨
        temporaryPath path uuid ≠ path ∧ disk.mayRemove (temporaryPath path uuid) = false := by
  by_cases hcreate : faults.head? = some true ∨ ¬disk.Creatable (temporaryPath path uuid)
  · obtain ⟨e, rest, hrun⟩ := atomicReplace_of_not_created bytes hcreate
    rw [hrun]
    exact iff_of_true SameFiles.refl.kept (Or.inl hcreate)
  rw [or_iff_right hcreate]
  obtain ⟨hhead, hcreatable⟩ := not_or.mp hcreate
  have hcreated := not_not.mp hcreatable
  rw [atomicReplace_of_created hhead hcreated]
  generalize temporaryPath path uuid = temporary at hcreated ⊢
  -- a destination that does not exist is no directory
  have hdirectory : temporary = path ∨ disk.isDirectory path = false ↔
      disk.isDirectory path = false := by
    refine or_iff_right_of_imp ?_
    rintro rfl
    rw [Disk.isDirectory, hcreated.1]
  have hsucceeds : Succeeds (fillAndRename temporary path bytes)
      (disk.set temporary (some (.file [] 0o644))) faults.tail ↔
      StepsSucceed disk path bytes faults := by
    rw [fillAndRename_succeeds_iff, hdirectory, StepsSucceed]
  have hpost : Post (fun _ => Published path bytes disk) (Left temporary disk)
      (fillAndRename temporary path bytes (disk.set temporary (some (.file [] 0o644)))
        faults.tail) :=
    fillAndRename_spec.run (SameFiles.refl.created hcreated.1) faults.tail
  rcases hrun : fillAndRename temporary path bytes (disk.set temporary (some (.file [] 0o644)))
    faults.tail with ⟨e | a, disk', rest⟩
  · have hfails : ¬StepsSucceed disk path bytes faults := by
      intro hsteps
      obtain ⟨_, _, _, hok⟩ := hsucceeds.mpr hsteps
      rw [hrun] at hok
      cases hok
    rw [hrun] at hpost
    rw [or_iff_right hfails]
    exact Left.kept_iff hpost
  · rw [hrun] at hpost
    exact iff_of_true hpost (Or.inl (hsucceeds.mp ⟨a, disk', rest, hrun⟩))

end Runs

/-! ## The three writers -/

/-- A disk with the working directory only. -/
def emptyDisk : Disk where
  entries path := if path = [] then some (.directory 0o755) else none
  mayRemove _ := true

/-- The two writers of the persistence layer change either everything or nothing, and nothing if a
    step up to the rename fails; that of `known_hosts` does iff no step fails after it has created
    its temporary file, but for one that must not be removed. -/
theorem atomic_replacement (newUuid : Nat → List Char) (path : DiskPath) (bytes : List UInt8) :
    ReplacesAtomically path bytes (userPublication newUuid path bytes)
      (writeUserFileAtomically newUuid path bytes) ∧
    ReplacesAtomically path bytes (privatePublication newUuid path bytes)
      (writePrivateFileAtomically newUuid path bytes) ∧
    ∀ uuid disk faults,
      Post (fun _ => Published path bytes disk) (Kept path disk)
          (atomicReplace uuid path bytes disk faults) ↔
        (faults.head? = some true ∨ ¬disk.Creatable (temporaryPath path uuid)) ∨
          StepsSucceed disk path bytes faults ∨
          temporaryPath path uuid ≠ path ∧ disk.mayRemove (temporaryPath path uuid) = false :=
  ⟨writeUserFileAtomically_replaces newUuid path bytes,
    writePrivateFileAtomically_replaces newUuid path bytes,
    fun uuid disk faults => atomicReplace_iff uuid path bytes disk faults⟩

/-- The second call of `atomic_replace`, which writes the one byte, fails: the temporary file is
    left, and it could be removed. -/
theorem atomicReplace_leaves_temporary :
    ∃ e disk rest, atomicReplace ['u'] [['k']] [1] emptyDisk [false, true] =
        (.error e, disk, rest) ∧
      disk.fileAt [['k', '.', 't', 'm', 'p', '-', 'u']] = some ([], 0o644) ∧
      emptyDisk.fileAt [['k', '.', 't', 'm', 'p', '-', 'u']] = none ∧
      disk.mayRemove [['k', '.', 't', 'm', 'p', '-', 'u']] = true :=
  ⟨_, _, _, rfl, by decide, by decide, by decide⟩

end Persistence

end AxSsh
