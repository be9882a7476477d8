import AxSsh.Spec.BrowserPhases

/-!
# Transfer intents and selection agree with the rows

Three collections describe the transfers a reconnect submits again: the intent map, the
order vector and the row list, with the selection set beside them.  `IntentsConsistent`
states how they fit together, and `step_intentsConsistent` shows that every operation
keeps them so, provided an intent is never registered for a transfer that is already over.

## Key results
- `step_intentsConsistent` / `run_intentsConsistent`: the bookkeeping invariant
- `step_order`: registering appends, everything else only removes
- `transferIntentList_complete`: the replay list names each registered intent once
-/

namespace AxSsh

/-- The transfer an operation registers an intent for. -/
def BrowserOp.registers : BrowserOp → Option Uuid
  | .registerDownloadRootIntent id _ _ _ _ => some id
  | .registerDownloadFileIntent id _ _ _ _ => some id
  | .registerUploadIntent id _ _ _ _ _ => some id
  | _ => none

namespace SftpBrowserState

/-! ## The intent map and its order -/

/-- The order vector enumerates the intent map, and each intent sits under its own id. -/
structure OrderConsistent (s : SftpBrowserState) : Prop where
  nodup : s.transferIntentOrder.Nodup
  mem_iff : ∀ t, t ∈ s.transferIntentOrder ↔ t ∈ s.transferIntents
  keyed : ∀ t intent, s.transferIntents.lookup t = some intent → intent.transferId = t

section Order

variable {s s' : SftpBrowserState}

private theorem OrderConsistent.congr (h : s.OrderConsistent)
    (hi : s'.transferIntents = s.transferIntents)
    (ho : s'.transferIntentOrder = s.transferIntentOrder) : s'.OrderConsistent := by
  refine ⟨?_, ?_, ?_⟩
  · rw [ho]
    exact h.nodup
  · rw [ho, hi]
    exact h.mem_iff
  · rw [hi]
    exact h.keyed

/-- Registering an intent appends its transfer when it is new. -/
private theorem OrderConsistent.registerIntent (h : s.OrderConsistent)
    (intent : SftpTransferIntent) : (s.registerIntent intent).OrderConsistent := by
  have hkeyed : ∀ t intent', (s.registerIntent intent).transferIntents.lookup t = some intent' →
      intent'.transferId = t := by
    intro t intent' hlookup
    have hite := AssocMap.lookup_insert_ite s.transferIntents intent.transferId t intent
    have hlookup' := hite.symm.trans hlookup
    split at hlookup'
    · rename_i ht
      cases hlookup'
      exact ht.symm
    · exact h.keyed t intent' hlookup'
  by_cases hmem : intent.transferId ∈ s.transferIntents
  · refine ⟨?_, fun t => ?_, hkeyed⟩
    · simpa [SftpBrowserState.registerIntent, hmem] using h.nodup
    · simp only [SftpBrowserState.registerIntent, hmem, ↓reduceIte, AList.mem_insert, h.mem_iff]
      exact ⟨.inr, fun hor => hor.elim (fun ht => ht ▸ hmem) id⟩
  · refine ⟨?_, fun t => ?_, hkeyed⟩
    · simp only [SftpBrowserState.registerIntent, hmem, ↓reduceIte]
      rw [List.nodup_append]
      refine ⟨h.nodup, by simp, fun a ha b hb => ?_⟩
      rw [List.mem_singleton] at hb
      rintro rfl
      exact hmem (hb ▸ (h.mem_iff a).mp ha)
    · simp only [SftpBrowserState.registerIntent, hmem, ↓reduceIte, AList.mem_insert,
        List.mem_append, List.mem_singleton, h.mem_iff]
      exact or_comm

/-- Removing an intent removes its transfer from the order. -/
private theorem OrderConsistent.removeTransferIntent (h : s.OrderConsistent) (id : Uuid) :
    (s.removeTransferIntent id).OrderConsistent := by
  refine ⟨h.nodup.filter _, fun t => ?_, fun t intent hlookup => ?_⟩
  · simp only [SftpBrowserState.removeTransferIntent, List.mem_filter, AList.mem_erase,
      h.mem_iff, bne_iff_ne]
    exact and_comm
  · have hite := AssocMap.lookup_erase_ite s.transferIntents id t
    have hlookup' := hite.symm.trans hlookup
    split at hlookup'
    · exact nomatch hlookup'
    · exact h.keyed t intent hlookup'

private theorem completeChild_transferId (path : String) (intent : SftpTransferIntent) :
    (completeChild path intent).transferId = intent.transferId := by
  cases intent <;> rfl

/-- Noting a completed child changes the value of one intent, not its key. -/
private theorem OrderConsistent.markDirectoryChildCompleted (h : s.OrderConsistent) (id : Uuid) :
    (s.markDirectoryChildCompleted id).OrderConsistent := by
  unfold SftpBrowserState.markDirectoryChildCompleted
  split
  · exact h
  · split
    · exact h
    · split
      · rename_i rootId _ path _ _ _ _ _ _ _ _
        refine ⟨h.nodup, fun t => ?_, fun t intent hlookup => ?_⟩
        · exact (h.mem_iff t).trans AssocMap.mem_adjust.symm
        · rw [AssocMap.lookup_adjust_ite] at hlookup
          split at hlookup
          · obtain ⟨old, hold, rfl⟩ := Option.map_eq_some_iff.mp hlookup
            rw [completeChild_transferId]
            rename_i ht
            exact ht ▸ h.keyed _ _ hold
          · exact h.keyed t intent hlookup
      · exact h

private theorem OrderConsistent.forgetInactive (h : s.OrderConsistent) (id : Uuid) :
    (s.forgetInactive id).OrderConsistent := by
  unfold SftpBrowserState.forgetInactive
  split
  · exact h
  · exact OrderConsistent.removeTransferIntent (s := s.deselectTransfer id) (h.congr rfl rfl) id

private theorem OrderConsistent.tryTransfer (h : s.OrderConsistent) (id : Uuid)
    (allowed : SftpTransferState → Bool) (f : SftpTransferState → SftpTransferState) :
    (s.tryTransfer id allowed f).1.OrderConsistent := by
  rw [tryTransfer_fst]
  exact h.congr rfl rfl

private theorem OrderConsistent.finishTransfer (h : s.OrderConsistent) (id : Uuid)
    (phase : SftpTransferPhase) (status : String) :
    (s.finishTransfer id phase status).OrderConsistent := by
  have hrow := OrderConsistent.tryTransfer
    (s := (s.releaseDownloadRoot id).dropUploadConflict id) (h.congr rfl rfl) id
    (fun x => x.phase.finishAllowed phase) (finishedRow phase status)
  unfold SftpBrowserState.finishTransfer
  dsimp only
  split
  · exact hrow
  · split
    · exact (hrow.markDirectoryChildCompleted id).forgetInactive id
    · exact hrow.forgetInactive id

private theorem OrderConsistent.queue (h : s.OrderConsistent) (id : Uuid) (name : String)
    (total : Nat) (direction : SftpTransferDirection) (localPath : Option PathBuf)
    (remotePath : Option String) :
    (s.queueTransferWithPause id name total direction localPath remotePath).OrderConsistent := by
  unfold queueTransferWithPause
  dsimp only
  split
  · exact OrderConsistent.tryTransfer (s := s.dropUploadConflict id) (h.congr rfl rfl) _ _ _
  · exact h.congr rfl rfl

private theorem OrderConsistent.recordTransferFailure (h : s.OrderConsistent) (id : Uuid)
    (name message : String) : (s.recordTransferFailure id name message).OrderConsistent := by
  unfold SftpBrowserState.recordTransferFailure queueTransfer
  split
  · exact h.finishTransfer id _ _
  · exact (h.queue id _ _ _ _ _).finishTransfer id _ _

private theorem OrderConsistent.prepareForReconnect (h : s.OrderConsistent) :
    s.prepareForReconnect.OrderConsistent := by
  refine ⟨h.nodup.filter _, fun t => ?_, fun t intent hlookup => ?_⟩
  · simp only [SftpBrowserState.prepareForReconnect, List.mem_filter, decide_eq_true_eq,
      h.mem_iff]
    refine and_iff_right_of_imp fun hmem => ?_
    obtain ⟨intent, hlookup, _⟩ := AssocMap.mem_retain.mp hmem
    exact AssocMap.mem_iff_lookup.mpr ⟨intent, hlookup⟩
  · have hret := AssocMap.lookup_retain
      (fun _ (i : SftpTransferIntent) => i.survivesReconnect) s.transferIntents t
    exact h.keyed t intent (Option.filter_eq_some_iff.mp (hret.symm.trans hlookup)).1

/-- No operation breaks the order vector. -/
theorem step_orderConsistent (h : s.OrderConsistent) (op : BrowserOp) :
    (s.step op).OrderConsistent := by
  cases op with
  | registerDownloadRootIntent | registerDownloadFileIntent | registerUploadIntent =>
    exact h.registerIntent _
  | removeTransferIntent id => exact h.removeTransferIntent id
  | queueTransfer | queueUploadTransfer | queueTransferEvent => exact h.queue _ _ _ _ _ _
  -- the row is queued and then written: the order is that of the queue
  | beginDownloadDiscovery id name localPath remotePath =>
    have hqueued := h.queue id name 0 .download (some localPath) (some remotePath)
    exact OrderConsistent.tryTransfer
      (s := (s.queueTransferEvent id name 0 false (some localPath) (some remotePath)).scanDownloadRoot
        id) (hqueued.congr rfl rfl) id _ _
  | setTransferStatus | startTransfer | updateTransferProgress | requestTransferPause
  | pauseTransfer | requestTransferResume | resumeTransfer => exact h.tryTransfer _ _ _
  | deferRecoverableFailure id =>
    exact OrderConsistent.tryTransfer (s := s.releaseDownloadRoot id) (h.congr rfl rfl) id _ _
  | requestTransferCancel id =>
    show (s.requestTransferCancel id).1.OrderConsistent
    unfold requestTransferCancel
    dsimp only
    split
    · exact (h.tryTransfer _ _ _).removeTransferIntent id
    · exact h.tryTransfer _ _ _
  | recordUploadConflict conflict =>
    show (s.recordUploadConflict conflict).OrderConsistent
    unfold recordUploadConflict
    dsimp only
    split
    · exact (h.tryTransfer _ _ _).congr rfl rfl
    · exact h.tryTransfer _ _ _
  | resolveUploadConflict => exact h.congr rfl rfl
  | finishTransfer | finishUploadedTransfer => exact h.finishTransfer _ _ _
  | finishDownloadedTransfer id total localPath =>
    show (s.finishDownloadedTransfer id total localPath).1.OrderConsistent
    unfold finishDownloadedTransfer
    dsimp only
    split
    · exact h.tryTransfer _ _ _
    · have hmark := (h.tryTransfer id downloadFinishAllowed
        (downloadedRow total localPath)).markDirectoryChildCompleted id
      exact OrderConsistent.removeTransferIntent (s := SftpBrowserState.deselectTransfer _ id)
        (hmark.congr rfl rfl) id
  | finishDownloadRoot id discovered skipped failed cancelled message =>
    show (s.finishDownloadRoot id discovered skipped failed cancelled message).OrderConsistent
    unfold finishDownloadRoot
    split
    · exact h.congr rfl rfl
    · exact OrderConsistent.finishTransfer (s := s.releaseDownloadRoot id) (h.congr rfl rfl) id _ _
  | failDownloadRoot id name message =>
    refine OrderConsistent.recordTransferFailure
      (s := (s.releaseDownloadRoot id).removeTransferIntent id) ?_ id name message
    exact OrderConsistent.removeTransferIntent (s := s.releaseDownloadRoot id) (h.congr rfl rfl) id
  | recordTransferFailure => exact h.recordTransferFailure _ _ _
  | removeFinishedTransfer id =>
    show (s.removeFinishedTransfer id).1.OrderConsistent
    unfold removeFinishedTransfer
    split
    · exact h.congr rfl rfl
    · exact h
  | reserveDownloadRoot id =>
    show (s.reserveDownloadRoot id).1.OrderConsistent
    unfold reserveDownloadRoot
    split
    · exact h
    · exact h.congr rfl rfl
  | registerDiscoveredDownloadIntent rootId id =>
    show (s.registerDiscoveredDownloadIntent rootId id).OrderConsistent
    unfold registerDiscoveredDownloadIntent
    split
    · exact h.congr rfl rfl
    · exact h
  | toggleTransferSelection id selected =>
    show (s.toggleTransferSelection id selected).1.OrderConsistent
    unfold toggleTransferSelection
    split
    · exact h.congr rfl rfl
    · exact h
  | prepareForReconnect => exact h.prepareForReconnect
  | finishReplay | browse => exact h.congr rfl rfl
  -- without rows there is nothing to order
  | clearTransferIntents | reset =>
    exact ⟨List.nodup_nil, fun t => by simp [step, clearTransferIntents, reset],
      fun t _ h => by cases h⟩

/-! ## What an operation adds -/

/-- The order vector and the selection lose members at most. -/
def Shrinks (s s' : SftpBrowserState) : Prop :=
  s'.transferIntentOrder.Sublist s.transferIntentOrder ∧
    s'.selectedTransfers ⊆ s.selectedTransfers

private theorem Shrinks.of_eq (ho : s'.transferIntentOrder = s.transferIntentOrder)
    (hsel : s'.selectedTransfers = s.selectedTransfers) : Shrinks s s' :=
  ⟨ho ▸ List.Sublist.refl _, hsel ▸ Finset.Subset.refl _⟩

private theorem Shrinks.trans {s'' : SftpBrowserState} (h : Shrinks s s') (h' : Shrinks s' s'') :
    Shrinks s s'' := ⟨h'.1.trans h.1, h'.2.trans h.2⟩

private theorem shrinks_tryTransfer (s : SftpBrowserState) (id : Uuid)
    (allowed : SftpTransferState → Bool) (f : SftpTransferState → SftpTransferState) :
    Shrinks s (s.tryTransfer id allowed f).1 := by
  rw [tryTransfer_fst]
  exact .of_eq rfl rfl

private theorem shrinks_removeTransferIntent (s : SftpBrowserState) (id : Uuid) :
    Shrinks s (s.removeTransferIntent id) :=
  ⟨List.filter_sublist, Finset.Subset.refl _⟩

private theorem shrinks_markDirectoryChildCompleted (s : SftpBrowserState) (id : Uuid) :
    Shrinks s (s.markDirectoryChildCompleted id) := by
  unfold markDirectoryChildCompleted
  split
  · exact .of_eq rfl rfl
  · split
    · exact .of_eq rfl rfl
    · split <;> exact .of_eq rfl rfl

private theorem shrinks_deselectTransfer (s : SftpBrowserState) (id : Uuid) :
    Shrinks s (s.deselectTransfer id) :=
  ⟨List.Sublist.refl _, Finset.erase_subset _ _⟩

private theorem shrinks_forgetInactive (s : SftpBrowserState) (id : Uuid) :
    Shrinks s (s.forgetInactive id) := by
  unfold forgetInactive
  split
  · exact .of_eq rfl rfl
  · exact (shrinks_deselectTransfer s id).trans (shrinks_removeTransferIntent _ id)

private theorem shrinks_finishTransfer (s : SftpBrowserState) (id : Uuid)
    (phase : SftpTransferPhase) (status : String) :
    Shrinks s (s.finishTransfer id phase status) := by
  have hbase : Shrinks s ((s.releaseDownloadRoot id).dropUploadConflict id) := .of_eq rfl rfl
  have hrow := hbase.trans (shrinks_tryTransfer _ id
    (fun x => x.phase.finishAllowed phase) (finishedRow phase status))
  unfold finishTransfer
  dsimp only
  split
  · exact hrow
  · split
    · exact (hrow.trans (shrinks_markDirectoryChildCompleted _ id)).trans
        (shrinks_forgetInactive _ id)
    · exact hrow.trans (shrinks_forgetInactive _ id)

private theorem shrinks_queue (s : SftpBrowserState) (id : Uuid) (name : String) (total : Nat)
    (direction : SftpTransferDirection) (localPath : Option PathBuf)
    (remotePath : Option String) :
    Shrinks s (s.queueTransferWithPause id name total direction localPath remotePath) := by
  unfold queueTransferWithPause
  dsimp only
  split
  · exact Shrinks.trans (Shrinks.of_eq rfl rfl : Shrinks s (s.dropUploadConflict id))
      (shrinks_tryTransfer _ _ _ _)
  · exact .of_eq rfl rfl

private theorem shrinks_recordTransferFailure (s : SftpBrowserState) (id : Uuid)
    (name message : String) : Shrinks s (s.recordTransferFailure id name message) := by
  unfold recordTransferFailure queueTransfer
  split
  · exact shrinks_finishTransfer s id _ _
  · exact (shrinks_queue s id _ _ _ _ _).trans (shrinks_finishTransfer _ id _ _)

/-- Only a registration adds to the order vector, and only a toggle to the selection. -/
theorem step_shrinks (op : BrowserOp) (hreg : op.registers = none)
    (htoggle : ∀ id selected, op ≠ .toggleTransferSelection id selected) :
    Shrinks s (s.step op) := by
  cases op with
  -- the two operations that add something are excluded
  | registerDownloadRootIntent | registerDownloadFileIntent | registerUploadIntent =>
    exact nomatch hreg
  | toggleTransferSelection id selected => exact absurd rfl (htoggle id selected)
  | removeTransferIntent id => exact shrinks_removeTransferIntent s id
  | queueTransfer | queueUploadTransfer | queueTransferEvent => exact shrinks_queue s _ _ _ _ _ _
  | beginDownloadDiscovery id name localPath remotePath =>
    have hqueued := shrinks_queue s id name 0 .download (some localPath) (some remotePath)
    exact (hqueued.trans (.of_eq rfl rfl)).trans (shrinks_tryTransfer
      ((s.queueTransferEvent id name 0 false (some localPath) (some remotePath)).scanDownloadRoot
        id) id _ _)
  | setTransferStatus | startTransfer | updateTransferProgress | requestTransferPause
  | pauseTransfer | requestTransferResume | resumeTransfer => exact shrinks_tryTransfer s _ _ _
  | deferRecoverableFailure id =>
    exact Shrinks.trans (Shrinks.of_eq rfl rfl : Shrinks s (s.releaseDownloadRoot id))
      (shrinks_tryTransfer _ id _ _)
  | requestTransferCancel id =>
    show Shrinks s (s.requestTransferCancel id).1
    have hrow := shrinks_tryTransfer s id (fun x => x.phase.canRequestCancel) cancellingRow
    unfold requestTransferCancel
    dsimp only
    split
    · exact hrow.trans (shrinks_removeTransferIntent _ id)
    · exact hrow
  | recordUploadConflict conflict =>
    show Shrinks s (s.recordUploadConflict conflict)
    have hrow := shrinks_tryTransfer s conflict.transferId conflictAllowed conflictRow
    unfold recordUploadConflict
    dsimp only
    split
    · exact hrow.trans (.of_eq rfl rfl)
    · exact hrow
  | finishTransfer | finishUploadedTransfer => exact shrinks_finishTransfer s _ _ _
  | finishDownloadedTransfer id total localPath =>
    show Shrinks s (s.finishDownloadedTransfer id total localPath).1
    have hrow := shrinks_tryTransfer s id downloadFinishAllowed (downloadedRow total localPath)
    unfold finishDownloadedTransfer
    dsimp only
    split
    · exact hrow
    · exact ((hrow.trans (shrinks_markDirectoryChildCompleted _ id)).trans
        (shrinks_deselectTransfer _ id)).trans (shrinks_removeTransferIntent _ id)
  | finishDownloadRoot id discovered skipped failed cancelled message =>
    show Shrinks s (s.finishDownloadRoot id discovered skipped failed cancelled message)
    unfold finishDownloadRoot
    split
    · exact .of_eq rfl rfl
    · exact Shrinks.trans (Shrinks.of_eq rfl rfl : Shrinks s (s.releaseDownloadRoot id))
        (shrinks_finishTransfer _ id _ _)
  | failDownloadRoot id name message =>
    have hroot : Shrinks s (s.releaseDownloadRoot id) := .of_eq rfl rfl
    exact (hroot.trans (shrinks_removeTransferIntent _ id)).trans
      (shrinks_recordTransferFailure _ id name message)
  | recordTransferFailure => exact shrinks_recordTransferFailure s _ _ _
  | removeFinishedTransfer id =>
    show Shrinks s (s.removeFinishedTransfer id).1
    unfold removeFinishedTransfer
    split
    · exact ⟨List.Sublist.refl _, Finset.erase_subset _ _⟩
    · exact .of_eq rfl rfl
  | reserveDownloadRoot id =>
    show Shrinks s (s.reserveDownloadRoot id).1
    unfold reserveDownloadRoot
    split <;> exact .of_eq rfl rfl
  | registerDiscoveredDownloadIntent rootId id =>
    show Shrinks s (s.registerDiscoveredDownloadIntent rootId id)
    unfold registerDiscoveredDownloadIntent
    split <;> exact .of_eq rfl rfl
  | prepareForReconnect => exact ⟨List.filter_sublist, Finset.empty_subset _⟩
  | resolveUploadConflict | finishReplay | browse => exact .of_eq rfl rfl
  | clearTransferIntents | reset => exact ⟨List.nil_sublist _, Finset.empty_subset _⟩

/-- Registering an intent appends its transfer to the order when it is new; every other
    operation keeps the order of what it leaves. -/
theorem step_order (op : BrowserOp) :
    (∀ t, op.registers = some t →
      (s.step op).transferIntentOrder =
        if t ∈ s.transferIntents then s.transferIntentOrder
        else s.transferIntentOrder ++ [t]) ∧
    (op.registers = none →
      (s.step op).transferIntentOrder.Sublist s.transferIntentOrder) := by
  refine ⟨fun t ht => ?_, fun hreg => ?_⟩
  · cases op with
    | registerDownloadRootIntent | registerDownloadFileIntent | registerUploadIntent =>
      cases ht
      rfl
    | _ => exact nomatch ht
  · by_cases htoggle : ∃ id selected, op = .toggleTransferSelection id selected
    · obtain ⟨id, selected, rfl⟩ := htoggle
      show (s.toggleTransferSelection id selected).1.transferIntentOrder.Sublist _
      unfold toggleTransferSelection
      split <;> exact List.Sublist.refl _
    · exact (step_shrinks op hreg fun id selected h => htoggle ⟨id, selected, h⟩).1

end Order

/-! ## The selection -/

/-- Every selected transfer is listed. -/
def SelectionListed (s : SftpBrowserState) : Prop := ∀ t ∈ s.selectedTransfers, t ∈ s.ids

/-- No operation leaves an unlisted transfer selected. -/
theorem step_selectionListed {s : SftpBrowserState} (h : s.SelectionListed) (op : BrowserOp) :
    (s.step op).SelectionListed := by
  cases hdrop : op.dropsRows with
  | true =>
    cases op with
    | prepareForReconnect | clearTransferIntents | reset =>
      exact fun t ht => absurd ht (Finset.notMem_empty t)
    | removeFinishedTransfer id =>
      show (s.removeFinishedTransfer id).1.SelectionListed
      unfold removeFinishedTransfer
      split
      · intro t ht
        obtain ⟨hne, hsel⟩ := Finset.mem_erase.mp ht
        obtain ⟨x, hx, hid⟩ := List.mem_map.mp (h t hsel)
        -- the row that goes belongs to the transfer that was just deselected
        refine List.mem_map.mpr ⟨x, ?_, hid⟩
        exact (List.mem_eraseP_of_neg (by simp [hid, hne])).mpr hx
      · exact h
    | _ => exact nomatch hdrop
  | false =>
    have hids := ids_subset_step (s := s) hdrop
    by_cases hreg : op.registers = none
    · by_cases htoggle : ∃ id selected, op = .toggleTransferSelection id selected
      · obtain ⟨id, selected, rfl⟩ := htoggle
        show (s.toggleTransferSelection id selected).1.SelectionListed
        unfold toggleTransferSelection
        split
        · rename_i hlisted
          obtain ⟨x, hx, hxid⟩ := List.any_eq_true.mp hlisted
          intro t ht
          dsimp only at ht
          split at ht
          · rcases Finset.mem_insert.mp ht with rfl | ht
            · rw [Bool.and_eq_true, beq_iff_eq] at hxid
              exact List.mem_map.mpr ⟨x, hx, hxid.1⟩
            · exact h t ht
          · exact h t (Finset.mem_of_mem_erase ht)
        · exact h
      · have hsub := (step_shrinks (s := s) op hreg
          fun id selected he => htoggle ⟨id, selected, he⟩).2
        exact fun t ht => hids (h t (hsub ht))
    · cases op with
      | registerDownloadRootIntent | registerDownloadFileIntent | registerUploadIntent => exact h
      | _ => exact absurd rfl hreg

/-! ## Finished transfers have no intent -/

/-- A finished transfer has no intent. -/
def FinishedUnregistered (s : SftpBrowserState) : Prop :=
  ∀ t x, s.transfer? t = some x → x.phase.terminal → t ∉ s.transferIntents

/-- A row that an operation leaves finished was finished before, or has lost its intent. -/
def Forgets (s s' : SftpBrowserState) (t : Uuid) : Prop :=
  ∀ y, s'.transfer? t = some y → y.phase.terminal →
    (∃ x, s.transfer? t = some x ∧ x.phase.terminal) ∨ t ∉ s'.transferIntents

section Finished

variable {s s' : SftpBrowserState} {id t : Uuid}

private theorem forgets_of_eq (h : s'.transfer? t = s.transfer? t) : Forgets s s' t :=
  fun y hy hp => .inl ⟨y, h.symm.trans hy, hp⟩

/-- An update of one row that finishes nothing. -/
private theorem forgets_of_row {f : SftpTransferState → SftpTransferState}
    (h : s'.transfer? t = if t = id then (s.transfer? id).map f else s.transfer? t)
    (hf : ∀ x, (f x).phase.terminal → x.phase.terminal) : Forgets s s' t := by
  intro y hy hp
  rw [h] at hy
  split at hy
  · rename_i ht
    obtain ⟨x, hx, rfl⟩ := Option.map_eq_some_iff.mp hy
    exact .inl ⟨x, ht ▸ hx, hf x hp⟩
  · exact .inl ⟨y, hy, hp⟩

private theorem guarded_terminal {allowed : SftpTransferState → Bool}
    {f : SftpTransferState → SftpTransferState}
    (hf : ∀ x, (f x).phase.terminal → x.phase.terminal) (x : SftpTransferState)
    (h : (guarded allowed f x).phase.terminal) : x.phase.terminal := by
  unfold guarded at h
  split at h
  · exact hf x h
  · exact h

private theorem forgets_tryTransfer {allowed : SftpTransferState → Bool}
    {f : SftpTransferState → SftpTransferState} (hid : ∀ x, (f x).id = x.id)
    (hf : ∀ x, (f x).phase.terminal → x.phase.terminal) :
    Forgets s (s.tryTransfer id allowed f).1 t :=
  forgets_of_row (transfer?_tryTransfer hid t) (guarded_terminal hf)

private theorem activePhase_not_terminal (direction : SftpTransferDirection) :
    ¬direction.activePhase.terminal := by
  cases direction <;> exact fun h => nomatch h

/-- With its row finished, a transfer loses its intent. -/
private theorem notMem_forgetInactive (hs : s.ids.Nodup) {x : SftpTransferState}
    (hx : s.transfer? id = some x) (hp : x.phase.active = false) :
    id ∉ (s.forgetInactive id).transferIntents := by
  unfold forgetInactive
  split
  · rename_i hactive
    obtain ⟨z, hz, hzp⟩ := List.any_eq_true.mp hactive
    rw [Bool.and_eq_true, beq_iff_eq] at hzp
    have hzx : s.transfer? id = some z :=
      (List.findKey_eq_some_iff hs).mpr ⟨hz, hzp.1⟩
    rw [hx] at hzx
    cases hzx
    rw [hp] at hzp
    exact nomatch hzp.2
  · show id ∉ s.transferIntents.erase id
    rw [AList.mem_erase]
    exact fun h => h.1 rfl

/-- An allowed finish ends with the cleanup of its transfer. -/
private theorem finishTransfer_eq_forget {phase : SftpTransferPhase} (status : String)
    (h : (s.transfer? id).any fun x => x.phase.finishAllowed phase) :
    ∃ u : SftpBrowserState, s.finishTransfer id phase status = u.forgetInactive id := by
  have hbase : (((s.releaseDownloadRoot id).dropUploadConflict id).tryTransfer id
      (fun x => x.phase.finishAllowed phase) (finishedRow phase status)).2 = true := by
    rw [tryTransfer_snd]
    exact h
  unfold finishTransfer
  dsimp only
  rw [hbase]
  split
  · rename_i hnot
    exact nomatch hnot
  · split
    · exact ⟨_, rfl⟩
    · exact ⟨_, rfl⟩

private theorem forgets_finishTransfer (hs : s.ids.Nodup) (phase : SftpTransferPhase)
    (status : String) : Forgets s (s.finishTransfer id phase status) t := by
  intro y hy hp
  have hrow := transfer?_finishTransfer s id phase status t
  by_cases ht : t = id
  · subst ht
    rw [if_pos rfl, hy] at hrow
    obtain ⟨x, hx, hxy⟩ := Option.map_eq_some_iff.mp hrow.symm
    by_cases hallowed : x.phase.finishAllowed phase
    · right
      have hany : (s.transfer? t).any fun x => x.phase.finishAllowed phase := by
        rw [hx]
        exact hallowed
      -- finishing forgets the intents of transfers that are not active any more
      obtain ⟨u, hu⟩ := finishTransfer_eq_forget status hany
      have hrows : (s.finishTransfer t phase status).transfers = u.transfers := by
        rw [hu, transfers_forgetInactive]
      have hnodup : (s.finishTransfer t phase status).ids.Nodup :=
        step_nodup_ids hs (.finishTransfer t phase status)
      rw [hu]
      refine notMem_forgetInactive (x := y) ?_ ?_ ?_
      · unfold ids at hnodup ⊢
        rw [← hrows]
        exact hnodup
      · rw [← transfer?_congr hrows]
        exact hy
      · rw [SftpTransferPhase.terminal_eq_not_active] at hp
        simpa using hp
    · left
      unfold guarded at hxy
      rw [if_neg hallowed] at hxy
      exact ⟨x, hx, hxy ▸ hp⟩
  · rw [if_neg ht] at hrow
    exact forgets_of_eq hrow y hy hp

/-- A queued row is finished only if it was before. -/
private theorem afterQueue_terminal {row : Option SftpTransferState} {name : String} {total : Nat}
    {direction : SftpTransferDirection} {localPath : Option PathBuf} {remotePath : Option String}
    (h : (afterQueue id name total direction localPath remotePath row).phase.terminal) :
    ∃ x, row = some x ∧ x.phase.terminal := by
  cases row with
  | none => exact nomatch h
  | some x =>
    exact ⟨x, rfl, guarded_terminal (f := requeuedRow name total localPath remotePath)
      (fun _ hx => nomatch hx) x h⟩

/-- An operation that writes one row, finished only if it was before. -/
private theorem forgets_of_written {y : SftpTransferState}
    (h : s'.transfer? t = if t = id then some y else s.transfer? t)
    (hy : y.phase.terminal → ∃ x, s.transfer? id = some x ∧ x.phase.terminal) :
    Forgets s s' t := by
  intro z hz hp
  rw [h] at hz
  split at hz
  · rename_i ht
    cases hz
    rw [ht]
    exact .inl (hy hp)
  · exact .inl ⟨z, hz, hp⟩

private theorem forgets_queue (name : String) (total : Nat) (direction : SftpTransferDirection)
    (localPath : Option PathBuf) (remotePath : Option String) :
    Forgets s (s.queueTransferWithPause id name total direction localPath remotePath) t :=
  forgets_of_written
    (transfer?_queueTransferWithPause s id name total direction localPath remotePath t)
    afterQueue_terminal

private theorem Forgets.trans {s'' : SftpBrowserState} (h : Forgets s s' t)
    (h' : Forgets s' s'' t) (hsub : t ∈ s''.transferIntents → t ∈ s'.transferIntents) :
    Forgets s s'' t := by
  intro y hy hp
  rcases h' y hy hp with ⟨z, hz, hzp⟩ | hnot
  · rcases h z hz hzp with hx | hnot
    · exact .inl hx
    · exact .inr fun hmem => hnot (hsub hmem)
  · exact .inr hnot

private theorem forgets_recordTransferFailure (hs : s.ids.Nodup) (ho : s.OrderConsistent)
    (name message : String) : Forgets s (s.recordTransferFailure id name message) t := by
  unfold recordTransferFailure queueTransfer
  split
  · exact forgets_finishTransfer hs _ _
  · have hnodup : (s.queueTransferWithPause id name 0 .download none none).ids.Nodup :=
      step_nodup_ids hs (.queueTransfer id name 0)
    have hqueued := ho.queue id name 0 .download none none
    have hsub := (shrinks_finishTransfer
      (s.queueTransferWithPause id name 0 .download none none) id .failed message).1
    refine (forgets_queue name 0 .download none none).trans
      (forgets_finishTransfer hnodup .failed message) fun hmem => ?_
    exact (hqueued.mem_iff t).mp (hsub.subset
      (((hqueued.finishTransfer id .failed message).mem_iff t).mpr hmem))

private theorem forgets_finishDownloadedTransfer (total : Nat) (localPath : PathBuf) :
    Forgets s (s.finishDownloadedTransfer id total localPath).1 t := by
  by_cases ht : t = id
  · subst ht
    unfold finishDownloadedTransfer
    dsimp only
    split
    · rename_i hnot
      rw [tryTransfer_snd] at hnot
      intro y hy hp
      rw [transfer?_tryTransfer (f := downloadedRow total localPath) (fun _ => rfl),
        if_pos rfl] at hy
      obtain ⟨x, hx, hxy⟩ := Option.map_eq_some_iff.mp hy
      rw [hx] at hnot
      unfold guarded at hxy
      rw [if_neg (by simpa using hnot)] at hxy
      exact .inl ⟨x, hx, hxy ▸ hp⟩
    · refine fun y _ _ => .inr ?_
      show t ∉ AList.erase t _
      rw [AList.mem_erase]
      exact fun h => h.1 rfl
  · have h := transfer?_finishDownloadedTransfer s id total localPath t
    rw [if_neg ht] at h
    exact forgets_of_eq h

/-- Every operation that finishes a row drops the intent of its transfer. -/
private theorem step_forgets (hs : s.ids.Nodup) (ho : s.OrderConsistent) (op : BrowserOp) :
    Forgets s (s.step op) t := by
  cases op with
  | queueTransfer | queueUploadTransfer | queueTransferEvent => exact forgets_queue _ _ _ _ _
  | beginDownloadDiscovery id name localPath remotePath =>
    exact forgets_of_written (transfer?_beginDownloadDiscovery s id name localPath remotePath t)
      afterQueue_terminal
  | setTransferStatus => exact forgets_tryTransfer (fun _ => rfl) fun _ h => h
  -- an active phase is not terminal
  | startTransfer => exact forgets_tryTransfer (fun _ => rfl) fun x h => absurd h (activePhase_not_terminal x.direction)
  | updateTransferProgress =>
    exact forgets_tryTransfer (fun _ => rfl) fun x h => absurd h (activePhase_not_terminal x.direction)
  | resumeTransfer => exact forgets_tryTransfer (fun _ => rfl) fun x h => absurd h (activePhase_not_terminal x.direction)
  | requestTransferPause | pauseTransfer | requestTransferResume =>
    exact forgets_tryTransfer (fun _ => rfl) fun _ h => nomatch h
  | deferRecoverableFailure id message =>
    exact forgets_tryTransfer (s := s.releaseDownloadRoot id) (f := deferredRow message)
      (fun _ => rfl) fun _ h => nomatch h
  | requestTransferCancel id =>
    exact forgets_of_row (transfer?_requestTransferCancel s id t)
      (guarded_terminal (f := cancellingRow) fun _ h => nomatch h)
  | recordUploadConflict conflict =>
    exact forgets_of_row (transfer?_recordUploadConflict s conflict t)
      (guarded_terminal (f := conflictRow) fun _ h => nomatch h)
  | resolveUploadConflict id applyToBatch =>
    intro y hy hp
    have h := (transfer?_resolveUploadConflict s id applyToBatch t).symm.trans hy
    obtain ⟨x, hx, rfl⟩ := Option.map_eq_some_iff.mp h
    refine .inl ⟨x, hx, ?_⟩
    unfold resolvedRow at hp
    split at hp
    · exact nomatch hp
    · exact hp
  | finishTransfer | finishUploadedTransfer => exact forgets_finishTransfer hs _ _
  | finishDownloadedTransfer => exact forgets_finishDownloadedTransfer _ _
  | finishDownloadRoot id discovered skipped failed cancelled message =>
    show Forgets s (s.finishDownloadRoot id discovered skipped failed cancelled message) t
    unfold finishDownloadRoot
    split
    · exact forgets_of_eq rfl
    · exact forgets_finishTransfer (s := s.releaseDownloadRoot id) hs _ _
  -- the intent goes before the failure is recorded
  | failDownloadRoot id name message =>
    have hroot : (s.releaseDownloadRoot id).OrderConsistent := ho.congr rfl rfl
    exact forgets_recordTransferFailure (s := (s.releaseDownloadRoot id).removeTransferIntent id)
      hs (hroot.removeTransferIntent id) name message
  | recordTransferFailure => exact forgets_recordTransferFailure hs ho _ _
  | removeFinishedTransfer id =>
    intro y hy hp
    have h := (transfer?_removeFinishedTransfer hs id t).symm.trans hy
    exact .inl ⟨y, (Option.filter_eq_some_iff.mp h).1, hp⟩
  | prepareForReconnect =>
    intro y hy hp
    have h := (transfer?_prepareForReconnect hs t).symm.trans hy
    obtain ⟨x, hx, rfl⟩ := Option.map_eq_some_iff.mp h
    refine .inl ⟨x, (Option.filter_eq_some_iff.mp hx).1, ?_⟩
    unfold reconnectedRow at hp
    split at hp
    · exact nomatch hp
    · exact hp
  | reserveDownloadRoot =>
    exact forgets_of_eq (transfer?_congr (transfers_reserveDownloadRoot s _) t)
  | registerDiscoveredDownloadIntent =>
    exact forgets_of_eq (transfer?_congr (transfers_registerDiscoveredDownloadIntent s _ _) t)
  | toggleTransferSelection =>
    exact forgets_of_eq (transfer?_congr (transfers_toggleTransferSelection s _ _) t)
  | registerDownloadRootIntent | registerDownloadFileIntent | registerUploadIntent
  | removeTransferIntent | finishReplay | browse => exact forgets_of_eq rfl
  | clearTransferIntents | reset => exact fun y hy => nomatch hy

end Finished

/-! ## The bookkeeping invariant -/

/-- How the intents, their order, the rows and the selection fit together. -/
structure BookkeepingConsistent (s : SftpBrowserState) : Prop extends OrderConsistent s where
  ids_nodup : s.ids.Nodup
  selection : s.SelectionListed

/-- A step that registers an intent names a transfer that is not over. -/
def RegistersUnfinished (s : SftpBrowserState) (op : BrowserOp) : Prop :=
  ∀ t, op.registers = some t → ∀ p, s.phase? t = some p → p.terminal = false

/-- Every registration of a run names a transfer that is not over. -/
def AlwaysRegistersUnfinished (ops : List BrowserOp) : Prop :=
  ∀ pre op, pre ++ [op] <+: ops → (run {} pre).RegistersUnfinished op

/-- No operation breaks the bookkeeping. -/
theorem step_bookkeepingConsistent {s : SftpBrowserState} (h : s.BookkeepingConsistent)
    (op : BrowserOp) : (s.step op).BookkeepingConsistent where
  toOrderConsistent := step_orderConsistent h.toOrderConsistent op
  ids_nodup := step_nodup_ids h.ids_nodup op
  selection := step_selectionListed h.selection op

/-- Over every run, the bookkeeping is consistent. -/
theorem run_bookkeeping (ops : List BrowserOp) : (run {} ops).BookkeepingConsistent := by
  induction ops using List.reverseRecOn with
  | nil =>
    refine ⟨⟨List.nodup_nil, fun t => ?_, fun t _ h => nomatch h⟩, List.nodup_nil, ?_⟩
    · simp
    · exact fun t ht => absurd ht (Finset.notMem_empty t)
  | append_singleton ops op ih =>
    rw [run_snoc]
    exact step_bookkeepingConsistent ih op

/-- An operation that registers no intent adds none. -/
private theorem mem_transferIntents_of_step {s : SftpBrowserState} (h : s.OrderConsistent)
    {op : BrowserOp} (hreg : op.registers = none) {t : Uuid}
    (ht : t ∈ (s.step op).transferIntents) : t ∈ s.transferIntents :=
  (h.mem_iff t).mp (((step_order op).2 hreg).subset
    (((step_orderConsistent h op).mem_iff t).mpr ht))

/-- A step that registers nothing for a finished transfer leaves finished transfers without
    an intent. -/
theorem step_finishedUnregistered {s : SftpBrowserState} (h : s.BookkeepingConsistent)
    (hf : s.FinishedUnregistered) {op : BrowserOp} (hop : s.RegistersUnfinished op) :
    (s.step op).FinishedUnregistered := by
  intro t y hy hp hmem
  by_cases hreg : op.registers = none
  · rcases step_forgets h.ids_nodup h.toOrderConsistent op y hy hp with ⟨x, hx, hxp⟩ | hnot
    · exact hf t x hx hxp (mem_transferIntents_of_step h.toOrderConsistent hreg hmem)
    · exact hnot hmem
  · -- a registration leaves the rows alone and adds one intent
    obtain ⟨id, hid⟩ := Option.ne_none_iff_exists'.mp hreg
    have hrows : (s.step op).transfers = s.transfers := by
      cases op with
      | registerDownloadRootIntent | registerDownloadFileIntent | registerUploadIntent => rfl
      | _ => exact nomatch hid
    rw [transfer?_congr hrows] at hy
    by_cases ht : t = id
    · have hnot := hop id hid y.phase (by unfold phase?; rw [← ht, hy]; rfl)
      rw [hp] at hnot
      exact nomatch hnot
    · refine hf t y hy hp ((h.mem_iff t).mp ?_)
      have horder := (step_order (s := s) op).1 id hid
      have hin := ((step_orderConsistent h.toOrderConsistent op).mem_iff t).mpr hmem
      rw [horder] at hin
      split at hin
      · exact hin
      · simpa [ht] using hin

private theorem run_finishedUnregistered {ops : List BrowserOp}
    (h : AlwaysRegistersUnfinished ops) : (run {} ops).FinishedUnregistered := by
  induction ops using List.reverseRecOn with
  | nil => exact fun t x hx => nomatch hx
  | append_singleton ops op ih =>
    rw [run_snoc]
    have hbefore := ih fun pre op' hpre => h pre op' (hpre.trans (List.prefix_append _ _))
    exact step_finishedUnregistered (run_bookkeeping ops) hbefore (h ops op (List.prefix_refl _))

/-- The replay list names the registered transfers in their order. -/
theorem map_transferId_transferIntentList {s : SftpBrowserState} (h : s.OrderConsistent) :
    s.transferIntentList.map (·.transferId) = s.transferIntentOrder := by
  have hall : ∀ l : List Uuid, (∀ t ∈ l, t ∈ s.transferIntents) →
      (l.filterMap fun id => s.transferIntents.lookup id).map (·.transferId) = l := by
    intro l
    induction l with
    | nil => exact fun _ => rfl
    | cons t l ih =>
      intro hmem
      obtain ⟨intent, hintent⟩ := AssocMap.mem_iff_lookup.mp (hmem t List.mem_cons_self)
      rw [List.filterMap_cons_some (f := fun id => s.transferIntents.lookup id) hintent,
        List.map_cons, h.keyed t intent hintent,
        ih fun u hu => hmem u (List.mem_cons_of_mem _ hu)]
  exact hall _ fun t ht => (h.mem_iff t).mp ht

/-- The replay list holds exactly the registered intents. -/
theorem mem_transferIntentList {s : SftpBrowserState} (h : s.OrderConsistent)
    {intent : SftpTransferIntent} :
    intent ∈ s.transferIntentList ↔
      s.transferIntents.lookup intent.transferId = some intent := by
  unfold transferIntentList
  rw [List.mem_filterMap]
  constructor
  · rintro ⟨t, _, hlookup⟩
    rw [h.keyed t intent hlookup]
    exact hlookup
  · intro hlookup
    exact ⟨_, (h.mem_iff _).mpr (AssocMap.mem_iff_lookup.mpr ⟨intent, hlookup⟩), hlookup⟩

/-- Over every run of a browser: the order vector enumerates the intent map without
    duplicates and in registration order, so the replay list names each registered intent
    once; row ids are distinct; selected transfers are listed; and a finished transfer has
    no intent, as long as no intent is registered for a transfer that is already over. -/
theorem run_intent_bookkeeping (ops : List BrowserOp) :
    (run {} ops).BookkeepingConsistent ∧
    (run {} ops).transferIntentList.map (·.transferId) = (run {} ops).transferIntentOrder ∧
    (∀ intent, intent ∈ (run {} ops).transferIntentList ↔
      (run {} ops).transferIntents.lookup intent.transferId = some intent) ∧
    (∀ op, (∀ t, op.registers = some t →
        (run {} (ops ++ [op])).transferIntentOrder =
          if t ∈ (run {} ops).transferIntents then (run {} ops).transferIntentOrder
          else (run {} ops).transferIntentOrder ++ [t]) ∧
      (op.registers = none → (run {} (ops ++ [op])).transferIntentOrder.Sublist
        (run {} ops).transferIntentOrder)) ∧
    (AlwaysRegistersUnfinished ops → (run {} ops).FinishedUnregistered) := by
  have h := run_bookkeeping ops
  refine ⟨h, map_transferId_transferIntentList h.toOrderConsistent,
    fun intent => mem_transferIntentList h.toOrderConsistent, fun op => ?_,
    run_finishedUnregistered⟩
  rw [run_snoc]
  exact step_order op

/-- Registering an intent for a cancelled transfer leaves a finished transfer with one. -/
theorem registered_after_finish : ¬FinishedUnregistered (run {}
    [.queueTransfer 1 "a" 4, .finishTransfer 1 .cancelled "Cancelled",
      .registerDownloadFileIntent 1 "/srv/a" "/a" 4 true]) := by
  intro h
  refine h 1 _ rfl rfl ?_
  decide

end SftpBrowserState

end AxSsh
