import AxSsh.ForStd.TextLines
import AxSsh.Spec.UploadSteps
import AxSsh.Spec.UploadTargets

/-!
# The publication guard of an upload

What the invariant says of the trace is the guard: a rename has everything it needs before it, and
no other request touches a target.  An upload that ends without a rename has removed the temporary
file, unless the wait for its handle was given up while the server created it.

## Key results
- `Upload.not_cleaned_of_not_kept`: giving up the open request leaves the file behind
- `Upload.publicationSafe_iff`: the guard for every run
-/

namespace AxSsh

namespace Upload

variable {leak : Prop} {request : UploadRequest} {s : Upload}

/-- What an upload may do, and what it leaves when it is over. -/
structure PublicationSafe (request : UploadRequest) (s : Upload) : Prop where
  /-- Every rename onto a target has what it needs before it. -/
  guarded : ∀ newer sent older target, s.trace = newer ++ .sent sent :: older →
    SftpRequest.renamesOnto sent = some target → PublicationGuard request target older
  /-- Without a rename, the temporary file is removed after it was created. -/
  cleaned : Over s → ¬Renamed s.trace → .created ∈ s.trace →
    History.After (.sent (.remove request.temporary)) .created s.trace
  /-- No other request touches a target. -/
  untouched : ∀ sent target, .sent sent ∈ s.trace → SftpRequest.renamesOnto sent = none →
    request.IsTarget target → target ∉ sent.changes

theorem Inv.guarded (h : Inv leak request s) {newer older : List UploadEvent} {sent : SftpRequest}
    {target : RemotePath} (heq : s.trace = newer ++ .sent sent :: older)
    (htarget : sent.renamesOnto = some target) : PublicationGuard request target older := by
  have hallowed := History.always_iff_split.mp h.traceInv.allowed newer _ older heq
  cases sent with
  | rename source t =>
    obtain rfl := Option.some.inj htarget
    exact hallowed.1
  | posixRename source t =>
    obtain rfl := Option.some.inj htarget
    exact hallowed.1
  | _ => cases htarget

theorem Inv.untouched (h : Inv leak request s) {sent : SftpRequest} {target : RemotePath}
    (hsent : .sent sent ∈ s.trace) (hother : sent.renamesOnto = none)
    (htarget : request.IsTarget target) : target ∉ sent.changes := by
  obtain ⟨newer, older, -, hallowed⟩ := h.traceInv.allowed.of_mem hsent
  have htemporary := UploadRequest.temporary_ne_target htarget
  intro hmem
  cases sent with
  | mkdir path =>
    obtain rfl := List.mem_singleton.mp hmem
    exact UploadRequest.target_not_directory htarget hallowed
  | «open» path =>
    obtain rfl := List.mem_singleton.mp hmem
    exact htemporary (Eq.symm hallowed)
  | remove path =>
    obtain rfl := List.mem_singleton.mp hmem
    exact htemporary hallowed.1.symm
  | rename | posixRename => cases hother
  | init | lstat | write | close => cases hmem

/-! ## What is left behind -/

theorem cleaned_of_inv (h : Inv False request s) (hover : Over s) (hrenamed : ¬Renamed s.trace)
    (hc : .created ∈ s.trace) :
    History.After (.sent (.remove request.temporary)) .created s.trace := by
  obtain ⟨result, hphase⟩ := hover
  have hp := h.phaseInv
  rw [hphase] at hp
  rcases hp with hp | hp | hp | hp
  · exact hp.elim
  · exact absurd hp hrenamed
  · exact h.traceInv.removed_after hp
  · exact absurd hc hp

theorem Inv.loose (h : Inv leak request s) : Inv True request s := by
  refine ⟨h.traceInv, ?_⟩
  have hp := h.phaseInv
  cases hphase : s.phase with
  | done result => exact .inl trivial
  | _ =>
    rw [hphase] at hp
    exact hp

/-- An upload that cleans up has left nothing behind. -/
theorem Inv.tight (h : Inv True request s)
    (hcleaned : Over s → ¬Renamed s.trace → .created ∈ s.trace →
      History.After (.sent (.remove request.temporary)) .created s.trace) :
    Inv False request s := by
  refine ⟨h.traceInv, ?_⟩
  have hp := h.phaseInv
  cases hphase : s.phase with
  | done result =>
    by_cases hrenamed : Renamed s.trace
    · exact .inr (.inl hrenamed)
    · by_cases hc : .created ∈ s.trace
      · exact .inr (.inr (.inl (hcleaned ⟨result, hphase⟩ hrenamed hc).mem))
      · exact .inr (.inr (.inr hc))
  | _ =>
    rw [hphase] at hp
    exact hp

/-- Giving up the wait for the handle ends the upload at once. -/
theorem onAnswer_of_givesUp (request : UploadRequest) {answer : StepAnswer} (hphase : s.phase = .opening)
    (h : GivesUp s answer) : ∃ error, onAnswer request s answer = s.abort error := by
  simp only [onAnswer, hphase]
  cases answer with
  | abandoned =>
    have hcancelled : s.cancelled = true := h
    exact ⟨.cancelled, by simp [awaitStep, hcancelled, resume, onOpen]⟩
  | timedOut => exact ⟨_, rfl⟩
  | reply reply =>
    cases reply with
    | handle handle => exact h.elim
    | _ => exact ⟨_, rfl⟩

/-- A step that gives up the open request leaves the temporary file behind. -/
theorem not_cleaned_of_not_kept (h : Inv True request s) {input : Input}
    (hkept : ¬OpenKept request s input) : ¬PublicationSafe request (step request s input) := by
  intro hsafe
  have hp := h.phaseInv
  cases input with
  | answer answer =>
    simp only [OpenKept, Classical.not_imp, not_not] at hkept
    obtain ⟨hphase, hgives, hc⟩ := hkept
    obtain ⟨error, heq⟩ := onAnswer_of_givesUp request hphase hgives
    rw [hphase] at hp
    obtain ⟨-, -, -, hrenamed, hremoved⟩ := hp
    have hsafe' : PublicationSafe request (s.abort error) := heq ▸ hsafe
    -- raising the error sends no request
    have htrace : ∀ sent, UploadEvent.sent sent ∈ (s.raise error).trace → .sent sent ∈ s.trace := by
      intro sent hmem
      rcases raise_cases s error with hraise | ⟨-, hraise⟩
      · exact hraise ▸ hmem
      · rw [hraise] at hmem
        exact (List.mem_cons.mp hmem).resolve_left nofun
    have hcreated : .created ∈ (s.raise error).trace := by
      rcases raise_cases s error with hraise | ⟨-, hraise⟩
      · exact hraise.symm ▸ hc
      · rw [hraise]
        exact List.mem_cons_of_mem _ hc
    have hafter := hsafe'.cleaned ⟨_, rfl⟩
      (fun ⟨sent, target, hmem, ht⟩ => hrenamed ⟨sent, target, htrace sent hmem, ht⟩) hcreated
    exact hremoved (htrace _ hafter.mem)
  -- the file is created after the upload has ended, and nobody removes it
  | create =>
    simp only [OpenKept, Classical.not_imp] at hkept
    obtain ⟨⟨result, hphase⟩, hopen, hc⟩ := hkept
    have heq : step request s .create = s.note .created := if_pos ⟨hopen, hc⟩
    rw [heq] at hsafe
    have hafter := hsafe.cleaned ⟨result, hphase⟩ ?_ List.mem_cons_self
    · exact hc (h.traceInv.created_of_removed ((List.mem_cons.mp hafter.mem).resolve_left nofun))
    · rintro ⟨sent, target, hmem, ht⟩
      refine hc (h.traceInv.created_of_renamed ⟨sent, target, ?_, ht⟩)
      exact (List.mem_cons.mp hmem).resolve_left nofun
  | _ => exact hkept trivial

/-! ## Runs -/

theorem inv_start (cancelled : Bool) : Inv False request (start cancelled) := by
  unfold start
  have hT : TraceInv request [] cancelled 0 := by
    refine ⟨trivial, nofun, rfl, Nat.zero_le _, fun c hc => ?_⟩
    cases hc
  have hu : Unstarted { cancelled } := ⟨rfl, rfl, rfl, rfl, rfl, rfl, rfl⟩
  simp only
  split
  · next error heq =>
    have hhonest : Honest { cancelled } (.error error : Except UploadError Unit) :=
      heq ▸ honest_awaitStepStart
    exact inv_abort (s := { cancelled }) hT hhonest (.inr nofun)
  · exact ⟨hT.cons trivial nofun (fun _ => nofun),
      BeforeOpen.note (s := { cancelled }) ⟨hu, nofun⟩ (fun _ => nofun) nofun, rfl⟩

theorem inv_run (request : UploadRequest) (cancelled : Bool) (inputs : List Input) :
    Inv True request (inputs.foldl (step request) (start cancelled)) := by
  induction inputs using List.reverseRecOn with
  | nil => exact (inv_start cancelled).loose
  | append_singleton inputs input ih =>
    rw [List.foldl_append]
    exact inv_step ih input (.inl trivial)

/-- In every run, the publication guard holds throughout exactly when no step gives up an open
    request that the server carries out. -/
theorem publicationSafe_iff (request : UploadRequest) (cancelled : Bool) (inputs : List Input) :
    Transition.Throughout (step request) (start cancelled) (PublicationSafe request) inputs ↔
      Transition.AllSafe (step request) (start cancelled) (OpenKept request) inputs := by
  have safe_of_inv : ∀ s, Inv False request s → PublicationSafe request s := fun s h =>
    ⟨fun _ _ _ _ heq ht => h.guarded heq ht, cleaned_of_inv h,
      fun _ _ hsent ho ht => h.untouched hsent ho ht⟩
  apply Transition.throughout_iff_allSafe (safe_of_inv _ (inv_start cancelled))
  intro pre input _ hsafe
  have hinv := inv_run request cancelled pre
  constructor
  · intro hnext
    by_contra hkept
    exact not_cleaned_of_not_kept hinv hkept hnext
  · intro hkept
    exact safe_of_inv _ (inv_step (hinv.tight hsafe.cleaned) input (.inr hkept))

/-- One byte that is uploaded as `report.txt`. -/
def reportUpload : UploadRequest where
  remotePath := "/srv/report.txt".toList
  name := "report.txt".toList
  totalBytes := 1
  executionId := ['7']
  name_eq := by decide
  name_ne := by decide
  directories_prefix := fun _ h => absurd h List.not_mem_nil
  executionId_ne := by decide
  executionId_text := TextLines.forall_mem_of_all (by decide)

/-- The user cancels while the open request is under way, and the server creates the file: it is
    not removed. -/
theorem cancelled_open_leaves_temporary :
    ¬∀ (request : UploadRequest) (cancelled : Bool) (inputs : List Input),
      Transition.Throughout (step request) (start cancelled) (PublicationSafe request) inputs := by
  intro h
  let inputs : List Input := [.answer (.reply (.version none)), .answer (.reply .noSuchFile),
    .create, .cancel, .answer .abandoned]
  have hsafe := h reportUpload false inputs inputs (List.prefix_refl _)
  have htrace : (inputs.foldl (step reportUpload) (start false)).trace =
      [.cancelObserved, .created, .sent (.open reportUpload.temporary),
        .inspected reportUpload.remotePath none, .sent (.lstat reportUpload.remotePath),
        .sent .init] := by decide
  have hafter := hsafe.cleaned ⟨.error .cancelled, rfl⟩ ?_ (by rw [htrace]; decide)
  · have hremoved := hafter.mem
    rw [htrace] at hremoved
    simp at hremoved
  · rw [htrace]
    rintro ⟨sent, target, hmem, ht⟩
    simp only [List.mem_cons, UploadEvent.sent.injEq, reduceCtorEq, List.not_mem_nil, or_false,
      false_or] at hmem
    rcases hmem with rfl | rfl | rfl <;> cases ht

end Upload

end AxSsh
