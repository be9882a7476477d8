import AxSsh.Native.UiRefresh

/-!
# Refresh requests

A request is recorded in the refresh state, and a later batch takes it out.  Between the two the
state is pending and somebody is about to take: a caller on its way to the event loop, a queued
closure, or the running closure, whose batch has an older generation and therefore schedules a
follow-up when it finishes.  `RefreshSystem.Books` says so, and every step keeps it.

Only a reset drops a recorded request: the caller whose closure is refused cancels, and a restored
workspace starts from an empty refresh state, as its comment says.

## Key results
- `UiRefreshState.covers_of_take`: a batch covers every recorded request
- `RefreshSystem.Books.step`: every step keeps the books
- `RefreshSystem.no_request_lost`: after the last reset every request is taken or scheduled
-/

namespace AxSsh

/-! ## What a state and a batch contain -/

/-- A full batch redraws the tab rows and every terminal. -/
def UiRefreshBatch.Covers (b : UiRefreshBatch) : WorkspaceRefreshRequest → Prop
  | .full => b.full = true
  | .tabs => b.full = true ∨ b.tabs = true
  | .terminal tabId _ => b.full = true ∨ tabId ∈ b.terminalIds

namespace UiRefreshState

variable {r : UiRefreshState} {req req' : WorkspaceRefreshRequest}

/-- The next batch will cover the request. -/
def Holds (r : UiRefreshState) : WorkspaceRefreshRequest → Prop
  | .full => r.full = true
  | .tabs => r.full = true ∨ r.tabs = true
  | .terminal tabId _ => r.full = true ∨ tabId ∈ r.terminalIds

/-- Nothing is recorded for the next batch. -/
def Empty (r : UiRefreshState) : Prop := ∀ req, ¬r.Holds req

theorem empty_default : ({} : UiRefreshState).Empty := by
  intro req
  cases req <;> simp [Holds]

@[simp] theorem pending_record : (r.record req).pending = r.pending := by cases req <;> rfl

@[simp] theorem inProgress_record : (r.record req).inProgress = r.inProgress := by
  cases req <;> rfl

@[simp] theorem generation_record : (r.record req).generation = r.generation := by
  cases req <;> rfl

theorem holds_record_self : (r.record req).Holds req := by
  cases req with
  | full => rfl
  | tabs => exact .inr rfl
  | terminal tabId outputReceivedAt =>
    show r.full = true ∨ tabId ∈ if r.full then r.terminalIds else insert tabId r.terminalIds
    cases hfull : r.full <;> simp

/-- A request keeps what is recorded, or replaces it by a full refresh. -/
theorem Holds.record (h : r.Holds req) : (r.record req').Holds req := by
  cases req' with
  | full =>
    cases req with
    | full => rfl
    | tabs => exact .inl rfl
    | terminal tabId outputReceivedAt => exact .inl rfl
  | tabs =>
    cases req with
    | full => exact h
    | tabs => exact .inr rfl
    | terminal tabId outputReceivedAt => exact h
  | terminal tabId' outputReceivedAt' =>
    cases req with
    | full => exact h
    | tabs => exact h
    | terminal tabId outputReceivedAt =>
      refine h.imp_right fun hmem => ?_
      show tabId ∈ if r.full then r.terminalIds else insert tabId' r.terminalIds
      split
      · exact hmem
      · exact Finset.mem_insert_of_mem hmem

/-! ## Requests -/

@[simp] theorem pending_requestUiRefresh : (r.requestUiRefresh req).1.pending = true := by
  unfold requestUiRefresh
  simp only [pending_record, inProgress_record, generation_record]
  split
  · rfl
  · next h => exact Bool.not_eq_false _ ▸ h

@[simp] theorem inProgress_requestUiRefresh :
    (r.requestUiRefresh req).1.inProgress = r.inProgress := by
  unfold requestUiRefresh
  simp only
  split <;> exact inProgress_record

/-- Exactly the first request schedules a take. -/
@[simp] theorem requestUiRefresh_snd : (r.requestUiRefresh req).2 = !r.pending := by
  unfold requestUiRefresh
  simp only [pending_record]
  cases r.pending <;> rfl

theorem holds_requestUiRefresh_iff :
    (r.requestUiRefresh req').1.Holds req ↔ (r.record req').Holds req := by
  unfold requestUiRefresh
  simp only
  split <;> cases req <;> exact Iff.rfl

/-- A request during a refresh takes a new generation, unless there is none left. -/
theorem generation_requestUiRefresh (hpending : r.pending = true) (hprogress : r.inProgress = true) :
    (r.requestUiRefresh req).1.generation = saturatingSucc r.generation := by
  simp [requestUiRefresh, hpending, hprogress]

/-! ## Batches -/

theorem takeUiRefreshBatch_eq_none (h : r.pending = false) : r.takeUiRefreshBatch = (r, none) := by
  simp [takeUiRefreshBatch, h]

/-- A batch carries the generation of its take, and takes everything that is recorded. -/
theorem takeUiRefreshBatch_cases (hprogress : r.inProgress = false) (hpending : r.pending = true) :
    ∃ b, r.takeUiRefreshBatch.2 = some b ∧ b.generation = r.generation ∧
      (∀ req, r.Holds req → b.Covers req) ∧
      r.takeUiRefreshBatch.1.pending = true ∧ r.takeUiRefreshBatch.1.inProgress = true ∧
      r.takeUiRefreshBatch.1.generation = r.generation ∧ r.takeUiRefreshBatch.1.Empty := by
  have hfree : ¬(r.pending = false ∨ r.inProgress = true) := by simp [hpending, hprogress]
  unfold takeUiRefreshBatch
  rw [if_neg hfree]
  refine ⟨_, rfl, rfl, ?_, hpending, rfl, rfl, ?_⟩
  · intro req hreq
    cases req <;> exact hreq
  · intro req
    cases req <;> simp [Holds]

/-- A finish clears the pending flag only of the generation it belongs to. -/
theorem finishUiRefresh_cases (generation : Nat) :
    (r.generation = generation ∧
      r.finishUiRefresh generation = ({ r with inProgress := false, pending := false }, false)) ∨
    (r.generation ≠ generation ∧
      r.finishUiRefresh generation = ({ r with inProgress := false }, true)) := by
  by_cases h : r.generation = generation
  · exact .inl ⟨h, if_pos h⟩
  · exact .inr ⟨h, if_neg h⟩

end UiRefreshState

/-! ## The books of the system -/

theorem lt_saturatingSucc {n : Nat} (h : n < 2 ^ 64 - 1) : n < saturatingSucc n := by
  unfold saturatingSucc; omega

namespace RefreshSystem

variable {s : RefreshSystem} {req : WorkspaceRefreshRequest}

/-- A take is on its way, or the running closure will ask for one. -/
def Scheduled (s : RefreshSystem) : Prop :=
  s.refresh.pending = true ∧
    match s.running with
    | none => 0 < s.scheduling + s.queued
    | some batch => s.refresh.generation ≠ batch.generation

structure Books (s : RefreshSystem) : Prop where
  inProgress : s.refresh.inProgress = s.running.isSome
  /-- A state that is not pending has nothing to take. -/
  idle : s.refresh.pending = false → s.refresh.Empty
  waiting : s.running = none → s.refresh.pending = true → 0 < s.scheduling + s.queued
  applying : ∀ b, s.running = some b → s.refresh.pending = true ∧
    b.generation ≤ s.refresh.generation ∧
      (s.refresh.generation = b.generation → s.refresh.Empty)
  taken : s.taken = s.finished ++ s.running.toList

theorem Books.init : Books {} where
  inProgress := rfl
  idle _ := UiRefreshState.empty_default
  waiting _ h := by cases h
  applying b h := by cases h
  taken := rfl

/-- What the state holds is pending, and a take of it is scheduled. -/
theorem Books.scheduled (h : s.Books) (hreq : s.refresh.Holds req) : s.Scheduled := by
  have hpending : s.refresh.pending = true := by
    by_contra hidle
    exact h.idle (Bool.not_eq_true _ ▸ hidle) req hreq
  refine ⟨hpending, ?_⟩
  cases hrun : s.running with
  | none => exact h.waiting hrun hpending
  | some b => exact fun hgen => (h.applying b hrun).2.2 hgen req hreq

/-- The generation counter has not reached its end when a request needs a new one. -/
def Unsaturated (s : RefreshSystem) : RefreshOp → Prop
  | .request _ => s.refresh.inProgress = true → s.refresh.generation < 2 ^ 64 - 1
  | _ => True

theorem Books.request (h : s.Books) (hgen : s.Unsaturated (.request req)) :
    (s.request req).Books where
  inProgress := UiRefreshState.inProgress_requestUiRefresh.trans h.inProgress
  idle hidle := by
    have hpending : (s.request req).refresh.pending = true := UiRefreshState.pending_requestUiRefresh
    rw [hpending] at hidle
    cases hidle
  waiting hrun _ := by
    show 0 < (if (s.refresh.requestUiRefresh req).2 then s.scheduling + 1 else s.scheduling) + s.queued
    rw [UiRefreshState.requestUiRefresh_snd]
    cases hpending : s.refresh.pending with
    | false =>
      show 0 < s.scheduling + 1 + s.queued
      omega
    | true => simpa using h.waiting hrun hpending
  applying b hrun := by
    have hrun' : s.running = some b := hrun
    obtain ⟨hpending, hle, -⟩ := h.applying b hrun'
    have hprogress : s.refresh.inProgress = true := by rw [h.inProgress, hrun']; rfl
    have hsucc : (s.request req).refresh.generation = saturatingSucc s.refresh.generation :=
      UiRefreshState.generation_requestUiRefresh hpending hprogress
    have hlt := lt_saturatingSucc (hgen hprogress)
    refine ⟨UiRefreshState.pending_requestUiRefresh, ?_, fun heq => ?_⟩
    · omega
    · omega
  taken := h.taken

theorem Books.dispatched (h : s.Books) : s.dispatched.Books := by
  unfold RefreshSystem.dispatched
  split
  · exact h
  · next hsome =>
    -- the take moves from the caller to the queue
    refine ⟨h.inProgress, h.idle, fun hrun hpending => ?_, h.applying, h.taken⟩
    show 0 < s.scheduling - 1 + (s.queued + 1)
    omega

/-- A reset between two refreshes leaves nothing to take. -/
theorem Books.reset {s' : RefreshSystem} (h : s.Books) (hrun : s.running = none)
    (hrefresh : s'.refresh = {}) (hrunning : s'.running = s.running) (htaken : s'.taken = s.taken)
    (hfinished : s'.finished = s.finished) : s'.Books where
  inProgress := by rw [hrefresh, hrunning, hrun]; rfl
  idle _ := hrefresh ▸ UiRefreshState.empty_default
  waiting _ hpending := by rw [hrefresh] at hpending; cases hpending
  applying b hb := by rw [hrunning, hrun] at hb; cases hb
  taken := by rw [htaken, hfinished, hrunning]; exact h.taken

theorem Books.rejected (h : s.Books) : s.rejected.Books := by
  unfold RefreshSystem.rejected
  split
  · exact h
  · next hguard =>
    have hrun : s.running = none := by
      simpa using (not_or.mp hguard).2
    exact h.reset hrun rfl rfl rfl rfl

theorem Books.restore (h : s.Books) : s.restore.Books := by
  unfold RefreshSystem.restore
  split
  · exact h
  · next hguard => exact h.reset (by simpa using hguard) rfl rfl rfl rfl

theorem Books.take (h : s.Books) : s.take.Books := by
  unfold RefreshSystem.take
  split
  · exact h
  next hguard =>
  obtain ⟨hqueued, hrun⟩ := not_or.mp hguard
  have hrun : s.running = none := by simpa using hrun
  have hprogress : s.refresh.inProgress = false := by rw [h.inProgress, hrun]; rfl
  have htaken : s.taken = s.finished := by rw [h.taken, hrun]; exact List.append_nil _
  cases hpending : s.refresh.pending with
  | false =>
    -- the closure of a take that a reset has made pointless returns at once
    rw [UiRefreshState.takeUiRefreshBatch_eq_none hpending]
    refine ⟨hprogress, h.idle, fun _ hp => ?_, fun b hb => (by cases hb), ?_⟩
    · rw [hpending] at hp
      cases hp
    · show s.taken ++ [] = s.finished ++ []
      rw [htaken]
  | true =>
    obtain ⟨b, hb, hgen, -, hp, hip, hg, hempty⟩ :=
      UiRefreshState.takeUiRefreshBatch_cases hprogress hpending
    refine ⟨?_, ?_, ?_, ?_, ?_⟩
    · show s.refresh.takeUiRefreshBatch.1.inProgress = s.refresh.takeUiRefreshBatch.2.isSome
      rw [hip, hb]; rfl
    · exact fun _ => hempty
    · intro hnone _
      cases hb.symm.trans hnone
    · intro b' hb'
      obtain rfl : b = b' := Option.some.inj (hb.symm.trans hb')
      refine ⟨hp, ?_, fun _ => hempty⟩
      show b.generation ≤ s.refresh.takeUiRefreshBatch.1.generation
      omega
    · rw [htaken]

theorem Books.finish (h : s.Books) : s.finish.Books := by
  unfold RefreshSystem.finish
  cases hrun : s.running with
  | none => exact h
  | some b =>
    obtain ⟨hpending, -, hempty⟩ := h.applying b hrun
    have htaken : s.taken = s.finished ++ [b] := by rw [h.taken, hrun]; rfl
    obtain ⟨hgen, hfin⟩ | ⟨-, hfin⟩ := s.refresh.finishUiRefresh_cases b.generation
    · -- nothing was requested since the take
      simp only [hfin]
      refine ⟨rfl, fun _ => ?_, fun _ hp => (by cases hp), fun b' hb' => (by cases hb'), ?_⟩
      · intro req
        have := hempty hgen req
        cases req <;> exact this
      · rw [htaken]; exact (List.append_nil _).symm
    · simp only [hfin, ↓reduceIte]
      refine ⟨rfl, fun hp => ?_, fun _ _ => ?_, fun b' hb' => (by cases hb'), ?_⟩
      · rw [hpending] at hp
        cases hp
      · show 0 < s.scheduling + 1 + s.queued
        omega
      · rw [htaken]; exact (List.append_nil _).symm

theorem Books.step {op : RefreshOp} (h : s.Books) (hgen : s.Unsaturated op) :
    (s.step op).Books := by
  cases op with
  | request req => exact h.request hgen
  | dispatched => exact h.dispatched
  | rejected => exact h.rejected
  | take => exact h.take
  | finish => exact h.finish
  | restore => exact h.restore

theorem books_run {ops : List RefreshOp} (h : s.Books)
    (hgen : Transition.AllSafe RefreshSystem.step s Unsaturated ops) : (s.run ops).Books :=
  hgen.preserves h fun _ _ hbooks hsafe => hbooks.step hsafe

/-! ## What becomes of one request -/

/-- The request is in one of the batches after the first `n`, or recorded for the next one. -/
def Kept (n : Nat) (req : WorkspaceRefreshRequest) (s : RefreshSystem) : Prop :=
  n ≤ s.taken.length ∧ ((∃ b ∈ s.taken.drop n, b.Covers req) ∨ s.refresh.Holds req)

theorem Kept.of_taken {n : Nat} {s' : RefreshSystem} (h : s.Kept n req)
    (htaken : s'.taken = s.taken) (hholds : s.refresh.Holds req → s'.refresh.Holds req) :
    s'.Kept n req := by
  obtain ⟨hn, hkept⟩ := h
  exact ⟨htaken ▸ hn, htaken ▸ hkept.imp_right hholds⟩

theorem Kept.take {n : Nat} (h : s.Kept n req) (hbooks : s.Books) : s.take.Kept n req := by
  unfold RefreshSystem.take
  split
  · exact h
  next hguard =>
  obtain ⟨hn, hkept⟩ := h
  have hrun : s.running = none := by simpa using (not_or.mp hguard).2
  have hprogress : s.refresh.inProgress = false := by rw [hbooks.inProgress, hrun]; rfl
  cases hpending : s.refresh.pending with
  | false =>
    rw [UiRefreshState.takeUiRefreshBatch_eq_none hpending]
    exact Kept.of_taken ⟨hn, hkept⟩ (List.append_nil _) id
  | true =>
    obtain ⟨b, hb, -, hcovers, -⟩ := UiRefreshState.takeUiRefreshBatch_cases hprogress hpending
    have htaken : s.taken ++ s.refresh.takeUiRefreshBatch.2.toList = s.taken ++ [b] := by
      rw [hb]; rfl
    refine ⟨?_, .inl ?_⟩
    · show n ≤ (s.taken ++ s.refresh.takeUiRefreshBatch.2.toList).length
      rw [htaken, List.length_append]
      omega
    · show ∃ b ∈ (s.taken ++ s.refresh.takeUiRefreshBatch.2.toList).drop n, b.Covers req
      rw [htaken, List.drop_append_of_le_length hn]
      obtain ⟨b', hb', hcov⟩ | hholds := hkept
      · exact ⟨b', List.mem_append_left _ hb', hcov⟩
      · exact ⟨b, List.mem_append_right _ (List.mem_singleton_self b), hcovers req hholds⟩

theorem holds_finish (h : s.refresh.Holds req) : s.finish.refresh.Holds req := by
  unfold RefreshSystem.finish
  cases s.running with
  | none => exact h
  | some b =>
    obtain ⟨-, hfin⟩ | ⟨-, hfin⟩ := s.refresh.finishUiRefresh_cases b.generation
    all_goals
      simp only [hfin]
      cases req <;> exact h

theorem taken_finish : s.finish.taken = s.taken := by
  unfold RefreshSystem.finish
  split <;> rfl

theorem taken_dispatched : s.dispatched.taken = s.taken := by
  unfold RefreshSystem.dispatched
  split <;> rfl

theorem holds_dispatched (h : s.refresh.Holds req) : s.dispatched.refresh.Holds req := by
  unfold RefreshSystem.dispatched
  split <;> exact h

/-- What starts over with an empty refresh state. -/
def Resets : RefreshOp → Prop
  | .rejected | .restore => True
  | _ => False

theorem Kept.step {n : Nat} {op : RefreshOp} (h : s.Kept n req) (hbooks : s.Books)
    (hop : ¬Resets op) : (s.step op).Kept n req := by
  cases op with
  | request req' =>
    exact h.of_taken rfl fun hholds => UiRefreshState.holds_requestUiRefresh_iff.mpr hholds.record
  | dispatched => exact h.of_taken taken_dispatched fun hholds => holds_dispatched hholds
  | rejected => exact absurd trivial hop
  | take => exact h.take hbooks
  | finish => exact h.of_taken taken_finish holds_finish
  | restore => exact absurd trivial hop

theorem Kept.run {n : Nat} {ops : List RefreshOp} (h : s.Kept n req) (hbooks : s.Books)
    (hgen : Transition.AllSafe RefreshSystem.step s Unsaturated ops)
    (hops : ∀ op ∈ ops, ¬Resets op) : (s.run ops).Kept n req := by
  induction ops generalizing s with
  | nil => exact h
  | cons op ops ih =>
    obtain ⟨hsafe, hrest⟩ := Transition.allSafe_cons_iff.mp hgen
    have hop : ¬Resets op := hops op List.mem_cons_self
    exact ih (h.step hbooks hop) (hbooks.step hsafe) hrest fun op' hop' =>
      hops op' (List.mem_cons_of_mem op hop')

theorem kept_request : (s.request req).Kept s.taken.length req :=
  ⟨Nat.le_refl _, .inr (UiRefreshState.holds_requestUiRefresh_iff.mpr UiRefreshState.holds_record_self)⟩

/-- A finish with work recorded leaves it pending and schedules a follow-up. -/
theorem finish_of_holds (hbooks : s.Books) (hrun : s.running.isSome = true)
    (h : s.refresh.Holds req) :
    s.finish.refresh.Holds req ∧ s.finish.refresh.pending = true ∧
      s.finish.scheduling = s.scheduling + 1 := by
  refine ⟨holds_finish h, ?_⟩
  obtain ⟨b, hb⟩ := Option.isSome_iff_exists.mp hrun
  obtain ⟨hpending, -, hempty⟩ := hbooks.applying b hb
  unfold RefreshSystem.finish
  rw [hb]
  obtain ⟨hgen, -⟩ | ⟨-, hfin⟩ := s.refresh.finishUiRefresh_cases b.generation
  · exact absurd h (hempty hgen req)
  · simp only [hfin, ↓reduceIte]
    exact ⟨hpending, trivial⟩

/-! ## Whole runs -/

theorem run_append (s : RefreshSystem) (as bs : List RefreshOp) :
    s.run (as ++ bs) = (s.run as).run bs :=
  List.foldl_append

/-- The request that follows `pre` is in a batch taken after it, or still pending with a take
    scheduled. -/
def Served (pre ops : List RefreshOp) (req : WorkspaceRefreshRequest) : Prop :=
  let before := run {} pre
  let after := run {} ops
  (∃ b ∈ after.taken.drop before.taken.length, b.Covers req) ∨
    (after.refresh.Holds req ∧ after.Scheduled)

/-- A run serves its requests, finishes no batch twice, and never finishes one in a way that
    forgets what was requested after it was taken. -/
theorem no_request_lost (ops : List RefreshOp)
    (hgen : Transition.AllSafe RefreshSystem.step {} Unsaturated ops) :
    (∀ pre req post, ops = pre ++ .request req :: post → (∀ op ∈ post, ¬Resets op) →
      Served pre ops req) ∧
    (run {} ops).taken = (run {} ops).finished ++ (run {} ops).running.toList ∧
    (∀ pre req, pre ++ [.finish] <+: ops → (run {} pre).running.isSome = true →
      (run {} pre).refresh.Holds req →
      (run {} (pre ++ [.finish])).refresh.Holds req ∧
      (run {} (pre ++ [.finish])).refresh.pending = true ∧
      (run {} (pre ++ [.finish])).scheduling = (run {} pre).scheduling + 1) := by
  refine ⟨fun pre req post hops hpost => ?_, (books_run .init hgen).taken, fun pre req hpre hrun h => ?_⟩
  · have hbooks := books_run .init hgen
    subst hops
    obtain ⟨hgenPre, hgenRest⟩ := Transition.allSafe_append_iff.mp hgen
    obtain ⟨hsafe, hgenPost⟩ := Transition.allSafe_cons_iff.mp hgenRest
    have hbooksPre : (run {} pre).Books := books_run .init hgenPre
    have hkept : (run {} (pre ++ .request req :: post)).Kept (run {} pre).taken.length req := by
      rw [run_append]
      exact kept_request.run (hbooksPre.step hsafe) hgenPost hpost
    exact hkept.2.imp_right fun hholds => ⟨hholds, hbooks.scheduled hholds⟩
  · obtain ⟨rest, hrest⟩ := hpre
    have hgenPre : Transition.AllSafe RefreshSystem.step {} Unsaturated pre := by
      rw [← hrest, List.append_assoc] at hgen
      exact (Transition.allSafe_append_iff.mp hgen).1
    rw [run_append]
    exact finish_of_holds (books_run .init hgenPre) hrun h

/-- A request that arrives while a batch is applied is taken by the follow-up. -/
theorem no_request_lost_followUp :
    Served [.request .full, .dispatched, .take]
      [.request .full, .dispatched, .take, .request .tabs, .finish, .dispatched, .take] .tabs :=
  (no_request_lost
    [.request .full, .dispatched, .take, .request .tabs, .finish, .dispatched, .take]
    (by simp [Transition.allSafe_cons_iff, Transition.allSafe_nil, Unsaturated]; decide)).1
    [.request .full, .dispatched, .take] .tabs [.finish, .dispatched, .take] rfl
    (by simp [Resets])

/-- A restored workspace starts without the requests of the tabs it replaces. -/
theorem restore_drops_request :
    ¬Served [] [.request (.terminal ⟨7⟩ none), .dispatched, .restore] (.terminal ⟨7⟩ none) := by
  rintro (⟨b, hb, -⟩ | ⟨hholds, -⟩)
  · cases hb
  · exact UiRefreshState.empty_default _ hholds

end RefreshSystem

end AxSsh
