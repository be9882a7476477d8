import AxSsh.Native.Reconnect

/-!
# Reconnect safety

A monitor or a timer outlives the attempt or the reconnect it was made for.  Its handlers begin
with a section that compares the id it carries with the one of the tab; the sections after it
compare nothing.  `Quiet` says that a task has no such section left, and a quiet task whose id is
replaced changes nothing.  The count of automatic attempts goes up only when one begins, and starts
over only with a connection or a manual retry.

## Key results
- `ReconnectSystem.next_of_quiet`, `ReconnectSystem.deliver_of_stale`: a stale step of a quiet task
- `ReconnectSystem.current_of_admitted`: only a section that finds its id admits the others
- `ReconnectSystem.step_counted`: a step keeps the count of attempts
- `ReconnectSystem.reconnect_safety`: both for every run
-/

namespace AxSsh

variable {σ : Type}

/-! ## The count of attempts -/

/-- No more automatic attempts begin in a row than allowed. -/
def StartsBounded (marks : List ReconnectMark) : Prop :=
  ∀ before mid after, marks = before ++ mid ++ after → (∀ m ∈ mid, m = .started) →
    mid.length ≤ maxReconnectAttempts

theorem startsBounded_nil : StartsBounded [] := by
  intro before mid after h _
  have hlen := congrArg List.length h
  simp only [List.length_nil, List.length_append] at hlen
  omega

/-- The attempts since the newest other mark. -/
def recentStarts (marks : List ReconnectMark) : Nat :=
  (marks.takeWhile (· == .started)).length

theorem length_le_recentStarts {mid : List ReconnectMark} (after : List ReconnectMark)
    (h : ∀ m ∈ mid, m = .started) : mid.length ≤ recentStarts (mid ++ after) := by
  induction mid with
  | nil => exact Nat.zero_le _
  | cons m mid ih =>
    obtain rfl := h m List.mem_cons_self
    have htail := ih fun m' hm' => h m' (List.mem_cons_of_mem _ hm')
    simp only [recentStarts, List.cons_append, List.takeWhile_cons, beq_self_eq_true, ↓reduceIte,
      List.length_cons] at htail ⊢
    omega

theorem StartsBounded.cons {marks : List ReconnectMark} {m : ReconnectMark}
    (h : StartsBounded marks) (hm : recentStarts (m :: marks) ≤ maxReconnectAttempts) :
    StartsBounded (m :: marks) := by
  intro before mid after heq hmid
  cases before with
  | nil =>
    have hle := length_le_recentStarts after hmid
    rw [List.nil_append] at heq
    rw [← heq] at hle
    omega
  | cons b before =>
    obtain ⟨-, htail⟩ := List.cons.inj heq
    exact h before mid after htail hmid

namespace ReconnectTab

variable {t : ReconnectTab σ}

@[simp] theorem reconnectAttempt_finish (generation : Nat) :
    (t.finishReconnectAttempt generation).1.reconnectAttempt = t.reconnectAttempt := by
  unfold finishReconnectAttempt
  split <;> rfl

@[simp] theorem reconnectAttempt_setSshPhase (phase : SshConnectionPhase) :
    (t.setSshPhase phase).reconnectAttempt = t.reconnectAttempt := by
  unfold setSshPhase
  split <;> rfl

@[simp] theorem reconnectAttempt_endAttempt (protocol : ReconnectProtocol) (rest : σ → σ) :
    (t.endAttempt protocol rest).reconnectAttempt = t.reconnectAttempt :=
  reconnectAttempt_finish _

theorem startDirect_ok {protocol : ReconnectProtocol} {profileId attemptId : Uuid} {current : Bool}
    {status : String} {rest : σ → σ} {t' : ReconnectTab σ}
    (h : t.startDirect protocol profileId attemptId current status rest = .ok t') :
    t' = t.startAttempt protocol attemptId status rest := by
  unfold startDirect at h
  simp only at h
  split at h
  · cases h
  · split at h
    · cases h
    · exact (Except.ok.inj h).symm

/-- A reconnect that begins counts one more attempt, and never more than the maximum. -/
theorem beginReconnect_cases (t : ReconnectTab σ) :
    t.beginReconnect = (t, none) ∨
      (t.reconnectAttempt + 1 ≤ maxReconnectAttempts ∧
        t.beginReconnect =
          ({ t with reconnectAttempt := t.reconnectAttempt + 1, reconnecting := true },
            some (t.reconnectGeneration, t.reconnectAttempt + 1))) := by
  unfold beginReconnect
  split
  · exact .inl rfl
  · split
    · exact .inl rfl
    · next h => exact .inr ⟨by omega, rfl⟩

/-- Of the events only a connection changes the count, to zero. -/
theorem reconnectAttempt_apply (protocol : ReconnectProtocol) (event : AttemptEvent σ) :
    (event.apply protocol t).reconnectAttempt =
      if event.isConnected then 0 else t.reconnectAttempt := by
  cases event with
  | connected status rest =>
    simp [AttemptEvent.apply, AttemptEvent.isConnected, markReconnectConnected]
  | authenticationFailed auth usedStoredCredential rest =>
    simp only [AttemptEvent.apply, AttemptEvent.isConnected]
    split
    · simp
    · split <;> simp
  | serialOpened portName =>
    simp only [AttemptEvent.apply, AttemptEvent.isConnected]
    split <;> rfl
  | _ => simp [AttemptEvent.apply, AttemptEvent.isConnected]

end ReconnectTab

/-- A section counts an attempt exactly when it begins one. -/
def SectionResult.Counts (tab : Option (ReconnectTab σ)) (result : SectionResult σ) : Prop :=
  (result.started = true → result.tab.isSome = true) ∧
    ∀ t', result.tab = some t' → ∃ t, tab = some t ∧
      t'.reconnectAttempt = t.reconnectAttempt + (if result.started then 1 else 0) ∧
      (result.started = true → t'.reconnectAttempt ≤ maxReconnectAttempts)

theorem SectionResult.counts_of_kept {tab : Option (ReconnectTab σ)} {result : SectionResult σ}
    (hstarted : result.started = false)
    (h : ∀ t', result.tab = some t' → ∃ t, tab = some t ∧ t'.reconnectAttempt = t.reconnectAttempt) :
    result.Counts tab := by
  refine ⟨fun hs => absurd hs (by simp [hstarted]), fun t' ht' => ?_⟩
  obtain ⟨t, ht, hattempt⟩ := h t' ht'
  exact ⟨t, ht, by simpa [hstarted] using hattempt, fun hs => absurd hs (by simp [hstarted])⟩

namespace ReconnectTask

variable (k : ReconnectTask) (outcome : TaskOutcome σ)

theorem schedule_counts (t : ReconnectTab σ) (rest : List TaskSection) :
    (k.schedule t rest).Counts (some t) := by
  obtain h | ⟨hle, h⟩ := t.beginReconnect_cases
  · unfold schedule
    rw [h]
    refine SectionResult.counts_of_kept rfl fun t' ht' => ⟨t, rfl, ?_⟩
    have ht' := Option.some.inj ht'
    subst ht'
    show (if _ then _ else _ : ReconnectTab σ).reconnectAttempt = _
    split <;> rfl
  · unfold schedule
    rw [h]
    refine ⟨fun _ => rfl, fun t' ht' => ⟨t, rfl, ?_⟩⟩
    obtain rfl := Option.some.inj ht'
    exact ⟨rfl, fun _ => hle⟩

theorem reconnectSsh_counts {tab tab' : Option (ReconnectTab σ)}
    (h : k.reconnectSsh outcome tab = .ok tab') {t' : ReconnectTab σ} (ht' : tab' = some t') :
    ∃ t, tab = some t ∧ t'.reconnectAttempt = t.reconnectAttempt := by
  subst ht'
  unfold reconnectSsh at h
  cases hauth : outcome.auth with
  | missing => simp only [hauth] at h; cases h
  | stored =>
    simp only [hauth] at h
    cases tab with
    | none => cases h
    | some t =>
      simp only at h
      split at h
      · obtain rfl := Option.some.inj (Except.ok.inj h)
        exact ⟨t, rfl, ReconnectTab.reconnectAttempt_setSshPhase _⟩
      · cases h
  | prompt encryptedVault =>
    simp only [hauth] at h
    cases tab with
    | none => cases Except.ok.inj h
    | some t =>
      obtain rfl := Option.some.inj (Except.ok.inj h)
      exact ⟨t, rfl, by simp⟩

theorem reconnectDirect_counts {tab : Option (ReconnectTab σ)} {t' : ReconnectTab σ}
    (h : k.reconnectDirect outcome tab = .ok t') :
    ∃ t, tab = some t ∧ t'.reconnectAttempt = t.reconnectAttempt := by
  unfold reconnectDirect at h
  cases tab with
  | none => cases h
  | some t => exact ⟨t, rfl, by rw [ReconnectTab.startDirect_ok h]; rfl⟩

theorem reconnect_counts (tab : Option (ReconnectTab σ)) :
    (k.reconnect outcome tab).Counts tab := by
  have hself : ∀ t', tab = some t' → ∃ t, tab = some t ∧ t'.reconnectAttempt = t.reconnectAttempt :=
    fun t' ht' => ⟨t', ht', rfl⟩
  unfold reconnect
  cases hp : k.protocol with
  | ssh =>
    cases hres : k.reconnectSsh outcome tab with
    | ok tab' =>
      exact SectionResult.counts_of_kept rfl fun t' ht' => k.reconnectSsh_counts outcome hres ht'
    | error error => exact SectionResult.counts_of_kept rfl hself
  | telnet | serial =>
    cases hres : k.reconnectDirect outcome tab with
    | ok t =>
      refine SectionResult.counts_of_kept rfl fun t' ht' => ?_
      obtain rfl := Option.some.inj ht'
      exact k.reconnectDirect_counts outcome hres
    | error error => exact SectionResult.counts_of_kept rfl hself

theorem runSection_counts (sec : TaskSection) (rest : List TaskSection)
    (tab : Option (ReconnectTab σ)) : (k.runSection outcome sec rest tab).Counts tab := by
  -- sections that leave the tab alone, and those that keep its count
  have hkept : ∀ {todo : List TaskSection},
      ({ tab := tab, todo := todo } : SectionResult σ).Counts tab :=
    SectionResult.counts_of_kept rfl fun t' ht' => ⟨t', ht', rfl⟩
  have hsome : ∀ {t t' : ReconnectTab σ} {todo : List TaskSection},
      t'.reconnectAttempt = t.reconnectAttempt →
      ({ tab := some t', todo := todo } : SectionResult σ).Counts (some t) :=
    fun {t t'} _ heq => SectionResult.counts_of_kept rfl fun t'' ht'' =>
      ⟨t, rfl, Option.some.inj ht'' ▸ heq⟩
  unfold runSection
  split
  · unfold fire
    split
    · exact hkept
    · exact hkept
  · next status again generation t hid =>
    unfold clear
    have hattempt := ReconnectTab.reconnectAttempt_finish (t := t) generation
    split
    · next t' hfin => rw [hfin] at hattempt; exact hsome hattempt
    · next t' hfin => rw [hfin] at hattempt; exact hsome hattempt
  · exact k.reconnect_counts outcome _
  · exact k.schedule_counts _ rest
  · exact hsome rfl
  · unfold finishStoredCredentialRetry
    split
    · exact hsome (ReconnectTab.reconnectAttempt_setSshPhase _)
    · exact hsome rfl
  · refine SectionResult.counts_of_kept rfl fun t' ht' => ?_
    cases ht'
  · exact hkept

end ReconnectTask

namespace ReconnectSystem

variable {s : ReconnectSystem σ}

/-- The tab counts the attempts since the last connection or retry. -/
structure Counted (s : ReconnectSystem σ) : Prop where
  bounded : StartsBounded s.marks
  counted : ∀ t, s.tab = some t →
    t.reconnectAttempt = recentStarts s.marks ∧ t.reconnectAttempt ≤ maxReconnectAttempts

/-- A step that begins no attempt and marks nothing keeps the count. -/
theorem Counted.of_kept {s' : ReconnectSystem σ} (h : s.Counted) (hmarks : s'.marks = s.marks)
    (htab : ∀ t', s'.tab = some t' → ∃ t, s.tab = some t ∧
      t'.reconnectAttempt = t.reconnectAttempt) : s'.Counted where
  bounded := hmarks ▸ h.bounded
  counted t' ht' := by
    obtain ⟨t, ht, heq⟩ := htab t' ht'
    rw [heq, hmarks]
    exact h.counted t ht

/-- A connection or a retry starts the count over. -/
theorem Counted.of_reset {s' : ReconnectSystem σ} {m : ReconnectMark} (h : s.Counted)
    (hm : m ≠ .started) (hmarks : s'.marks = m :: s.marks)
    (htab : ∀ t', s'.tab = some t' → t'.reconnectAttempt = 0) : s'.Counted := by
  have hrecent : recentStarts (m :: s.marks) = 0 := by
    simp [recentStarts, hm]
  refine ⟨?_, fun t' ht' => ?_⟩
  · rw [hmarks]
    exact h.bounded.cons (hrecent ▸ Nat.zero_le _)
  · rw [htab t' ht', hmarks, hrecent]
    exact ⟨rfl, Nat.zero_le _⟩

theorem recentStarts_started (marks : List ReconnectMark) :
    recentStarts (.started :: marks) = recentStarts marks + 1 := by
  simp [recentStarts]

theorem Counted.next (h : s.Counted) (i : Nat) (outcome : TaskOutcome σ) :
    (s.next i outcome).Counted := by
  unfold ReconnectSystem.next
  split
  · next k hk =>
    split
    · next sec rest htodo =>
      obtain ⟨hsome, hcounts⟩ := k.runSection_counts outcome sec rest s.tab
      cases hstarted : (k.runSection outcome sec rest s.tab).started with
      | false =>
        refine h.of_kept (by simp [hstarted]) fun t' ht' => ?_
        obtain ⟨t, ht, hattempt, -⟩ := hcounts t' ht'
        exact ⟨t, ht, by simpa [hstarted] using hattempt⟩
      | true =>
        obtain ⟨t', ht'⟩ := Option.isSome_iff_exists.mp (hsome hstarted)
        obtain ⟨t, ht, hattempt, hle⟩ := hcounts t' ht'
        have hcount := h.counted t ht
        simp only [hstarted, ↓reduceIte] at hattempt
        have hle := hle hstarted
        refine ⟨?_, fun t'' ht'' => ?_⟩
        · simp only [hstarted, ↓reduceIte]
          refine h.bounded.cons ?_
          rw [recentStarts_started]
          omega
        · obtain rfl : t' = t'' := Option.some.inj (ht'.symm.trans ht'')
          simp only [hstarted, ↓reduceIte, recentStarts_started]
          omega
    · exact h
  · exact h

theorem Counted.deliver (h : s.Counted) (i : Nat) (event : AttemptEvent σ) :
    (s.deliver i event).Counted := by
  unfold ReconnectSystem.deliver
  split
  · next k t hk ht =>
    split
    · split
      · have hattempt := ReconnectTab.reconnectAttempt_apply (t := t) k.protocol event
        cases hconnected : event.isConnected with
        | true =>
          refine h.of_reset (m := .connected) nofun (by simp) fun t' ht' => ?_
          rw [← Option.some.inj ht', hattempt, hconnected]
          rfl
        | false =>
          refine h.of_kept (by simp) fun t' ht' => ⟨t, ht, ?_⟩
          rw [← Option.some.inj ht', hattempt, hconnected]
          rfl
      · exact h
    · exact h
  · exact h

theorem Counted.retry (h : s.Counted) (rest : σ → σ) : (s.retry rest).Counted := by
  unfold ReconnectSystem.retry
  split
  · split
    · exact h
    · refine h.of_reset (m := .retried) nofun rfl fun t' ht' => ?_
      rw [← Option.some.inj ht']
      rfl
  · exact h

theorem step_counted (h : s.Counted) (op : ReconnectOp σ) : (s.step op).Counted := by
  cases op with
  | deliver i event => exact h.deliver i event
  | next i outcome => exact h.next i outcome
  | abandon i =>
    refine h.of_kept ?_ fun t' ht' => ⟨t', ?_, rfl⟩
    · simp only [step, abandon]
      split <;> rfl
    · simp only [step, abandon] at ht'
      split at ht' <;> exact ht'
  | retry rest => exact h.retry rest
  | disconnect rest =>
    refine h.of_kept rfl fun t' ht' => ?_
    obtain ⟨t, ht, rfl⟩ := Option.map_eq_some_iff.mp ht'
    exact ⟨t, ht, rfl⟩
  | close => exact h.of_kept rfl fun t' ht' => by cases ht'
  | startSession profileId attemptId status rest =>
    simp only [step, startSession]
    split
    -- a session is started by hand, and the count of attempts stays
    · next t ht =>
      split
      · exact h.of_kept rfl fun t' ht' => ⟨t, ht, by rw [← Option.some.inj ht']; rfl⟩
      · exact h
    · exact h
  | startDirect protocol profileId attemptId profileCurrent status rest =>
    simp only [step, startDirect]
    split
    · next t ht =>
      split
      · next t₁ hok =>
        refine h.of_kept rfl fun t' ht' => ⟨t, ht, ?_⟩
        rw [← Option.some.inj ht', ReconnectTab.startDirect_ok hok]
        rfl
      · exact h
    · exact h
  | edit status phase rest =>
    refine h.of_kept rfl fun t' ht' => ?_
    obtain ⟨t, ht, rfl⟩ := Option.map_eq_some_iff.mp ht'
    exact ⟨t, ht, ReconnectTab.reconnectAttempt_setSshPhase _⟩

theorem opened_counted (t : ReconnectTab σ) : (opened t).Counted where
  bounded := startsBounded_nil
  counted t' ht' := by
    obtain rfl := Option.some.inj ht'
    exact ⟨rfl, Nat.zero_le _⟩

/-! ## Replaced ids -/

/-- The section compares the id of its task before it changes anything. -/
def Compares : TaskSection → Prop
  | .fire | .clear _ _ => True
  | _ => False

/-- Every section that the task has left compares its id. -/
def Quiet (i : Nat) (s : ReconnectSystem σ) : Prop :=
  ∀ k, s.tasks[i]? = some k → ∀ sec ∈ k.todo, Compares sec

/-- The id that the task carries is not the one of the tab. -/
def Stale (i : Nat) (s : ReconnectSystem σ) : Prop :=
  ∀ k, s.tasks[i]? = some k → k.currentIn s.tab = false

/-- The task that takes the step. -/
def taskOf : ReconnectOp σ → Option Nat
  | .deliver i _ | .next i _ | .abandon i => some i
  | _ => none

/-- An event of a replaced attempt is dropped. -/
theorem deliver_of_stale {i : Nat} (h : s.Stale i) (event : AttemptEvent σ) :
    s.deliver i event = s := by
  unfold deliver
  split
  · next k t hk ht =>
    have hstale := h k hk
    rw [ht] at hstale
    split
    · next attemptId hid =>
      rw [if_neg]
      rintro ⟨-, hmatch⟩
      simp [ReconnectTask.currentIn, hid, hmatch] at hstale
    · rfl
  · rfl

theorem fire_tab (k : ReconnectTask) (generation : Nat) (found : Bool)
    (tab : Option (ReconnectTab σ)) : (k.fire generation found tab).tab = tab := by
  unfold ReconnectTask.fire
  split <;> rfl

/-- A timer that wakes after its generation was replaced has only its clearing left. -/
theorem fire_of_stale {k : ReconnectTask} {generation : Nat} {tab : Option (ReconnectTab σ)}
    (hid : k.id = .generation generation) (h : k.currentIn tab = false) (found : Bool) :
    ∀ sec ∈ (k.fire generation found tab).todo, Compares sec := by
  have hcurrent : tab.any (fun t =>
      t.reconnectCurrent generation && t.backend.profileId == some k.profileId) = false := by
    cases tab with
    | none => rfl
    | some t =>
      simp only [ReconnectTask.currentIn, hid, Option.any_some] at h
      simp [ReconnectTab.reconnectCurrent, h]
  unfold ReconnectTask.fire
  rw [hcurrent]
  simp [Compares]

theorem clear_of_stale {generation : Nat} {t : ReconnectTab σ}
    (h : t.reconnectGeneration ≠ generation) (status : String) (again : Bool) :
    ReconnectTask.clear generation status again t = { tab := some t } := by
  simp [ReconnectTask.clear, ReconnectTab.finishReconnectAttempt, h]

/-- A comparing section of a stale task changes nothing and admits no other section. -/
theorem runSection_of_stale {k : ReconnectTask} {sec : TaskSection} {rest : List TaskSection}
    (hstale : k.currentIn s.tab = false) (hsec : Compares sec) (hrest : ∀ sec ∈ rest, Compares sec)
    (outcome : TaskOutcome σ) :
    (k.runSection outcome sec rest s.tab).tab = s.tab ∧
      ∀ sec' ∈ (k.runSection outcome sec rest s.tab).todo, Compares sec' := by
  cases sec with
  | fire =>
    cases hid : k.id with
    | attempt attemptId =>
      -- an attempt has no timer: the section does nothing
      have hrun : k.runSection outcome .fire rest s.tab = { tab := s.tab, todo := rest } := by
        unfold ReconnectTask.runSection
        rw [hid]
      rw [hrun]
      exact ⟨rfl, hrest⟩
    | generation generation =>
      have hrun : k.runSection outcome .fire rest s.tab =
          k.fire generation outcome.found s.tab := by
        unfold ReconnectTask.runSection
        rw [hid]
      rw [hrun]
      exact ⟨fire_tab k generation outcome.found s.tab, fire_of_stale hid hstale outcome.found⟩
  | clear status again =>
    cases hid : k.id with
    | attempt attemptId =>
      have hrun : k.runSection outcome (.clear status again) rest s.tab =
          { tab := s.tab, todo := rest } := by
        unfold ReconnectTask.runSection
        rw [hid]
      rw [hrun]
      exact ⟨rfl, hrest⟩
    | generation generation =>
      cases htab : s.tab with
      | none =>
        have hrun : k.runSection outcome (.clear status again) rest (none : Option (ReconnectTab σ)) =
            { tab := none, todo := rest } := by
          unfold ReconnectTask.runSection
          rw [hid]
        rw [hrun]
        exact ⟨rfl, hrest⟩
      | some t =>
        -- a stale task is one of an older generation
        have hgen : t.reconnectGeneration ≠ generation := by
          simpa [ReconnectTask.currentIn, hid, htab] using hstale
        have hrun : k.runSection outcome (.clear status again) rest (some t) =
            { tab := some t } := by
          unfold ReconnectTask.runSection
          rw [hid]
          exact clear_of_stale hgen status again
        rw [hrun]
        exact ⟨rfl, List.forall_mem_nil _⟩
  | _ => exact absurd hsec id

/-- What a section starts begins by comparing. -/
theorem spawned_compares (k : ReconnectTask) (outcome : TaskOutcome σ) (sec : TaskSection)
    (rest : List TaskSection) (tab : Option (ReconnectTab σ)) :
    ∀ k' ∈ (k.runSection outcome sec rest tab).spawned, ∀ sec' ∈ k'.todo, Compares sec' := by
  unfold ReconnectTask.runSection
  split
  · unfold ReconnectTask.fire
    split <;> simp
  · unfold ReconnectTask.clear
    split <;> simp
  · unfold ReconnectTask.reconnect
    split <;> split <;> simp
  · unfold ReconnectTask.schedule
    split
    · simp [Compares]
    · simp
  · simp
  · unfold ReconnectTask.finishStoredCredentialRetry
    split <;> simp
  · simp
  · simp

/-- Another task that is set and quiet tasks that are added leave a quiet task quiet. -/
theorem Quiet.of_added {i j : Nat} {s' : ReconnectSystem σ} {k : ReconnectTask}
    {added : List ReconnectTask} (h : s.Quiet i) (hj : j = i → ∀ sec ∈ k.todo, Compares sec)
    (htasks : s'.tasks = s.tasks.set j k ++ added)
    (hadded : ∀ k' ∈ added, ∀ sec ∈ k'.todo, Compares sec) : s'.Quiet i := by
  intro k' hk'
  rw [htasks, List.getElem?_append] at hk'
  split at hk'
  · by_cases hij : j = i
    · subst hij
      rw [List.getElem?_set_self'] at hk'
      obtain ⟨k₀, -, rfl⟩ := Option.map_eq_some_iff.mp hk'
      exact hj rfl
    · exact h k' (by rwa [List.getElem?_set_ne hij] at hk')
  · exact hadded k' (List.mem_of_getElem? hk')

theorem Quiet.of_appended {i : Nat} {s' : ReconnectSystem σ} {k : ReconnectTask} (h : s.Quiet i)
    (hk : k.todo = []) (htasks : s'.tasks = s.tasks ++ [k]) : s'.Quiet i := by
  intro k' hk'
  rw [htasks, List.getElem?_append] at hk'
  split at hk'
  · exact h k' hk'
  · obtain rfl := List.mem_singleton.mp (List.mem_of_getElem? hk')
    rw [hk]
    exact List.forall_mem_nil _

theorem next_of_quiet {i : Nat} (hquiet : s.Quiet i) (hstale : s.Stale i)
    (outcome : TaskOutcome σ) :
    (s.next i outcome).tab = s.tab ∧ (s.next i outcome).Quiet i := by
  unfold next
  split
  · next k hk =>
    split
    · next sec rest htodo =>
      have hall := hquiet k hk
      rw [htodo] at hall
      obtain ⟨htab, htodo'⟩ := runSection_of_stale (hstale k hk) (hall sec List.mem_cons_self)
        (fun sec' hsec' => hall sec' (List.mem_cons_of_mem sec hsec')) outcome
      exact ⟨htab, hquiet.of_added (fun _ => htodo') rfl (spawned_compares k outcome sec rest s.tab)⟩
    · exact ⟨rfl, hquiet⟩
  · exact ⟨rfl, hquiet⟩

theorem abandon_quiet {i : Nat} (h : s.Quiet i) (j : Nat) : (s.abandon j).Quiet i := by
  unfold abandon
  split
  · next k hk =>
    refine h.of_added (k := { k with todo := [] })
      (fun _ => List.forall_mem_nil _) (List.append_nil _).symm (List.forall_mem_nil _)
  · exact h

/-- A stale step of a quiet task leaves every field of the tab as it is. -/
theorem step_of_quiet {i : Nat} {op : ReconnectOp σ} (hquiet : s.Quiet i) (hstale : s.Stale i)
    (hop : taskOf op = some i) : (s.step op).tab = s.tab := by
  cases op with
  | deliver j event =>
    obtain rfl := Option.some.inj hop
    exact congrArg ReconnectSystem.tab (deliver_of_stale hstale event)
  | next j outcome =>
    obtain rfl := Option.some.inj hop
    exact (next_of_quiet hquiet hstale outcome).1
  | abandon j =>
    simp only [step, abandon]
    split <;> rfl
  | _ => cases hop

/-- Only a section of the task that finds its id leaves sections that compare nothing. -/
theorem current_of_admitted {i : Nat} {op : ReconnectOp σ} (hquiet : s.Quiet i)
    (h : ¬(s.step op).Quiet i) : taskOf op = some i ∧ ¬s.Stale i := by
  cases op with
  | deliver j event =>
    by_cases hji : j = i
    · subst hji
      -- a stale task is turned away and touches nothing
      refine ⟨rfl, fun hstale => h ?_⟩
      show (s.deliver j event).Quiet j
      rw [deliver_of_stale hstale]
      exact hquiet
    -- the event of another task may bring a task, but not this one
    · refine absurd ?_ h
      simp only [step, deliver]
      split
      · split
        · split
          · exact hquiet.of_added (fun hj => absurd hj hji)
              (List.append_nil _).symm (List.forall_mem_nil _)
          · exact hquiet
        · exact hquiet
      · exact hquiet
  | next j outcome =>
    by_cases hji : j = i
    · subst hji
      exact ⟨rfl, fun hstale => h (next_of_quiet hquiet hstale outcome).2⟩
    · refine absurd ?_ h
      simp only [step, next]
      split
      · split
        · exact hquiet.of_added (fun hj => absurd hj hji) rfl
            (spawned_compares _ outcome _ _ s.tab)
        · exact hquiet
      · exact hquiet
  | abandon j => exact absurd (abandon_quiet hquiet j) h
  | retry rest =>
    refine absurd ?_ h
    simp only [step, retry]
    split
    · split <;> exact hquiet
    · exact hquiet
  | disconnect rest => exact absurd hquiet h
  | close => exact absurd hquiet h
  | startSession profileId attemptId status rest =>
    refine absurd ?_ h
    simp only [step, startSession]
    split
    · split
      · exact hquiet.of_appended rfl rfl
      · exact hquiet
    · exact hquiet
  | startDirect protocol profileId attemptId profileCurrent status rest =>
    refine absurd ?_ h
    simp only [step, startDirect]
    split
    · split
      · exact hquiet.of_appended rfl rfl
      · exact hquiet
    · exact hquiet
  | edit status phase rest => exact absurd hquiet h

/-! ## Whole runs -/

theorem run_snoc (s : ReconnectSystem σ) (ops : List (ReconnectOp σ)) (op : ReconnectOp σ) :
    s.run (ops ++ [op]) = (s.run ops).step op := by
  simp [run]

/-- The handler that the task runs began with a section that found its id, and has not come to
    its end since. -/
def Admitted (s : ReconnectSystem σ) (ops : List (ReconnectOp σ)) (i : Nat) : Prop :=
  ∃ before op after, ops = before ++ op :: after ∧ taskOf op = some i ∧
    ¬(s.run before).Stale i ∧
      ∀ mid, mid <+: after → ¬(s.run (before ++ op :: mid)).Quiet i

theorem admitted_of_not_quiet {i : Nat} {ops : List (ReconnectOp σ)} (hstart : s.Quiet i)
    (h : ¬(s.run ops).Quiet i) : s.Admitted ops i := by
  induction ops using List.reverseRecOn with
  | nil => exact absurd hstart h
  | append_singleton ops op ih =>
    by_cases hquiet : (s.run ops).Quiet i
    · -- this step is the section that found the id
      have hlast := h
      rw [run_snoc] at hlast
      obtain ⟨hop, hcurrent⟩ := current_of_admitted hquiet hlast
      refine ⟨ops, op, [], rfl, hop, hcurrent, fun mid hmid => ?_⟩
      obtain rfl := List.prefix_nil.mp hmid
      exact h
    · obtain ⟨before, first, after, rfl, hop, hcurrent, hmid⟩ := ih hquiet
      refine ⟨before, first, after ++ [op], by simp, hop, hcurrent, fun mid hpre => ?_⟩
      rcases List.prefix_concat_iff.mp hpre with rfl | hpre
      · rwa [List.append_assoc] at h
      · exact hmid mid hpre

theorem opened_quiet (t : ReconnectTab σ) (i : Nat) : (opened t).Quiet i := by
  intro k hk
  cases hk

/-- A step of a monitor or a timer whose id is replaced changes no field of the tab, unless an
    earlier section of the same handler found the id current; and automatic attempts begin at most
    five times between two connections or manual retries. -/
theorem reconnect_safety (t : ReconnectTab σ) (ops : List (ReconnectOp σ)) :
    (∀ op i, taskOf op = some i → ((opened t).run ops).Stale i →
      ((opened t).run (ops ++ [op])).tab = ((opened t).run ops).tab ∨
        (opened t).Admitted ops i) ∧
    StartsBounded ((opened t).run ops).marks := by
  refine ⟨fun op i hop hstale => ?_, ?_⟩
  · by_cases hquiet : ((opened t).run ops).Quiet i
    · rw [run_snoc]
      exact .inl (step_of_quiet hquiet hstale hop)
    · exact .inr (admitted_of_not_quiet (opened_quiet t i) hquiet)
  · have hcounted : ((opened t).run ops).Counted := by
      induction ops using List.reverseRecOn with
      | nil => exact opened_counted t
      | append_singleton ops op ih =>
        rw [run_snoc]
        exact step_counted ih op
    exact hcounted.bounded

/-! ## A manual retry and a late timer -/

def console : ReconnectTab Unit := { backend := .telnet ⟨1⟩ none, content := () }

/-- The first connection is lost, and the first reconnect is scheduled. -/
def lostConnection : List (ReconnectOp Unit) :=
  [.startDirect .telnet ⟨1⟩ ⟨2⟩ true "" id, .deliver 0 (.connected "" id),
    .deliver 0 (.directFinished "Disconnected" true id), .next 0 {}]

/-- A timer wakes, cannot start its worker, and schedules the next reconnect. -/
def failedAttempt (timer : Nat) : List (ReconnectOp Unit) :=
  [.next timer {}, .next timer {}, .next timer { profileCurrent := false }, .next timer {},
    .next timer {}]

/-- After a manual retry the first attempt fails, and the sixth automatic one connects. -/
def retriedConnection : List (ReconnectOp Unit) :=
  lostConnection ++ [1, 2, 3, 4, 5].flatMap failedAttempt ++
    [.retry id, .startDirect .telnet ⟨1⟩ ⟨3⟩ true "" id,
      .deliver 6 (.directFinished "Disconnected" true id), .next 6 {}, .next 7 {}, .next 7 {},
      .next 7 { attemptId := ⟨4⟩ }, .deliver 8 (.connected "" id)]

/-- A manual retry starts the count over, and a timer that woke just before one still writes the
    status of the tab. -/
theorem retry_between_connections :
    ¬(∀ ops : List (ReconnectOp Unit), ∀ before mid after,
      ((opened console).run ops).marks = before ++ .connected :: mid ++ .connected :: after →
        mid.count .started ≤ maxReconnectAttempts) ∧
    ¬(∀ (ops : List (ReconnectOp Unit)) (op : ReconnectOp Unit) (i : Nat), taskOf op = some i →
      ((opened console).run ops).Stale i →
        ((opened console).run (ops ++ [op])).tab = ((opened console).run ops).tab) := by
  constructor
  · intro h
    have hcount := h retriedConnection []
      [.started, .retried, .started, .started, .started, .started, .started] [] (by decide)
    exact absurd hcount (by decide)
  · intro h
    have hstale : ((opened console).run (lostConnection ++ [.next 1 {}, .retry id])).Stale 1 := by
      intro k hk
      obtain rfl : _ = k := Option.some.inj hk
      decide
    have htab := h (lostConnection ++ [.next 1 {}, .retry id]) (.next 1 {}) 1 rfl hstale
    exact absurd (congrArg (Option.map ReconnectTab.status) htab) (by decide)

end ReconnectSystem

end AxSsh
