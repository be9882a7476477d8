import AxSsh.Spec.WorkerSlots

/-!
# The outcome of an upload

Every orderly run of the loop is, at each transfer, a run of the machine of censuses.  The loop
reports one outcome for every upload that it accepts, at the moment at which the upload gives its
queue slot back; afterwards the upload is in no container and is not started again.

## Key results
- `loop_refines_census`: the loop refines the machine
- `Census.Settles.move`: outcome and slot are exchanged, in every move
- `upload_outcomes`: every orderly run
-/

namespace AxSsh

namespace Census

/-- Of the `n` outcomes that are due, the last stands for the slot; without the slot the transfer
    is nowhere. -/
structure Settles (n : Int) (c : Census) : Prop where
  outcome : (c.outcome + c.slot : Int) = n + c.replied
  nowhere : c.queuedRoot + c.discovering + c.place ≤ c.slot

/-- A move that brings no transfer, and reports none that has no place. -/
theorem Settles.move {n : Int} {k : MoveKind} {c c' : Census} (h : c.Settles n) (hc : c.Sound)
    (ht : c.Tight) (henter : k ≠ .enter) (hextra : k ≠ .extra) (hm : Move k c c') :
    c'.Settles n := by
  obtain ⟨h₁, h₂⟩ := h
  obtain ⟨hplace, hreported, hdropped, hslot, hdiscovery, hroot, -, -, -, -, hself⟩ := hc
  obtain ⟨hlost, hactive⟩ := ht
  unfold place at h₂ hplace
  cases hm <;> first
    | exact absurd rfl henter
    | exact absurd rfl hextra
    | constructor <;> simp only [place] <;> omega

/-- A transfer without a slot is not started. -/
theorem Settles.starts {n : Int} {k : MoveKind} {c c' : Census} (h : c.Settles n)
    (hslot : c.slot = 0) (henter : k ≠ .enter) (hm : Move k c c') :
    c'.slot = 0 ∧ c'.starts = c.starts := by
  have hnowhere := h.nowhere
  unfold place at hnowhere
  cases hm <;> first
    | exact absurd rfl henter
    | refine ⟨?_, ?_⟩ <;> simp only <;> omega

end Census

namespace SftpWorker

variable {s : SftpWorker} {input : WorkerInput} {t : Uuid}

/-- An orderly input loses no event. -/
theorem inputKinds_ne_lose (hlost : ∀ id, input ≠ .taskStage id .lost) {kind : Census.MoveKind}
    (hkind : s.inputKinds input t kind) : kind ≠ .lose := by
  rintro rfl
  obtain hwork | hpermits := hkind
  · cases hwork
  · cases input with
    | taskStage id stage =>
      cases stage with
      | lost => exact hlost id rfl
      | _ => exact hpermits
    | _ => exact hpermits

/-- The loop refines the machine of censuses: at each transfer an orderly run is one of its runs, in
    which no last event is lost and which begins where nothing is known of the transfer; and all that
    such a run reaches is sound. -/
theorem loop_refines_census (limit : Nat) :
    (∀ s, ((workerSystem limit).restrict Orderly).Reachable s → ∀ t,
      Census.Moves (· ≠ .lose) ((new limit).census t) (s.census t)) ∧
    ∀ t c, Census.Moves (· ≠ .lose) ((new limit).census t) c → c.Sound ∧ c.Tight := by
  refine ⟨fun s h => ?_, fun t c hmoves => ?_⟩
  · refine (h.invariant (P := fun s => s.InOrder ∧ ∀ t,
      Census.Moves (· ≠ .lose) ((new limit).census t) (s.census t)) ?_ ?_).2
    · rintro s rfl
      exact ⟨inOrder_new limit, fun t => .refl _⟩
    · rintro s input s' ⟨⟨-, hallowed, rfl⟩, horderly⟩ ⟨hs, hmoves⟩
      refine ⟨hs.apply hallowed horderly, fun t => (hmoves t).trans ?_⟩
      obtain ⟨hbrings, hreceiver, hlost⟩ := horderly
      refine (hs.booked.apply hallowed hbrings hreceiver t).2.mono fun kind hkind => ?_
      exact inputKinds_ne_lose hlost hkind
  · exact hmoves.preserves (I := fun c => c.Sound ∧ c.Tight)
      (fun _ _ _ hkind hmove hinv => ⟨hinv.1.move hmove, hinv.2.move hkind hmove⟩)
      ⟨(inOrder_new limit).booked.sound t, (inOrder_new limit).tight t⟩

/-- The outcomes of a transfer, without the refusals of commands. -/
def outcomes (s : SftpWorker) (t : Uuid) : Int :=
  (s.sent.countP (·.settles t) : Int) - s.replied.count t

/-- The input brings the transfer to the loop. -/
def Admits (s : SftpWorker) (input : WorkerInput) (t : Uuid) : Prop :=
  s.Permits input (.of .enter t)

/-- A cancel reports an outcome of its own only for the root of a discovery. -/
theorem discovering_of_extra (h : s.Permits input (.of .extra t)) :
    (s.census t).discovering = 1 := by
  cases input with
  | command command order slots =>
    obtain ⟨-, htarget⟩ := h
    have hspec := s.reapFinishedSftpTransfers.cancelTarget_spec t
    rw [htarget] at hspec
    exact tally_true hspec.2
  | taskStage id stage => cases stage <;> exact h.elim
  | _ => exact h.elim

/-- One input, for a transfer that holds a slot or is nowhere. -/
theorem InOrder.settles {n : Int} (hs : s.InOrder) (h : (s.census t).Settles n)
    (hallowed : s.Allowed input) (horderly : s.Orderly input) (hnew : ¬s.Admits input t) :
    ((s.apply input).census t).Settles n ∧
      ((s.census t).slot = 0 → ((s.apply input).census t).slot = 0 ∧
        ((s.apply input).census t).starts = (s.census t).starts) := by
  obtain ⟨hbrings, hreceiver, hlost⟩ := horderly
  -- none of the moves brings the transfer, loses its event or reports for a discovery
  have hkinds {kind : Census.MoveKind} (hkind : s.inputKinds input t kind) :
      kind ≠ .enter ∧ kind ≠ .extra ∧ kind ≠ .lose := by
    refine ⟨?_, ?_, inputKinds_ne_lose hlost hkind⟩ <;> rintro rfl <;>
      obtain hwork | hpermits := hkind
    · cases hwork
    · exact hnew hpermits
    · cases hwork
    · have hroot := (hs.booked.sound t).root_le
      have hnowhere := h.nowhere
      rw [discovering_of_extra hpermits] at hroot hnowhere
      omega
  have hmoves := (hs.booked.apply hallowed hbrings hreceiver t).2
  refine (hmoves.preserves (I := fun c => c.Sound ∧ c.Tight ∧ c.Settles n ∧
    ((s.census t).slot = 0 → c.slot = 0 ∧ c.starts = (s.census t).starts))
    (fun kind c c' hkind hmove hinv => ?_)
    ⟨hs.booked.sound t, hs.tight t, h, fun hslot => ⟨hslot, rfl⟩⟩).2.2
  obtain ⟨hsound, htight, hsettles, hstarts⟩ := hinv
  obtain ⟨henter, hextra, hlose⟩ := hkinds hkind
  refine ⟨hsound.move hmove, htight.move hlose hmove,
    hsettles.move hsound htight henter hextra hmove, fun hslot => ?_⟩
  obtain ⟨hslot', hsame⟩ := hstarts hslot
  obtain ⟨hslot'', hstep⟩ := hsettles.starts hslot' henter hmove
  exact ⟨hslot'', hstep.trans hsame⟩

theorem InOrder.settles_run {n : Int} (hs : s.InOrder) (h : (s.census t).Settles n)
    {inputs : List WorkerInput}
    (hinputs : AllowedRun (fun s input => s.Orderly input ∧ ¬s.Admits input t) s inputs) :
    ((inputs.foldl SftpWorker.apply s).census t).Settles n ∧
      ((s.census t).slot = 0 → ((inputs.foldl SftpWorker.apply s).census t).slot = 0 ∧
        ((inputs.foldl SftpWorker.apply s).census t).starts = (s.census t).starts) := by
  induction inputs generalizing s with
  | nil => exact ⟨h, fun hslot => ⟨hslot, rfl⟩⟩
  | cons input inputs ih =>
    obtain ⟨⟨-, hallowed, horderly, hnew⟩, hrest⟩ := hinputs
    obtain ⟨hnext, hstarts⟩ := hs.settles h hallowed horderly hnew
    obtain ⟨hlast, hlater⟩ := ih (hs.apply hallowed horderly) hnext hrest
    refine ⟨hlast, fun hslot => ?_⟩
    obtain ⟨hslot', hsame⟩ := hstarts hslot
    obtain ⟨hslot'', hsame'⟩ := hlater hslot'
    exact ⟨hslot'', hsame'.trans hsame⟩

/-- From any state of an orderly run on, as long as an upload is not submitted again: one outcome
    is reported when it gives its slot back, and none before or after.  Without a slot it is in no
    container and is not started. -/
theorem upload_outcomes {limit : Nat} (h : ((workerSystem limit).restrict Orderly).Reachable s)
    (ht : t ∈ s.uploadQueueSlots ∨ (s.census t).Blank) {inputs : List WorkerInput}
    (hinputs : AllowedRun (fun s input => s.Orderly input ∧ ¬s.Admits input t) s inputs) :
    let s' := inputs.foldl apply s
    s'.outcomes t + tally (t ∈ s'.uploadQueueSlots) =
        s.outcomes t + tally (t ∈ s.uploadQueueSlots) ∧
      (t ∉ s'.uploadQueueSlots → (s'.census t).Blank) ∧
      (t ∉ s.uploadQueueSlots →
        t ∉ s'.uploadQueueSlots ∧ s'.started.count t = s.started.count t) := by
  intro s'
  have hs := reachable_inOrder h
  have hroot := (hs.booked.sound t).root_le
  have hplace := (hs.booked.sound t).place_le
  have hslot : (s.census t).slot = tally (t ∈ s.uploadQueueSlots) := rfl
  have hslot' : (s'.census t).slot = tally (t ∈ s'.uploadQueueSlots) := rfl
  have hsettles : (s.census t).Settles (s.outcomes t + tally (t ∈ s.uploadQueueSlots)) := by
    refine ⟨by simp only [outcomes, census]; omega, ?_⟩
    obtain hmem | ⟨hqueued, hdiscovering, hnone, -⟩ := ht
    · rw [tally_true hmem] at hslot
      omega
    · omega
  have hrun : (s'.census t).Settles _ ∧ ((s.census t).slot = 0 → (s'.census t).slot = 0 ∧
      (s'.census t).starts = (s.census t).starts) := hs.settles_run hsettles hinputs
  obtain ⟨⟨houtcome, hnowhere⟩, hstarts⟩ := hrun
  refine ⟨?_, fun hnone => ?_, fun hnone => ?_⟩
  · simp only [outcomes, census] at houtcome ⊢
    omega
  · rw [hslot', tally_false hnone] at hnowhere
    refine ⟨?_, ?_, ?_, hslot'.trans (tally_false hnone)⟩ <;> omega
  · obtain ⟨hgone, hsame⟩ := hstarts (hslot.trans (tally_false hnone))
    exact ⟨tally_eq_zero.mp hgone, hsame⟩

/-- The end of an upload that was started. -/
def uploadEnd : List WorkerInput := [.taskEnd (.completed 1 "" 0), .transferEventReceived 0]

/-- An upload that is submitted and completed. -/
theorem upload_outcomes_completed :
    let s := after [.command (.openSftpUpload { transferId := 1, batchId := 1 }) [] 1]
    let s' := uploadEnd.foldl apply s
    s.outcomes 1 = 0 ∧ s'.outcomes 1 = 1 ∧ (s'.census 1).Blank := by
  intro s s'
  have hs : ((workerSystem 1).restrict Orderly).Reachable s := by
    refine reachable_foldl (.of_init rfl) [_] ⟨⟨rfl, trivial, ?_, nofun, nofun⟩, trivial⟩
    rintro t ⟨⟩
    exact .inr ⟨by decide, by decide, by decide, by decide⟩
  have hinputs : AllowedRun (fun s input => s.Orderly input ∧ ¬s.Admits input 1) s uploadEnd :=
    ⟨⟨rfl, ⟨_, rfl, rfl, rfl⟩, ⟨trivial, nofun, nofun⟩, id⟩,
      ⟨rfl, trivial, ⟨trivial, nofun, nofun⟩, id⟩, trivial⟩
  obtain ⟨houtcomes, hblank, -⟩ := upload_outcomes hs (.inl (by decide)) hinputs
  refine ⟨by decide, houtcomes.trans (by decide), hblank (by decide)⟩

end SftpWorker

end AxSsh
