import AxSsh.ForStd.Transition

/-!
# Views that are refreshed on their own

A view of something that changes: it is told of changes and asks for what it shows again.  While
something else is outstanding it cannot ask, and the refresh is put off.  `Refresher` is such a
system as it is seen from outside, and the three properties are those of a view that is refreshed
as it should be, over whole runs.  `Refresher.Sound` is what they need of one step.

## Key results
- `Refresher.Sound.asksShown`: automatic requests ask for what is shown
- `Refresher.Sound.keepsPlace`: their answers move the view nowhere
- `Refresher.Sound.losesNothing`: every change is followed by a request, or by what excuses it
-/

universe u v w x

/-- A system that shows something, remembers where it has been and refreshes itself. -/
structure Refresher (S : Type u) (A : Type v) (P : Type w) (H : Type x) where
  step : S → A → S
  shown : S → P
  history : S → H
  /-- What the automatic request of a step asks for. -/
  request : S → A → Option P
  /-- The automatic request of the step is taken on. -/
  taken : S → A → Prop
  /-- The step tells of a change of what is shown. -/
  notified : S → A → Prop
  /-- The step answers the outstanding request with this. -/
  answered : S → A → Option P
  /-- No request is outstanding any more when the step has done its work. -/
  concludes : S → A → Prop
  /-- The step is a reason not to refresh. -/
  ends : S → A → Prop
  /-- A refresh is put off, and what it waits for is outstanding. -/
  putOff : S → Prop

namespace Refresher

open Transition (AllSafe allSafe_append_iff allSafe_cons_iff)

variable {S : Type u} {A : Type v} {P : Type w} {H : Type x} (R : Refresher S A P H)

/-- A request of the step goes out. -/
def Issues (s : S) (a : A) : Prop := ∃ p, R.request s a = some p ∧ R.taken s a

/-- Every automatic request of the run asks for what is shown. -/
def AsksShown (s : S) (as : List A) : Prop :=
  ∀ pre a, pre ++ [a] <+: as → ∀ p, R.request (pre.foldl R.step s) a = some p →
    p = R.shown (R.step (pre.foldl R.step s) a)

/-- An automatic request that is answered with what it asked for leaves what is shown and the
    history as they were. -/
def KeepsPlace (s : S) (as : List A) : Prop :=
  ∀ pre a mid b, pre ++ a :: (mid ++ [b]) <+: as →
    ∀ p, R.request (pre.foldl R.step s) a = some p → R.taken (pre.foldl R.step s) a →
      ∀ t, t = R.step (pre.foldl R.step s) a →
        AllSafe R.step t (fun s a => ¬R.concludes s a) mid →
        R.answered (mid.foldl R.step t) b = some p →
        R.shown (R.step (mid.foldl R.step t) b) = R.shown t ∧
          R.history (R.step (mid.foldl R.step t) b) = R.history t

/-- After every change of what is shown a request goes out, or there is a reason not to refresh,
    or else the refresh is still put off at the end of the run. -/
def LosesNothing (s : S) (as : List A) : Prop :=
  ∀ pre a post, as = pre ++ a :: post → R.notified (pre.foldl R.step s) a →
    (∃ mid b, mid ++ [b] <+: a :: post ∧
      (R.Issues (mid.foldl R.step (pre.foldl R.step s)) b ∨
        R.ends (mid.foldl R.step (pre.foldl R.step s)) b)) ∨
      R.putOff (as.foldl R.step s)

/-- What the steps of a refresher do, with an invariant of its runs and with `refreshing`, which
    says of a state that an automatic request is outstanding, and for what. -/
structure Sound (safe : S → A → Prop) (inv : S → Prop) (refreshing : P → H → S → Prop) : Prop where
  inv_step : ∀ s a, inv s → safe s a → inv (R.step s a)
  asks : ∀ s a p, safe s a → R.request s a = some p → p = R.shown (R.step s a)
  begins : ∀ s a p, safe s a → R.request s a = some p → R.taken s a →
    refreshing p (R.history (R.step s a)) (R.step s a)
  goesOn : ∀ p h s a, refreshing p h s → R.concludes s a ∨ refreshing p h (R.step s a)
  answers : ∀ p h s a, refreshing p h s → R.answered s a = some p →
    R.shown (R.step s a) = p ∧ R.history (R.step s a) = h
  notices : ∀ s a, inv s → safe s a → R.notified s a →
    (R.Issues s a ∨ R.ends s a) ∨ R.putOff (R.step s a)
  waits : ∀ s a, R.putOff s → safe s a → (R.Issues s a ∨ R.ends s a) ∨ R.putOff (R.step s a)

variable {R} {safe : S → A → Prop} {inv : S → Prop} {refreshing : P → H → S → Prop}

theorem Sound.asksShown (h : R.Sound safe inv refreshing) {s : S} {as : List A}
    (hsafe : AllSafe R.step s safe as) : R.AsksShown s as :=
  fun pre a hpre p hrequest => h.asks _ a p (hsafe pre a hpre) hrequest

theorem Sound.keepsPlace (h : R.Sound safe inv refreshing) {s : S} {as : List A}
    (hsafe : AllSafe R.step s safe as) : R.KeepsPlace s as := by
  rintro pre a mid b hpre p hrequest htaken _ rfl hmid hanswer
  have hnow : safe (pre.foldl R.step s) a := by
    refine hsafe pre a (List.IsPrefix.trans ?_ hpre)
    exact (List.prefix_append_right_inj pre).mpr
      (List.cons_prefix_cons.mpr ⟨rfl, List.nil_prefix⟩)
  -- until the answer comes nothing concludes, so the request stays outstanding
  have hgoing := hmid.preserves (h.begins _ a p hnow hrequest htaken)
    fun u c hu hc => (h.goesOn p _ u c hu).resolve_left hc
  obtain ⟨hshown, hhistory⟩ := h.answers p _ _ b hgoing hanswer
  exact ⟨hshown.trans (h.asks _ a p hnow hrequest), hhistory⟩

theorem Sound.losesNothing (h : R.Sound safe inv refreshing) {s : S} {as : List A} (hs : inv s)
    (hsafe : AllSafe R.step s safe as) : R.LosesNothing s as := by
  rintro pre a post rfl hnotified
  obtain ⟨hbefore, hrest⟩ := allSafe_append_iff.mp hsafe
  obtain ⟨hnow, hafter⟩ := allSafe_cons_iff.mp hrest
  have hinv : inv (pre.foldl R.step s) := hbefore.preserves hs h.inv_step
  rw [List.foldl_append, List.foldl_cons]
  rcases h.notices _ a hinv hnow hnotified with hdone | hput
  · exact .inl ⟨[], a, List.prefix_append [a] post, hdone⟩
  -- the rest of the run keeps it put off, unless a step lets it go out or ends it
  · rcases hafter.unless hput h.waits with ⟨mid, b, hmid, hdone⟩ | hend
    · exact .inl ⟨a :: mid, b, List.cons_prefix_cons.mpr ⟨rfl, hmid⟩, hdone⟩
    · exact .inr hend

end Refresher
