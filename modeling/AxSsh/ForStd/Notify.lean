import Mathlib.Logic.Basic

/-!
# Wake-ups that are not lost

A `Notify` of which only `notify_waiters` is called, and the futures that it makes.  Whoever
changes what the others wait for owes a call; `Armed` is what a waiter may rely on in between.
-/

/-- The number of calls of `notify_waiters`. -/
structure Notify where
  calls : Nat := 0
deriving DecidableEq

/-- A future of `notified()`, with the calls before it was made. -/
structure Notified where
  seen : Nat
deriving DecidableEq

namespace Notify

variable {n : Notify} {f : Notified} {owed owed' : Nat} {p q : Prop}

def notifyWaiters (n : Notify) : Notify := ⟨n.calls + 1⟩

def notified (n : Notify) : Notified := ⟨n.calls⟩

def isReady (n : Notify) (f : Notified) : Bool := f.seen < n.calls

/-- While the future is not ready and nobody owes a call, `p` holds. -/
structure Armed (n : Notify) (f : Notified) (owed : Nat) (p : Prop) : Prop where
  made : f.seen ≤ n.calls
  holds : n.isReady f = false → owed = 0 → p

/-- A look behind the making of the future. -/
theorem Armed.look (h : n.Armed f owed p) (hq : q) : n.Armed f owed q := ⟨h.made, fun _ _ => hq⟩

/-- A change by somebody who owes a call from now on. -/
theorem Armed.owe (h : n.Armed f owed p) : n.Armed f (owed + 1) q := ⟨h.made, nofun⟩

/-- A call that was owed. -/
theorem Armed.call (h : n.Armed f owed p) : n.notifyWaiters.Armed f owed' q where
  made := Nat.le_succ_of_le h.made
  holds hready := absurd (Nat.lt_succ_of_le h.made) (of_decide_eq_false hready)

theorem Armed.ready (h : n.Armed f 0 p) (hp : ¬p) : n.isReady f = true :=
  Bool.of_not_eq_false fun hready => hp (h.holds hready rfl)

theorem armed_notified : n.Armed n.notified owed True := ⟨Nat.le_refl _, fun _ _ => trivial⟩

end Notify
