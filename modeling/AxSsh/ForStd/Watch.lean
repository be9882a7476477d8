import Mathlib.Data.List.Basic

/-!
# Handing over the latest value

A slot that holds the latest value of a sender: the sender replaces the value, the receiver takes
what is there, and the values in between are lost.  What a receiver does with the values that it
takes still follows the order in which they were sent.

## Key results
- `InOrder.append`, `Behind.latest`, `Behind.apply`: reading off a history that grows
- `Watch.Holding`, `Watch.UpToDate`: a receiver between two steps, and after one
- `Watch.Holding.take`, `Watch.Holding.apply`: the two halves of a receiver's step
-/

universe u v

/-! ## Reading off a history -/

section Order

variable {α : Type u}

/-- `taken`, newest first, read off `asked` at positions that only go back from `position`. -/
def ReadsBack (asked : List α) : Nat → List α → Prop
  | _, [] => True
  | position, value :: older =>
    ∃ p ≤ position, asked[p]? = some value ∧ ReadsBack asked p older

/-- `taken`, newest first, keeps the order of `asked`: nothing older is taken after something
    newer.  A value may be taken again, and values may be left out. -/
def InOrder (asked taken : List α) : Prop :=
  ∃ position, ReadsBack asked position taken

/-- `value` was asked for no earlier than anything in `taken`. -/
def Behind (asked taken : List α) (value : α) : Prop :=
  ∃ position, asked[position]? = some value ∧ ReadsBack asked position taken

theorem getElem?_append_of_some {asked : List α} {i : Nat} {value : α}
    (h : asked[i]? = some value) (more : List α) : (asked ++ more)[i]? = some value := by
  obtain ⟨hlt, -⟩ := List.getElem?_eq_some_iff.mp h
  rw [List.getElem?_append_left hlt]
  exact h

theorem ReadsBack.append {asked taken : List α} {p : Nat} (h : ReadsBack asked p taken)
    (more : List α) : ReadsBack (asked ++ more) p taken := by
  induction taken generalizing p with
  | nil => trivial
  | cons value older ih =>
    obtain ⟨i, hi, hvalue, hrest⟩ := h
    exact ⟨i, hi, getElem?_append_of_some hvalue more, ih hrest⟩

/-- A read at a position reaches no further than the end of the history. -/
theorem ReadsBack.within {asked taken : List α} {p : Nat} (h : ReadsBack asked p taken) :
    ReadsBack asked (asked.length - 1) taken := by
  cases taken with
  | nil => trivial
  | cons value older =>
    obtain ⟨i, -, hvalue, hrest⟩ := h
    obtain ⟨hlt, -⟩ := List.getElem?_eq_some_iff.mp hvalue
    exact ⟨i, by omega, hvalue, hrest⟩

theorem InOrder.nil (asked : List α) : InOrder asked [] := ⟨0, trivial⟩

theorem InOrder.append {asked taken : List α} (h : InOrder asked taken) (more : List α) :
    InOrder (asked ++ more) taken := by
  obtain ⟨position, hreads⟩ := h
  exact ⟨position, hreads.append more⟩

/-- The last value of the history is behind nothing that was taken. -/
theorem InOrder.latest {asked taken : List α} {value : α} (h : InOrder asked taken)
    (hlast : asked.getLast? = some value) : Behind asked taken value := by
  obtain ⟨position, hreads⟩ := h
  rw [List.getLast?_eq_getElem?] at hlast
  exact ⟨asked.length - 1, hlast, hreads.within⟩

theorem Behind.inOrder {asked taken : List α} {value : α} (h : Behind asked taken value) :
    InOrder asked taken := by
  obtain ⟨position, -, hreads⟩ := h
  exact ⟨position, hreads⟩

theorem Behind.append {asked taken : List α} {value : α} (h : Behind asked taken value)
    (more : List α) : Behind (asked ++ more) taken value := by
  obtain ⟨position, hvalue, hreads⟩ := h
  exact ⟨position, getElem?_append_of_some hvalue more, hreads.append more⟩

/-- Taking the value keeps the order. -/
theorem Behind.apply {asked taken : List α} {value : α} (h : Behind asked taken value) :
    InOrder asked (value :: taken) := by
  obtain ⟨position, hvalue, hreads⟩ := h
  exact ⟨position, position, Nat.le_refl position, hvalue, hreads⟩

theorem Behind.again {asked taken : List α} {value : α} (h : Behind asked taken value) :
    Behind asked (value :: taken) value := by
  obtain ⟨position, hvalue, hreads⟩ := h
  exact ⟨position, hvalue, position, Nat.le_refl position, hvalue, hreads⟩

end Order

/-! ## The slot -/

/-- A watch channel with one receiver: the value, and whether the receiver has seen it. -/
structure Watch (α : Type u) where
  value : α
  seen : Bool
deriving DecidableEq, Repr

namespace Watch

variable {α : Type u} {β : Type v}

/-- The receiver has seen the value that the channel is opened with. -/
def channel (value : α) : Watch α := ⟨value, true⟩

/-- Replaces the value where `modify` has a new one. -/
def sendIfModified (w : Watch α) (modify : α → Option α) : Watch α :=
  match modify w.value with
  | some value => ⟨value, false⟩
  | none => w

def hasChanged (w : Watch α) : Bool := !w.seen

/-- Reads the value without marking it as seen. -/
def borrow (w : Watch α) : α := w.value

def markSeen (w : Watch α) : Watch α := { w with seen := true }

/-- Reads the value and marks it as seen. -/
def borrowAndUpdate (w : Watch α) : α × Watch α := (w.value, w.markSeen)

/-- Sending a value leaves that value, and leaves it seen only where nothing changed. -/
structure Sends (w w' : Watch α) (value : α) : Prop where
  value_eq : w'.value = value
  same : w'.seen = true → w' = w

theorem sends_sendIfModified [DecidableEq α] (w : Watch α) (value : α) :
    w.Sends (w.sendIfModified fun current => if current = value then none else some value)
      value := by
  unfold sendIfModified
  by_cases h : w.value = value
  · simp only [h, ↓reduceIte]
    exact ⟨h, fun _ => rfl⟩
  · simp only [h, ↓reduceIte]
    exact ⟨rfl, nofun⟩

/-! ## A receiver that acts on the values

`asked` is what was sent, oldest first, and `applied` what the receiver has done with the values
it took, newest first; `f` is what it does with one. -/

variable (f : α → β) (asked : List α) (applied : List β) (w : Watch α)

/-- The value in the slot is the last one sent. -/
def Latest : Prop := asked.getLast? = some w.value

/-- The receiver has taken `value` and not acted on it yet. -/
structure Holding (value : α) : Prop where
  behind : Behind (asked.map f) applied (f value)
  current : w.seen = true → value = w.value

/-- The receiver has acted on what it took; where it is `on` and has seen the value in the slot,
    that is what it acted on last. -/
structure UpToDate (on : Bool) : Prop where
  inOrder : InOrder (asked.map f) applied
  current : on = true → w.seen = true → applied.head? = some (f w.value)

variable {f asked applied w} {w' : Watch α} {value : α} {on : Bool}

theorem seen_of_not_hasChanged (h : w.hasChanged = false) : w.seen = true := by
  simpa [hasChanged] using h

theorem Sends.latest (h : w.Sends w' value) : Latest (asked ++ [value]) w' := by
  unfold Latest
  rw [List.getLast?_concat, h.value_eq]

theorem Latest.behind (h : Latest asked w) (horder : InOrder (asked.map f) applied) :
    Behind (asked.map f) applied (f w.value) := by
  refine horder.latest ?_
  rw [List.getLast?_map, h]
  rfl

/-- What the receiver holds stays in its place when another value is sent. -/
theorem Holding.send {held : α} (hheld : Holding f asked applied w held) (h : w.Sends w' value) :
    Holding f (asked ++ [value]) applied w' held := by
  constructor
  · rw [List.map_append]
    exact hheld.behind.append _
  · intro hseen
    obtain rfl := h.same hseen
    exact hheld.current hseen

theorem UpToDate.send (hdone : UpToDate f asked applied w on) (h : w.Sends w' value) :
    UpToDate f (asked ++ [value]) applied w' on := by
  constructor
  · rw [List.map_append]
    exact hdone.inOrder.append _
  · intro hon hseen
    obtain rfl := h.same hseen
    exact hdone.current hon hseen

/-- The receiver takes the value and marks it as seen. -/
theorem Holding.take (h : Latest asked w) (horder : InOrder (asked.map f) applied) :
    Holding f asked applied w.markSeen w.value :=
  ⟨h.behind horder, fun _ => rfl⟩

/-- The receiver reads the value and leaves it unseen. -/
theorem Holding.peek (h : Latest asked w) (horder : InOrder (asked.map f) applied) :
    Holding f asked applied w w.value :=
  ⟨h.behind horder, fun _ => rfl⟩

/-- The receiver acts on the value it holds. -/
theorem Holding.apply {held : α} (h : Holding f asked applied w held) (on : Bool) :
    UpToDate f asked (f held :: applied) w on := by
  constructor
  · exact h.behind.apply
  · intro _ hseen
    rw [h.current hseen]
    rfl

/-- The receiver may act on the same value again. -/
theorem Holding.again {held : α} (h : Holding f asked applied w held) :
    Holding f asked (f held :: applied) w held :=
  ⟨h.behind.again, h.current⟩

/-- A receiver that is off has nothing to catch up with. -/
theorem UpToDate.off (horder : InOrder (asked.map f) applied) :
    UpToDate f asked applied w false :=
  ⟨horder, nofun⟩

end Watch
