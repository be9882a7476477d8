import Mathlib.Data.List.Chain
import Mathlib.Data.List.Nodup

/-!
# Joining neighbours

A pass over a list that joins each item with the one written last, or writes it.  What a reader
makes of the items one by one is the same before and after, whenever joining two items appends
what is read of them; and no two neighbours are left that could be joined.

Items that lie on a line, each a number of places wide, are read as their places with a label.

## Key results
- `flatMap_push`: one item more
- `isChain_push`: no neighbours are left that could be joined
- `Abutting.push`: the items stay end to end
- `flatMap_filter_places`: the places with a label of some kind
- `Abutting.map_fst_places`: items end to end have every place once
-/

universe u v w

namespace Coalesce

variable {α : Type u} {β : Type v} {γ : Type w}

/-- An item is joined with the last one of a list, if the two can be joined, or put after it. -/
def push (join : α → α → Option α) (items : List α) (next : α) : List α :=
  match items.getLast? with
  | none => [next]
  | some last =>
    match join last next with
    | some joined => items.dropLast ++ [joined]
    | none => items ++ [next]

variable {join : α → α → Option α} {items : List α} {last next joined : α}

@[simp] theorem push_nil : push join [] next = [next] := rfl

theorem push_joined (h : join last next = some joined) :
    push join (items ++ [last]) next = items ++ [joined] := by
  simp [push, h]

theorem push_apart (h : join last next = none) :
    push join (items ++ [last]) next = items ++ [last] ++ [next] := by
  simp [push, h]

/-- One item more: it stands alone, it is joined with the last one, or it is put after it. -/
theorem push_cases (join : α → α → Option α) (items : List α) (next : α) :
    (items = [] ∧ push join items next = [next]) ∨
    (∃ before last joined, items = before ++ [last] ∧ join last next = some joined ∧
      push join items next = before ++ [joined]) ∨
    ∃ before last, items = before ++ [last] ∧ join last next = none ∧
      push join items next = before ++ [last] ++ [next] := by
  rcases List.eq_nil_or_concat items with rfl | ⟨before, last, rfl⟩
  · exact .inl ⟨rfl, rfl⟩
  · simp only [List.concat_eq_append]
    cases h : join last next with
    | some joined => exact .inr (.inl ⟨before, last, joined, rfl, h, push_joined h⟩)
    | none => exact .inr (.inr ⟨before, last, rfl, h, push_apart h⟩)

/-! ## What is read of the items -/

/-- Joining an item with the last one appends what is read of it. -/
def Appends (join : α → α → Option α) (read : α → List γ) (next : α) : Prop :=
  ∀ last joined, join last next = some joined → read joined = read last ++ read next

variable {read : α → List γ}

theorem flatMap_push (h : Appends join read next) (items : List α) :
    (push join items next).flatMap read = items.flatMap read ++ read next := by
  rcases push_cases join items next with
    ⟨rfl, heq⟩ | ⟨before, last, joined, rfl, hjoin, heq⟩ | ⟨before, last, rfl, -, heq⟩
  · simp [heq]
  · simp [heq, h last joined hjoin]
  · simp [heq]

/-- A loop whose every round appends what is read of its item. -/
theorem flatMap_foldl {step : List α → β → List α} {found : β → List γ}
    (h : ∀ items b, (step items b).flatMap read = items.flatMap read ++ found b)
    (bs : List β) (items : List α) :
    (bs.foldl step items).flatMap read = items.flatMap read ++ bs.flatMap found := by
  induction bs generalizing items with
  | nil => simp
  | cons b bs ih => simp [ih, h]

/-! ## Neighbours -/

/-- The first of two items cannot be joined with the second. -/
def Apart (join : α → α → Option α) (first second : α) : Prop := join first second = none

/-- An item that another one cannot be joined with stays so when it grows. -/
def Grows (join : α → α → Option α) : Prop :=
  ∀ first last next joined, Apart join first last → join last next = some joined →
    Apart join first joined

theorem isChain_push (hgrows : Grows join) (h : items.IsChain (Apart join)) (next : α) :
    (push join items next).IsChain (Apart join) := by
  rcases push_cases join items next with
    ⟨-, heq⟩ | ⟨before, last, joined, rfl, hjoin, heq⟩ | ⟨before, last, rfl, hjoin, heq⟩
  · simp [heq]
  · -- the item in front of the last one sees a longer one
    rw [heq]
    rw [List.isChain_append] at h ⊢
    obtain ⟨hbefore, -, hlast⟩ := h
    refine ⟨hbefore, List.isChain_singleton _, fun x hx y hy => ?_⟩
    obtain rfl : joined = y := by simpa using hy
    exact hgrows x last next joined (hlast x hx last (by simp)) hjoin
  · rw [heq]
    refine h.append (List.isChain_singleton _) fun x hx y hy => ?_
    obtain rfl : last = x := by simpa using hx
    obtain rfl : next = y := by simpa using hy
    exact hjoin

/-! ## Items on a line -/

section Line

variable {start width : α → Nat} {a n : Nat}

/-- Items that follow one another without a gap from one place to another. -/
def Abutting (start width : α → Nat) : Nat → List α → Nat → Prop
  | a, [], n => a = n
  | a, x :: xs, n => start x = a ∧ Abutting start width (a + width x) xs n

theorem Abutting.le {xs : List α} (h : Abutting start width a xs n) : a ≤ n := by
  induction xs generalizing a with
  | nil => exact Nat.le_of_eq h
  | cons x xs ih =>
    have hrest := ih h.2
    omega

theorem abutting_append {xs ys : List α} : Abutting start width a (xs ++ ys) n ↔
    ∃ m, Abutting start width a xs m ∧ Abutting start width m ys n := by
  induction xs generalizing a with
  | nil => simp [Abutting]
  | cons x xs ih => simp [Abutting, ih, and_assoc]

theorem abutting_map {f : β → α} {xs : List β} : Abutting start width a (xs.map f) n ↔
    Abutting (start ∘ f) (width ∘ f) a xs n := by
  induction xs generalizing a with
  | nil => rfl
  | cons x xs ih => simp [Abutting, ih]

/-- Items whose pieces follow one another over their places. -/
theorem Abutting.flatMap {origin size : β → Nat} {pieces : β → List α}
    (hpieces : ∀ b, Abutting start width (origin b) (pieces b) (origin b + size b))
    {bs : List β} (h : Abutting origin size a bs n) :
    Abutting start width a (bs.flatMap pieces) n := by
  induction bs generalizing a with
  | nil => exact h
  | cons b bs ih =>
    obtain ⟨rfl, hrest⟩ := h
    exact abutting_append.mpr ⟨_, hpieces b, ih hrest⟩

/-- An item that is joined with the last one leaves it where it stands and makes it as wide as
both. -/
def Widens (join : α → α → Option α) (start width : α → Nat) (next : α) : Prop :=
  ∀ last joined, join last next = some joined →
    start joined = start last ∧ width joined = width last + width next

theorem Abutting.push (hwidens : Widens join start width next)
    (h : Abutting start width a items n) (hnext : start next = n) :
    Abutting start width a (Coalesce.push join items next) (n + width next) := by
  rcases push_cases join items next with
    ⟨rfl, heq⟩ | ⟨before, last, joined, rfl, hjoin, heq⟩ | ⟨before, last, rfl, -, heq⟩
  · rw [heq]
    exact ⟨hnext.trans h.symm, by rw [show a = n from h]; rfl⟩
  · obtain ⟨hstart, hwidth⟩ := hwidens last joined hjoin
    obtain ⟨m, hbefore, hlast, hm⟩ := abutting_append.mp h
    have hn : m + width last = n := hm
    rw [heq]
    refine abutting_append.mpr ⟨m, hbefore, hstart.trans hlast, ?_⟩
    show m + width joined = n + width next
    omega
  · rw [heq]
    exact abutting_append.mpr ⟨n, h, hnext, rfl⟩

/-- A loop whose every round puts items end to end. -/
theorem Abutting.foldl {step : List α → β → List α} {origin size : β → Nat}
    (hstep : ∀ items n b, origin b = n → Abutting start width a items n →
      Abutting start width a (step items b) (n + size b))
    {bs : List β} {m : Nat} (hbs : Abutting origin size n bs m)
    (h : Abutting start width a items n) :
    Abutting start width a (bs.foldl step items) m := by
  induction bs generalizing items n with
  | nil => rwa [← show n = m from hbs]
  | cons b bs ih => exact ih hbs.2 (hstep items n b hbs.1 h)

/-- The places of an item, with a label. -/
def places (start width : Nat) (label : γ) : List (Nat × γ) :=
  (List.range' start width).map (·, label)

@[simp] theorem places_zero (start : Nat) (label : γ) : places start 0 label = [] := rfl

@[simp] theorem map_fst_places (start width : Nat) (label : γ) :
    (places start width label).map Prod.fst = List.range' start width := by
  simp [places, Function.comp_def]

theorem places_add (start m n : Nat) (label : γ) :
    places start (m + n) label = places start m label ++ places (start + m) n label := by
  simp [places, ← List.map_append, List.range'_append_1]

theorem filter_places (p : γ → Bool) (start width : Nat) (label : γ) :
    (places start width label).filter (fun place => p place.2) =
      if p label then places start width label else [] := by
  split <;> simp_all [places, List.filter_map, Function.comp_def]

theorem map_places {δ : Type*} (g : γ → δ) (start width : Nat) (label : γ) :
    (places start width label).map (fun place => (place.1, g place.2)) =
      places start width (g label) := by
  simp [places, Function.comp_def]

/-- The places with a label of some kind are those of the items that have one. -/
theorem flatMap_filter_places {δ : Type*} (p : γ → Bool) (g : γ → δ) (label : α → γ)
    (xs : List α) :
    (xs.filter fun x => 0 < width x && p (label x)).flatMap
        (fun x => places (start x) (width x) (g (label x))) =
      ((xs.flatMap fun x => places (start x) (width x) (label x)).filter
        fun place => p place.2).map fun place => (place.1, g place.2) := by
  induction xs with
  | nil => rfl
  | cons x xs ih =>
    rw [List.flatMap_cons, List.filter_append, List.map_append, ← ih, filter_places]
    rcases Nat.eq_zero_or_pos (width x) with hzero | hpos
    · -- an item without width has no place
      simp [hzero]
    · by_cases hp : p (label x) = true
      · simp [hp, hpos, map_places]
      · simp [hp]

/-- Items end to end have every place between their ends once, in order. -/
theorem Abutting.map_fst_places {label : α → γ} {xs : List α} (h : Abutting start width a xs n) :
    (xs.flatMap fun x => places (start x) (width x) (label x)).map Prod.fst =
      List.range' a (n - a) := by
  induction xs generalizing a with
  | nil =>
    obtain rfl : a = n := h
    simp
  | cons x xs ih =>
    obtain ⟨hstart, hrest⟩ := h
    have hle := hrest.le
    have hwidth : width x + (n - (a + width x)) = n - a := by omega
    rw [List.flatMap_cons, List.map_append, ih hrest, hstart, map_fst_places,
      List.range'_append_1, hwidth]

end Line

end Coalesce
