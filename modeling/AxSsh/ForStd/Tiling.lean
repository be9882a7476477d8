import Mathlib.Algebra.Order.Field.Basic
import Mathlib.Data.Set.Prod
import Mathlib.Order.CompletePartialOrder
import Mathlib.Order.Interval.Set.LinearOrder
import Mathlib.Tactic.Linarith
import Mathlib.Tactic.Ring

/-!
# Tilings by cuts

Boxes in the plane over an ordered field, and the one way tilings grow: a box is cut in
two, and each half is tiled.  Nothing here depends on how a cut was chosen, so a layout
algorithm only has to show that its two halves are a cut.

## Key results
- `Box.isCut_columns`, `Box.isCut_rows`: the halves of a box on both sides of a line
- `Box.Tiles.cut`: tilings of the two halves tile the box
- `Box.Tiles.covered_inter`: what the two tilings share is the line of the cut
-/

universe u

/-- An axis-parallel box, by its corner and its size. -/
structure Box (K : Type u) where
  x : K
  y : K
  width : K
  height : K
deriving DecidableEq, Repr

namespace Box

variable {K : Type u} [Field K] [LinearOrder K]

def right (b : Box K) : K := b.x + b.width
def bottom (b : Box K) : K := b.y + b.height
def area (b : Box K) : K := b.width * b.height

/-- The points of a box, its border included. -/
def region (b : Box K) : Set (K × K) := Set.Icc b.x b.right ×ˢ Set.Icc b.y b.bottom

/-- The points inside a box. -/
def interior (b : Box K) : Set (K × K) := Set.Ioo b.x b.right ×ˢ Set.Ioo b.y b.bottom

def Positive (b : Box K) : Prop := 0 < b.width ∧ 0 < b.height

/-- The boxes `a` and `b` cut `box` in two along `line`. -/
structure IsCut (a b box : Box K) (line : Set (K × K)) : Prop where
  positive_left : a.Positive
  positive_right : b.Positive
  cover : a.region ∪ b.region = box.region
  border : a.region ∩ b.region = line
  inside_left : a.interior ⊆ box.interior
  inside_right : b.interior ⊆ box.interior
  disjoint : Disjoint a.interior b.interior
  area : a.area + b.area = box.area

/-- All points some box of a list covers. -/
def covered (tiles : List (Box K)) : Set (K × K) := {p | ∃ t ∈ tiles, p ∈ t.region}

/-- The boxes of a list fill `box` without overlap. -/
structure Tiles (tiles : List (Box K)) (box : Box K) : Prop where
  positive : ∀ t ∈ tiles, t.Positive
  cover : covered tiles = box.region
  inside : ∀ t ∈ tiles, t.interior ⊆ box.interior
  disjoint : tiles.Pairwise fun s t => Disjoint s.interior t.interior
  area : (tiles.map Box.area).sum = box.area

/-! ## Cuts -/

section Cuts

variable [IsStrictOrderedRing K] {x y w h r : K}

/-- A vertical line cuts a box in two. -/
theorem isCut_columns (hw : 0 < w) (hh : 0 < h) (h₀ : 0 < r) (h₁ : r < 1) :
    IsCut ⟨x, y, w * r, h⟩ ⟨x + w * r, y, w * (1 - r), h⟩ ⟨x, y, w, h⟩
      ({x + w * r} ×ˢ Set.Icc y (y + h)) := by
  have hleft : 0 < w * r := mul_pos hw h₀
  have hright : 0 < w * (1 - r) := mul_pos hw (by linarith)
  have hend : x + w * r + w * (1 - r) = x + w := by ring
  constructor
  · exact ⟨hleft, hh⟩
  · exact ⟨hright, hh⟩
  · simp only [region, right, bottom, hend]
    rw [← Set.union_prod, Set.Icc_union_Icc_eq_Icc (by linarith) (by linarith)]
  · simp only [region, right, bottom]
    rw [← Set.inter_prod, Set.Icc_inter_Icc_eq_singleton (by linarith) (by linarith)]
  · exact Set.prod_mono (Set.Ioo_subset_Ioo le_rfl (by simp only [right]; linarith)) subset_rfl
  · exact Set.prod_mono (Set.Ioo_subset_Ioo (by linarith) (by simp only [right]; linarith))
      subset_rfl
  · refine Set.disjoint_left.mpr fun p hp hp' => ?_
    exact lt_asymm hp.1.2 hp'.1.1
  · simp only [area]
    ring

/-- A horizontal line cuts a box in two. -/
theorem isCut_rows (hw : 0 < w) (hh : 0 < h) (h₀ : 0 < r) (h₁ : r < 1) :
    IsCut ⟨x, y, w, h * r⟩ ⟨x, y + h * r, w, h * (1 - r)⟩ ⟨x, y, w, h⟩
      (Set.Icc x (x + w) ×ˢ {y + h * r}) := by
  have htop : 0 < h * r := mul_pos hh h₀
  have hbottom : 0 < h * (1 - r) := mul_pos hh (by linarith)
  have hend : y + h * r + h * (1 - r) = y + h := by ring
  constructor
  · exact ⟨hw, htop⟩
  · exact ⟨hw, hbottom⟩
  · simp only [region, right, bottom, hend]
    rw [← Set.prod_union, Set.Icc_union_Icc_eq_Icc (by linarith) (by linarith)]
  · simp only [region, right, bottom]
    rw [← Set.prod_inter, Set.Icc_inter_Icc_eq_singleton (by linarith) (by linarith)]
  · exact Set.prod_mono subset_rfl (Set.Ioo_subset_Ioo le_rfl (by simp only [bottom]; linarith))
  · exact Set.prod_mono subset_rfl
      (Set.Ioo_subset_Ioo (by linarith) (by simp only [bottom]; linarith))
  · refine Set.disjoint_left.mpr fun p hp hp' => ?_
    exact lt_asymm hp.2.2 hp'.2.1
  · simp only [area]
    ring

end Cuts

/-! ## Tilings -/

/-- A box tiles itself. -/
theorem Tiles.single {box : Box K} (h : box.Positive) : Tiles [box] box where
  positive t ht := by
    rw [List.mem_singleton.mp ht]
    exact h
  cover := by simp [covered]
  inside t ht := by rw [List.mem_singleton.mp ht]
  disjoint := List.pairwise_singleton _ _
  area := by simp

theorem covered_append (s t : List (Box K)) : covered (s ++ t) = covered s ∪ covered t := by
  ext p
  simp only [covered, List.mem_append, Set.mem_ofPred_eq, Set.mem_union]
  constructor
  · rintro ⟨b, hb | hb, hp⟩
    · exact .inl ⟨b, hb, hp⟩
    · exact .inr ⟨b, hb, hp⟩
  · rintro (⟨b, hb, hp⟩ | ⟨b, hb, hp⟩)
    · exact ⟨b, .inl hb, hp⟩
    · exact ⟨b, .inr hb, hp⟩

/-- Tilings of the two halves of a cut tile the box. -/
theorem Tiles.cut {s t : List (Box K)} {a b box : Box K} {line : Set (K × K)}
    (hs : Tiles s a) (ht : Tiles t b) (hcut : IsCut a b box line) : Tiles (s ++ t) box where
  positive c hc := (List.mem_append.mp hc).elim (hs.positive c) (ht.positive c)
  cover := by rw [covered_append, hs.cover, ht.cover, hcut.cover]
  inside c hc := (List.mem_append.mp hc).elim
    (fun h => (hs.inside c h).trans hcut.inside_left)
    (fun h => (ht.inside c h).trans hcut.inside_right)
  disjoint := List.pairwise_append.mpr ⟨hs.disjoint, ht.disjoint, fun c hc d hd =>
    hcut.disjoint.mono (hs.inside c hc) (ht.inside d hd)⟩
  area := by rw [List.map_append, List.sum_append, hs.area, ht.area, hcut.area]

/-- Tilings of the two halves of a cut share its line. -/
theorem Tiles.covered_inter {s t : List (Box K)} {a b box : Box K} {line : Set (K × K)}
    (hs : Tiles s a) (ht : Tiles t b) (hcut : IsCut a b box line) :
    covered s ∩ covered t = line := by
  rw [hs.cover, ht.cover, hcut.border]

end Box
