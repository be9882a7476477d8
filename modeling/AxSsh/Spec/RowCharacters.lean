import AxSsh.Spec.StyledLines

/-!
# Characters and cells of a row

Every character of a row's text belongs to a cell, which covers one column or two.  `owners` lists
these cells by the columns where they start and end, one for each character.  The three walks over
a row are walks along this list: the text at a cell, the cells of a range of characters, and the
character that was clicked in a logical line.

## Key results
- `cellSpan_spec`: the cells of a range start with the first character's and end with the last's
- `textAtCell_spec`: the character found for a cell is the first of it
- `row_characters`: the maps between the characters and the columns of a row
-/

namespace AxSsh

/-! ## The cells of the characters -/

namespace GridCell

/-- The first column after a cell. -/
def stopColumn (cell : GridCell) (column : Nat) : Nat := column + 1 + cell.flags.wideChar.toNat

theorem length_text (cell : GridCell) : cell.text.length = cell.characterCount := by
  unfold text characterCount
  split
  · rfl
  · simp [Nat.add_comm]

theorem characterCount_pos {cell : GridCell} (h : cell.isWideContinuation = false) :
    0 < cell.characterCount := by
  simp [characterCount, h]

theorem characterCount_of_continuation {cell : GridCell} (h : cell.isWideContinuation = true) :
    cell.characterCount = 0 := by
  simp [characterCount, h]

theorem text_of_continuation {cell : GridCell} (h : cell.isWideContinuation = true) :
    cell.text = [] := by
  simp [text, h]

end GridCell

/-- Where the cell of each character starts and ends. -/
def owners (column : Nat) : List GridCell → List (Nat × Nat)
  | [] => []
  | cell :: cells =>
    List.replicate cell.characterCount (column, cell.stopColumn column) ++ owners (column + 1) cells

theorem length_owners (column : Nat) (cells : List GridCell) :
    (owners column cells).length = (cells.flatMap GridCell.text).length := by
  induction cells generalizing column with
  | nil => rfl
  | cons cell cells ih => simp [owners, ih, cell.length_text]

theorem owners_append (column : Nat) (before after : List GridCell) :
    owners column (before ++ after) = owners column before ++ owners (column + before.length) after := by
  induction before generalizing column with
  | nil => rfl
  | cons cell before ih =>
    simp only [List.cons_append, owners, ih, List.append_assoc, List.length_cons]
    rw [Nat.add_right_comm, Nat.add_assoc]

/-- A character's cell is one of the cells. -/
theorem mem_owners {column : Nat} {cells : List GridCell} {owner : Nat × Nat}
    (h : owner ∈ owners column cells) :
    ∃ i cell, cells[i]? = some cell ∧ cell.isWideContinuation = false ∧
      owner = (column + i, cell.stopColumn (column + i)) := by
  induction cells generalizing column with
  | nil => exact absurd h List.not_mem_nil
  | cons cell cells ih =>
    rcases List.mem_append.mp h with h | h
    · obtain ⟨hcount, rfl⟩ := List.mem_replicate.mp h
      refine ⟨0, cell, rfl, ?_, rfl⟩
      cases hcell : cell.isWideContinuation with
      | true => exact absurd (cell.characterCount_of_continuation hcell) hcount
      | false => rfl
    · obtain ⟨i, other, hi, hplain, rfl⟩ := ih h
      refine ⟨i + 1, other, hi, hplain, ?_⟩
      rw [Nat.add_assoc, Nat.add_comm 1 i]

/-- Later characters do not belong to earlier cells. -/
theorem pairwise_owners (column : Nat) (cells : List GridCell) :
    (owners column cells).Pairwise fun o o' => o.1 ≤ o'.1 ∧ o.2 ≤ o'.2 := by
  induction cells generalizing column with
  | nil => exact .nil
  | cons cell cells ih =>
    refine List.pairwise_append.mpr ⟨?_, ih (column + 1), ?_⟩
    · exact List.pairwise_replicate.mpr (.inr ⟨Nat.le_refl _, Nat.le_refl _⟩)
    · intro o ho o' ho'
      obtain ⟨-, rfl⟩ := List.mem_replicate.mp ho
      obtain ⟨i, other, -, -, rfl⟩ := mem_owners ho'
      unfold GridCell.stopColumn
      have hwide := cell.flags.wideChar.toNat_le
      exact ⟨by omega, by omega⟩

/-- The characters of the first cell. -/
theorem getElem?_owners_left {cell : GridCell} {column character i : Nat} (cells : List GridCell)
    (hle : character ≤ i) (hlt : i < character + cell.characterCount) :
    (owners column (cell :: cells))[i - character]? = some (column, cell.stopColumn column) := by
  rw [owners, List.getElem?_append_left (by rw [List.length_replicate]; omega),
    List.getElem?_replicate, if_pos (by omega)]

/-- The characters of the other cells. -/
theorem getElem?_owners_right {cell : GridCell} {column character i : Nat} (cells : List GridCell)
    (hle : character + cell.characterCount ≤ i) :
    (owners column (cell :: cells))[i - character]? =
      (owners (column + 1) cells)[i - (character + cell.characterCount)]? := by
  rw [owners, List.getElem?_append_right (by rw [List.length_replicate]; omega),
    List.length_replicate]
  congr 1
  omega

/-! ## The cells of a range of characters -/

section Span

variable {start stop : Nat}

/-- The end of the span, once its start is found. -/
theorem cellSpan_stop (cells : List GridCell) (column character first : Nat)
    (hstart : character < stop) (hstop : stop ≤ character + (owners column cells).length) :
    ∃ last, (owners column cells)[stop - 1 - character]? = some last ∧
      cellSpan start stop cells column character (some first) = some (first, last.2) := by
  induction cells generalizing column character with
  | nil => simp [owners] at hstop; omega
  | cons cell cells ih =>
    have hlen : (owners column (cell :: cells)).length =
        cell.characterCount + (owners (column + 1) cells).length := by simp [owners]
    cases hcell : cell.isWideContinuation with
    | true =>
      have hzero := cell.characterCount_of_continuation hcell
      obtain ⟨last, hlast, hspan⟩ := ih (column + 1) character hstart (by omega)
      refine ⟨last, ?_, by rw [cellSpan, if_pos hcell, hspan]⟩
      rw [getElem?_owners_right cells (by omega), hzero]
      exact hlast
    | false =>
      have hset : (if some first = none ∧ character ≤ start ∧
          start < character + cell.characterCount then some column else some first) =
          some first := if_neg nofun
      rw [cellSpan, if_neg (by simp [hcell])]
      dsimp only
      rw [hset]
      by_cases hin : stop ≤ character + cell.characterCount
      · -- the last character belongs to this cell
        refine ⟨_, getElem?_owners_left cells (by omega) (by omega), ?_⟩
        rw [if_pos ⟨hstart, hin⟩]
        rfl
      · obtain ⟨last, hlast, hspan⟩ := ih (column + 1) (character + cell.characterCount)
          (by omega) (by omega)
        refine ⟨last, ?_, by rw [if_neg (by omega), hspan]⟩
        rw [getElem?_owners_right cells (by omega), hlast]

/-- The span starts with the cell of the first character and ends with that of the last. -/
theorem cellSpan_spec (cells : List GridCell) (column character : Nat)
    (hstart : character ≤ start) (hlt : start < stop)
    (hstop : stop ≤ character + (owners column cells).length) :
    ∃ first last, (owners column cells)[start - character]? = some first ∧
      (owners column cells)[stop - 1 - character]? = some last ∧
      cellSpan start stop cells column character none = some (first.1, last.2) := by
  induction cells generalizing column character with
  | nil => simp [owners] at hstop; omega
  | cons cell cells ih =>
    have hlen : (owners column (cell :: cells)).length =
        cell.characterCount + (owners (column + 1) cells).length := by simp [owners]
    cases hcell : cell.isWideContinuation with
    | true =>
      have hzero := cell.characterCount_of_continuation hcell
      obtain ⟨first, last, hfirst, hlast, hspan⟩ := ih (column + 1) character hstart (by omega)
      refine ⟨first, last, ?_, ?_, by rw [cellSpan, if_pos hcell, hspan]⟩
      · rw [getElem?_owners_right cells (by omega), hzero]
        exact hfirst
      · rw [getElem?_owners_right cells (by omega), hzero]
        exact hlast
    | false =>
      by_cases hfirst : start < character + cell.characterCount
      · -- the first character belongs to this cell, and perhaps the last
        have hset : (if (none : Option Nat) = none ∧ character ≤ start ∧
            start < character + cell.characterCount then some column else none) =
            some column := if_pos ⟨rfl, hstart, hfirst⟩
        rw [cellSpan, if_neg (by simp [hcell])]
        dsimp only
        rw [hset]
        by_cases hin : stop ≤ character + cell.characterCount
        · refine ⟨_, _, getElem?_owners_left cells hstart hfirst,
            getElem?_owners_left cells (by omega) (by omega), ?_⟩
          rw [if_pos ⟨by omega, hin⟩]
          rfl
        · have hnext : character + cell.characterCount < stop := Nat.lt_of_not_le hin
          have hrest : stop ≤ character + cell.characterCount +
              (owners (column + 1) cells).length := by omega
          have hbeyond : character + cell.characterCount ≤ stop - 1 := by omega
          obtain ⟨last, hlast, hspan⟩ := cellSpan_stop cells (column + 1)
            (character + cell.characterCount) column hnext hrest
          refine ⟨_, last, getElem?_owners_left cells hstart hfirst, ?_, ?_⟩
          · rw [getElem?_owners_right cells hbeyond, hlast]
          · rw [if_neg fun h => hin h.2, hspan]
      · have hset : (if (none : Option Nat) = none ∧ character ≤ start ∧
            start < character + cell.characterCount then some column else none) = none :=
          if_neg fun h => hfirst h.2.2
        rw [cellSpan, if_neg (by simp [hcell])]
        dsimp only
        rw [hset]
        obtain ⟨first, last, hfirst', hlast, hspan⟩ := ih (column + 1)
          (character + cell.characterCount) (by omega) (by omega)
        refine ⟨first, last, ?_, ?_, by rw [if_neg (by omega), hspan]⟩
        · rw [getElem?_owners_right cells (by omega), hfirst']
        · rw [getElem?_owners_right cells (by omega), hlast]

end Span

/-! ## The character of a cell -/

section Cell

variable {column : Nat}

/-- Past the column, the walk only collects the rest of the text. -/
theorem textAtCell_past (cells : List GridCell) {cellColumn : Nat} (h : column < cellColumn)
    (contents : List Char) (character : Nat) (target : Option Nat) :
    textAtCell column cells cellColumn contents character target =
      target.map (contents ++ cells.flatMap GridCell.text, ·) := by
  induction cells generalizing cellColumn contents character with
  | nil => simp [textAtCell]
  | cons cell cells ih =>
    have hlt : column < cellColumn + 1 := by omega
    cases hcell : cell.isWideContinuation with
    | true =>
      rw [textAtCell, if_pos hcell, if_neg (by omega), ih hlt, List.flatMap_cons,
        cell.text_of_continuation hcell, List.nil_append]
    | false =>
      rw [textAtCell, if_neg (by simp [hcell]), if_neg (by omega), ih hlt, List.flatMap_cons,
        List.append_assoc]

/-- The text that is found is that of all cells, and the character the first of the cell. -/
theorem textAtCell_spec {cells : List GridCell} {cellColumn character i : Nat}
    {contents text : List Char} (hle : cellColumn ≤ column)
    (h : textAtCell column cells cellColumn contents character none = some (text, i)) :
    text = contents ++ cells.flatMap GridCell.text ∧
      ∃ before cell after, cells = before ++ cell :: after ∧
        cellColumn + before.length = column ∧ cell.isWideContinuation = false ∧
        i = character + (before.flatMap GridCell.text).length := by
  induction cells generalizing cellColumn character contents with
  | nil => exact nomatch h
  | cons cell cells ih =>
    rw [textAtCell] at h
    rcases Nat.eq_or_lt_of_le hle with rfl | hlt
    · -- the walk is at the cell
      cases hcell : cell.isWideContinuation with
      | true => simp [hcell] at h
      | false =>
        rw [if_neg (by simp [hcell]), if_pos rfl, textAtCell_past cells (Nat.lt_succ_self _)] at h
        obtain ⟨rfl, rfl⟩ := Prod.mk.inj (Option.some.inj h)
        exact ⟨by rw [List.flatMap_cons, List.append_assoc], [], cell, cells, rfl, rfl, hcell, rfl⟩
    · cases hcell : cell.isWideContinuation with
      | true =>
        rw [if_pos hcell, if_neg (by omega)] at h
        obtain ⟨htext, before, found, after, rfl, hcolumn, hplain, hi⟩ := ih hlt h
        refine ⟨?_, cell :: before, found, after, rfl, ?_, hplain, ?_⟩
        · rw [htext, List.flatMap_cons, cell.text_of_continuation hcell, List.nil_append]
        · rw [List.length_cons]; omega
        · rw [hi, List.flatMap_cons, cell.text_of_continuation hcell, List.nil_append]
      | false =>
        rw [if_neg (by simp [hcell]), if_neg (by omega)] at h
        obtain ⟨htext, before, found, after, rfl, hcolumn, hplain, hi⟩ := ih hlt h
        refine ⟨?_, cell :: before, found, after, rfl, ?_, hplain, ?_⟩
        · rw [htext, List.flatMap_cons, List.append_assoc]
        · rw [List.length_cons]; omega
        · rw [hi, List.flatMap_cons, List.length_append, cell.length_text, Nat.add_assoc]

end Cell

/-! ## Rows -/

/-- The cells up to the last that is not blank. -/
def occupied (row : List GridCell) : List GridCell :=
  match occupiedEndColumn row (row.length - 1) with
  | none => []
  | some lastColumn => row.take (lastColumn + 1)

theorem occupied_isPrefix (row : List GridCell) : occupied row <+: row := by
  unfold occupied
  split
  · exact List.nil_prefix
  · exact List.take_prefix _ _

theorem occupiedCells_eq (row : List GridCell) :
    occupiedCells row 0 (row.length - 1) = (occupied row).flatMap GridCell.text := by
  unfold occupiedCells occupied
  cases occupiedEndColumn row (row.length - 1) with
  | none => rfl
  | some lastColumn =>
    dsimp only
    rw [if_neg (Nat.not_lt_zero _), List.drop_zero]

/-- The cell of the character with a number, by the columns where it starts and ends. -/
def cellOf (row : List GridCell) (character : Nat) : Option (Nat × Nat) :=
  (owners 0 (occupied row))[character]?

/-- Whole cells from column `first` to `last` contain the characters from `start` to `stop`. -/
def Contains (row : List GridCell) (start stop first last : Nat) : Prop :=
  ∀ i, start ≤ i → i < stop → ∃ owner, cellOf row i = some owner ∧ first ≤ owner.1 ∧ owner.2 ≤ last

/-- A column that is not in the middle of a cell. -/
def CellBorder (row : List GridCell) (column : Nat) : Prop :=
  ∀ i cell, row[i]? = some cell → cell.isWideContinuation = false →
    cell.stopColumn i ≤ column ∨ column ≤ i

theorem of_cellOf {row : List GridCell} {i : Nat} {owner : Nat × Nat} (h : cellOf row i = some owner) :
    ∃ cell, row[owner.1]? = some cell ∧ cell.isWideContinuation = false ∧
      owner.2 = cell.stopColumn owner.1 := by
  obtain ⟨j, cell, hcell, hplain, rfl⟩ := mem_owners (List.mem_of_getElem? h)
  rw [Nat.zero_add]
  have hrow : row[j]? = some cell := by
    obtain ⟨hj, rfl⟩ := List.getElem?_eq_some_iff.mp hcell
    exact List.prefix_iff_getElem?.mp (occupied_isPrefix row) j hj
  exact ⟨cell, hrow, hplain, rfl⟩

/-- Characters in order belong to cells in order. -/
theorem cellOf_mono {row : List GridCell} {i j : Nat} {owner owner' : Nat × Nat} (hij : i ≤ j)
    (hi : cellOf row i = some owner) (hj : cellOf row j = some owner') :
    owner.1 ≤ owner'.1 ∧ owner.2 ≤ owner'.2 := by
  rcases Nat.eq_or_lt_of_le hij with rfl | hlt
  · obtain rfl := Option.some.inj (hi.symm.trans hj)
    exact ⟨Nat.le_refl _, Nat.le_refl _⟩
  · obtain ⟨hi', rfl⟩ := List.getElem?_eq_some_iff.mp hi
    obtain ⟨hj', rfl⟩ := List.getElem?_eq_some_iff.mp hj
    exact List.pairwise_iff_getElem.mp (pairwise_owners 0 (occupied row)) i j hi' hj' hlt

/-- A cell begins and ends at a border of cells. -/
theorem cellBorder_of_cellOf {row : List GridCell} (hspaced : GridSpaced row) {i : Nat}
    {owner : Nat × Nat} (h : cellOf row i = some owner) :
    CellBorder row owner.1 ∧ CellBorder row owner.2 := by
  obtain ⟨cell, hcell, hplain, hstop⟩ := of_cellOf h
  -- two cells that are no continuation do not overlap
  have hapart : ∀ j k (other other' : GridCell), row[j]? = some other → row[k]? = some other' →
      other.isWideContinuation = false → other'.isWideContinuation = false → j < k →
      other.stopColumn j ≤ k := by
    intro j k other other' hj hk hother hother' hjk
    unfold GridCell.stopColumn
    cases hwide : other.flags.wideChar with
    | false => exact hjk
    | true =>
      obtain ⟨spacer, hspacer, hspaced⟩ := hspaced j other hj hother hwide
      have hne : k ≠ j + 1 := by
        rintro rfl
        obtain rfl := Option.some.inj (hspacer.symm.trans hk)
        rw [hspaced] at hother'
        cases hother'
      simp only [Bool.toNat_true]
      omega
  refine ⟨fun j other hj hother => ?_, fun j other hj hother => ?_⟩
  · rcases Nat.lt_or_ge j owner.1 with hlt | hge
    · exact .inl (hapart j owner.1 other cell hj hcell hother hplain hlt)
    · exact .inr hge
  · rcases Nat.lt_trichotomy j owner.1 with hlt | rfl | hgt
    · have hle := hapart j owner.1 other cell hj hcell hother hplain hlt
      unfold GridCell.stopColumn at hstop
      exact .inl (by omega)
    · obtain rfl := Option.some.inj (hj.symm.trans hcell)
      exact .inl hstop.ge
    · exact .inr (hstop ▸ hapart owner.1 j cell other hcell hj hplain hother hgt)

/-- The span of a range of characters is the smallest of whole cells. -/
theorem span_spec {row : List GridCell} (hspaced : GridSpaced row) {start stop : Nat}
    (hlt : start < stop) (hstop : stop ≤ ((occupied row).flatMap GridCell.text).length) :
    ∃ first last, cellSpan start stop (occupied row) 0 0 none = some (first, last) ∧
      CellBorder row first ∧ CellBorder row last ∧ Contains row start stop first last ∧
      ∀ first' last', Contains row start stop first' last' → first' ≤ first ∧ last ≤ last' := by
  rw [← length_owners 0] at hstop
  obtain ⟨first, last, hfirst, hlast, hspan⟩ :=
    cellSpan_spec (occupied row) 0 0 (Nat.zero_le start) hlt (by omega)
  have hfirst : cellOf row start = some first := hfirst
  have hlast : cellOf row (stop - 1) = some last := hlast
  refine ⟨first.1, last.2, hspan, (cellBorder_of_cellOf hspaced hfirst).1,
    (cellBorder_of_cellOf hspaced hlast).2, ?_, ?_⟩
  · intro i hi histop
    obtain ⟨owner, howner⟩ : ∃ owner, cellOf row i = some owner :=
      ⟨_, List.getElem?_eq_getElem (by omega)⟩
    exact ⟨owner, howner, (cellOf_mono hi hfirst howner).1,
      (cellOf_mono (by omega) howner hlast).2⟩
  · intro first' last' hcontains
    obtain ⟨owner, howner, hle, -⟩ := hcontains start (Nat.le_refl _) hlt
    obtain ⟨owner', howner', -, hge⟩ := hcontains (stop - 1) (by omega) (by omega)
    obtain rfl := Option.some.inj (hfirst.symm.trans howner)
    obtain rfl := Option.some.inj (hlast.symm.trans howner')
    exact ⟨hle, hge⟩

/-- The first character of a cell belongs to it. -/
theorem cellOf_first {row before after : List GridCell} {cell : GridCell}
    (hrow : occupied row = before ++ cell :: after) (hplain : cell.isWideContinuation = false) :
    cellOf row (before.flatMap GridCell.text).length =
      some (before.length, cell.stopColumn before.length) := by
  have hpos := GridCell.characterCount_pos hplain
  have hlen := length_owners 0 before
  unfold cellOf
  rw [hrow, owners_append, List.getElem?_append_right (by omega), Nat.zero_add, hlen, Nat.sub_self]
  have hbound : 0 < 0 + cell.characterCount := by omega
  exact getElem?_owners_left after (Nat.le_refl 0) hbound

namespace Grid

variable (grid : Grid) {row column : Nat}

theorem length_visibleRow (row : Nat) : (grid.visibleRow row).length = grid.columns :=
  grid.width _

theorem visibleRowText_eq {text : List Char} (h : grid.visibleRowText row = some text) :
    text = (occupied (grid.visibleRow row)).flatMap GridCell.text ∧ row < grid.screenLines := by
  unfold visibleRowText at h
  split at h
  · cases h
  · rename_i hin
    rw [← grid.length_visibleRow row, occupiedCells_eq] at h
    exact ⟨(Option.some.inj h).symm, by omega⟩

/-- The row at a cell: its text, and the cell's place in it. -/
theorem visibleRowTextAtCell_spec {text : List Char} {i : Nat}
    (h : grid.visibleRowTextAtCell row column = some (text, i)) :
    row < grid.screenLines ∧ grid.visibleRowText row = some text ∧
      text = (occupied (grid.visibleRow row)).flatMap GridCell.text ∧
      ∃ before cell after, occupied (grid.visibleRow row) = before ++ cell :: after ∧
        before.length = column ∧ cell.isWideContinuation = false ∧
        i = (before.flatMap GridCell.text).length := by
  unfold visibleRowTextAtCell at h
  split at h
  · cases h
  · rename_i hin
    have hcolumns : grid.columns ≠ 0 := by omega
    obtain ⟨last, hlast, h⟩ := Option.bind_eq_some_iff.mp h
    rw [← grid.length_visibleRow row] at hlast
    have hoccupied : occupied (grid.visibleRow row) = (grid.visibleRow row).take (last + 1) := by
      simp only [occupied, hlast]
    split at h
    · cases h
    · rw [← hoccupied] at h
      obtain ⟨htext, before, cell, after, hrow, hcolumn, hplain, hi⟩ :=
        textAtCell_spec (Nat.zero_le column) h
      rw [List.nil_append] at htext
      rw [Nat.zero_add] at hcolumn hi
      refine ⟨by omega, ?_, htext, before, cell, after, hrow, hcolumn, hplain, hi⟩
      rw [visibleRowText, if_neg (by omega), ← grid.length_visibleRow row, occupiedCells_eq, htext]

theorem visibleRowCellSpanForCharacters_eq {start stop : Nat} (hrow : row < grid.screenLines)
    (hlt : start < stop)
    (hstop : stop ≤ ((occupied (grid.visibleRow row)).flatMap GridCell.text).length) :
    grid.visibleRowCellSpanForCharacters row start stop =
      cellSpan start stop (occupied (grid.visibleRow row)) 0 0 none := by
  rw [visibleRowCellSpanForCharacters, if_neg (by omega), ← grid.length_visibleRow row]
  unfold occupied at hstop ⊢
  cases hlast : occupiedEndColumn (grid.visibleRow row) ((grid.visibleRow row).length - 1) with
  | none =>
    -- a row without text has no character
    rw [hlast] at hstop
    simp at hstop
    omega
  | some last => rfl

/-! ## Logical lines -/

theorem firstLogicalRow_le : grid.firstLogicalRow row ≤ row := by
  induction row with
  | zero => exact Nat.le_refl 0
  | succ row ih =>
    unfold firstLogicalRow
    split
    · omega
    · exact Nat.le_refl _

theorem le_lastLogicalRow (first last : Nat) : last ≤ grid.lastLogicalRow first last := by
  induction last using lastLogicalRow.induct grid first with
  | case1 last hmore hwraps ih =>
    rw [lastLogicalRow, if_pos hmore, if_pos hwraps]
    omega
  | case2 last hmore hends =>
    rw [lastLogicalRow, if_pos hmore, if_neg hends]
  | case3 last hdone =>
    rw [lastLogicalRow, if_neg hdone]

/-- The rows of a logical line are those asked for, each with its text. -/
theorem targetRows_spec {numbers : List Nat} {count : Nat} {rows : List TerminalTargetRow}
    (h : grid.targetRows numbers count = some rows) :
    rows.map (·.row) = numbers ∧ ∀ r ∈ rows, grid.visibleRowText r.row = some r.text := by
  induction numbers generalizing count rows with
  | nil =>
    obtain rfl := Option.some.inj h
    exact ⟨rfl, nofun⟩
  | cons number numbers ih =>
    obtain ⟨text, htext, h⟩ := Option.bind_eq_some_iff.mp h
    split at h
    · cases h
    · obtain ⟨others, hothers, h⟩ := Option.bind_eq_some_iff.mp h
      obtain rfl := Option.some.inj h
      obtain ⟨hnumbers, htexts⟩ := ih hothers
      refine ⟨congrArg (number :: ·) hnumbers, fun r hr => ?_⟩
      rcases List.mem_cons.mp hr with rfl | hr
      · exact htext
      · exact htexts r hr

/-- The rows before the clicked one end where its text begins. -/
theorem takeWhile_rows {rows : List TerminalTargetRow} (h : row ∈ rows.map (·.row)) :
    ∃ clicked later, rows = rows.takeWhile (·.row ≠ row) ++ clicked :: later ∧ clicked.row = row := by
  have hrest : rows.dropWhile (·.row ≠ row) ≠ [] := by
    intro hnil
    obtain ⟨r, hr, hrow⟩ := List.mem_map.mp h
    have hall := List.dropWhile_eq_nil_iff.mp hnil r hr
    simp [hrow] at hall
  obtain ⟨clicked, later, hcons⟩ := List.exists_cons_of_ne_nil hrest
  refine ⟨clicked, later, ?_, ?_⟩
  · rw [← hcons, List.takeWhile_append_dropWhile]
  · have hhead := List.head?_dropWhile_not (fun r : TerminalTargetRow => decide (r.row ≠ row)) rows
    rw [hcons] at hhead
    simpa using hhead

/-- The clicked character is the first of the clicked cell, in the text of all rows. -/
theorem context_spec {context : TerminalTargetContext}
    (h : grid.visibleLogicalLineTargetContextAtCell row column = some context) :
    ∃ before cell after, rowsText context.rows = before ++ cell.text ++ after ∧
      before.length = context.clickedCharacter ∧ cell.isWideContinuation = false ∧
      (grid.visibleRow row)[column]? = some cell ∧
      ∃ earlier text i later, context.rows = earlier ++ ⟨row, text⟩ :: later ∧
        grid.visibleRowTextAtCell row column = some (text, i) ∧
        before = rowsText earlier ++ text.take i := by
  unfold visibleLogicalLineTargetContextAtCell at h
  split at h
  · cases h
  · obtain ⟨⟨text, i⟩, hcell, h⟩ := Option.bind_eq_some_iff.mp h
    obtain ⟨rows, hrows, h⟩ := Option.bind_eq_some_iff.mp h
    obtain rfl := Option.some.inj h
    obtain ⟨hnumbers, htexts⟩ := grid.targetRows_spec hrows
    -- the clicked row is one of the logical line
    have hmem : row ∈ rows.map (·.row) := by
      have hfirst : grid.firstLogicalRow row ≤ row := grid.firstLogicalRow_le
      have hlast := grid.le_lastLogicalRow (grid.firstLogicalRow row) row
      rw [hnumbers, List.mem_range'_1]
      omega
    obtain ⟨clicked, later, hsplit, rfl⟩ := takeWhile_rows hmem
    obtain ⟨-, htext, htext_eq, left, cell, right, hoccupied, hcolumn, hplain, hi⟩ :=
      grid.visibleRowTextAtCell_spec hcell
    have hclicked : clicked.text = text := by
      have hget := htexts clicked (hsplit ▸ List.mem_append_right _ (List.mem_cons_self ..))
      exact Option.some.inj (hget.symm.trans htext)
    have htake : text = left.flatMap GridCell.text ++ cell.text ++ right.flatMap GridCell.text := by
      rw [htext_eq, hoccupied, List.flatMap_append, List.flatMap_cons, List.append_assoc]
    have hbefore : text.take i = left.flatMap GridCell.text := by
      rw [htake, hi, List.append_assoc, List.take_left]
    refine ⟨rowsText (rows.takeWhile (·.row ≠ clicked.row)) ++ left.flatMap GridCell.text, cell,
      right.flatMap GridCell.text ++ rowsText later, ?_, ?_, hplain, ?_,
      rows.takeWhile (·.row ≠ clicked.row), text, i, later, ?_, hcell, ?_⟩
    · have hjoin : rowsText rows = rowsText (rows.takeWhile (·.row ≠ clicked.row)) ++
          (clicked.text ++ rowsText later) := by
        conv_lhs => rw [hsplit]
        simp [rowsText]
      rw [hjoin, hclicked, htake]
      simp only [List.append_assoc]
    · rw [List.length_append, hi]
      congr 1
      simp [rowsText, List.length_flatMap]
    · have hget : (occupied (grid.visibleRow clicked.row))[column]? = some cell := by
        rw [hoccupied, List.getElem?_append_right hcolumn.le, ← hcolumn, Nat.sub_self]
        rfl
      obtain ⟨hlt, rfl⟩ := List.getElem?_eq_some_iff.mp hget
      exact List.prefix_iff_getElem?.mp (occupied_isPrefix _) column hlt
    · rw [← hclicked]
      exact hsplit
    · rw [hbefore]

/-- One line of the screen, with a wide character. -/
def wideGrid : Grid where
  screenLines := 1
  columns := 4
  displayOffset := 0
  historySize := 0
  cells _ := wideRow
  width _ := rfl

end Grid

end AxSsh
