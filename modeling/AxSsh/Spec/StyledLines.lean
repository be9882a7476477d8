import AxSsh.ForStd.Segments
import AxSsh.Native.TerminalGrid

/-!
# Styled lines

The runs of a row and what they show of it.  A scan of `styled_line` passes a continuation cell,
takes a wide cell with its spacer, or a batch of cells of one style; what it takes becomes a run
unless it shows nothing.  So the runs are segments of the row, and the gaps between them are
continuation cells and cells that show nothing.

## Key results
- `run_spec`: a batch is shown by its run or shows nothing
- `fill_styledRuns`: the runs from a column on fill the rest of the row
- `styled_line_covers`: the runs of a grid row
-/

namespace AxSsh

open Segments (Fill)

namespace Cell

/-- The text of a cell that is no continuation, with a tab as a blank. -/
def displayCharacters (cell : Cell) : List Char :=
  (if cell.c = '\t' then ' ' else cell.c) :: cell.zerowidth

/-- Nothing of the cell is painted. -/
structure ShowsNothing (cell : Cell) : Prop where
  text : ∀ c ∈ cell.displayCharacters, c = ' '
  background : cell.style.background = .default
  inverse : cell.style.inverse = false
  underline : cell.style.underline = false
  strikethrough : cell.style.strikethrough = false

theorem displayText_eq {cell : Cell} (h : cell.isWideContinuation = false) :
    cell.displayText = cell.displayCharacters := by
  simp [displayText, displayCharacters, h]

end Cell

/-- The text of the cells that are no continuation. -/
def displayCells (cells : List Cell) : List Char :=
  (cells.filter (!·.isWideContinuation)).flatMap Cell.displayCharacters

theorem flatMap_displayText (cells : List Cell) :
    cells.flatMap Cell.displayText = displayCells cells := by
  unfold displayCells
  induction cells with
  | nil => rfl
  | cons cell cells ih =>
    cases hcell : cell.isWideContinuation with
    | true => simp [hcell, Cell.displayText, ih]
    | false => simp [hcell, Cell.displayText_eq hcell, ih]

/-- A run shows the cells of its columns. -/
structure Shows (row : List Cell) (run : TerminalStyledRun) : Prop where
  text : run.text = String.ofList (displayCells ((row.drop run.column).take run.cells))
  style : ∀ cell ∈ (row.drop run.column).take run.cells, cell.isWideContinuation = false →
    cell.style = run.style ∧ cell.link = run.hyperlink

/-- A column outside the runs. -/
def Gap (row : List Cell) (column : Nat) : Prop :=
  ∀ cell, row[column]? = some cell → cell.isWideContinuation = true ∨ cell.ShowsNothing

/-- Every wide cell has its spacer in the next column. -/
def WideSpaced (row : List Cell) : Prop :=
  ∀ column cell, row[column]? = some cell → cell.isWideContinuation = false → cell.wideChar = true →
    ∃ spacer, row[column + 1]? = some spacer ∧ spacer.isWideContinuation = true

/-! ## One batch -/

variable {row : List Cell} {cell : Cell} {batch : List Cell} {column cells : Nat}

/-- A cell with the cells after it in its columns is shown by its run, or shows nothing. -/
theorem run_spec (hcells : (row.drop column).take cells = cell :: batch)
    (hcell : cell.isWideContinuation = false)
    (hbatch : ∀ next ∈ batch, next.isWideContinuation = false →
      next.style = cell.style ∧ next.link = cell.link) :
    (∃ run, cell.run batch column cells = some run ∧ run.column = column ∧ run.cells = cells ∧
      Shows row run) ∨
    (cell.run batch column cells = none ∧
      ∀ next ∈ cell :: batch, next.isWideContinuation = true ∨ next.ShowsNothing) := by
  have hsame : ∀ next ∈ cell :: batch, next.isWideContinuation = false →
      next.style = cell.style ∧ next.link = cell.link := by
    intro next hnext hplain
    rcases List.mem_cons.mp hnext with rfl | hnext
    · exact ⟨rfl, rfl⟩
    · exact hbatch next hnext hplain
  unfold Cell.run
  dsimp only
  -- a run that shows nothing is left out
  split
  · rename_i hinvisible
    right
    simp only [Bool.and_eq_true, List.all_eq_true, decide_eq_true_eq, Bool.not_eq_true'] at hinvisible
    obtain ⟨⟨⟨⟨htext, hbackground⟩, hinverse⟩, hunderline⟩, hstrike⟩ := hinvisible
    refine ⟨rfl, fun next hnext => ?_⟩
    cases hplain : next.isWideContinuation with
    | true => exact .inl rfl
    | false =>
      obtain ⟨hstyle, -⟩ := hsame next hnext hplain
      refine .inr ⟨fun c hc => htext c ?_, ?_, ?_, ?_, ?_⟩
      · exact List.mem_flatMap.mpr ⟨next, hnext, Cell.displayText_eq hplain ▸ hc⟩
      all_goals rw [hstyle]; assumption
  · left
    refine ⟨_, rfl, rfl, rfl, ?_, ?_⟩
    · rw [hcells, flatMap_displayText]
    · rw [hcells]
      exact hsame

/-- What `run_spec` leaves is a segment or a stretch of gaps. -/
theorem fill_run {runs : List TerminalStyledRun}
    (hcells : (row.drop column).take cells = cell :: batch)
    (hlen : cells = (cell :: batch).length)
    (hcell : cell.isWideContinuation = false)
    (hbatch : ∀ next ∈ batch, next.isWideContinuation = false →
      next.style = cell.style ∧ next.link = cell.link)
    (hrest : Fill TerminalStyledRun.column TerminalStyledRun.cells (Gap row) (Shows row)
      (column + cells) row.length runs) :
    Fill TerminalStyledRun.column TerminalStyledRun.cells (Gap row) (Shows row) column row.length
      ((cell.run batch column cells).toList ++ runs) := by
  rcases run_spec hcells hcell hbatch with ⟨run, hrun, hcolumn, hwidth, hshows⟩ | ⟨hnone, hnothing⟩
  · rw [hrun]
    exact .cons hcolumn (by rw [hwidth, hlen]; exact Nat.succ_pos _) hshows (by rwa [hwidth])
  · rw [hnone]
    refine .skips (Nat.le_add_right column cells) (fun i hi hlt other hother => ?_) hrest
    -- the cell at `i` is one of those taken
    have hget : ((row.drop column).take cells)[i - column]? = some other := by
      rw [List.getElem?_take_of_lt (by omega), List.getElem?_drop, Nat.add_sub_cancel' hi]
      exact hother
    rw [hcells] at hget
    exact hnothing other (List.mem_of_getElem? hget)

/-! ## The whole row -/

/-- The cells from a column on, by the first of them. -/
theorem of_drop_eq_cons {rest : List Cell} (h : row.drop column = cell :: rest) :
    row[column]? = some cell ∧ row.drop (column + 1) = rest ∧ column < row.length := by
  have hget : row[column]? = some cell := by
    rw [← List.head?_drop, h]
    rfl
  refine ⟨hget, ?_, (List.getElem?_eq_some_iff.mp hget).1⟩
  rw [← List.tail_drop, h]
  rfl

theorem of_batchesWith {next : Cell} (h : cell.batchesWith next = true) :
    next.style = cell.style ∧ next.link = cell.link := by
  simp only [Cell.batchesWith, Bool.and_eq_true, decide_eq_true_eq] at h
  exact ⟨h.1.1.1.2, h.1.1.2⟩

/-- A spacer adds nothing to the run of its cell. -/
theorem run_spacer {spacer : Cell} (h : spacer.isWideContinuation = true) :
    cell.run [] column cells = cell.run [spacer] column cells := by
  have hnothing : spacer.displayText = [] := if_pos h
  have htext : [cell].flatMap Cell.displayText = [cell, spacer].flatMap Cell.displayText := by
    simp [hnothing]
  simp only [Cell.run, htext]

/-- The runs from a column on fill the rest of the row. -/
theorem fill_styledRuns (hwide : WideSpaced row) (column : Nat) (rest : List Cell)
    (hrest : row.drop column = rest) (hle : column ≤ row.length) :
    Fill TerminalStyledRun.column TerminalStyledRun.cells (Gap row) (Shows row) column row.length
      (styledRuns column rest) := by
  induction column, rest using styledRuns.induct with
  | case1 column =>
    -- no cell is left
    obtain rfl := Nat.le_antisymm hle (List.drop_eq_nil_iff.mp hrest)
    rw [styledRuns]
    exact .nil _
  | case2 column cell rest hcont ih =>
    obtain ⟨hget, hdrop, hlt⟩ := of_drop_eq_cons hrest
    rw [styledRuns, if_pos hcont]
    refine .skip (fun other hother => ?_) (ih hdrop hlt)
    obtain rfl := Option.some.inj (hget.symm.trans hother)
    exact .inl hcont
  | case3 column cell rest hcont hcell ih =>
    obtain ⟨hget, hdrop, hlt⟩ := of_drop_eq_cons hrest
    have hplain : cell.isWideContinuation = false := Bool.not_eq_true _ ▸ hcont
    obtain ⟨spacer, hspacer, hspaced⟩ := hwide column cell hget hplain hcell
    -- the next cell is the spacer, which the run covers too
    cases rest with
    | nil =>
      have hend := List.drop_eq_nil_iff.mp hdrop
      have hbound := (List.getElem?_eq_some_iff.mp hspacer).1
      omega
    | cons next rest =>
      obtain ⟨hnext, hdrop', hlt'⟩ := of_drop_eq_cons hdrop
      obtain rfl := Option.some.inj (hspacer.symm.trans hnext)
      rw [styledRuns, if_neg hcont, if_pos hcell, run_spacer hspaced]
      refine fill_run (by rw [hrest]; rfl) rfl hplain (fun other hother hfalse => ?_)
        (ih hdrop' hlt')
      rw [List.mem_singleton.mp hother, hspaced] at hfalse
      cases hfalse
  | case4 column cell rest hcont hcell batch cells ih =>
    obtain ⟨hget, hdrop, hlt⟩ := of_drop_eq_cons hrest
    have hplain : cell.isWideContinuation = false := Bool.not_eq_true _ ▸ hcont
    have htake : rest.take batch.length = batch :=
      (List.prefix_iff_eq_take.mp (List.takeWhile_prefix cell.batchesWith)).symm
    have hlen : batch.length ≤ rest.length := (List.takeWhile_prefix cell.batchesWith).length_le
    have hrow : rest.length = row.length - (column + 1) := by rw [← hdrop, List.length_drop]
    rw [styledRuns, if_neg hcont, if_neg hcell]
    refine fill_run ?_ (Nat.add_comm 1 batch.length) hplain
      (fun next hnext _ => of_batchesWith (List.mem_takeWhile_imp hnext)) (ih ?_ ?_)
    · rw [hrest, Nat.add_comm 1, List.take_succ_cons, htake]
    · rw [← hdrop, List.drop_drop]
      congr 1
      omega
    · omega

/-! ## Grid rows -/

/-- The wide cells of a row of the grid are followed by their spacers. -/
def GridSpaced (row : List GridCell) : Prop :=
  ∀ column cell, row[column]? = some cell → cell.isWideContinuation = false →
    cell.flags.wideChar = true →
    ∃ spacer, row[column + 1]? = some spacer ∧ spacer.isWideContinuation = true

theorem wideSpaced_map {row : List GridCell} (h : GridSpaced row) (colors : Nat → Option Rgb) :
    WideSpaced (row.map (·.resolve colors)) := by
  intro column cell hcell hplain hwide
  rw [List.getElem?_map, Option.map_eq_some_iff] at hcell
  obtain ⟨raw, hraw, rfl⟩ := hcell
  obtain ⟨spacer, hspacer, hspaced⟩ := h column raw hraw hplain hwide
  exact ⟨spacer.resolve colors, by rw [List.getElem?_map, hspacer]; rfl, hspaced⟩

/-- The runs of a row are disjoint, in order and within the row.  Each shows the cells of its
    columns, in their one style and with their link, and no other cell shows anything. -/
theorem styled_line_covers {row : List GridCell} (h : GridSpaced row)
    (colors : Nat → Option Rgb) :
    let cells := row.map (·.resolve colors)
    let runs := (styledLine cells).runs
    (runs.Pairwise fun run later => run.column + run.cells ≤ later.column) ∧
    (∀ run ∈ runs, 0 < run.cells ∧ run.column + run.cells ≤ row.length ∧ Shows cells run) ∧
    ∀ column < row.length,
      (∃ run ∈ runs, run.column ≤ column ∧ column < run.column + run.cells) ∨ Gap cells column := by
  intro cells runs
  have hlen : cells.length = row.length := List.length_map ..
  have hfill : Fill TerminalStyledRun.column TerminalStyledRun.cells (Gap cells) (Shows cells) 0
      cells.length runs :=
    fill_styledRuns (wideSpaced_map h colors) 0 cells rfl (Nat.zero_le _)
  rw [hlen] at hfill
  refine ⟨hfill.pairwise, fun run hrun => ?_, fun column hcolumn => ?_⟩
  · obtain ⟨-, hpos, hle, hshows⟩ := hfill.mem hrun
    exact ⟨hpos, hle, hshows⟩
  · exact (hfill.covered (Nat.zero_le column) hcolumn).symm

/-- A wide character between two letters, the last of them underlined. -/
def wideRow : List GridCell :=
  [{ c := 'a' }, { c := '字', flags := { wideChar := true } },
    { c := ' ', flags := { wideCharSpacer := true } },
    { c := 'b', flags := { underline := true } }]

theorem wideRow_spaced : GridSpaced wideRow := by
  intro column cell hcell hplain hwide
  match column with
  | 0 => obtain rfl := Option.some.inj hcell; cases hwide
  | 1 => exact ⟨_, rfl, rfl⟩
  | 2 => obtain rfl := Option.some.inj hcell; cases hplain
  | 3 => obtain rfl := Option.some.inj hcell; cases hwide
  | column + 4 => cases hcell

theorem wideRow_covered :
    (styledLine (wideRow.map (·.resolve fun _ => none))).runs.Pairwise
      fun run later => run.column + run.cells ≤ later.column :=
  (styled_line_covers wideRow_spaced fun _ => none).1

end AxSsh
