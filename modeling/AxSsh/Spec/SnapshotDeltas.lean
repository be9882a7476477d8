import AxSsh.ForStd.Transition
import AxSsh.Native.TerminalDisplay

/-!
# Incremental snapshots of a terminal

A view that takes the first snapshot of a tab completely, and of the later ones only the dirty
rows, against the lines of the published snapshot.  The lines kept in the terminal model change
only at rows that a snapshot reports, so the view can be brought up to date from the pending
snapshot alone; `Tracks` says that it can.  A step loses this when it drops a pending snapshot
whose rows the view has not seen.

## Key results
- `ScreenModel.snapshot_shows`: the lines of a snapshot are the whole screen
- `ScreenModel.snapshot_catches`: a snapshot reports every line that changed since the last one
- `DisplayState.Tracks.apply`: a step that drops no unseen rows keeps the view in step
- `DisplayState.view_eq_published`: runs of such steps show the published lines
-/

namespace AxSsh

/-! ## What the library reports -/

def TermDamage.Covers (row : Nat) : TermDamage → Prop
  | .full => True
  | .partialRows rows => row ∈ rows

/-- From one state to the next, the rows that changed are damaged, and what was damaged still
    is. -/
structure Emulator.Reports (E : Emulator σ) (before after : σ) : Prop where
  changed : ∀ i, (E.rows after)[i]? ≠ (E.rows before)[i]? → (E.damage after).Covers i
  kept : ∀ i, (E.damage before).Covers i → (E.damage after).Covers i
  full : E.damage before = .full → E.damage after = .full

/-- The library reports every row whose cells changed as damaged, until the damage is reset. -/
structure Emulator.ReportsDamage (E : Emulator σ) : Prop where
  advance : ∀ now bytes s, E.Reports s (E.advance now bytes s).1
  stopSync : ∀ s, E.Reports s (E.stopSync s).1
  scrollDisplay : ∀ scroll s, E.Reports s (E.scrollDisplay scroll s)
  resize : ∀ columns rows s, E.Reports s (E.resize columns rows s)
  setOptions : ∀ scrollback osc52 s, E.Reports s (E.setOptions scrollback osc52 s)
  resetDamage : ∀ s, E.rows (E.resetDamage s) = E.rows s ∧
    E.cursor (E.resetDamage s) = E.cursor s

section Reports

variable {E : Emulator σ}

theorem Emulator.Reports.refl (E : Emulator σ) (s : σ) : E.Reports s s :=
  ⟨fun _ h => absurd rfl h, fun _ h => h, fun h => h⟩

theorem Emulator.Reports.trans {s s' s'' : σ} (h : E.Reports s s') (h' : E.Reports s' s'') :
    E.Reports s s'' where
  changed i hi := by
    by_cases heq : (E.rows s'')[i]? = (E.rows s')[i]?
    · exact h'.kept i (h.changed i (heq ▸ hi))
    · exact h'.changed i heq
  kept i hi := h'.kept i (h.kept i hi)
  full hfull := h'.full (h.full hfull)

end Reports

/-! ## Refreshing the lines -/

/-- The line kept for a row has the runs of the row. -/
def LineShows (rows : List (List Cell)) (lines : List TerminalStyledLine) (row : Nat) : Prop :=
  ∀ cells, rows[row]? = some cells → (lines[row]?).map (·.runs) = some (styledLine cells).runs

namespace LineRefresh

variable {rows : List (List Cell)} {r : LineRefresh} {row i : Nat}

/-- A turn of the loop over the damaged rows changes at most one line, which it reports. -/
theorem damagedRow_cases (rows : List (List Cell)) (r : LineRefresh) (row : Nat) :
    r.damagedRow rows row = r ∨ ∃ line,
      (r.damagedRow rows row).lines = r.lines.set row line ∧
      (r.damagedRow rows row).dirtyRows = r.dirtyRows ++ [row] := by
  unfold damagedRow
  split
  · exact .inl rfl
  · dsimp only
    split
    · exact .inl rfl
    · exact .inr ⟨_, rfl, rfl⟩

theorem length_lines_damagedRow : (r.damagedRow rows row).lines.length = r.lines.length := by
  rcases damagedRow_cases rows r row with h | ⟨line, h, -⟩
  · rw [h]
  · simp [h]

/-- The row of the turn is up to date afterwards. -/
theorem lineShows_damagedRow (hlen : r.lines.length = rows.length) :
    LineShows rows (r.damagedRow rows row).lines row := by
  intro cells hcells
  have hlt : row < r.lines.length := hlen ▸ (List.getElem?_eq_some_iff.mp hcells).1
  unfold damagedRow
  rw [hcells]
  dsimp only
  split
  · next hany =>
    rw [List.getElem?_eq_getElem hlt] at hany ⊢
    simpa using hany
  · simp [hlt]

/-- The other rows stay as they are. -/
theorem lineShows_damagedRow_of (h : LineShows rows r.lines i)
    (hlen : r.lines.length = rows.length) : LineShows rows (r.damagedRow rows row).lines i := by
  rcases eq_or_ne row i with rfl | hne
  · exact lineShows_damagedRow hlen
  · rcases damagedRow_cases rows r row with heq | ⟨line, heq, -⟩
    · rwa [heq]
    · intro cells hcells
      rw [heq, List.getElem?_set_ne hne]
      exact h cells hcells

/-- The loop over the damaged rows brings these up to date and reports what it changes. -/
theorem damagedRows_spec (rows : List (List Cell)) (damaged : List Nat) (r : LineRefresh)
    (hlen : r.lines.length = rows.length) :
    let r' := damaged.foldl (damagedRow rows) r
    (∀ i, i ∈ damaged ∨ LineShows rows r.lines i → LineShows rows r'.lines i) ∧
    r'.lines.length = rows.length ∧
    ∃ dirty, r'.dirtyRows = r.dirtyRows ++ dirty ∧ List.AgreeOff dirty r.lines r'.lines := by
  induction damaged generalizing r with
  | nil => exact ⟨fun i hi => by simpa using hi, hlen, [], by simp, .refl _ _⟩
  | cons row damaged ih =>
    have hlen' : (r.damagedRow rows row).lines.length = rows.length := by
      rw [length_lines_damagedRow, hlen]
    obtain ⟨hshows, hlast, dirty, hdirty, hagree⟩ := ih (r.damagedRow rows row) hlen'
    refine ⟨fun i hi => hshows i ?_, hlast, ?_⟩
    · rcases hi with hi | hi
      · rcases List.mem_cons.mp hi with rfl | hi
        · exact .inr (lineShows_damagedRow hlen)
        · exact .inl hi
      · exact .inr (lineShows_damagedRow_of hi hlen)
    · rcases damagedRow_cases rows r row with heq | ⟨line, hlines, hrow⟩
      · rw [heq] at hdirty hagree
        exact ⟨dirty, by rw [List.foldl_cons, heq]; exact hdirty,
          by rw [List.foldl_cons, heq]; exact hagree⟩
      · refine ⟨row :: dirty, ?_, ?_⟩
        · rw [List.foldl_cons, hdirty, hrow, List.append_assoc]
          rfl
        · rw [List.foldl_cons]
          rw [hlines] at hagree
          refine ((List.AgreeOff.set r.lines row line).trans hagree).mono fun i hi => ?_
          simpa [or_comm] using hi

/-- A turn of the loop over all rows appends a line with the runs of the row. -/
theorem everyRow_lines (current : List TerminalStyledLine) (r : LineRefresh) (cells : List Cell) :
    ∃ line : TerminalStyledLine, line.runs = (styledLine cells).runs ∧
      (r.everyRow current cells).lines = r.lines ++ [line] := by
  unfold everyRow
  dsimp only
  split
  · next kept hkept => exact ⟨kept, by simpa using (Option.filter_eq_some_iff.mp hkept).2, rfl⟩
  · exact ⟨{ styledLine cells with revision := takeLineRevision r.revision }, rfl, rfl⟩

/-- The loop over all rows gives one line for each row. -/
theorem everyRow_runs (current : List TerminalStyledLine) (rows : List (List Cell))
    (r : LineRefresh) :
    (rows.foldl (everyRow current) r).lines.map (·.runs) =
      r.lines.map (·.runs) ++ rows.map (fun cells => (styledLine cells).runs) := by
  induction rows generalizing r with
  | nil => simp
  | cons cells rows ih =>
    obtain ⟨line, hruns, hlines⟩ := everyRow_lines current r cells
    rw [List.foldl_cons, ih, hlines]
    simp [hruns]

/-- Where the loop over all rows reports nothing, it keeps the lines it was given. -/
theorem everyRow_kept (current : List TerminalStyledLine) (rows : List (List Cell))
    (r : LineRefresh) :
    ∃ dirty, (rows.foldl (everyRow current) r).dirtyRows = r.dirtyRows ++ dirty ∧
      (dirty = [] → (rows.foldl (everyRow current) r).lines =
        r.lines ++ (current.drop r.lines.length).take rows.length) := by
  induction rows generalizing r with
  | nil => exact ⟨[], by simp, fun _ => by simp⟩
  | cons cells rows ih =>
    obtain ⟨dirty, hdirty, hlines⟩ := ih (r.everyRow current cells)
    cases hkept : (current[r.lines.length]?).filter (·.runs = (styledLine cells).runs) with
    | some kept =>
      have hstep : r.everyRow current cells = { r with lines := r.lines ++ [kept] } := by
        simp only [everyRow, hkept]
      rw [hstep] at hdirty hlines
      rw [List.foldl_cons, hstep]
      refine ⟨dirty, hdirty, fun hnil => ?_⟩
      obtain ⟨hlt, hget⟩ := List.getElem?_eq_some_iff.mp (Option.filter_eq_some_iff.mp hkept).1
      have hdrop : current.drop r.lines.length = kept :: current.drop (r.lines.length + 1) := by
        rw [← hget]
        exact List.drop_eq_getElem_cons hlt
      rw [hlines hnil, hdrop]
      simp
    | none =>
      have hstep : (r.everyRow current cells).dirtyRows = r.dirtyRows ++ [r.lines.length] := by
        simp only [everyRow, hkept]
      refine ⟨r.lines.length :: dirty, ?_, fun h => nomatch h⟩
      rw [List.foldl_cons, hdirty, hstep]
      simp

end LineRefresh

/-! ## Snapshots -/

/-- What a snapshot tells of the lines before it: it asks for all lines, or its dirty rows are
    the ones that changed. -/
def TerminalSnapshot.Catches (snapshot : TerminalSnapshot) (lines : List TerminalStyledLine) :
    Prop :=
  snapshot.fullRefresh = true ∨ List.AgreeOff snapshot.dirtyRows lines snapshot.lines

namespace ScreenModel

variable {E : Emulator σ} {m : ScreenModel σ}

/-- The lines kept from the last snapshot are those of every row that is not damaged. -/
def Accounted (E : Emulator σ) (m : ScreenModel σ) : Prop :=
  m.snapshotLines = [] ∨
    ∀ i, ¬ (E.damage m.term).Covers i → LineShows (E.rows m.term) m.snapshotLines i

/-- The library's changes leave the model accounted for, as they are reported. -/
theorem Accounted.of_reports {m' : ScreenModel σ} (h : m.Accounted E)
    (hlines : m'.snapshotLines = m.snapshotLines) (hreports : E.Reports m.term m'.term) :
    m'.Accounted E := by
  rcases h with hnil | hshows
  · exact .inl (hlines.trans hnil)
  · right
    intro i hi cells hcells
    have hsame : (E.rows m'.term)[i]? = (E.rows m.term)[i]? :=
      Classical.byContradiction fun hne => hi (hreports.changed i hne)
    rw [hlines]
    exact hshows i (fun hcovers => hi (hreports.kept i hcovers)) cells (hsame ▸ hcells)

/-- Only damage that covers part of the screen leads to the loop over the damaged rows. -/
theorem damagedRows_eq_some {damaged : List Nat} (h : m.damagedRows E = some damaged) :
    m.snapshotLines.length = (E.rows m.term).length ∧
      E.damage m.term = .partialRows damaged := by
  unfold damagedRows at h
  split at h
  · exact nomatch h
  · next hdims =>
    have hlen : m.snapshotLines.length = (E.rows m.term).length :=
      Classical.byContradiction fun hne => hdims (.inl hne)
    split at h
    · exact nomatch h
    · next rows hdamage => exact ⟨hlen, by rw [hdamage, Option.some.inj h]⟩

theorem refreshedLines_runs (h : m.Accounted E) :
    (m.refreshedLines E).lines.map (·.runs) =
      (E.rows m.term).map fun cells => (styledLine cells).runs := by
  unfold refreshedLines
  cases hdamaged : m.damagedRows E with
  | none => exact LineRefresh.everyRow_runs m.snapshotLines (E.rows m.term) _
  | some damaged =>
    obtain ⟨hlen, hdamage⟩ := damagedRows_eq_some hdamaged
    obtain ⟨hshows, hlast, -⟩ := LineRefresh.damagedRows_spec (E.rows m.term) damaged
      ⟨m.snapshotLines, m.nextLineRevision, []⟩ hlen
    -- every row is damaged or was accounted for
    have hall : ∀ i, i ∈ damaged ∨ LineShows (E.rows m.term) m.snapshotLines i := by
      intro i
      rcases h with hnil | hacc
      · right
        intro cells hcells
        have hlt := (List.getElem?_eq_some_iff.mp hcells).1
        rw [hnil, List.length_nil] at hlen
        omega
      · by_cases hi : i ∈ damaged
        · exact .inl hi
        · exact .inr (hacc i (by rwa [hdamage]))
    apply List.ext_getElem?
    intro i
    rw [List.getElem?_map, List.getElem?_map]
    cases hrow : (E.rows m.term)[i]? with
    | none =>
      have : (E.rows m.term).length ≤ i := List.getElem?_eq_none_iff.mp hrow
      simp [hlast, this]
    | some cells => exact hshows i (hall i) cells hrow

/-- The lines of a snapshot are the whole screen. -/
theorem snapshot_shows (h : m.Accounted E) :
    (m.snapshot E).2.lines.map (·.runs) =
      (E.rows m.term).map fun cells => (styledLine cells).runs :=
  refreshedLines_runs h

theorem snapshot_lines (E : Emulator σ) (m : ScreenModel σ) :
    (m.snapshot E).2.lines = (m.snapshot E).1.snapshotLines := rfl

/-- After a snapshot every row is accounted for. -/
theorem accounted_snapshot (hE : E.ReportsDamage) (h : m.Accounted E) :
    (m.snapshot E).1.Accounted E := by
  right
  intro i _ cells hcells
  have hrows : (E.rows m.term)[i]? = some cells := by
    rw [← (hE.resetDamage m.term).1]
    exact hcells
  have hruns := congrArg (·[i]?) (snapshot_shows h)
  rw [List.getElem?_map, List.getElem?_map, hrows] at hruns
  exact hruns

/-- A snapshot reports every line that changed since the last one. -/
theorem snapshot_catches (E : Emulator σ) (m : ScreenModel σ) :
    (m.snapshot E).2.Catches m.snapshotLines := by
  cases hdamaged : m.damagedRows E with
  | none => exact .inl (by simp [snapshot, refreshSnapshotLines, hdamaged])
  | some damaged =>
    right
    obtain ⟨hlen, -⟩ := damagedRows_eq_some hdamaged
    obtain ⟨-, -, dirty, hdirty, hagree⟩ := LineRefresh.damagedRows_spec (E.rows m.term) damaged
      ⟨m.snapshotLines, m.nextLineRevision, []⟩ hlen
    have hrefreshed : m.refreshedLines E = damaged.foldl (LineRefresh.damagedRow (E.rows m.term))
        ⟨m.snapshotLines, m.nextLineRevision, []⟩ := by
      simp only [refreshedLines, hdamaged]
    show List.AgreeOff ((m.refreshedLines E).dirtyRows.mergeSort (· ≤ ·)).dedup m.snapshotLines
      (m.refreshedLines E).lines
    rw [hrefreshed, hdirty]
    exact hagree.mono fun i hi => by simpa using hi

/-- Where the whole screen is damaged, the next snapshot asks for all lines. -/
theorem snapshot_full (h : E.damage m.term = .full) : (m.snapshot E).2.fullRefresh = true := by
  have : m.damagedRows E = none := by
    unfold damagedRows
    rw [h]
    split <;> rfl
  simp [snapshot, refreshSnapshotLines, this]

/-- A snapshot without dirty rows has the lines of the last one, if it has as many. -/
theorem snapshot_lines_of_quiet (hdirty : (m.snapshot E).2.dirtyRows = [])
    (hlen : m.snapshotLines.length = (m.snapshot E).2.lines.length) :
    (m.snapshot E).2.lines = m.snapshotLines := by
  cases hdamaged : m.damagedRows E with
  -- the dirty rows name every change, so there is none
  | some damaged =>
    rcases snapshot_catches E m with hfull | hagree
    · simp [snapshot, refreshSnapshotLines, hdamaged] at hfull
    · rw [hdirty] at hagree
      exact hagree.eq_of_nil.symm
  | none =>
    have hrefreshed : m.refreshedLines E =
        (E.rows m.term).foldl (LineRefresh.everyRow m.snapshotLines)
          ⟨[], m.nextLineRevision, []⟩ := by
      simp only [refreshedLines, hdamaged]
    obtain ⟨dirty, hsame, hlines⟩ := LineRefresh.everyRow_kept m.snapshotLines (E.rows m.term)
      ⟨[], m.nextLineRevision, []⟩
    rw [← hrefreshed] at hsame hlines
    -- with every row compared, a changed one would be named
    have hnil : dirty = [] := by
      apply List.eq_nil_iff_forall_not_mem.mpr
      intro i hi
      have hmem : i ∈ (m.snapshot E).2.dirtyRows := by
        show i ∈ ((m.refreshedLines E).dirtyRows.mergeSort (· ≤ ·)).dedup
        rw [hsame]
        simpa using hi
      rw [hdirty] at hmem
      exact nomatch hmem
    have htake : (m.snapshot E).2.lines = m.snapshotLines.take (E.rows m.term).length :=
      (hlines hnil).trans (by simp)
    rw [htake] at hlen ⊢
    exact List.take_of_length_le (by rw [List.length_take] at hlen; omega)

/-! The operations that take no snapshot keep its lines. -/

/-- The model moved on by what the library did and reports. -/
structure Moves (E : Emulator σ) (m m' : ScreenModel σ) : Prop where
  lines : m'.snapshotLines = m.snapshotLines
  reports : E.Reports m.term m'.term

theorem Moves.refl (E : Emulator σ) (m : ScreenModel σ) : Moves E m m := ⟨rfl, .refl E m.term⟩

theorem Moves.trans {m' m'' : ScreenModel σ} (h : Moves E m m') (h' : Moves E m' m'') :
    Moves E m m'' :=
  ⟨h'.lines.trans h.lines, h.reports.trans h'.reports⟩

theorem moves_processWithResponses (hE : E.ReportsDamage) (now : Instant) (bytes : List UInt8)
    (m : ScreenModel σ) : Moves E m (m.processWithResponses E now bytes).1 := by
  refine ⟨rfl, (hE.advance now bytes m.term).trans ?_⟩
  show E.Reports _ (if _ then _ else _)
  split
  · exact hE.scrollDisplay _ _
  · exact .refl E _

theorem moves_flushSynchronizedOutputIfDue (hE : E.ReportsDamage) (now : Instant)
    (m : ScreenModel σ) : Moves E m (m.flushSynchronizedOutputIfDue E now).1 := by
  unfold flushSynchronizedOutputIfDue
  split
  · exact .refl E m
  · split
    · exact .refl E m
    · exact ⟨rfl, hE.stopSync m.term⟩

theorem moves_scroll (hE : E.ReportsDamage) (deltaLines : Int) (m : ScreenModel σ) :
    Moves E m (m.scroll E deltaLines).1 := by
  unfold scroll
  split
  · exact .refl E m
  · dsimp only
    generalize (if 0 < deltaLines then min (E.displayOffset m.term + deltaLines.toNat)
      (E.historySize m.term) else E.displayOffset m.term - (-deltaLines).toNat) = requested
    split
    · exact .refl E m
    · exact ⟨rfl, hE.scrollDisplay _ _⟩

theorem moves_scrollToBottom (hE : E.ReportsDamage) (m : ScreenModel σ) :
    Moves E m (m.scrollToBottom E).1 := by
  unfold scrollToBottom
  dsimp only
  split
  · exact ⟨rfl, .refl E _⟩
  · exact ⟨rfl, hE.scrollDisplay _ _⟩

theorem moves_resize (hE : E.ReportsDamage) (columns rows : Nat) (m : ScreenModel σ) :
    Moves E m (m.resize E columns rows).1 := by
  unfold resize
  split
  · exact .refl E m
  · dsimp only
    split
    · refine ⟨rfl, (hE.resize columns rows m.term).trans ?_⟩
      show E.Reports _ (if _ then _ else _)
      split
      · exact hE.scrollDisplay _ _
      · exact .refl E _
    · exact ⟨rfl, hE.resize columns rows m.term⟩

theorem moves_setScrollbackLines (hE : E.ReportsDamage) (scrollbackLines : Nat)
    (m : ScreenModel σ) : Moves E m (m.setScrollbackLines E scrollbackLines) := by
  unfold setScrollbackLines
  split
  · exact .refl E m
  · exact ⟨rfl, hE.setOptions _ _ _⟩

theorem moves_setOsc52ClipboardEnabled (hE : E.ReportsDamage) (enabled : Bool)
    (m : ScreenModel σ) : Moves E m (m.setOsc52ClipboardEnabled E enabled) := by
  unfold setOsc52ClipboardEnabled
  extract_lets cleared
  have hcleared : Moves E m cleared := by
    cases enabled <;> exact ⟨rfl, .refl E m.term⟩
  split
  · exact hcleared
  · exact hcleared.trans ⟨rfl, hE.setOptions _ _ _⟩

end ScreenModel

/-! ## Merging and applying snapshots -/

/-- A merged snapshot reports what either reports. -/
theorem mergeTerminalSnapshots_catches {pending current : TerminalSnapshot}
    {lines : List TerminalStyledLine} (hpending : pending.Catches lines)
    (hcurrent : current.Catches pending.lines) :
    (mergeTerminalSnapshots pending current).Catches lines := by
  unfold mergeTerminalSnapshots
  split
  · exact .inl rfl
  · next hsame =>
    simp only [not_or] at hsame
    right
    have hagree := (hpending.resolve_left hsame.1).trans (hcurrent.resolve_left hsame.2.1)
    exact hagree.mono fun i hi => by simpa using hi

@[simp] theorem lines_mergeTerminalSnapshots (pending current : TerminalSnapshot) :
    (mergeTerminalSnapshots pending current).lines = current.lines := by
  unfold mergeTerminalSnapshots
  split <;> rfl

/-- The view takes over a snapshot that catches up with what it shows. -/
theorem updateRenderLines_eq {view : Option (List TerminalStyledLine)} {snapshot : TerminalSnapshot}
    (h : ∀ lines, view = some lines → snapshot.Catches lines) :
    updateRenderLines view snapshot = snapshot.lines := by
  unfold updateRenderLines
  cases view with
  | none => rfl
  | some lines =>
    dsimp only
    split
    · rfl
    · next hpatch =>
      rw [not_or] at hpatch
      exact ((h lines rfl).resolve_left hpatch.1).patch_eq

/-! ## Tabs and their views -/

/-- A step of a terminal tab or of the UI that shows it. -/
inductive DisplayOp where
  | output (now : Instant) (data : List UInt8) (workerAccepts : Bool)
  | prepare (now : Instant)
  | refresh (now : Instant)
  | resize (columns rows cellWidth cellHeight : UInt32) (accepted : Bool × Bool)
  | scroll (lines : Int)
  | scrollToBottom
  | applySettings (scrollbackLines : Nat) (osc52Clipboard : Bool)
deriving DecidableEq, Repr

namespace DisplayTab

/-- `prepare_terminal_output_snapshot` drops the snapshot it takes: nothing is pending, no row is
    dirty and the visible state is the published one. -/
def skips (E : Emulator σ) (now : Instant) (t : DisplayTab σ) : Bool :=
  match t.synchronizedOutputPending E now with
  | (_, true) => false
  | (t, false) =>
    match t.terminal with
    | none => false
    | some model =>
      let snapshot := (model.snapshot E).2
      t.pendingTerminalSnapshot = none ∧ snapshot.dirtyRows = [] ∧
        t.publishedTerminalState = some (TerminalVisibleState.ofSnapshot snapshot)

/-- A step drops the pending snapshot. -/
def discards (E : Emulator σ) (t : DisplayTab σ) : DisplayOp → Bool
  | .resize columns rows cellWidth cellHeight accepted =>
    t.terminal.any fun model => accepted.1 &&
      (resizeModel E (.model columns.toNat rows.toNat) cellWidth cellHeight model).2.1
  | .scroll lines => (t.scrollTerminal E lines).2
  | .scrollToBottom => (t.scrollTerminalToBottom E).2
  | .applySettings _ _ => t.terminal.isSome
  | _ => false

theorem discards_resize (E : Emulator σ) (t : DisplayTab σ)
    (columns rows cellWidth cellHeight : UInt32) (accepted : Bool × Bool) :
    t.discards E (.resize columns rows cellWidth cellHeight accepted) =
      t.terminal.any fun model => accepted.1 &&
        (resizeModel E (.model columns.toNat rows.toNat) cellWidth cellHeight model).2.1 := rfl

theorem discards_scroll (E : Emulator σ) (t : DisplayTab σ) (lines : Int) :
    t.discards E (.scroll lines) = (t.scrollTerminal E lines).2 := rfl

theorem discards_scrollToBottom (E : Emulator σ) (t : DisplayTab σ) :
    t.discards E .scrollToBottom = (t.scrollTerminalToBottom E).2 := rfl

theorem discards_applySettings (E : Emulator σ) (t : DisplayTab σ) (scrollbackLines : Nat)
    (osc52Clipboard : Bool) :
    t.discards E (.applySettings scrollbackLines osc52Clipboard) = t.terminal.isSome := rfl

variable {E : Emulator σ} {t t' t'' : DisplayTab σ}

/-- The tab after something that takes no snapshot and drops none. -/
structure Moves (E : Emulator σ) (t t' : DisplayTab σ) : Prop where
  pending : t'.pendingTerminalSnapshot = t.pendingTerminalSnapshot
  published : t'.publishedTerminalSnapshot = t.publishedTerminalSnapshot
  state : t'.publishedTerminalState = t.publishedTerminalState
  model : ∀ m', t'.terminal = some m' → ∃ m, t.terminal = some m ∧ m.Moves E m'

theorem moves_of_model {m m' : ScreenModel σ} {framePending : Bool} (h : t.terminal = some m)
    (hmoves : m.Moves E m') :
    Moves E t { t with terminal := some m', outputFramePending := framePending } where
  pending := rfl
  published := rfl
  state := rfl
  model _ hm'' := ⟨m, h, Option.some.inj hm'' ▸ hmoves⟩

theorem Moves.refl (E : Emulator σ) (t : DisplayTab σ) : Moves E t t :=
  ⟨rfl, rfl, rfl, fun m h => ⟨m, h, .refl E m⟩⟩

theorem moves_synchronizedOutputPending (hE : E.ReportsDamage) (now : Instant)
    (t : DisplayTab σ) : Moves E t (t.synchronizedOutputPending E now).1 := by
  unfold synchronizedOutputPending
  split
  · exact .refl E t
  · next m hm => exact moves_of_model hm (ScreenModel.moves_flushSynchronizedOutputIfDue hE now m)

theorem moves_processTerminalOutput (hE : E.ReportsDamage) (now : Instant) (data : List UInt8)
    (workerAccepts : Bool) (t : DisplayTab σ) :
    Moves E t (t.processTerminalOutput E now data workerAccepts).1 := by
  unfold processTerminalOutput
  split
  · exact .refl E t
  · next m hm =>
    have hmoves := ScreenModel.moves_processWithResponses hE now data m
    cases hprocess : m.processWithResponses E now data with
    | mk model responses =>
      rw [hprocess] at hmoves
      dsimp only
      split <;> split <;> exact moves_of_model hm ⟨hmoves.lines, hmoves.reports⟩

end DisplayTab

/-- A terminal tab and the rows of a view that shows it. -/
structure DisplayState (σ : Type) where
  tab : DisplayTab σ
  view : Option (List TerminalStyledLine)

namespace DisplayState

variable {σ : Type} {E : Emulator σ}

/-- The view takes over the snapshot it gets, if any. -/
def shown (view : Option (List TerminalStyledLine)) :
    DisplayTab σ × Option TerminalSnapshot → DisplayState σ
  | (tab, some snapshot) => ⟨tab, some (updateRenderLines view snapshot)⟩
  | (tab, none) => ⟨tab, view⟩

def refresh (E : Emulator σ) (now : Instant) (s : DisplayState σ) : DisplayState σ :=
  shown s.view (s.tab.terminalSnapshotForUi E now)

def apply (E : Emulator σ) (s : DisplayState σ) : DisplayOp → DisplayState σ
  | .output now data workerAccepts =>
    { s with tab := (s.tab.processTerminalOutput E now data workerAccepts).1 }
  | .prepare now => { s with tab := (s.tab.prepareTerminalOutputSnapshot E now).1 }
  | .refresh now => s.refresh E now
  | .resize columns rows cellWidth cellHeight accepted =>
    { s with
      tab := (s.tab.resizeTerminalWithMetrics E columns rows cellWidth cellHeight accepted).1 }
  | .scroll lines => { s with tab := (s.tab.scrollTerminal E lines).1 }
  | .scrollToBottom => { s with tab := (s.tab.scrollTerminalToBottom E).1 }
  | .applySettings scrollbackLines osc52Clipboard =>
    { s with tab := s.tab.applyScrollbackSetting E scrollbackLines osc52Clipboard }

/-- A tab that was just opened: no snapshot was taken of it and no view shows it. -/
structure Fresh (s : DisplayState σ) : Prop where
  model : ∀ m, s.tab.terminal = some m → m.snapshotLines = []
  pending : s.tab.pendingTerminalSnapshot = none
  published : s.tab.publishedTerminalSnapshot = none
  state : s.tab.publishedTerminalState = none
  view : s.view = none

/-- The view can be brought up to date. -/
structure Tracks (E : Emulator σ) (s : DisplayState σ) : Prop where
  accounted : ∀ m, s.tab.terminal = some m → m.Accounted E
  published : ∀ p, s.tab.publishedTerminalSnapshot = some p → s.view = some p.lines
  state : s.tab.publishedTerminalState =
    s.tab.publishedTerminalSnapshot.map TerminalVisibleState.ofSnapshot
  /-- A pending snapshot has the lines kept in the model... -/
  pendingLines : ∀ p m, s.tab.pendingTerminalSnapshot = some p → s.tab.terminal = some m →
    p.lines = m.snapshotLines
  /-- ... and reports what the view has not seen of them. -/
  pendingCatches : ∀ p lines, s.tab.pendingTerminalSnapshot = some p → s.view = some lines →
    p.Catches lines
  /-- Without one the view shows these lines, or the whole screen is damaged. -/
  current : ∀ lines m, s.tab.pendingTerminalSnapshot = none → s.view = some lines →
    s.tab.terminal = some m → lines = m.snapshotLines ∨ E.damage m.term = .full

/-- The view shows the lines kept in the terminal model. -/
def UpToDate (s : DisplayState σ) : Prop :=
  ∀ lines m, s.view = some lines → s.tab.terminal = some m → lines = m.snapshotLines

instance (s : DisplayState σ) : Decidable s.UpToDate :=
  decidable_of_iff (∀ lines ∈ s.view, ∀ m ∈ s.tab.terminal, lines = m.snapshotLines)
    ⟨fun h lines m hl hm => h lines hl m hm, fun h lines hl m hm => h lines m hl hm⟩

theorem Fresh.tracks {s : DisplayState σ} (h : s.Fresh) : s.Tracks E where
  accounted m hm := .inl (h.model m hm)
  published p hp := by simp [h.published] at hp
  state := by simp [h.published, h.state]
  pendingLines p m hp := by simp [h.pending] at hp
  pendingCatches p lines hp := by simp [h.pending] at hp
  current lines m _ hl := by simp [h.view] at hl

theorem Tracks.of_moves {s : DisplayState σ} {tab : DisplayTab σ} (h : s.Tracks E)
    (hmoves : s.tab.Moves E tab) : Tracks E ⟨tab, s.view⟩ where
  accounted m' hm' := by
    obtain ⟨m, hm, hmove⟩ := hmoves.model m' hm'
    exact (h.accounted m hm).of_reports hmove.lines hmove.reports
  published p hp := h.published p (hmoves.published ▸ hp)
  state := by
    show tab.publishedTerminalState = tab.publishedTerminalSnapshot.map _
    rw [hmoves.state, hmoves.published, h.state]
  pendingLines p m' hp hm' := by
    obtain ⟨m, hm, hmove⟩ := hmoves.model m' hm'
    rw [hmove.lines]
    exact h.pendingLines p m (hmoves.pending ▸ hp) hm
  pendingCatches p lines hp hl := h.pendingCatches p lines (hmoves.pending ▸ hp) hl
  current lines m' hp hl hm' := by
    obtain ⟨m, hm, hmove⟩ := hmoves.model m' hm'
    rcases h.current lines m (hmoves.pending ▸ hp) hl hm with heq | hfull
    · exact .inl (heq.trans hmove.lines.symm)
    · exact .inr (hmove.reports.full hfull)

theorem UpToDate.of_moves {s : DisplayState σ} {tab : DisplayTab σ} (h : s.UpToDate)
    (hmoves : s.tab.Moves E tab) : UpToDate ⟨tab, s.view⟩ := by
  intro lines m' hl hm'
  obtain ⟨m, hm, hmove⟩ := hmoves.model m' hm'
  exact (h lines m hl hm).trans hmove.lines.symm

/-- Dropping the pending snapshot is harmless when the view has seen its rows, or will take all
    rows of the next one. -/
theorem Tracks.discard {s : DisplayState σ} (h : s.Tracks E)
    (hseen : s.UpToDate ∨ ∀ m, s.tab.terminal = some m → E.damage m.term = .full) :
    Tracks E ⟨s.tab.discardPendingTerminalSnapshot, s.view⟩ where
  accounted := h.accounted
  published := h.published
  state := h.state
  pendingLines p m hp := nomatch hp
  pendingCatches p lines hp := nomatch hp
  current lines m _ hl hm := by
    rcases hseen with hseen | hfull
    · exact .inl (hseen lines m hl hm)
    · exact .inr (hfull m hm)

/-- A snapshot of the model reports what the view has not seen, once it is merged into the
    pending one. -/
theorem Tracks.admitted_catches {s : DisplayState σ} {m : ScreenModel σ} (h : s.Tracks E)
    (hm : s.tab.terminal = some m) {lines : List TerminalStyledLine} (hl : s.view = some lines) :
    (s.tab.admitted (m.snapshot E).2).Catches lines := by
  have hcatches := m.snapshot_catches E
  unfold DisplayTab.admitted
  cases hp : s.tab.pendingTerminalSnapshot with
  | some pending =>
    rw [← h.pendingLines pending m hp hm] at hcatches
    exact mergeTerminalSnapshots_catches (h.pendingCatches pending lines hp hl) hcatches
  | none =>
    rcases h.current lines m hp hl hm with heq | hfull
    · exact heq ▸ hcatches
    · exact .inl (ScreenModel.snapshot_full hfull)

theorem lines_admitted (t : DisplayTab σ) (snapshot : TerminalSnapshot) :
    (t.admitted snapshot).lines = snapshot.lines := by
  unfold DisplayTab.admitted
  split
  · exact lines_mergeTerminalSnapshots _ _
  · rfl

/-- Where nothing is dirty and the visible state is as published, a view that is up to date
    stays so. -/
theorem Tracks.upToDate_quiet {s : DisplayState σ} {m : ScreenModel σ} (h : s.Tracks E)
    (hm : s.tab.terminal = some m) (hseen : s.UpToDate)
    (hdirty : (m.snapshot E).2.dirtyRows = [])
    (hstate : s.tab.publishedTerminalState =
      some (TerminalVisibleState.ofSnapshot (m.snapshot E).2))
    {lines : List TerminalStyledLine} (hl : s.view = some lines) :
    lines = (m.snapshot E).1.snapshotLines := by
  have hlines := hseen lines m hl hm
  rw [h.state] at hstate
  obtain ⟨p, hp, hvisible⟩ := Option.map_eq_some_iff.mp hstate
  -- the published lines are those of the view, and as many as before
  have hview : lines = p.lines := Option.some.inj (hl.symm.trans (h.published p hp))
  have hcount : p.lines.length = (m.snapshot E).2.lines.length :=
    congrArg TerminalVisibleState.lineCount hvisible
  rw [← ScreenModel.snapshot_lines, ScreenModel.snapshot_lines_of_quiet hdirty, hlines]
  rw [← hlines, hview, hcount]

/-- Admitting a snapshot for publication. -/
theorem Tracks.prepare (hE : E.ReportsDamage) {s : DisplayState σ} (now : Instant)
    (h : s.Tracks E) (hsafe : s.tab.skips E now = true → s.UpToDate) :
    Tracks E ⟨(s.tab.prepareTerminalOutputSnapshot E now).1, s.view⟩ := by
  have hmoves := DisplayTab.moves_synchronizedOutputPending hE now s.tab
  unfold DisplayTab.skips at hsafe
  unfold DisplayTab.prepareTerminalOutputSnapshot
  cases hsync : s.tab.synchronizedOutputPending E now with
  | mk tab held =>
    rw [hsync] at hmoves hsafe
    have hsynced := h.of_moves hmoves
    cases held with
    | true => exact hsynced
    | false =>
      simp only [Bool.false_eq_true, ↓reduceIte] at hsafe ⊢
      cases hm : tab.terminal with
      | none =>
        simp only [DisplayTab.takeSnapshot]
        exact hsynced.of_moves ⟨rfl, rfl, rfl, fun m hm' => nomatch hm'⟩
      | some m =>
        have hacc := hsynced.accounted m hm
        simp only [DisplayTab.takeSnapshot, hm] at hsafe ⊢
        split
        · next hquiet =>
          -- nothing has changed, and by the hypothesis the view is up to date
          have hseen := (hsafe (decide_eq_true hquiet)).of_moves hmoves
          exact {
            accounted := fun m' hm' => Option.some.inj hm' ▸
              ScreenModel.accounted_snapshot hE hacc
            published := hsynced.published
            state := hsynced.state
            pendingLines := fun p m' hp => nomatch hquiet.1.symm.trans hp
            pendingCatches := fun p lines hp => nomatch hquiet.1.symm.trans hp
            current := fun lines m' _ hl hm' => Option.some.inj hm' ▸
              .inl (hsynced.upToDate_quiet hm hseen hquiet.2.1 hquiet.2.2 hl) }
        -- the snapshot joins the pending one
        · exact {
            accounted := fun m' hm' => Option.some.inj hm' ▸
              ScreenModel.accounted_snapshot hE hacc
            published := hsynced.published
            state := hsynced.state
            pendingLines := fun p m' hp hm' => by
              rw [← Option.some.inj hp, ← Option.some.inj hm']
              exact lines_admitted _ _
            pendingCatches := fun p lines hp hl => by
              rw [← Option.some.inj hp]
              exact hsynced.admitted_catches hm hl
            current := fun lines m' hp => nomatch hp }

/-- Showing a snapshot that reports what the view has not seen. -/
theorem Tracks.publish {s : DisplayState σ} (terminal : Option (ScreenModel σ))
    (snapshot : TerminalSnapshot) (hacc : ∀ m, terminal = some m → m.Accounted E)
    (hlines : ∀ m, terminal = some m → snapshot.lines = m.snapshotLines)
    (hcatches : ∀ lines, s.view = some lines → snapshot.Catches lines) :
    Tracks E ⟨{ s.tab with terminal := terminal }.publish snapshot,
      some (updateRenderLines s.view snapshot)⟩ := by
  have hview := updateRenderLines_eq hcatches
  exact {
    accounted := hacc
    published := fun p hp => by
      rw [← Option.some.inj hp]
      exact congrArg some hview
    state := rfl
    pendingLines := fun p m hp => nomatch hp
    pendingCatches := fun p lines hp => nomatch hp
    current := fun lines m _ hl hm => .inl (by rw [← Option.some.inj hl, hview, hlines m hm]) }

/-- Showing the published snapshot again, or the first pending one. -/
theorem Tracks.showAgain {s : DisplayState σ} {snapshot : TerminalSnapshot} (h : s.Tracks E)
    (hs : s.tab.publishedTerminalSnapshot.or s.tab.pendingTerminalSnapshot = some snapshot) :
    Tracks E ⟨s.tab, some (updateRenderLines s.view snapshot)⟩ := by
  have hself : snapshot.Catches snapshot.lines := .inr (.refl _ _)
  cases hp : s.tab.publishedTerminalSnapshot with
  | some p =>
    have heq : p = snapshot := by simpa [hp] using hs
    subst heq
    have hview := h.published p hp
    rw [hview, updateRenderLines_eq fun lines hl => Option.some.inj hl ▸ hself, ← hview]
    exact h
  | none =>
    have hpending : s.tab.pendingTerminalSnapshot = some snapshot := by simpa [hp] using hs
    have hcatches := h.pendingCatches snapshot
    rw [updateRenderLines_eq fun lines hl => hcatches lines hpending hl]
    exact {
      accounted := h.accounted
      published := fun p hp' => nomatch hp.symm.trans hp'
      state := h.state
      pendingLines := h.pendingLines
      pendingCatches := fun p lines hp' hl => by
        obtain rfl : snapshot = p := Option.some.inj (hpending.symm.trans hp')
        exact Option.some.inj hl ▸ hself
      current := fun lines m hnone => nomatch hpending.symm.trans hnone }

/-- Without a current snapshot the pending one is shown, or nothing new. -/
theorem Tracks.showPending {s : DisplayState σ} (h : s.Tracks E) :
    Tracks E (shown s.view (s.tab.showSnapshot none)) := by
  unfold DisplayTab.showSnapshot
  cases hp : s.tab.pendingTerminalSnapshot with
  | some pending =>
    exact Tracks.publish s.tab.terminal pending h.accounted
      (fun m hm => h.pendingLines pending m hp hm)
      (fun lines hl => h.pendingCatches pending lines hp hl)
  | none =>
    cases hpub : s.tab.publishedTerminalSnapshot with
    | none => exact h
    | some p => exact h.showAgain (by simp [hpub])

/-- A current snapshot is shown together with the pending one. -/
theorem Tracks.showCurrent (hE : E.ReportsDamage) {s : DisplayState σ} {m : ScreenModel σ}
    (h : s.Tracks E) (hm : s.tab.terminal = some m) :
    Tracks E (shown s.view ({ s.tab with terminal := some (m.snapshot E).1 }.showSnapshot
      (some (m.snapshot E).2))) := by
  have hacc := h.accounted m hm
  have hpublish := Tracks.publish (some (m.snapshot E).1) (s.tab.admitted (m.snapshot E).2)
    (fun m' hm' => Option.some.inj hm' ▸ ScreenModel.accounted_snapshot hE hacc)
    (fun m' hm' => by rw [lines_admitted, ← Option.some.inj hm']; rfl)
    (fun lines hl => h.admitted_catches hm hl)
  unfold DisplayTab.admitted at hpublish
  unfold DisplayTab.showSnapshot
  cases hp : s.tab.pendingTerminalSnapshot with
  | some pending =>
    rw [hp] at hpublish
    exact hpublish
  | none =>
    rw [hp] at hpublish
    exact hpublish

/-- A refresh of the UI takes the pending snapshot, and the current one unless output is still
    deferred. -/
theorem Tracks.refresh (hE : E.ReportsDamage) {s : DisplayState σ} (now : Instant)
    (h : s.Tracks E) : (s.refresh E now).Tracks E := by
  have hmoves := DisplayTab.moves_synchronizedOutputPending hE now s.tab
  unfold DisplayState.refresh DisplayTab.terminalSnapshotForUi
  cases hsync : s.tab.synchronizedOutputPending E now with
  | mk tab held =>
    rw [hsync] at hmoves
    have hsynced : Tracks E ⟨tab, s.view⟩ := h.of_moves hmoves
    cases held with
    | true =>
      simp only [↓reduceIte]
      cases hshown : tab.publishedTerminalSnapshot.or tab.pendingTerminalSnapshot with
      | none => exact hsynced
      | some snapshot => exact hsynced.showAgain hshown
    | false =>
      simp only [Bool.false_eq_true, ↓reduceIte]
      cases hframe : tab.outputFramePending with
      | true => exact hsynced.showPending
      | false =>
        simp only [Bool.false_eq_true, ↓reduceIte, DisplayTab.takeSnapshot]
        cases hm : tab.terminal with
        | none => exact hsynced.showPending
        | some m => exact hsynced.showCurrent hE hm

/-! ## Steps and runs -/

/-- A step that drops the pending snapshot drops rows the view has seen, or leaves the whole
    screen damaged; and output that is admitted without a change is dropped only when the view
    is up to date. -/
def Safe (E : Emulator σ) (s : DisplayState σ) (op : DisplayOp) : Prop :=
  match op with
  | .prepare now => s.tab.skips E now = true → s.UpToDate
  | op => s.tab.discards E op = true → s.UpToDate ∨
      ∀ m, (s.apply E op).tab.terminal = some m → E.damage m.term = .full

/-- A step that moves the terminal on and may drop the pending snapshot. -/
theorem Tracks.dropIf {s : DisplayState σ} {tab : DisplayTab σ} {changed : Bool} (h : s.Tracks E)
    (hmoves : s.tab.Moves E tab)
    (hsafe : changed = true → s.UpToDate ∨
      ∀ m, (if changed then tab.discardPendingTerminalSnapshot else tab).terminal = some m →
        E.damage m.term = .full) :
    Tracks E ⟨if changed then tab.discardPendingTerminalSnapshot else tab, s.view⟩ := by
  cases changed with
  | false => exact h.of_moves hmoves
  | true =>
    exact (h.of_moves hmoves).discard ((hsafe rfl).imp_left fun hseen => hseen.of_moves hmoves)

theorem Tracks.scroll (hE : E.ReportsDamage) {s : DisplayState σ} (lines : Int) (h : s.Tracks E)
    (hsafe : s.Safe E (.scroll lines)) : (s.apply E (.scroll lines)).Tracks E := by
  unfold Safe at hsafe
  simp only [DisplayTab.discards_scroll, apply, DisplayTab.scrollTerminal] at hsafe ⊢
  cases hm : s.tab.terminal with
  | none => exact h
  | some m =>
    rw [hm] at hsafe
    exact h.dropIf (DisplayTab.moves_of_model hm (ScreenModel.moves_scroll hE lines m)) hsafe

theorem Tracks.scrollToBottom (hE : E.ReportsDamage) {s : DisplayState σ} (h : s.Tracks E)
    (hsafe : s.Safe E .scrollToBottom) : (s.apply E .scrollToBottom).Tracks E := by
  unfold Safe at hsafe
  simp only [DisplayTab.discards_scrollToBottom, apply,
    DisplayTab.scrollTerminalToBottom] at hsafe ⊢
  cases hm : s.tab.terminal with
  | none => exact h
  | some m =>
    rw [hm] at hsafe
    exact h.dropIf (DisplayTab.moves_of_model hm (ScreenModel.moves_scrollToBottom hE m)) hsafe

theorem Tracks.applySettings (hE : E.ReportsDamage) {s : DisplayState σ} (scrollbackLines : Nat)
    (osc52Clipboard : Bool) (h : s.Tracks E)
    (hsafe : s.Safe E (.applySettings scrollbackLines osc52Clipboard)) :
    (s.apply E (.applySettings scrollbackLines osc52Clipboard)).Tracks E := by
  unfold Safe at hsafe
  simp only [DisplayTab.discards_applySettings, apply,
    DisplayTab.applyScrollbackSetting] at hsafe ⊢
  cases hm : s.tab.terminal with
  | none => exact h
  | some m =>
    rw [hm] at hsafe
    have hmoves := (ScreenModel.moves_setScrollbackLines hE scrollbackLines m).trans
      (ScreenModel.moves_setOsc52ClipboardEnabled hE osc52Clipboard _)
    exact (h.of_moves (DisplayTab.moves_of_model hm hmoves)).discard
      ((hsafe rfl).imp_left fun hseen => hseen.of_moves (DisplayTab.moves_of_model hm hmoves))

theorem moves_resizeModel (hE : E.ReportsDamage) (size : TerminalSize)
    (cellWidth cellHeight : UInt32) (m : ScreenModel σ) :
    m.Moves E (DisplayTab.resizeModel E size cellWidth cellHeight m).1 := by
  unfold DisplayTab.resizeModel
  dsimp only
  split
  · have hprotocol : ∀ protocol : TerminalModel, m.Moves E { m with toTerminalModel := protocol } :=
      fun _ => ⟨rfl, .refl E m.term⟩
    exact (hprotocol _).trans (ScreenModel.moves_resize hE size.columns size.rows _)
  · exact ⟨rfl, .refl E m.term⟩

theorem Tracks.resize (hE : E.ReportsDamage) {s : DisplayState σ}
    (columns rows cellWidth cellHeight : UInt32) (accepted : Bool × Bool) (h : s.Tracks E)
    (hsafe : s.Safe E (.resize columns rows cellWidth cellHeight accepted)) :
    (s.apply E (.resize columns rows cellWidth cellHeight accepted)).Tracks E := by
  unfold Safe at hsafe
  simp only [DisplayTab.discards_resize, apply,
    DisplayTab.resizeTerminalWithMetrics] at hsafe ⊢
  cases hm : s.tab.terminal with
  | none => exact h
  | some m =>
    rw [hm] at hsafe
    dsimp only [Option.any_some] at hsafe ⊢
    split
    · exact h
    · next hchanges =>
      split
      · exact h
      · next haccepted =>
        rw [if_neg hchanges, if_neg haccepted, Bool.eq_true_of_not_eq_false haccepted,
          Bool.true_and] at hsafe
        exact h.dropIf (DisplayTab.moves_of_model hm (moves_resizeModel hE _ cellWidth cellHeight m))
          hsafe

theorem Tracks.apply (hE : E.ReportsDamage) {s : DisplayState σ} (op : DisplayOp)
    (h : s.Tracks E) (hsafe : s.Safe E op) : (s.apply E op).Tracks E := by
  cases op with
  | output now data workerAccepts =>
    exact h.of_moves (DisplayTab.moves_processTerminalOutput hE now data workerAccepts s.tab)
  | prepare now => exact h.prepare hE now hsafe
  | refresh now => exact h.refresh hE now
  | resize columns rows cellWidth cellHeight accepted =>
    exact h.resize hE columns rows cellWidth cellHeight accepted hsafe
  | scroll lines => exact h.scroll hE lines hsafe
  | scrollToBottom => exact h.scrollToBottom hE hsafe
  | applySettings scrollbackLines osc52Clipboard =>
    exact h.applySettings hE scrollbackLines osc52Clipboard hsafe

/-- The view shows the published lines, and a snapshot taken now would be the whole screen. -/
structure Consistent (E : Emulator σ) (s : DisplayState σ) : Prop where
  view : ∀ p, s.tab.publishedTerminalSnapshot = some p → s.view = some p.lines
  screen : ∀ m, s.tab.terminal = some m → (m.snapshot E).2.lines.map (·.runs) =
    (E.rows m.term).map fun cells => (styledLine cells).runs

theorem Tracks.consistent {s : DisplayState σ} (h : s.Tracks E) : s.Consistent E :=
  ⟨h.published, fun m hm => ScreenModel.snapshot_shows (h.accounted m hm)⟩

/-- **Incremental snapshots.**  From a tab that was just opened, a view that takes only the dirty
    rows of later snapshots shows the published lines, as long as no step drops rows the view has
    not seen. -/
theorem view_eq_published (E : Emulator σ) (hE : E.ReportsDamage) (s : DisplayState σ)
    (hs : s.Fresh) (ops : List DisplayOp)
    (hsafe : Transition.AllSafe (apply E) s (Safe E) ops) :
    Transition.Throughout (apply E) s (Consistent E) ops := by
  intro pre hpre
  have hsafe' : Transition.AllSafe (apply E) s (Safe E) pre :=
    fun first op hfirst => hsafe first op (hfirst.trans hpre)
  exact (hsafe'.preserves hs.tracks fun s op h hop => h.apply hE op hop).consistent

end DisplayState

/-! ## A small terminal -/

/-- A terminal that prints characters and follows line ends, without scrollback. -/
structure Teletype where
  rows : List (List Cell)
  row : Nat := 0
  column : Nat := 0
  damage : TermDamage := .full
deriving DecidableEq

namespace Teletype

def addDamage (row : Nat) : TermDamage → TermDamage
  | .full => .full
  | .partialRows rows => .partialRows (row :: rows)

def columns (t : Teletype) : Nat := (t.rows.head?.map List.length).getD 0

/-- The row of the cursor is damaged where it was and where it goes. -/
def put (t : Teletype) (byte : UInt8) : Teletype :=
  if byte = 13 then { t with column := 0 }
  else if byte = 10 then
    let row := min (t.row + 1) (t.rows.length - 1)
    { t with row := row, damage := addDamage row t.damage }
  else if 32 ≤ byte ∧ byte < 127 then
    { rows := t.rows.modify t.row (·.set t.column { c := Char.ofNat byte.toNat })
      row := t.row
      column := min (t.column + 1) (t.columns - 1)
      damage := addDamage t.row t.damage }
  else t

def blank (columns rows : Nat) : List (List Cell) :=
  List.replicate rows (List.replicate columns { c := ' ' })

def emulator : Emulator Teletype where
  rows := rows
  columns := columns
  displayOffset _ := 0
  historySize _ := 0
  altScreen _ := false
  cursor t := { row := t.row, column := t.column }
  mouseReporting _ := {}
  damage := damage
  resetDamage t := { t with damage := .partialRows [t.row] }
  advance _ bytes t := (bytes.foldl put t, ⟨[], fun _ => none⟩)
  syncTimeout _ := none
  stopSync t := (t, [])
  scrollDisplay _ t := t
  resize columns rows _ := { rows := blank columns rows }
  setOptions _ _ t := { t with damage := .full }

theorem covers_addDamage {row i : Nat} {damage : TermDamage} :
    (addDamage row damage).Covers i ↔ i = row ∨ damage.Covers i := by
  cases damage <;> simp [addDamage, TermDamage.Covers]

theorem reports_put (t : Teletype) (byte : UInt8) : emulator.Reports t (t.put byte) := by
  unfold put
  split
  · exact ⟨fun i hi => absurd rfl hi, fun i hi => hi, fun h => h⟩
  · split
    · refine ⟨fun i hi => absurd rfl hi, fun i hi => covers_addDamage.mpr (.inr hi), fun h => ?_⟩
      show addDamage _ t.damage = .full
      rw [show t.damage = .full from h]
      rfl
    · split
      · refine ⟨fun i hi => covers_addDamage.mpr (.inl ?_),
          fun i hi => covers_addDamage.mpr (.inr hi), fun h => ?_⟩
        · by_contra hne
          exact hi (List.getElem?_modify_ne _ _ (Ne.symm hne))
        · show addDamage _ t.damage = .full
          rw [show t.damage = .full from h]
          rfl
      · exact .refl _ t

theorem reportsDamage : emulator.ReportsDamage where
  advance _ bytes t := by
    show emulator.Reports t (bytes.foldl put t)
    induction bytes generalizing t with
    | nil => exact .refl _ t
    | cons byte bytes ih => exact (reports_put t byte).trans (ih (t.put byte))
  stopSync t := .refl _ t
  scrollDisplay _ t := .refl _ t
  resize _ _ _ := ⟨fun _ _ => trivial, fun _ _ => trivial, fun _ => rfl⟩
  setOptions _ _ _ := ⟨fun _ _ => trivial, fun _ _ => trivial, fun _ => rfl⟩
  resetDamage _ := ⟨rfl, rfl⟩

end Teletype

namespace DisplayState

/-- A tab with an empty screen that was just opened. -/
def opened : DisplayState Teletype where
  tab :=
    { terminal := some
        { queryPalette := ⟨Vector.replicate 16 ⟨0, 0, 0⟩, ⟨0, 0, 0⟩, ⟨0, 0, 0⟩, ⟨0, 0, 0⟩⟩
          osc52ClipboardEnabled := false
          term := { rows := Teletype.blank 10 3 }
          scrollbackLines := 1000 } }
  view := none

theorem opened_fresh : opened.Fresh where
  model _ hm := Option.some.inj hm ▸ rfl
  pending := rfl
  published := rfl
  state := rfl
  view := rfl

/-- A frame with a new character waits for the UI while the settings are previewed. -/
def previewed : List DisplayOp :=
  [.refresh 0, .output 1 [104, 105] true, .prepare 2, .applySettings 1000 false, .refresh 3]

/-- The same steps, with the preview after the UI took the frame. -/
def refreshed : List DisplayOp :=
  [.refresh 0, .output 1 [104, 105] true, .prepare 2, .refresh 3, .applySettings 1000 false]

/-- The preview drops the frame, and with it the rows to update: the published lines have the new
    characters, the view does not. -/
theorem previewed_not_consistent : ¬∀ (σ : Type) (E : Emulator σ), E.ReportsDamage →
    ∀ s : DisplayState σ, s.Fresh → ∀ ops,
      Transition.Throughout (apply E) s (Consistent E) ops := by
  intro h
  have hview := (h Teletype Teletype.emulator Teletype.reportsDamage opened opened_fresh previewed
    previewed (List.prefix_refl _)).view
  have hstale : ∃ p, (previewed.foldl (apply Teletype.emulator) opened).tab.publishedTerminalSnapshot
      = some p ∧ (previewed.foldl (apply Teletype.emulator) opened).view ≠ some p.lines := by
    decide +kernel
  obtain ⟨p, hp, hne⟩ := hstale
  exact hne (hview p hp)

theorem view_eq_published_refreshed :
    Transition.Throughout (apply Teletype.emulator) opened (Consistent Teletype.emulator)
      refreshed := by
  refine view_eq_published Teletype.emulator Teletype.reportsDamage opened opened_fresh refreshed ?_
  simp only [refreshed, Transition.allSafe_cons_iff]
  refine ⟨?_, ?_, ?_, ?_, ?_, Transition.allSafe_nil⟩
  · exact fun h => nomatch h
  · exact fun h => nomatch h
  · exact fun _ => by decide +kernel
  · exact fun h => nomatch h
  · exact fun _ => .inl (by decide +kernel)

end DisplayState

end AxSsh
