import AxSsh.Spec.CutTargets

/-!
# Spans of targets

What a click on one character and the highlight of another say about one line.  Each of the two
searches finds a span for every character that it covers, so two spans of one search are the same
or have no character in common.  The search for paths comes second, so a URL inside a path takes
its own characters from the path.

## Key results
- `CoversFound.eq_or_apart`: two spans of one search
- `rowSegments_spec`: the segments of a span make up its text
- `terminalTargetSpans_spec`: spans and segments of a line
-/

namespace AxSsh

open List (extract_eq_drop_take')

/-! ## Spans of one search -/

def TerminalTarget.text : TerminalTarget → List Char
  | .url value => value
  | .remotePath value => value

def TerminalTarget.isUrl : TerminalTarget → Bool
  | .url _ => true
  | .remotePath _ => false

def TerminalTargetSpan.Covers (span : TerminalTargetSpan) (column : Nat) : Prop :=
  span.start ≤ column ∧ column < span.end

/-- No character is in both spans. -/
def TerminalTargetSpan.Apart (span span' : TerminalTargetSpan) : Prop :=
  ∀ column, span.Covers column → ¬span'.Covers column

/-- A span is the place of its target in a text. -/
structure TerminalTargetSpan.Marks (span : TerminalTargetSpan) (text : List Char) : Prop where
  inside : span.end ≤ text.length
  text : text.extract span.start span.end = span.target.text

/-- A search finds a span at exactly the columns that the span covers. -/
def CoversFound (find : Nat → Option TerminalTargetSpan) : Prop :=
  ∀ column span, find column = some span →
    span.Covers column ∧ ∀ column', span.Covers column' → find column' = some span

theorem CoversFound.eq_or_apart {find : Nat → Option TerminalTargetSpan} (h : CoversFound find)
    {column column' : Nat} {span span' : TerminalTargetSpan} (hspan : find column = some span)
    (hspan' : find column' = some span') : span = span' ∨ span.Apart span' := by
  by_cases hcommon : ∃ k, span.Covers k ∧ span'.Covers k
  · obtain ⟨k, hk, hk'⟩ := hcommon
    have hfound := (h column span hspan).2 k hk
    have hfound' := (h column' span' hspan').2 k hk'
    exact Or.inl (Option.some.inj (hfound.symm.trans hfound'))
  · exact Or.inr fun k hk hk' => hcommon ⟨k, hk, hk'⟩

section Searches

variable {parses : List Char → Bool} {text before token after l x part : List Char}
  {column column' : Nat} {span : TerminalTargetSpan}

theorem extract_of_isPrefix (htext : text = l ++ x) (hpart : part <+: x) :
    l.length + part.length ≤ text.length ∧
      text.extract l.length (l.length + part.length) = part := by
  have hle := hpart.length_le
  rw [htext, List.length_append, List.extract_eq_take_drop, List.drop_left' rfl,
    Nat.add_sub_cancel_left]
  exact ⟨by omega, (List.prefix_iff_eq_take.mp hpart).symm⟩

theorem UrlAt.marks (h : UrlAt parses text column l x) :
    TerminalTargetSpan.Marks ⟨.url (urlOf x), l.length, l.length + (urlOf x).length⟩ text := by
  have hpart : urlOf x <+: x := isPrefix_urlOf.trans (List.takeWhile_prefix isUrlChar)
  obtain ⟨hinside, htext⟩ := extract_of_isPrefix h.split hpart
  exact ⟨hinside, htext⟩

theorem coversFound_findUrlTarget : CoversFound (findUrlTarget parses text) := by
  intro column span hspan
  obtain ⟨l, x, hurl, rfl⟩ := findUrlTarget_spec hspan
  refine ⟨⟨hurl.start, hurl.stop⟩, fun column' hcovers => ?_⟩
  obtain ⟨hstart, hstop⟩ := hcovers
  have hurl' : UrlAt parses text column' l x := { hurl with start := hstart, stop := hstop }
  exact hurl'.findUrlTarget_eq

theorem TokenAt.marks (h : TokenAt text column before token after) :
    TerminalTargetSpan.Marks
      ⟨.remotePath (pathOf token), before.length, before.length + (pathOf token).length⟩ text := by
  have hpart : pathOf token <+: token ++ after :=
    (isPrefix_pathOf h.token).trans (List.prefix_append token after)
  obtain ⟨hinside, htext⟩ := extract_of_isPrefix h.split hpart
  exact ⟨hinside, htext⟩

theorem coversFound_remotePathSpan : CoversFound (remotePathSpan text) := by
  intro column span hspan
  obtain ⟨before, token, after, htoken, hpath, rfl⟩ := remotePathSpan_spec hspan
  refine ⟨⟨hpath.start, hpath.stop⟩, fun column' hcovers => ?_⟩
  obtain ⟨hstart, hstop⟩ := hcovers
  -- the path starts the token, so its characters are characters of the token
  have hle := (isPrefix_pathOf htoken.token).length_le
  have htoken' : TokenAt text column' before token after :=
    { htoken with
      start := hstart
      stop := Nat.lt_of_lt_of_le hstop (Nat.add_le_add_left hle before.length) }
  rw [htoken'.remotePathSpan_eq]
  exact findRemotePathTarget_eq_some_iff.mpr ⟨{ hpath with start := hstart, stop := hstop }, rfl⟩

/-- What the two searches have to do with the span of a character. -/
theorem span_cases (h : terminalTargetSpanAtCell parses text column = some span) :
    (findUrlTarget parses text column = some span ∧ span.target.isUrl = true ∨
        remotePathSpan text column = some span ∧ span.target.isUrl = false) ∧
      span.Marks text := by
  obtain ⟨-, -, hspan⟩ := terminalTargetSpanAtCell_spec h
  obtain hfound | ⟨-, hfound⟩ := Option.or_eq_some_iff.mp hspan
  · obtain ⟨l, x, hurl, rfl⟩ := findUrlTarget_spec hfound
    exact ⟨Or.inl ⟨hfound, rfl⟩, hurl.marks⟩
  · obtain ⟨before, token, after, htoken, -, rfl⟩ := remotePathSpan_spec hfound
    exact ⟨Or.inr ⟨hfound, rfl⟩, htoken.marks⟩

/-- A character of a span has that span, but for one of a URL inside a path. -/
theorem span_of_covers (h : terminalTargetSpanAtCell parses text column = some span)
    (hcovers : span.Covers column') :
    terminalTargetSpanAtCell parses text column' = some span ∨
      span.target.isUrl = false ∧
        ∃ url, terminalTargetSpanAtCell parses text column' = some url ∧
          url.target.isUrl = true := by
  obtain ⟨hkind, hmarks⟩ := span_cases h
  have hcontrols := (terminalTargetSpanAtCell_spec h).1
  have hlen : text.length ≤ maxTargetLineChars := by
    unfold terminalTargetSpanAtCell at h
    rw [hcontrols, if_neg Bool.false_ne_true] at h
    by_contra hlong
    rw [if_pos (Or.inl (Nat.lt_of_not_le hlong))] at h
    cases h
  have hcolumn' : column' < text.length := Nat.lt_of_lt_of_le hcovers.2 hmarks.inside
  rw [terminalTargetSpanAtCell_eq hcontrols hlen hcolumn']
  obtain ⟨hfound, -⟩ | ⟨hfound, hpath⟩ := hkind
  · have hfound' := (coversFound_findUrlTarget column span hfound).2 column' hcovers
    exact Or.inl (by rw [hfound', Option.some_or])
  · have hfound' := (coversFound_remotePathSpan column span hfound).2 column' hcovers
    cases hurl : findUrlTarget parses text column' with
    | none => exact Or.inl hfound'
    | some url =>
      obtain ⟨l, x, -, rfl⟩ := findUrlTarget_spec hurl
      exact Or.inr ⟨hpath, _, rfl, rfl⟩

theorem span_eq_or_apart {span' : TerminalTargetSpan}
    (h : terminalTargetSpanAtCell parses text column = some span)
    (h' : terminalTargetSpanAtCell parses text column' = some span')
    (hkind : span.target.isUrl = span'.target.isUrl) : span = span' ∨ span.Apart span' := by
  obtain ⟨⟨hfound, hurl⟩ | ⟨hfound, hpath⟩, -⟩ := span_cases h <;>
    obtain ⟨⟨hfound', hurl'⟩ | ⟨hfound', hpath'⟩, -⟩ := span_cases h'
  · exact coversFound_findUrlTarget.eq_or_apart hfound hfound'
  · rw [hurl, hpath'] at hkind
    cases hkind
  · rw [hpath, hurl'] at hkind
    cases hkind
  · exact coversFound_remotePathSpan.eq_or_apart hfound hfound'

end Searches

/-! ## Segments -/

/-- Segments are parts of different rows, in the order of the rows, and make up a text. -/
def CutsOut (rows : List TerminalTargetRow) (segments : List TerminalTargetSegment)
    (text : List Char) : Prop :=
  ∃ parts : List (TerminalTargetRow × TerminalTargetSegment),
    List.Sublist (parts.map Prod.fst) rows ∧ parts.map Prod.snd = segments ∧
    (∀ part ∈ parts, part.2.row = part.1.row ∧ part.2.start < part.2.end ∧
      part.2.end ≤ part.1.text.length) ∧
    parts.flatMap (fun part => part.1.text.extract part.2.start part.2.end) = text

section Rows

variable {rows : List TerminalTargetRow} {segments : List TerminalTargetSegment}
  {text : List Char}

theorem extract_append {α : Type} (x y : List α) (start stop : Nat) :
    (x ++ y).extract start stop =
      x.extract start stop ++ y.extract (start - x.length) (stop - x.length) := by
  rw [extract_eq_drop_take', extract_eq_drop_take', extract_eq_drop_take', List.take_append,
    List.drop_append, List.length_take]
  obtain hle | hlt := Nat.le_total x.length stop
  · rw [Nat.min_eq_right hle]
  · -- the text stops in the first part, and nothing is left of the second
    rw [Nat.sub_eq_zero_of_le hlt, List.take_zero, List.drop_nil, List.drop_nil]

theorem CutsOut.nodup (h : CutsOut rows segments text) (hrows : (rows.map (·.row)).Nodup) :
    (segments.map (·.row)).Nodup := by
  obtain ⟨parts, hsub, rfl, hparts, -⟩ := h
  have heq : (parts.map Prod.snd).map (·.row) = (parts.map Prod.fst).map (·.row) := by
    rw [List.map_map, List.map_map]
    exact List.map_congr_left fun part hpart => (hparts part hpart).1
  rw [heq]
  exact hrows.sublist (hsub.map _)

/-- The segments of a span in rows that start at an offset. -/
theorem rowSegments_spec (rows : List TerminalTargetRow) (span : TerminalTargetSpan)
    (offset : Nat) :
    CutsOut rows ((rowOffsets rows offset).filterMap (rowSegment span))
      ((rowsText rows).extract (span.start - offset) (span.end - offset)) := by
  induction rows generalizing offset with
  | nil => exact ⟨[], List.Sublist.slnil, rfl, nofun, by simp [rowsText]⟩
  | cons row rows ih =>
    obtain ⟨parts, hsub, hsegments, hparts, htext⟩ := ih (offset + row.text.length)
    have hrest : (rowsText (row :: rows)).extract (span.start - offset) (span.end - offset) =
        row.text.extract (span.start - offset) (span.end - offset) ++
          parts.flatMap (fun part => part.1.text.extract part.2.start part.2.end) := by
      rw [htext, rowsText, List.flatMap_cons, extract_append, Nat.sub_sub, Nat.sub_sub, rowsText]
    have hstart : max span.start offset - offset = span.start - offset := by omega
    have hstop : min span.end (offset + row.text.length) - offset =
        min (span.end - offset) row.text.length := by omega
    rw [hrest, rowOffsets, List.filterMap_cons, ← hsegments, rowSegment, hstart, hstop]
    split
    · next hnone =>
      -- the row has no character of the span
      have hempty : row.text.extract (span.start - offset) (span.end - offset) = [] := by
        rw [extract_eq_drop_take', List.drop_eq_nil_iff, List.length_take]
        by_contra hlt
        rw [if_pos (Nat.lt_of_not_le hlt)] at hnone
        cases hnone
      rw [hempty, List.nil_append]
      exact ⟨parts, hsub.cons row, rfl, hparts, rfl⟩
    · next segment hsome =>
      obtain ⟨hlt, hsegment⟩ := Option.ite_none_right_eq_some.mp hsome
      obtain rfl := Option.some.inj hsegment
      have hhead : row.text.extract (span.start - offset) (span.end - offset) =
          row.text.extract (span.start - offset)
            (min (span.end - offset) row.text.length) := by
        have htake : row.text.take (span.end - offset) =
            row.text.take (min (span.end - offset) row.text.length) :=
          List.take_eq_take_iff.mpr (by omega)
        rw [extract_eq_drop_take', extract_eq_drop_take', htake]
      refine ⟨(row, ⟨row.row, _, _⟩) :: parts, hsub.cons_cons row, rfl, ?_, ?_⟩
      · intro part hpart
        obtain rfl | hpart := List.mem_cons.mp hpart
        · exact ⟨rfl, hlt, Nat.min_le_right _ _⟩
        · exact hparts part hpart
      · rw [List.flatMap_cons, hhead]

theorem spanMatch_cutsOut {context : TerminalTargetContext} {span : TerminalTargetSpan}
    {found : TerminalTargetMatch} (hmarks : span.Marks (rowsText context.rows))
    (h : spanMatch context span = some found) :
    CutsOut context.rows found.segments found.target.text := by
  have hsegments := rowSegments_spec context.rows span 0
  rw [Nat.sub_zero, Nat.sub_zero, hmarks.text] at hsegments
  unfold spanMatch at h
  dsimp only at h
  split at h
  · cases h
  split at h
  · cases h
  · rw [← Option.some.inj h]
    exact hsegments

end Rows

/-! ## The spans of a line -/

/-- A span is the place of its target, its characters have it but for those of a URL inside a
    path, two spans of one kind are equal or apart, and the segments of a match cut its target out
    of the rows. -/
theorem terminalTargetSpans_spec (parses : List Char → Bool) (text : List Char) :
    (∀ column span, terminalTargetSpanAtCell parses text column = some span →
      span.Covers column ∧ span.Marks text ∧
        ∀ column', span.Covers column' →
          terminalTargetSpanAtCell parses text column' = some span ∨
            span.target.isUrl = false ∧
              ∃ url, terminalTargetSpanAtCell parses text column' = some url ∧
                url.target.isUrl = true) ∧
    (∀ column column' span span', terminalTargetSpanAtCell parses text column = some span →
      terminalTargetSpanAtCell parses text column' = some span' →
      span.target.isUrl = span'.target.isUrl → span = span' ∨ span.Apart span') ∧
    (∀ context found, rowsText context.rows = text →
      terminalTargetMatchAtContext parses context = some found →
      CutsOut context.rows found.segments found.target.text ∧
        ((context.rows.map (·.row)).Nodup → (found.segments.map (·.row)).Nodup)) := by
  refine ⟨fun column span h => ?_, fun column column' span span' h h' => span_eq_or_apart h h', ?_⟩
  · obtain ⟨-, hmarks⟩ := span_cases h
    exact ⟨span_bounds h, hmarks, fun column' hcovers => span_of_covers h hcovers⟩
  · rintro context found rfl hfound
    obtain ⟨-, span, hspan, hmatch⟩ := terminalTargetMatchAtContext_spec hfound
    obtain ⟨-, hmarks⟩ := span_cases hspan
    have hcuts := spanMatch_cutsOut hmarks hmatch
    exact ⟨hcuts, hcuts.nodup⟩

/-- In the path `/a/http://b/` the first and the fourth character have different spans with
    characters in common. -/
theorem path_span_holds_url : ∃ path url,
    terminalTargetSpanAtCell (fun _ => true)
      ['/', 'a', '/', 'h', 't', 't', 'p', ':', '/', '/', 'b', '/'] 0 = some path ∧
    terminalTargetSpanAtCell (fun _ => true)
      ['/', 'a', '/', 'h', 't', 't', 'p', ':', '/', '/', 'b', '/'] 3 = some url ∧
    path.Covers 3 ∧ url.Covers 3 ∧ path ≠ url := by
  refine ⟨⟨.remotePath ['/', 'a', '/', 'h', 't', 't', 'p', ':', '/', '/', 'b', '/'], 0, 12⟩,
    ⟨.url ['h', 't', 't', 'p', ':', '/', '/', 'b', '/'], 3, 12⟩, ?_, ?_, ?_, ?_, ?_⟩
  · decide +kernel
  · decide +kernel
  · exact ⟨by decide, by decide⟩
  · exact ⟨by decide, by decide⟩
  · decide

end AxSsh
