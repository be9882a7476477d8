import AxSsh.Native.UploadPublication

/-!
# The paths of an upload

The name of the temporary file ends with the execution id, and a path that is published to never
does; the directories of an upload end before its target does.  So no request but the rename
changes a target.

## Key results
- `rsplitOnce_spec`: a text is the two parts with the separator between them
- `UploadRequest.temporary_ne_target`, `UploadRequest.target_not_directory`
-/

namespace AxSsh

variable {sep : Char} {text before after : List Char}

/-! ## The last part of a text -/

theorem eq_takeWhile_append (h : sep ∈ text) :
    text = text.takeWhile (· ≠ sep) ++ sep :: (text.dropWhile (· ≠ sep)).tail := by
  induction text with
  | nil => cases h
  | cons c text ih =>
    by_cases hc : c = sep
    · simp [hc]
    · have hmem : sep ∈ text := (List.mem_cons.mp h).resolve_left fun heq => hc heq.symm
      simp only [List.takeWhile_cons, List.dropWhile_cons, hc, ne_eq, not_false_eq_true,
        decide_true, ↓reduceIte, List.cons_append] at ih ⊢
      rw [← ih hmem]

theorem not_mem_lastPart : sep ∉ lastPart sep text := by
  intro h
  have hall := List.all_takeWhile (p := (· ≠ sep)) (l := text.reverse)
  have hne := List.all_eq_true.mp hall sep (List.mem_reverse.mp h)
  simp at hne

theorem lastPart_append (h : sep ∉ after) : lastPart sep (before ++ sep :: after) = after := by
  have hall : ∀ c ∈ after.reverse, decide (c ≠ sep) = true := by
    intro c hc
    refine decide_eq_true ?_
    rintro rfl
    exact h (List.mem_reverse.mp hc)
  unfold lastPart
  rw [List.reverse_append, List.reverse_cons, List.append_assoc, List.takeWhile_append_of_pos hall]
  simp

/-- `rsplit_once` cuts a text at the last separator. -/
theorem rsplitOnce_spec (h : rsplitOnce sep text = some (before, after)) :
    text = before ++ sep :: after ∧ sep ∉ after := by
  unfold rsplitOnce at h
  split at h
  · next hmem =>
    obtain ⟨rfl, rfl⟩ := Prod.mk.inj (Option.some.inj h)
    refine ⟨?_, not_mem_lastPart⟩
    have hrev := eq_takeWhile_append (List.mem_reverse.mpr hmem)
    have := congrArg List.reverse hrev
    simpa using this
  · cases h

/-! ## Targets -/

namespace UploadRequest

variable {request : UploadRequest} {target : RemotePath}

theorem slash_not_mem_name : '/' ∉ request.name := request.name_eq ▸ not_mem_lastPart

/-- The marker without its dot. -/
def markerText : List Char := "axssh-upload-".toList

theorem uploadMarker_eq : uploadMarker = '.' :: markerText := by decide

theorem dot_not_mem_markerText : '.' ∉ markerText := by decide

theorem slash_not_mem_markerText : '/' ∉ markerText := by decide

/-- What follows the last dot of the temporary name. -/
def suffixText (request : UploadRequest) : List Char := markerText ++ request.executionId

theorem dot_not_mem_suffixText : '.' ∉ request.suffixText := by
  intro h
  rcases List.mem_append.mp h with h | h
  · exact dot_not_mem_markerText h
  · exact (request.executionId_text '.' h).2.1 rfl

theorem slash_not_mem_suffixText : '/' ∉ request.suffixText := by
  intro h
  rcases List.mem_append.mp h with h | h
  · exact slash_not_mem_markerText h
  · exact (request.executionId_text '/' h).1 rfl

/-- The temporary name does not end in a closing parenthesis. -/
theorem getLast?_suffixText : request.suffixText.getLast? ≠ some ')' := by
  intro h
  unfold suffixText at h
  rw [List.getLast?_append_of_ne_nil _ request.executionId_ne] at h
  exact (request.executionId_text ')' (List.mem_of_getLast? h)).2.2 rfl

/-- The name of the temporary file. -/
def temporaryName (request : UploadRequest) : List Char :=
  '.' :: (request.name ++ '.' :: request.suffixText)

theorem temporary_eq : request.temporary = request.parent ++ '/' :: request.temporaryName := by
  rw [temporary, temporaryName, uploadMarker_eq, suffixText, List.append_assoc, List.cons_append]

theorem lastPart_temporary : lastPart '/' request.temporary = request.temporaryName := by
  rw [temporary_eq]
  refine lastPart_append fun h => ?_
  rcases List.mem_cons.mp h with h | h
  · exact absurd h (by decide)
  · rcases List.mem_append.mp h with h | h
    · exact slash_not_mem_name h
    · exact (List.mem_cons.mp h).elim (by decide) slash_not_mem_suffixText

/-- The temporary name is not the name itself, and not the name of a copy. -/
theorem temporaryName_ne_name : request.temporaryName ≠ request.name := by
  intro h
  have hlen := congrArg List.length h
  simp only [temporaryName, List.length_cons, List.length_append] at hlen
  omega

theorem getLast?_append_suffixText (request : UploadRequest) (text : List Char) :
    (text ++ '.' :: request.suffixText).getLast? ≠ some ')' := by
  have hne : request.suffixText ≠ [] := List.append_ne_nil_of_right_ne_nil _ request.executionId_ne
  rw [List.append_cons, List.getLast?_append_of_ne_nil _ hne]
  exact getLast?_suffixText

theorem temporaryName_ne_plainCopy {text : List Char} :
    request.temporaryName ≠ text ++ [')'] := by
  intro h
  refine getLast?_append_suffixText request ('.' :: request.name) ?_
  rw [List.cons_append]
  exact (congrArg List.getLast? h).trans List.getLast?_concat

theorem temporaryName_ne_copy {stem text extension : List Char}
    (hname : request.name = stem ++ '.' :: extension) (hext : '.' ∉ extension) :
    request.temporaryName ≠ text ++ [')'] ++ '.' :: extension := by
  intro h
  have hleft : lastPart '.' request.temporaryName = request.suffixText := by
    rw [temporaryName, ← List.cons_append]
    exact lastPart_append dot_not_mem_suffixText
  have hsuffix : request.suffixText = extension := by
    rw [← hleft, h]
    exact lastPart_append hext
  -- Both end in the same extension, so the rest is equal, but only one rest ends in `)`.
  rw [temporaryName, ← hsuffix, ← List.cons_append] at h
  have hrest := List.append_cancel_right h
  rw [hname, ← hsuffix, ← List.cons_append] at hrest
  exact getLast?_append_suffixText request _ ((congrArg List.getLast? hrest).trans List.getLast?_concat)

theorem slash_not_mem_digits (number : Nat) : '/' ∉ (toString number).toList := by
  intro h
  have hmem : '/' ∈ Nat.toDigits 10 number := by simpa using h
  exact absurd (Nat.isDigit_of_mem_toDigits (by decide) (by decide) hmem) (by decide)

/-- How a name is cut into a stem and an extension. -/
theorem nameParts_cases {name stem extension : List Char}
    (h : ((rsplitOnce '.' name).filter (·.1 ≠ [])).getD (name, []) = (stem, extension)) :
    (stem = name ∧ extension = []) ∨ (name = stem ++ '.' :: extension ∧ '.' ∉ extension) := by
  cases hcut : (rsplitOnce '.' name).filter (·.1 ≠ []) with
  | none =>
    rw [hcut] at h
    obtain ⟨rfl, rfl⟩ := Prod.mk.inj h
    exact .inl ⟨rfl, rfl⟩
  | some parts =>
    rw [hcut] at h
    obtain rfl : parts = (stem, extension) := h
    exact .inr (rsplitOnce_spec (Option.filter_eq_some_iff.mp hcut).1)

/-- A path that is published to, cut before its name. -/
theorem target_cases (h : request.IsTarget target) :
    target = request.remotePath ∨ ∃ directory fileName,
      request.remotePath = directory ++ '/' :: request.name ∧
        target = directory ++ '/' :: fileName ∧ '/' ∉ fileName ∧ fileName ≠ [] ∧
          request.temporaryName ≠ fileName := by
  rcases h with rfl | ⟨number, h⟩
  · exact .inl rfl
  · right
    obtain ⟨⟨directory, name⟩, hsplit, h⟩ := Option.bind_eq_some_iff.mp h
    obtain ⟨hpath, hslash⟩ := rsplitOnce_spec hsplit
    obtain rfl : name = request.name := by rw [request.name_eq, hpath, lastPart_append hslash]
    have hdigits := slash_not_mem_digits number
    simp only at h
    generalize hparts : ((rsplitOnce '.' request.name).filter (·.1 ≠ [])).getD (request.name, []) =
      parts at h
    obtain ⟨stem, extension⟩ := parts
    have htarget := (Option.some.inj h).symm
    simp only [List.append_assoc, List.cons_append, List.nil_append] at htarget
    refine ⟨directory, _, hpath, htarget, ?_⟩
    have hcopy : ∀ text : List Char, stem ++ ' ' :: '(' :: (text ++ [')']) =
        stem ++ [' ', '('] ++ text ++ [')'] := fun text => by simp
    -- a name without an extension, or with one
    rcases nameParts_cases hparts with ⟨rfl, rfl⟩ | ⟨hname, hext⟩
    · rw [if_pos rfl, hcopy]
      refine ⟨?_, List.append_ne_nil_of_right_ne_nil _ (List.cons_ne_nil _ _),
        temporaryName_ne_plainCopy⟩
      simp only [List.mem_append, List.mem_cons, List.not_mem_nil, hslash, hdigits]
      decide
    · rw [hname] at hslash
      simp only [List.mem_append, List.mem_cons, not_or] at hslash
      split
      · rw [hcopy]
        refine ⟨?_, List.append_ne_nil_of_right_ne_nil _ (List.cons_ne_nil _ _),
          temporaryName_ne_plainCopy⟩
        simp only [List.mem_append, List.mem_cons, List.not_mem_nil, hslash, hdigits]
        decide
      · rw [show stem ++ ' ' :: '(' :: ((toString number).toList ++ ')' :: '.' :: extension) =
          stem ++ [' ', '('] ++ (toString number).toList ++ [')'] ++ '.' :: extension by simp]
        refine ⟨?_, List.append_ne_nil_of_right_ne_nil _ (List.cons_ne_nil _ _),
          temporaryName_ne_copy hname hext⟩
        simp only [List.mem_append, List.mem_cons, List.not_mem_nil, hslash, hdigits]
        decide

theorem temporary_ne_target (h : request.IsTarget target) : request.temporary ≠ target := by
  intro heq
  have hlast := congrArg (lastPart '/') heq
  rw [lastPart_temporary] at hlast
  rcases target_cases h with rfl | ⟨directory, fileName, -, rfl, hslash, -, hne⟩
  · rw [← request.name_eq] at hlast
    exact temporaryName_ne_name hlast
  · rw [lastPart_append hslash] at hlast
    exact hne hlast

/-- A path that does not end in a slash is not trimmed. -/
theorem trimEndMatches_eq_self (h : lastPart '/' target ≠ []) : trimEndMatches '/' target = target := by
  unfold lastPart at h
  unfold trimEndMatches
  cases hrev : target.reverse with
  | nil => rw [hrev] at h; exact absurd rfl h
  | cons c rest =>
    rw [hrev] at h
    have hc : c ≠ '/' := by
      rintro rfl
      exact h rfl
    rw [List.dropWhile_cons_of_neg (by simpa using hc), ← hrev, List.reverse_reverse]

theorem target_not_directory (h : request.IsTarget target) :
    target ∉ request.remoteDirectories := by
  intro hmem
  have hprefix := request.directories_prefix target hmem
  rcases target_cases h with rfl | ⟨directory, fileName, hpath, rfl, hslash, hne, -⟩
  · rw [trimEndMatches_eq_self (request.name_eq ▸ request.name_ne)] at hprefix
    have hlen := hprefix.length_le
    rw [List.length_append, List.length_singleton] at hlen
    omega
  · rw [trimEndMatches_eq_self ((lastPart_append hslash).symm ▸ hne)] at hprefix
    obtain ⟨rest, hrest⟩ := hprefix
    rw [hpath] at hrest
    simp only [List.append_assoc, List.cons_append, List.append_cancel_left_eq, List.cons.injEq,
      true_and, List.nil_append] at hrest
    exact slash_not_mem_name (hrest ▸ List.mem_append_right _ List.mem_cons_self)

end UploadRequest

end AxSsh
