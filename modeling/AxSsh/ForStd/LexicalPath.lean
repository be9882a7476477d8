import Mathlib.Data.List.DropRight

/-!
# Paths as parts

A path is read lexically: split at the separator, without the parts that say nothing, which are
the empty ones and `here`.  `walk` follows parts from a place; `up` leaves the last one and stays
where there is none.

## Key results
- `parts_append`: a path under another has the parts of both
- `parts_intercalate`: names put together again
- `walk_names`: names are followed as they are
-/

universe u v

namespace LexicalPath

section Parts

variable {α : Type u} [DecidableEq α] (sep : α) (here : List α)

def parts (path : List α) : List (List α) :=
  (path.splitOn sep).filter fun part => part ≠ [] ∧ part ≠ here

variable {sep here}

theorem notMem_of_mem_splitOn {part path : List α} (h : part ∈ path.splitOn sep) : sep ∉ part := by
  induction path generalizing part with
  | nil =>
    rw [List.splitOn_nil, List.mem_singleton] at h
    subst h
    exact List.not_mem_nil
  | cons a path ih =>
    rw [List.splitOn_cons_eq_if_modifyHead] at h
    split at h
    · obtain rfl | h := List.mem_cons.mp h
      · exact List.not_mem_nil
      · exact ih h
    · rename_i ha
      have hsep : sep ≠ a := fun hsep => ha (beq_iff_eq.mpr hsep.symm)
      cases hsplit : path.splitOn sep with
      | nil => exact absurd hsplit (List.splitOn_ne_nil sep path)
      | cons first rest =>
        rw [hsplit, List.modifyHead_cons] at h
        obtain rfl | h := List.mem_cons.mp h
        · have hfirst : sep ∉ first := ih (hsplit ▸ List.mem_cons_self)
          exact fun hmem => (List.mem_cons.mp hmem).elim hsep hfirst
        · exact ih (hsplit ▸ List.mem_cons_of_mem first h)

theorem mem_parts {part path : List α} (h : part ∈ parts sep here path) :
    part ≠ [] ∧ part ≠ here ∧ sep ∉ part := by
  obtain ⟨hmem, hpart⟩ := List.mem_filter.mp h
  obtain ⟨hne, hhere⟩ := of_decide_eq_true hpart
  exact ⟨hne, hhere, notMem_of_mem_splitOn hmem⟩

@[simp] theorem parts_nil : parts sep here [] = [] := by
  simp [parts]

theorem parts_append (before after : List α) :
    parts sep here (before ++ sep :: after) = parts sep here before ++ parts sep here after := by
  rw [parts, List.splitOn_append_cons_self, List.filter_append]
  rfl

@[simp] theorem parts_cons (path : List α) : parts sep here (sep :: path) = parts sep here path :=
  parts_append [] path

/-- Separators at the end say nothing. -/
theorem parts_rdropWhile (path : List α) :
    parts sep here (path.rdropWhile (· == sep)) = parts sep here path := by
  induction path using List.reverseRecOn with
  | nil => rfl
  | append_singleton path a ih =>
    by_cases ha : a = sep
    · subst ha
      have hdrop := List.rdropWhile_concat_pos (· == a) path a (beq_self_eq_true a)
      rw [hdrop, ih, parts_append, parts_nil, List.append_nil]
    · have hkeep := List.rdropWhile_concat_neg (· == sep) path a (by simpa using ha)
      rw [hkeep]

theorem parts_intercalate {names : List (List α)}
    (h : ∀ name ∈ names, name ≠ [] ∧ name ≠ here ∧ sep ∉ name) :
    parts sep here ([sep].intercalate names) = names := by
  cases names with
  | nil => rw [List.intercalate_nil, parts_nil]
  | cons first rest =>
    rw [parts, List.splitOn_intercalate sep (fun name hname => (h name hname).2.2)
      (List.cons_ne_nil first rest)]
    refine List.filter_eq_self.mpr fun name hname => decide_eq_true ?_
    exact ⟨(h name hname).1, (h name hname).2.1⟩

end Parts

section Walk

variable {β : Type v} [DecidableEq β] (up : β)

def walk (place parts : List β) : List β :=
  parts.foldl (fun place part => if part = up then place.dropLast else place ++ [part]) place

variable {up}

/-- Nothing but names is ever at the place, and none that was not there or followed. -/
theorem mem_walk {name : β} {place parts : List β} (h : name ∈ walk up place parts) :
    name ∈ place ∨ (name ∈ parts ∧ name ≠ up) := by
  induction parts generalizing place with
  | nil => exact .inl h
  | cons part parts ih =>
    obtain h | ⟨hmem, hne⟩ := ih h
    · dsimp only at h
      split at h
      · exact .inl ((List.dropLast_subset place) h)
      · rename_i hup
        obtain h | h := List.mem_append.mp h
        · exact .inl h
        · rw [List.mem_singleton] at h
          subst h
          exact .inr ⟨List.mem_cons_self, hup⟩
    · exact .inr ⟨List.mem_cons_of_mem part hmem, hne⟩

theorem walk_names {place names : List β} (h : up ∉ names) :
    walk up place names = place ++ names := by
  induction names generalizing place with
  | nil => exact (List.append_nil place).symm
  | cons name names ih =>
    rw [List.mem_cons, not_or] at h
    have hstep : walk up place (name :: names) = walk up (place ++ [name]) names := by
      rw [walk, List.foldl_cons, if_neg (Ne.symm h.1)]
      rfl
    rw [hstep, ih h.2, List.append_assoc, List.singleton_append]

end Walk

end LexicalPath
