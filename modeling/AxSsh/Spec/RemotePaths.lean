import AxSsh.ForStd.Except
import AxSsh.ForStd.LexicalPath
import AxSsh.Native.RemoteBrowser

/-!
# Remote paths in normal form

What `resolve_remote_path` accepts it turns into the walk from the root along the parts of the
path that is meant: the input where it is absolute, else the input below the home directory or
the current one.  The result is a fixed point of resolution, from any directory.

## Key results
- `normalizeRemotePath_eq`: the normal form as a walk
- `resolveRemotePath_normal`: what a resolved path is
-/

namespace AxSsh

open LexicalPath

/-- The parts of a remote path between its slashes, without the empty ones and `.`. -/
def remoteParts (path : List Char) : List (List Char) := parts '/' ['.'] path

/-- A part that names an entry of a directory. -/
def IsEntryName (part : List Char) : Prop :=
  part ≠ [] ∧ part ≠ ['.'] ∧ part ≠ ['.', '.'] ∧ '/' ∉ part

def absolutePath (names : List (List Char)) : String :=
  String.ofList ('/' :: ['/'].intercalate names)

/-- The parts of what an input means in a directory. -/
def intendedParts (current home input : List Char) : List (List Char) :=
  match input with
  | ['~'] => remoteParts home
  | '~' :: '/' :: rest => remoteParts home ++ remoteParts rest
  | '/' :: _ => remoteParts input
  | _ => remoteParts current ++ remoteParts input

/-! ## Normalisation -/

theorem normalParts_eq (path : String) :
    normalParts path = walk ['.', '.'] [] (remoteParts path.toList) := by
  rw [normalParts, walk, remoteParts, parts, List.foldl_filter]
  congr 1
  funext place part
  by_cases hempty : part = [] ∨ part = ['.']
  · rw [if_pos hempty, if_neg]
    simp only [decide_eq_true_eq, not_and_or, ne_eq, not_not]
    exact hempty
  · have hkeep : decide (part ≠ [] ∧ part ≠ ['.']) = true := decide_eq_true (not_or.mp hempty)
    rw [if_neg hempty, if_pos hkeep]

theorem isEntryName_of_mem_walk {name : List Char} {path : List Char}
    (h : name ∈ walk ['.', '.'] [] (remoteParts path)) : IsEntryName name := by
  obtain h | ⟨hmem, hup⟩ := mem_walk h
  · exact absurd h List.not_mem_nil
  · obtain ⟨hne, hdot, hslash⟩ := mem_parts hmem
    exact ⟨hne, hdot, hup, hslash⟩

theorem remoteParts_absolutePath {names : List (List Char)} (h : ∀ name ∈ names, IsEntryName name) :
    remoteParts (absolutePath names).toList = names := by
  rw [absolutePath, String.toList_ofList, remoteParts, parts_cons]
  refine parts_intercalate fun name hname => ?_
  obtain ⟨hne, hdot, -, hslash⟩ := h name hname
  exact ⟨hne, hdot, hslash⟩

/-- A path in normal form is its own walk. -/
theorem walk_absolutePath {names : List (List Char)} (h : ∀ name ∈ names, IsEntryName name) :
    walk ['.', '.'] [] (remoteParts (absolutePath names).toList) = names := by
  rw [remoteParts_absolutePath h, walk_names, List.nil_append]
  intro hup
  exact (h _ hup).2.2.1 rfl

theorem normalizeRemotePath_eq_ok_iff {path resolved : String}
    (h : path.toList.head? = some '/') :
    normalizeRemotePath path = .ok resolved ↔
      validateRemotePath resolved = .ok () ∧
        absolutePath (walk ['.', '.'] [] (remoteParts path.toList)) = resolved := by
  have hjoin (names : List (List Char)) :
      "/" ++ String.ofList (['/'].intercalate names) = absolutePath names := by
    rw [absolutePath, ← String.toList_inj]
    simp
  rw [normalizeRemotePath, normalParts_eq, hjoin]
  rw [if_pos h, Except.bind_eq_ok_iff]
  constructor
  · rintro ⟨_, hvalid, hpure⟩
    obtain rfl := Except.ok.inj hpure
    exact ⟨hvalid, rfl⟩
  · rintro ⟨hvalid, rfl⟩
    exact ⟨(), hvalid, rfl⟩

/-! ## Resolution -/

theorem toList_trimEndSlashes (path : String) :
    (trimEndSlashes path).toList = path.toList.rdropWhile (· == '/') := by
  rw [trimEndSlashes, String.toList_ofList, List.rdropWhile]

theorem remoteParts_joinRemote (parent child : String) :
    remoteParts (joinRemote parent child).toList =
      remoteParts parent.toList ++ remoteParts child.toList := by
  rw [joinRemote]
  split
  · rename_i hroot
    rw [hroot, String.toList_append]
    exact parts_append [] child.toList
  · rw [String.toList_append, String.toList_append, toList_trimEndSlashes, List.append_assoc]
    have htrim : remoteParts (parent.toList.rdropWhile (· == '/')) = remoteParts parent.toList :=
      parts_rdropWhile parent.toList
    rw [← htrim]
    exact parts_append _ child.toList

theorem head?_joinRemote {parent : String} (child : String)
    (h : parent.toList.head? = some '/') : (joinRemote parent child).toList.head? = some '/' := by
  rw [joinRemote]
  split
  · rw [String.toList_append]
    rfl
  · rw [String.toList_append, String.toList_append, toList_trimEndSlashes]
    cases htrim : parent.toList.rdropWhile (· == '/') with
    | nil => rfl
    | cons c rest =>
      have hsame := List.rdropWhile_prefix (· == '/') parent.toList
      rw [htrim] at hsame
      obtain ⟨tail, htail⟩ := hsame
      rw [← htail] at h
      exact h

/-- What a path is resolved from: it is absolute, and it has the parts of what is meant. -/
theorem resolveRemotePath_candidate {current home path resolved : String}
    (hcurrent : current.toList.head? = some '/') (hhome : home.toList.head? = some '/')
    (h : resolveRemotePath current home path = .ok resolved) :
    ∃ candidate, candidate.toList.head? = some '/' ∧
      remoteParts candidate.toList = intendedParts current.toList home.toList path.toList ∧
      normalizeRemotePath candidate = .ok resolved := by
  obtain ⟨-, -, h⟩ := Except.bind_eq_ok_iff.mp h
  -- the branches of the source: here, home, below home, absolute, relative
  by_cases hhere : path = "" ∨ path = "."
  · rw [if_pos hhere] at h
    refine ⟨current, hcurrent, ?_, h⟩
    obtain rfl | rfl := hhere
    · exact (List.append_nil _).symm
    · exact (List.append_nil _).symm
  · rw [if_neg hhere] at h
    by_cases htilde : path = "~"
    · rw [if_pos htilde] at h
      rw [htilde]
      exact ⟨home, hhome, rfl, h⟩
    · rw [if_neg htilde] at h
      have htilde' : path.toList ≠ ['~'] := fun heq => htilde (String.toList_inj.mp heq)
      split at h
      · rename_i rest hrest
        refine ⟨_, head?_joinRemote _ hhome, ?_, h⟩
        rw [remoteParts_joinRemote, String.toList_ofList, hrest]
        rfl
      · rename_i rest hrest
        refine ⟨path, by rw [hrest]; rfl, ?_, h⟩
        rw [hrest]
        rfl
      · rename_i hnotHome hnotAbsolute
        refine ⟨_, head?_joinRemote _ hcurrent, ?_, h⟩
        rw [remoteParts_joinRemote, intendedParts]
        · intro heq
          exact htilde' heq
        · exact hnotHome
        · exact hnotAbsolute

/-- Resolution gives the normal form of what is meant, which is a fixed point of resolution from
    any directory. -/
theorem resolveRemotePath_normal (current home path resolved : String)
    (hcurrent : current.toList.head? = some '/') (hhome : home.toList.head? = some '/')
    (h : resolveRemotePath current home path = .ok resolved) :
    let names := walk ['.', '.'] [] (intendedParts current.toList home.toList path.toList)
    resolved = absolutePath names ∧ (∀ name ∈ names, IsEntryName name) ∧
      ∀ current' home', resolveRemotePath current' home' resolved = .ok resolved := by
  obtain ⟨candidate, habs, hparts, hnormal⟩ := resolveRemotePath_candidate hcurrent hhome h
  obtain ⟨hvalid, heq⟩ := (normalizeRemotePath_eq_ok_iff habs).mp hnormal
  have hnames : ∀ name ∈ walk ['.', '.'] [] (remoteParts candidate.toList), IsEntryName name :=
    fun name hname => isEntryName_of_mem_walk hname
  rw [← hparts]
  refine ⟨heq.symm, hnames, fun current' home' => ?_⟩
  have hslash : resolved.toList.head? = some '/' := by
    rw [← heq, absolutePath, String.toList_ofList]
    rfl
  have hagain : normalizeRemotePath resolved = .ok resolved := by
    rw [normalizeRemotePath_eq_ok_iff hslash]
    refine ⟨hvalid, ?_⟩
    rw [← heq, walk_absolutePath hnames]
  refine Except.bind_eq_ok_iff.mpr ⟨(), hvalid, ?_⟩
  obtain ⟨rest, hrest⟩ := List.head?_eq_some_iff.mp hslash
  have hhere : ¬(resolved = "" ∨ resolved = ".") := by
    rintro (rfl | rfl) <;> cases hslash
  have htilde : resolved ≠ "~" := by
    rintro rfl
    cases hslash
  rw [if_neg hhere, if_neg htilde, hrest]
  exact hagain

theorem resolveRemotePath_logs :
    "/srv/app/logs" = absolutePath ["srv".toList, "app".toList, "logs".toList] ∧
      (∀ name ∈ ["srv".toList, "app".toList, "logs".toList], IsEntryName name) ∧
      ∀ current' home', resolveRemotePath current' home' "/srv/app/logs" = .ok "/srv/app/logs" :=
  resolveRemotePath_normal "/srv/app/current" "/home/alice" "../logs" "/srv/app/logs"
    (by decide) (by decide) (by decide)

end AxSsh
