import AxSsh.ForStd.Greedy
import AxSsh.Spec.CacheNames
import Mathlib.Algebra.BigOperators.Group.List.Basic

/-!
# The quota of the cache

A reservation first removes the stale files, whatever the quota.  Then finished files go, the
oldest first, until the reservation fits; what the file system does not let go stays and is
counted.

## Key results
- `evict_eq`: the loop is a greedy one
- `enforceCacheQuota_spec`: what a reservation leaves, and why one fails
-/

namespace AxSsh

open Greedy

def bytesOf (entries : List ManagedCacheEntry) : Nat := (entries.map (·.size)).sum

/-- Without `removed`, the files of a cache leave room for one of `incomingBytes`. -/
def Suffices (incomingBytes maxBytes : Nat) (entries removed : List ManagedCacheEntry) : Prop :=
  bytesOf entries + incomingBytes ≤ maxBytes + bytesOf removed ∧
    entries.length + 1 ≤ maxCacheFiles + removed.length

/-- What the scan takes for a cache file, in a directory that it reads whole. -/
def managedFiles (U : UuidText) (faults : CacheFaults) (files : List CacheFile) :
    List ManagedCacheEntry :=
  files.filterMap (managedCacheEntry U faults)

def finishedFiles (entries : List ManagedCacheEntry) : List ManagedCacheEntry :=
  entries.filter (!·.isPart)

/-! ## Totals -/

@[simp] theorem bytesOf_cons (entry : ManagedCacheEntry) (entries : List ManagedCacheEntry) :
    bytesOf (entry :: entries) = entry.size + bytesOf entries := by
  simp [bytesOf]

theorem bytesOf_append (entries entries' : List ManagedCacheEntry) :
    bytesOf (entries ++ entries') = bytesOf entries + bytesOf entries' := by
  simp [bytesOf]

theorem bytesOf_perm {entries entries' : List ManagedCacheEntry} (h : entries.Perm entries') :
    bytesOf entries = bytesOf entries' :=
  (h.map _).sum_eq

theorem bytesOf_sublist {entries entries' : List ManagedCacheEntry} (h : entries.Sublist entries') :
    bytesOf entries ≤ bytesOf entries' := by
  induction h with
  | slnil => exact Nat.le_refl _
  | cons entry _ ih =>
    rw [bytesOf_cons]
    omega
  | cons_cons entry _ ih =>
    rw [bytesOf_cons, bytesOf_cons]
    omega

theorem bytesOf_subperm {entries entries' : List ManagedCacheEntry} (h : entries.Subperm entries') :
    bytesOf entries ≤ bytesOf entries' := by
  obtain ⟨_, hperm, hsub⟩ := h
  rw [← bytesOf_perm hperm]
  exact bytesOf_sublist hsub

theorem saturatingAdd_eq {a b : Nat} (h : a + b < 2 ^ 64) : saturatingAdd a b = a + b :=
  Nat.min_eq_left (by omega)

theorem foldl_saturatingAdd {entries : List ManagedCacheEntry} {total : Nat}
    (h : total + bytesOf entries < 2 ^ 64) :
    entries.foldl (fun total entry => saturatingAdd total entry.size) total =
      total + bytesOf entries := by
  induction entries generalizing total with
  | nil => rfl
  | cons entry entries ih =>
    rw [bytesOf_cons] at h ⊢
    rw [List.foldl_cons, saturatingAdd_eq (by omega), ih (by omega)]
    omega

theorem foldl_drop (removed : List ManagedCacheEntry) (usage : CacheUsage) :
    removed.foldl CacheUsage.drop usage =
      ⟨usage.totalBytes - bytesOf removed, usage.fileCount - removed.length⟩ := by
  induction removed generalizing usage with
  | nil => rfl
  | cons entry removed ih =>
    rw [List.foldl_cons, ih, bytesOf_cons, List.length_cons, CacheUsage.drop]
    congr 1
    · exact Nat.sub_sub _ _ _
    · show usage.fileCount - 1 - removed.length = usage.fileCount - (removed.length + 1)
      omega

/-- The running totals say whether what is removed so far suffices. -/
theorem within_foldl_drop {incomingBytes maxBytes : Nat} {entries removed : List ManagedCacheEntry}
    (hfit : bytesOf entries + incomingBytes < 2 ^ 64)
    (hcount : entries.length ≤ maxCacheScanEntries) (hsub : removed.Subperm entries) :
    (removed.foldl CacheUsage.drop (.ofEntries entries)).within incomingBytes maxBytes = true ↔
      Suffices incomingBytes maxBytes entries removed := by
  have hbytes := bytesOf_subperm hsub
  have hlen := hsub.length_le
  have hscan : maxCacheScanEntries = 4096 := rfl
  have htotals : CacheUsage.ofEntries entries = ⟨bytesOf entries, entries.length⟩ := by
    rw [CacheUsage.ofEntries, foldl_saturatingAdd (by omega), Nat.zero_add]
  have hbytes' := saturatingAdd_eq (show bytesOf entries - bytesOf removed + incomingBytes < 2 ^ 64 by
    omega)
  have hcount' := saturatingAdd_eq (show entries.length - removed.length + 1 < 2 ^ 64 by omega)
  rw [foldl_drop, htotals, CacheUsage.within, decide_eq_true_iff, hbytes', hcount', Suffices]
  omega

/-! ## The loop -/

theorem evict_eq (faults : CacheFaults) (incomingBytes maxBytes : Nat)
    (entries : List ManagedCacheEntry) (usage : CacheUsage) :
    evict faults incomingBytes maxBytes entries usage =
      let removed := dropped (CacheUsage.within incomingBytes maxBytes)
        (fun entry => faults.remove entry.path) CacheUsage.drop entries usage
      (removed, removed.foldl CacheUsage.drop usage) := by
  induction entries generalizing usage with
  | nil => rfl
  | cons entry entries ih =>
    rw [evict, dropped]
    split
    · rfl
    · split
      · exact ih usage
      · rw [ih]
        rfl

theorem evictionOrder_perm (entries : List ManagedCacheEntry) :
    (evictionOrder entries).Perm (finishedFiles entries) :=
  List.mergeSort_perm _ _

theorem evictionOrder_pairwise (entries : List ManagedCacheEntry) :
    (evictionOrder entries).Pairwise fun a b => a.modified ≤ b.modified := by
  have hsorted : (evictionOrder entries).Pairwise fun a b =>
      decide (a.modified ≤ b.modified) = true := by
    refine List.pairwise_mergeSort (fun a b c hab hbc => ?_) (fun a b => ?_) _
    · rw [decide_eq_true_iff] at hab hbc ⊢
      exact hab.trans hbc
    · rw [Bool.or_eq_true, decide_eq_true_iff, decide_eq_true_iff]
      exact Int.le_total _ _
  exact hsorted.imp of_decide_eq_true

/-- What the loop removes, in order. -/
def evicted (scan : CacheFaults) (incomingBytes maxBytes : Nat)
    (entries : List ManagedCacheEntry) : List ManagedCacheEntry :=
  dropped (CacheUsage.within incomingBytes maxBytes) (fun entry => scan.remove entry.path)
    CacheUsage.drop (evictionOrder entries) (.ofEntries entries)

section Evicted

variable {scan : CacheFaults} {incomingBytes maxBytes : Nat} {entries : List ManagedCacheEntry}

theorem evicted_eq_take : ∃ n, evicted scan incomingBytes maxBytes entries =
    ((evictionOrder entries).take n).filter fun entry => !scan.remove entry.path :=
  exists_take _ _

theorem evicted_sublist :
    (evicted scan incomingBytes maxBytes entries).Sublist (evictionOrder entries) := by
  obtain ⟨n, hn⟩ := @evicted_eq_take scan incomingBytes maxBytes entries
  rw [hn]
  exact List.filter_sublist.trans (List.take_sublist _ _)

theorem mem_finishedFiles_of_evicted {entry : ManagedCacheEntry}
    (h : entry ∈ evicted scan incomingBytes maxBytes entries) : entry ∈ finishedFiles entries :=
  (evictionOrder_perm entries).mem_iff.mp (evicted_sublist.subset h)

theorem evicted_subperm :
    (evicted scan incomingBytes maxBytes entries).Subperm entries :=
  ((evicted_sublist.subperm).trans (evictionOrder_perm entries).subperm).trans
    List.filter_sublist.subperm

theorem evicted_pairwise :
    (evicted scan incomingBytes maxBytes entries).Pairwise fun a b => a.modified ≤ b.modified :=
  (evictionOrder_pairwise entries).sublist evicted_sublist

/-- An older finished file is removed too, unless the file system refuses that. -/
theorem evicted_oldest {entry older : ManagedCacheEntry}
    (h : entry ∈ evicted scan incomingBytes maxBytes entries)
    (holder : older ∈ finishedFiles entries) (hlt : older.modified < entry.modified) :
    older ∈ evicted scan incomingBytes maxBytes entries ∨ scan.remove older.path = true := by
  obtain ⟨n, hn⟩ := @evicted_eq_take scan incomingBytes maxBytes entries
  have holder' := (evictionOrder_perm entries).mem_iff.mpr holder
  have hsorted := evictionOrder_pairwise entries
  rw [hn] at h ⊢
  rw [← List.take_append_drop n (evictionOrder entries)] at holder' hsorted
  have hentry := (List.mem_filter.mp h).1
  obtain hfirst | hrest := List.mem_append.mp holder'
  · by_cases hrefused : scan.remove older.path = true
    · exact .inr hrefused
    · exact .inl (List.mem_filter.mpr ⟨hfirst, by simpa using hrefused⟩)
  · have hle := (List.pairwise_append.mp hsorted).2.2 entry hentry older hrest
    exact absurd hlt (Int.not_lt.mpr hle)

/-- Where the loop ends short of the quota, no files that can be removed suffice. -/
theorem not_suffices_of_not_within (hfit : bytesOf entries + incomingBytes < 2 ^ 64)
    (hcount : entries.length ≤ maxCacheScanEntries)
    (hshort : ¬Suffices incomingBytes maxBytes entries
      (evicted scan incomingBytes maxBytes entries))
    {removed : List ManagedCacheEntry} (hsub : removed.Subperm (finishedFiles entries))
    (hremove : ∀ entry ∈ removed, scan.remove entry.path = false) :
    ¬Suffices incomingBytes maxBytes entries removed := by
  have hall : evicted scan incomingBytes maxBytes entries =
      (evictionOrder entries).filter fun entry => !scan.remove entry.path := by
    refine (met_or_all (evictionOrder entries) (CacheUsage.ofEntries entries)).resolve_left fun hmet => ?_
    exact hshort ((within_foldl_drop hfit hcount evicted_subperm).mp hmet)
  -- what can be removed is among what the loop has removed
  have hmore : removed.Subperm (evicted scan incomingBytes maxBytes entries) := by
    have hfilter := (hsub.trans (evictionOrder_perm entries).symm.subperm).filter
      fun entry => !scan.remove entry.path
    rwa [List.filter_eq_self.mpr (fun entry hentry => by simp [hremove entry hentry]), ← hall]
      at hfilter
  have hbytes := bytesOf_subperm hmore
  have hlen := hmore.length_le
  rw [Suffices] at hshort ⊢
  omega

end Evicted

/-! ## The directory -/

section Directory

variable {U : UuidText} {directory : String} {incomingBytes maxBytes : Nat} {now : Int}
  {stale scan faults : CacheFaults} {files kept : List CacheFile}

theorem managedCacheEntry_path {file : CacheFile} {entry : ManagedCacheEntry}
    (h : managedCacheEntry U faults file = some entry) : entry.path = file.path := by
  unfold managedCacheEntry at h
  split at h
  · cases h
  · split at h
    · cases h
    · split at h
      · cases h
      · cases h
        rfl

theorem map_path_managedFiles_sublist :
    ((managedFiles U faults files).map (·.path)).Sublist (files.map (·.path)) := by
  induction files with
  | nil => exact .slnil
  | cons file files ih =>
    rw [managedFiles, List.filterMap_cons]
    cases h : managedCacheEntry U faults file with
    | none => exact .cons _ ih
    | some entry =>
      rw [List.map_cons, List.map_cons, managedCacheEntry_path h]
      exact .cons_cons _ ih

/-- The scan sees of the files that are left what it saw of them before. -/
theorem managedFiles_filter (p : String → Bool) :
    managedFiles U faults (files.filter fun file => p file.path) =
      (managedFiles U faults files).filter fun entry => p entry.path := by
  rw [managedFiles, managedFiles, List.filterMap_filter, List.filter_filterMap]
  refine congrArg (List.filterMap · files) ?_
  funext file
  cases h : managedCacheEntry U faults file with
  | none => simp
  | some entry => simp [Option.filter_some, managedCacheEntry_path h]

/-- With what is taken out by its path, a list of distinct paths is the rest and what is taken
    out. -/
theorem perm_append_filter {entries removed : List ManagedCacheEntry}
    (hpaths : (entries.map (·.path)).Nodup) (hsub : removed.Subperm entries) :
    entries.Perm (removed ++ entries.filter fun entry => entry.path ∉ removed.map (·.path)) := by
  have hnodup : entries.Nodup := hpaths.of_map _
  have hremoved : (entries.filter fun entry => entry.path ∈ removed.map (·.path)).Perm removed := by
    have hremoved : removed.Nodup := by
      obtain ⟨_, hperm, hentries⟩ := hsub
      exact hperm.nodup_iff.mp (hnodup.sublist hentries)
    refine (List.perm_ext_iff_of_nodup (hnodup.filter _) hremoved).mpr fun entry => ?_
    rw [List.mem_filter, decide_eq_true_iff, List.mem_map]
    constructor
    · rintro ⟨hmem, entry', hentry', hpath⟩
      rwa [← List.inj_on_of_nodup_map hpaths (hsub.subset hentry') hmem hpath]
    · intro hmem
      exact ⟨hsub.subset hmem, entry, hmem, rfl⟩
  have hsplit := List.filter_append_perm (fun entry => decide (entry.path ∈ removed.map (·.path)))
    entries
  refine hsplit.symm.trans (hremoved.append ?_)
  refine List.Perm.of_eq (List.filter_congr fun entry _ => ?_)
  rw [decide_not]

/-- What a reservation has done once the stale files are gone and `kept` is left. -/
structure QuotaMet (U : UuidText) (incomingBytes maxBytes : Nat) (scan : CacheFaults)
    (kept : List CacheFile) (run : QuotaRun) : Prop where
  files : run.files = kept.filter fun file => file.path ∉ run.evicted.map (·.path)
  bytes : bytesOf (managedFiles U scan run.files) + incomingBytes ≤ maxBytes
  count : (managedFiles U scan run.files).length + 1 ≤ maxCacheFiles
  finished : ∀ entry ∈ run.evicted, entry ∈ finishedFiles (managedFiles U scan kept)
  order : run.evicted.Pairwise fun a b => a.modified ≤ b.modified
  oldest : ∀ entry ∈ run.evicted, ∀ older ∈ finishedFiles (managedFiles U scan kept),
    older.modified < entry.modified → older ∈ run.evicted ∨ scan.remove older.path = true
  needed : ∀ p, p <+: run.evicted → p ≠ run.evicted →
    ¬Suffices incomingBytes maxBytes (managedFiles U scan kept) p

theorem cleanupStaleCacheAt_kept {count : Nat}
    (h : cleanupStaleCacheAt U directory now stale files = .ok (kept, count)) :
    kept.Sublist files ∧ ∀ file ∈ files, file ∈ kept ∨ removesStale U now stale file = true := by
  unfold cleanupStaleCacheAt at h
  split at h
  · cases h
  · rw [List.splitAt_eq] at h
    obtain ⟨rfl, rfl⟩ := Prod.mk.inj (Except.ok.inj h)
    have hfiles := List.take_append_drop maxCacheScanEntries files
    constructor
    · conv => rhs; rw [← hfiles]
      exact List.Sublist.append List.filter_sublist (.refl _)
    · intro file hfile
      rw [← hfiles] at hfile
      obtain hseen | hrest := List.mem_append.mp hfile
      · by_cases hstale : removesStale U now stale file = true
        · exact .inr hstale
        · exact .inl (List.mem_append_left _ (List.mem_filter.mpr ⟨hseen, by simpa using hstale⟩))
      · exact .inl (List.mem_append_right _ hrest)

theorem scanManagedCacheEntries_eq_ok {entries : List ManagedCacheEntry}
    (h : scanManagedCacheEntries U directory scan kept = .ok entries) :
    kept.length ≤ maxCacheScanEntries ∧ entries = managedFiles U scan kept := by
  unfold scanManagedCacheEntries at h
  split at h
  · cases h
  · split at h
    · cases h
    · rename_i hlen
      exact ⟨Nat.not_lt.mp hlen, (Except.ok.inj h).symm⟩

/-- A reservation that gets past the scan ends by whether the files the loop removes suffice. -/
theorem enforceCacheQuota_scanned {count : Nat}
    (hincoming : incomingBytes ≤ maxBytes)
    (hclean : cleanupStaleCacheAt U directory now stale files = .ok (kept, count))
    (hscan : scanManagedCacheEntries U directory scan kept = .ok (managedFiles U scan kept))
    (hfit : bytesOf (managedFiles U scan kept) + incomingBytes < 2 ^ 64)
    (hlen : (managedFiles U scan kept).length ≤ maxCacheScanEntries) :
    let run := enforceCacheQuota U directory incomingBytes maxBytes now stale scan files
    run.evicted = evicted scan incomingBytes maxBytes (managedFiles U scan kept) ∧
      run.files = (kept.filter fun file => file.path ∉ run.evicted.map (·.path)) ∧
      (run.result = .ok () ↔
        Suffices incomingBytes maxBytes (managedFiles U scan kept) run.evicted) := by
  have hwithin : ((evicted scan incomingBytes maxBytes (managedFiles U scan kept)).foldl
      CacheUsage.drop (.ofEntries (managedFiles U scan kept))).within incomingBytes maxBytes = true ↔
      _ := within_foldl_drop hfit hlen evicted_subperm
  -- the loop of the source is what `evicted` takes, and then the two limits are checked again
  have hrun : enforceCacheQuota U directory incomingBytes maxBytes now stale scan files =
      let entries := managedFiles U scan kept
      let usage := (evicted scan incomingBytes maxBytes entries).foldl CacheUsage.drop
        (.ofEntries entries)
      { files := kept.filter fun file =>
          file.path ∉ (evicted scan incomingBytes maxBytes entries).map (·.path)
        evicted := evicted scan incomingBytes maxBytes entries
        result :=
          if maxBytes < saturatingAdd usage.totalBytes incomingBytes then
            .error <| s!"SFTP cache quota would exceed {maxBytes} bytes; " ++
              "close an existing opened file and retry"
          else if maxCacheFiles < saturatingAdd usage.fileCount 1 then
            .error <| s!"SFTP cache quota allows at most {maxCacheFiles} files; " ++
              "close an existing opened file and retry"
          else .ok () } := by
    simp only [enforceCacheQuota, if_neg (Nat.not_lt.mpr hincoming), hclean, hscan, evict_eq]
    rfl
  rw [hrun]
  refine ⟨rfl, rfl, ?_⟩
  dsimp only
  rw [← hwithin, CacheUsage.within, decide_eq_true_iff]
  split
  · rename_i hbytes
    exact iff_of_false nofun fun h => absurd h.1 (Nat.not_le.mpr hbytes)
  · rename_i hbytes
    split
    · rename_i hcount
      exact iff_of_false nofun fun h => absurd h.2 (Nat.not_le.mpr hcount)
    · rename_i hcount
      exact iff_of_true rfl ⟨Nat.not_lt.mp hbytes, Nat.not_lt.mp hcount⟩

theorem quotaMet_of_suffices {run : QuotaRun} (hpaths : (kept.map (·.path)).Nodup)
    (hfit : bytesOf (managedFiles U scan kept) + incomingBytes < 2 ^ 64)
    (hlen : (managedFiles U scan kept).length ≤ maxCacheScanEntries)
    (hfiles : run.files = kept.filter fun file => file.path ∉ run.evicted.map (·.path))
    (hevicted : run.evicted = evicted scan incomingBytes maxBytes (managedFiles U scan kept))
    (hsuffices : Suffices incomingBytes maxBytes (managedFiles U scan kept) run.evicted) :
    QuotaMet U incomingBytes maxBytes scan kept run := by
  have hleft : managedFiles U scan
      (kept.filter fun file => decide (file.path ∉ run.evicted.map (·.path))) = _ :=
    managedFiles_filter fun path => decide (path ∉ run.evicted.map (·.path))
  rw [← hfiles] at hleft
  -- what is evicted and what is left are the managed files
  have hperm := perm_append_filter (hpaths.sublist map_path_managedFiles_sublist)
    (hevicted ▸ evicted_subperm)
  rw [← hleft] at hperm
  have hbytes := bytesOf_perm hperm
  have hcount := hperm.length_eq
  rw [bytesOf_append] at hbytes
  rw [List.length_append] at hcount
  rw [Suffices] at hsuffices
  refine ⟨hfiles, by omega, by omega, ?_, ?_, ?_, ?_⟩
  · rw [hevicted]
    exact fun entry => mem_finishedFiles_of_evicted
  · rw [hevicted]
    exact evicted_pairwise
  · rw [hevicted]
    exact fun entry hentry older holder hlt => evicted_oldest hentry holder hlt
  -- nothing is evicted after the quota is met
  · rw [hevicted]
    intro p hp hne hshort
    have hnot := not_met_of_isPrefix hp hne
    rw [← within_foldl_drop hfit hlen (hp.sublist.subperm.trans evicted_subperm), hnot] at hshort
    cases hshort

end Directory

/-- A reservation that succeeds has removed stale files, and then only as many finished ones as it
    needs, the oldest first; one that fails is too large, meets a fault of the file system or a
    directory with too many files, or no files that can be removed suffice. -/
theorem enforceCacheQuota_spec (U : UuidText) (directory : String) (incomingBytes maxBytes : Nat)
    (now : Int) (stale scan : CacheFaults) (files : List CacheFile)
    (hpaths : (files.map (·.path)).Nodup)
    (hfit : bytesOf (managedFiles U scan files) + incomingBytes < 2 ^ 64) :
    let run := enforceCacheQuota U directory incomingBytes maxBytes now stale scan files
    (run.result = .ok () →
      ∃ kept count, cleanupStaleCacheAt U directory now stale files = .ok (kept, count) ∧
        (∀ file ∈ files, file ∈ kept ∨ removesStale U now stale file = true) ∧
        QuotaMet U incomingBytes maxBytes scan kept run) ∧
      ∀ error, run.result = .error error →
        maxBytes < incomingBytes ∨ stale.readDir = true ∨ scan.readDir = true ∨
          ∃ kept count, cleanupStaleCacheAt U directory now stale files = .ok (kept, count) ∧
            (maxCacheScanEntries < kept.length ∨
              ∀ removed, removed.Subperm (finishedFiles (managedFiles U scan kept)) →
                (∀ entry ∈ removed, scan.remove entry.path = false) →
                ¬Suffices incomingBytes maxBytes (managedFiles U scan kept) removed) := by
  -- the guards in the order of the source, each with its own error
  by_cases hincoming : maxBytes < incomingBytes
  · have hrun : (enforceCacheQuota U directory incomingBytes maxBytes now stale scan files).result ≠
        .ok () := by
      rw [enforceCacheQuota, if_pos hincoming]
      exact nofun
    exact ⟨fun h => absurd h hrun, fun _ _ => .inl hincoming⟩
  cases hclean : cleanupStaleCacheAt U directory now stale files with
  | error error =>
    have hread : stale.readDir = true := by
      by_contra hread
      rw [cleanupStaleCacheAt, if_neg hread] at hclean
      cases hclean
    have hrun : (enforceCacheQuota U directory incomingBytes maxBytes now stale scan files).result ≠
        .ok () := by
      rw [enforceCacheQuota, if_neg hincoming, hclean]
      exact nofun
    exact ⟨fun h => absurd h hrun, fun _ _ => .inr (.inl hread)⟩
  | ok cleaned =>
    obtain ⟨kept, count⟩ := cleaned
    obtain ⟨hsub, hstale⟩ := cleanupStaleCacheAt_kept hclean
    cases hscan : scanManagedCacheEntries U directory scan kept with
    | error error =>
      have hrun :
          (enforceCacheQuota U directory incomingBytes maxBytes now stale scan files).result ≠
            .ok () := by
        rw [enforceCacheQuota, if_neg hincoming, hclean]
        dsimp only
        rw [hscan]
        exact nofun
      refine ⟨fun h => absurd h hrun, fun _ _ => ?_⟩
      by_cases hread : scan.readDir = true
      · exact .inr (.inr (.inl hread))
      · refine .inr (.inr (.inr ⟨kept, count, rfl, .inl ?_⟩))
        by_contra hlen
        rw [scanManagedCacheEntries, if_neg hread, if_neg hlen] at hscan
        cases hscan
    | ok entries =>
      obtain ⟨hlen, rfl⟩ := scanManagedCacheEntries_eq_ok hscan
      have hmanaged : (managedFiles U scan kept).length ≤ maxCacheScanEntries :=
        (List.length_filterMap_le _ _).trans hlen
      -- the cleanup only removes, so the sum still fits
      have hfit' : bytesOf (managedFiles U scan kept) + incomingBytes < 2 ^ 64 := by
        have hle := bytesOf_sublist (hsub.filterMap (managedCacheEntry U scan))
        exact Nat.lt_of_le_of_lt (Nat.add_le_add_right hle _) hfit
      obtain ⟨hevicted, hfiles, hresult⟩ := enforceCacheQuota_scanned (Nat.not_lt.mp hincoming)
        hclean hscan hfit' hmanaged
      refine ⟨fun h => ⟨kept, count, rfl, hstale, ?_⟩, fun error h => ?_⟩
      · exact quotaMet_of_suffices (hpaths.sublist (hsub.map _)) hfit' hmanaged hfiles hevicted
          (hresult.mp h)
      · refine .inr (.inr (.inr ⟨kept, count, rfl, .inr fun removed hremoved hpermitted => ?_⟩))
        refine not_suffices_of_not_within hfit' hmanaged ?_ hremoved hpermitted
        rw [← hevicted, ← hresult, h]
        exact nofun

/-- A finished file of five bytes, and a partial one, both last written at the epoch. -/
def finishedFile : CacheFile where
  path := "finished"
  name := some (CacheTarget.new hyphenated 1 ['a']).finalName
  len := 5
  modified := some 0

def partFile : CacheFile where
  path := "part"
  name := some (CacheTarget.new hyphenated 2 ['b']).partName
  len := 5
  modified := some 0

theorem enforceCacheQuota_evicts :
    ∃ kept count, cleanupStaleCacheAt hyphenated "cache" 0 {} [finishedFile] = .ok (kept, count) ∧
      (∀ file ∈ [finishedFile], file ∈ kept ∨ removesStale hyphenated 0 {} file = true) ∧
      QuotaMet hyphenated 6 10 {} kept
        (enforceCacheQuota hyphenated "cache" 6 10 0 {} {} [finishedFile]) :=
  (enforceCacheQuota_spec hyphenated "cache" 6 10 0 {} {} [finishedFile] (by decide)
    (by decide +kernel)).1 (by decide +kernel)

/-- A partial file that is stale is removed, although there is room. -/
theorem enforceCacheQuota_removes_part :
    ¬∀ (U : UuidText) (directory : String) (incomingBytes maxBytes : Nat) (now : Int)
      (stale scan : CacheFaults) (files : List CacheFile),
      let run := enforceCacheQuota U directory incomingBytes maxBytes now stale scan files
      run.result = .ok () → ∀ file ∈ files, file ∈ run.files ∨
        ∃ entry ∈ finishedFiles (managedFiles U scan files), entry.path = file.path := by
  intro h
  have hrun := h hyphenated "cache" 0 10 partStaleAfter {} {} [partFile] (by decide +kernel)
    partFile List.mem_cons_self
  have hfiles : (enforceCacheQuota hyphenated "cache" 0 10 partStaleAfter {} {} [partFile]).files.length =
      0 := by decide
  have hfinished : finishedFiles (managedFiles hyphenated {} [partFile]) = [] := by decide
  rw [List.length_eq_zero_iff.mp hfiles, hfinished] at hrun
  simp at hrun

end AxSsh
