import AxSsh.ForStd.TextLines
import AxSsh.Native.UploadPublication
import AxSsh.Native.Workspace
import Mathlib.Data.List.DropRight

/-!
# The cache of opened remote files

File names, stale files and the quota of the private cache in `sftp/transfer/cache.rs`.

What `Uuid` writes and reads is a parameter.  A directory is the list of its files in the order in
which it is read; what the file system refuses on the way is an argument, once for each time the
directory is read.  A `SystemTime` is its nanoseconds from the Unix epoch.
-/

namespace AxSsh

open TextLines

def maxCacheBasenameBytes : Nat := 160
def maxCacheScanEntries : Nat := 4096
def maxCacheFiles : Nat := 128

def secondNanos : Int := 1000000000
def cacheStaleAfter : Int := 24 * 60 * 60 * secondNanos
def partStaleAfter : Int := 60 * 60 * secondNanos

/-! ## Names -/

/-- Neither a control character nor one that a file name cannot hold. -/
def isSafeInName (c : Char) : Bool :=
  !isControl c && !(c == '/' || c == '\\' || c == '<' || c == '>' || c == ':' || c == '\x22' ||
    c == '|' || c == '?' || c == '*')

def isSpaceOrDot (c : Char) : Bool := c == ' ' || c == '.'

/-- `str::trim_matches`. -/
def trimMatches (p : Char → Bool) (text : List Char) : List Char :=
  (text.dropWhile p).rdropWhile p

/-- The characters that lie within the first `maxBytes` bytes as a whole. -/
def truncateUtf8 : List Char → Nat → List Char
  | [], _ => []
  | c :: value, maxBytes =>
    if c.utf8Size ≤ maxBytes then c :: truncateUtf8 value (maxBytes - c.utf8Size) else []

/-- The stem and the extension that a long name keeps. -/
def splitExtension (name : List Char) : Option (List Char × List Char) :=
  (rsplitOnce '.' name).filter fun (stem, extension) =>
    stem ≠ [] ∧ extension ≠ [] ∧ byteSize extension ≤ 32

def truncateBasename (name : List Char) (maxBytes : Nat) : List Char :=
  if byteSize name ≤ maxBytes then name
  else
    let split := splitExtension name
    let extensionBytes := (split.map fun (_, extension) => byteSize extension + 1).getD 0
    let stem := truncateUtf8 ((split.map (·.1)).getD name) (maxBytes - extensionBytes)
    match split.map (·.2) with
    | some extension =>
      if stem ≠ [] then stem ++ '.' :: extension else truncateUtf8 name maxBytes
    | none => truncateUtf8 name maxBytes

/-- The name of a remote file before it is cut to length. -/
def portableName (name : List Char) : List Char :=
  let sanitized := name.map fun c => if isSafeInName c then c else '_'
  let sanitized := trimMatches isSpaceOrDot sanitized
  if sanitized = [] then "remote-file".toList else sanitized

def sanitizeBasename (name : List Char) : List Char :=
  truncateBasename (portableName name) maxCacheBasenameBytes

/-- `Uuid::to_string`, and whether `Uuid::parse_str` reads a text. -/
structure UuidText where
  format : Uuid → List Char
  parses : List Char → Bool

section Names

variable (U : UuidText)

/-- The names of a cache file below `directory`. -/
structure CacheTarget where
  finalName : List Char
  partName : List Char

def CacheTarget.new (cacheId : Uuid) (remoteName : List Char) : CacheTarget :=
  let finalName := U.format cacheId ++ '-' :: sanitizeBasename remoteName
  { finalName, partName := '.' :: finalName ++ ".part".toList }

/-- `str::strip_suffix`. -/
def stripSuffix (suffix text : List Char) : Option (List Char) :=
  if suffix.isSuffixOf text then some (text.take (text.length - suffix.length)) else none

/-- `str::split_at_checked`: a text can be split between two characters only. -/
def splitAtChecked (mid : Nat) (text : List Char) : Option (List Char × List Char) :=
  let before := truncateUtf8 text mid
  if byteSize before = mid then some (before, text.drop before.length) else none

/-- The name of a partial file without its leading dot and its suffix. -/
def stripPart : List Char → Option (List Char)
  | '.' :: name => stripSuffix ".part".toList name
  | _ => none

def managedCacheName (name : List Char) : Option Bool :=
  let (candidate, isPart) := match stripPart name with
    | some candidate => (candidate, true)
    | none => (name, false)
  match splitAtChecked 36 candidate with
  | some (id, '-' :: basename) =>
    if basename = [] ∨ U.parses id = false then none else some isPart
  | _ => none

/-! ## Stale files -/

/-- What is read of a directory entry; `name` is there where the file's name is Unicode. -/
structure CacheFile where
  path : String
  name : Option (List Char)
  isDir : Bool := false
  isSymlink : Bool := false
  len : Nat
  modified : Option Int

/-- What the file system refuses while a directory is gone through. -/
structure CacheFaults where
  readDir : Bool := false
  entry : String → Bool := fun _ => false
  metadata : String → Bool := fun _ => false
  remove : String → Bool := fun _ => false

def cacheEntryIsStale (modified now : Int) (isPart : Bool) : Bool :=
  let staleAfter := if isPart then partStaleAfter else cacheStaleAfter
  decide (modified ≤ now ∧ staleAfter ≤ now - modified)

/-- Whether `cleanup_stale_cache_at` removes a file that it comes to. -/
def removesStale (now : Int) (faults : CacheFaults) (file : CacheFile) : Bool :=
  if faults.entry file.path then false
  else
    match file.name.bind (managedCacheName U) with
    | none => false
    | some isPart =>
      if faults.metadata file.path ∨ file.isDir then false
      else
        match file.modified with
        | none => false
        | some modified => cacheEntryIsStale modified now isPart && !faults.remove file.path

/-- What stays in the directory, and how many files were removed. -/
def cleanupStaleCacheAt (directory : String) (now : Int) (faults : CacheFaults)
    (files : List CacheFile) : Except String (List CacheFile × Nat) :=
  if faults.readDir then .error s!"cannot read SFTP cache directory {directory}"
  else
    let (seen, rest) := files.splitAt maxCacheScanEntries
    .ok (seen.filter (!removesStale U now faults ·) ++ rest,
      seen.countP (removesStale U now faults))

/-! ## The quota -/

structure ManagedCacheEntry where
  path : String
  size : Nat
  modified : Int
  isPart : Bool
deriving DecidableEq, Repr

def managedCacheEntry (faults : CacheFaults) (file : CacheFile) : Option ManagedCacheEntry :=
  if faults.entry file.path then none
  else
    match file.name.bind (managedCacheName U) with
    | none => none
    | some isPart =>
      if faults.metadata file.path ∨ file.isDir ∨ file.isSymlink then none
      else some { path := file.path, size := file.len, modified := file.modified.getD 0, isPart }

def scanManagedCacheEntries (directory : String) (faults : CacheFaults)
    (files : List CacheFile) : Except String (List ManagedCacheEntry) :=
  if faults.readDir then .error s!"cannot read SFTP cache directory {directory}"
  else if maxCacheScanEntries < files.length then
    .error s!"SFTP cache directory exceeds the {maxCacheScanEntries}-entry scan budget"
  else .ok (files.filterMap (managedCacheEntry U faults))

end Names

/-- `u64::saturating_add`. -/
def saturatingAdd (a b : Nat) : Nat := min (a + b) (2 ^ 64 - 1)

/-- The running totals of `enforce_cache_quota`. -/
structure CacheUsage where
  totalBytes : Nat
  fileCount : Nat
deriving DecidableEq, Repr

def CacheUsage.within (incomingBytes maxBytes : Nat) (usage : CacheUsage) : Bool :=
  decide (saturatingAdd usage.totalBytes incomingBytes ≤ maxBytes ∧
    saturatingAdd usage.fileCount 1 ≤ maxCacheFiles)

def CacheUsage.drop (usage : CacheUsage) (entry : ManagedCacheEntry) : CacheUsage where
  totalBytes := usage.totalBytes - entry.size
  fileCount := usage.fileCount - 1

/-- The loop of `enforce_cache_quota` over the finished files that are left: which of them it
    removes, in order, and the totals after it. -/
def evict (faults : CacheFaults) (incomingBytes maxBytes : Nat) :
    List ManagedCacheEntry → CacheUsage → List ManagedCacheEntry × CacheUsage
  | [], usage => ([], usage)
  | entry :: entries, usage =>
    if usage.within incomingBytes maxBytes then ([], usage)
    else if faults.remove entry.path then evict faults incomingBytes maxBytes entries usage
    else
      let (removed, final) := evict faults incomingBytes maxBytes entries (usage.drop entry)
      (entry :: removed, final)

def CacheUsage.ofEntries (entries : List ManagedCacheEntry) : CacheUsage where
  totalBytes := entries.foldl (fun total entry => saturatingAdd total entry.size) 0
  fileCount := entries.length

/-- The finished files, the oldest first; files of the same time stay in order. -/
def evictionOrder (entries : List ManagedCacheEntry) : List ManagedCacheEntry :=
  (entries.filter (!·.isPart)).mergeSort fun a b => a.modified ≤ b.modified

/-- What a call leaves in the directory, which files the quota loop removed, and its result. -/
structure QuotaRun where
  files : List CacheFile
  evicted : List ManagedCacheEntry
  result : Except String Unit

/-- The two passes over the directory meet the faults `stale` and `scan`. -/
def enforceCacheQuota (U : UuidText) (directory : String) (incomingBytes maxBytes : Nat)
    (now : Int) (stale scan : CacheFaults) (files : List CacheFile) : QuotaRun :=
  if maxBytes < incomingBytes then
    { files, evicted := []
      result := .error <| s!"SFTP cache reservation is {incomingBytes} bytes, exceeding the " ++
        s!"{maxBytes}-byte quota" }
  else
    match cleanupStaleCacheAt U directory now stale files with
    | .error error => { files, evicted := [], result := .error error }
    | .ok (files, _) =>
      match scanManagedCacheEntries U directory scan files with
      | .error error => { files, evicted := [], result := .error error }
      | .ok entries =>
        let (evicted, usage) :=
          evict scan incomingBytes maxBytes (evictionOrder entries) (.ofEntries entries)
        { files := files.filter fun file => file.path ∉ evicted.map (·.path)
          evicted
          result :=
            if maxBytes < saturatingAdd usage.totalBytes incomingBytes then
              .error <| s!"SFTP cache quota would exceed {maxBytes} bytes; " ++
                "close an existing opened file and retry"
            else if maxCacheFiles < saturatingAdd usage.fileCount 1 then
              .error <| s!"SFTP cache quota allows at most {maxCacheFiles} files; " ++
                "close an existing opened file and retry"
            else .ok () }

end AxSsh
