import AxSsh.ForStd.Except
import AxSsh.Native.DownloadDiscovery

/-!
# Downloads stay inside their directory

A local target is the chosen directory followed by names, each a single plain component.  Discovery
builds no other: what the server sends as a name is checked before it is joined, and an entry with
another name is skipped.

## Key results
- `LocalDownloadTarget.finalPath_eq`: the path of a target
- `Contained.step`: what discovery keeps
- `discovery_inside`: every run of discovery
-/

namespace AxSsh.Downloads

variable {windows : Bool}

/-- A name that is read as one plain component. -/
def IsPlainName (windows : Bool) (name : List Char) : Prop :=
  componentsOf windows name = [.normal name]

/-- Below the directory by at least one name. -/
def StrictlyInside (directory path : LocalPath) : Prop :=
  ∃ names : List (List Char), names ≠ [] ∧ path = directory ++ names.map .normal

/-! ## Names -/

theorem isPlainName_of_safe {component : List Char}
    (h : isUnsafeComponent windows component = false) : IsPlainName windows component := by
  simp only [isUnsafeComponent, Bool.or_eq_false_iff, beq_eq_false_iff_ne] at h
  obtain ⟨⟨⟨⟨⟨hne, hdot⟩, hup⟩, hslash⟩, -⟩, hparts⟩ := h
  have hseparator : ∀ c ∈ component, isSeparator windows c = false := by
    intro c hc
    have hc' := List.any_eq_false.mp hslash c hc
    simp only [Bool.or_eq_true, beq_iff_eq, not_or] at hc'
    simp [isSeparator, hc'.1, hc'.2]
  have hbody : bodyComponents windows component = [.normal component] := by
    have hstart : component.head?.any (isSeparator windows) = false := by
      cases component with
      | nil => rfl
      | cons c rest => exact hseparator c List.mem_cons_self
    rw [bodyComponents, List.splitOnP_eq_singleton hseparator, hstart]
    have hpart : partComponent component = some (.normal component) := by
      rw [partComponent, if_neg (not_or.mpr ⟨hne, hdot⟩), if_neg hup]
    simp [hpart, hdot]
  rw [IsPlainName]
  unfold componentsOf at hparts ⊢
  split at hparts
  · split at hparts
    · cases hparts
    · rename_i hdrive
      rw [if_neg hdrive]
      exact hbody
  · exact hbody

theorem joinPath_of_isPlainName {name : List Char} (h : IsPlainName windows name)
    (path : LocalPath) : joinPath windows path name = path ++ [.normal name] := by
  rw [joinPath, show componentsOf windows name = [.normal name] from h]

/-! ## Targets -/

theorem LocalDownloadTarget.isPlainName (target : LocalDownloadTarget windows) :
    ∀ name ∈ target.components, IsPlainName windows name := by
  intro name hname
  have hvalid := target.valid
  unfold validateLocalComponents at hvalid
  split at hvalid
  · cases hvalid
  · split at hvalid
    · cases hvalid
    · rename_i hsafe
      rw [Bool.not_eq_true, List.any_eq_false] at hsafe
      exact isPlainName_of_safe (Bool.eq_false_iff.mpr (hsafe name hname))

theorem LocalDownloadTarget.components_ne (target : LocalDownloadTarget windows) :
    target.components ≠ [] := by
  intro hnil
  have hvalid := target.valid
  rw [hnil] at hvalid
  cases hvalid

theorem foldl_joinPath {names : List (List Char)} (h : ∀ name ∈ names, IsPlainName windows name)
    (path : LocalPath) : names.foldl (joinPath windows) path = path ++ names.map .normal := by
  induction names generalizing path with
  | nil => exact (List.append_nil path).symm
  | cons name names ih =>
    rw [List.forall_mem_cons] at h
    rw [List.foldl_cons, joinPath_of_isPlainName h.1, ih h.2, List.map_cons, List.append_assoc]
    rfl

/-- The path of a target is its directory followed by its names. -/
theorem LocalDownloadTarget.finalPath_eq (target : LocalDownloadTarget windows) :
    target.finalPath = target.root ++ target.components.map .normal :=
  foldl_joinPath target.isPlainName target.root

theorem LocalDownloadTarget.strictlyInside (target : LocalDownloadTarget windows) :
    StrictlyInside target.root target.finalPath :=
  ⟨target.components, target.components_ne, target.finalPath_eq⟩

theorem LocalDownloadTarget.new_eq_ok {root : LocalPath} {components : List (List Char)}
    {target : LocalDownloadTarget windows} (h : new root components = .ok target) :
    target.root = root ∧ target.components = components := by
  unfold new at h
  split at h
  · cases h
  · split at h
    · cases h
    · cases h
      exact ⟨rfl, rfl⟩

theorem SftpDownloadRequest.forLocalDownload_eq_ok {transferId : Uuid} {remotePath : List Char}
    {localDirectory : LocalPath} {components : List (List Char)} {totalBytes : Nat}
    {request : SftpDownloadRequest windows}
    (h : forLocalDownload transferId remotePath localDirectory components totalBytes =
      .ok request) :
    request.localTarget.root = localDirectory ∧ request.localTarget.components = components := by
  obtain ⟨_, -, h⟩ := Except.bind_eq_ok_iff.mp h
  obtain ⟨target, htarget, h⟩ := Except.bind_eq_ok_iff.mp h
  obtain rfl := Except.ok.inj h
  exact LocalDownloadTarget.new_eq_ok htarget

/-! ## Discovery -/

def DiscoveryRun.state : DiscoveryRun windows → Discovery windows
  | idle => {}
  | running d => d
  | ended _ d => d

/-- The local paths of the directories that are prepared and of the requests that are sent. -/
def DiscoveryRun.localPaths (run : DiscoveryRun windows) : List LocalPath :=
  run.state.prepared.map (·.finalPath) ++ run.state.requests.map (·.localTarget.finalPath)

/-- A target of this root: below its directory, and there below its name. -/
structure BelongsTo (root : SftpDownloadRoot) (target : LocalDownloadTarget windows) : Prop where
  root_eq : target.root = root.localDirectory
  name_mem : root.name ∈ target.components

structure Contained (root : SftpDownloadRoot) (d : Discovery windows) : Prop where
  frames : ∀ frame ∈ d.pending, root.name ∈ frame.localComponents
  prepared : ∀ target ∈ d.prepared, BelongsTo root target
  requests : ∀ request ∈ d.requests, BelongsTo root request.localTarget

section Steps

variable {root : SftpDownloadRoot} {d : Discovery windows} {answers : Answers}
  {debug : List Char → String} {childId : Uuid → List Char → Uuid}

theorem Contained.empty : Contained root ({} : Discovery windows) := by
  constructor <;> exact nofun

theorem BelongsTo.of_new {components : List (List Char)} {target : LocalDownloadTarget windows}
    (h : LocalDownloadTarget.new root.localDirectory components = .ok target)
    (hname : root.name ∈ components) : BelongsTo root target := by
  obtain ⟨hroot, hcomponents⟩ := LocalDownloadTarget.new_eq_ok h
  exact ⟨hroot, hcomponents ▸ hname⟩

theorem BelongsTo.of_forLocalDownload {transferId : Uuid} {remotePath : List Char}
    {components : List (List Char)} {totalBytes : Nat} {request : SftpDownloadRequest windows}
    (h : SftpDownloadRequest.forLocalDownload transferId remotePath root.localDirectory components
      totalBytes = .ok request) (hname : root.name ∈ components) :
    BelongsTo root request.localTarget := by
  obtain ⟨hroot, hcomponents⟩ := SftpDownloadRequest.forLocalDownload_eq_ok h
  exact ⟨hroot, hcomponents ▸ hname⟩

theorem Contained.prepare (h : Contained root d) {target : LocalDownloadTarget windows}
    (htarget : BelongsTo root target) :
    Contained root { d with prepared := d.prepared ++ [target] } :=
  ⟨h.frames, List.forall_mem_append.mpr ⟨h.prepared, List.forall_mem_singleton.mpr htarget⟩,
    h.requests⟩

theorem Contained.send (h : Contained root d) {request : SftpDownloadRequest windows}
    {sent : Discovery windows → DiscoveryRun windows} (hrequest : BelongsTo root request.localTarget)
    (hsent : ∀ d, Contained root d → Contained root (sent d).state) :
    Contained root (d.send answers request sent).state := by
  rw [Discovery.send]
  split
  · exact hsent _ ⟨h.frames, h.prepared,
      List.forall_mem_append.mpr ⟨h.requests, List.forall_mem_singleton.mpr hrequest⟩⟩
  · exact h

theorem Contained.enter (h : Contained root d) {path : List Char} {components : List (List Char)}
    (hname : root.name ∈ components) :
    Contained root (d.enter root answers path components).state := by
  rw [Discovery.enter]
  split
  · exact ⟨h.frames, h.prepared, h.requests⟩
  · exact ⟨h.frames, h.prepared, h.requests⟩
  · split
    · exact ⟨h.frames, h.prepared, h.requests⟩
    · rename_i target htarget
      have hprepared := h.prepare (BelongsTo.of_new htarget hname)
      split
      · exact ⟨hprepared.frames, hprepared.prepared, hprepared.requests⟩
      · exact ⟨List.forall_mem_cons.mpr ⟨hname, h.frames⟩, hprepared.prepared, h.requests⟩

theorem Contained.request (h : Contained root d) {entry : DownloadEntry}
    {components : List (List Char)} (hname : root.name ∈ components) :
    Contained root (d.request childId root answers entry components).state := by
  rw [Discovery.request]
  split
  · exact ⟨h.frames, h.prepared, h.requests⟩
  · rename_i request hrequest
    split
    · exact h
    · refine h.send (BelongsTo.of_forLocalDownload hrequest hname) fun d hd => ?_
      exact ⟨hd.frames, hd.prepared, hd.requests⟩

theorem Contained.takeEntry (h : Contained root d) {frame : DownloadDirectoryFrame}
    {file : RemoteFile} (hname : root.name ∈ frame.localComponents) :
    Contained root (d.takeEntry debug childId root answers frame file).state := by
  rw [Discovery.takeEntry]
  split
  · exact ⟨h.frames, h.prepared, h.requests⟩
  · split
    · exact ⟨h.frames, h.prepared, h.requests⟩
    · have hname' (name : List Char) : root.name ∈ frame.localComponents ++ [name] :=
        List.mem_append_left _ hname
      dsimp only
      split
      · exact h.enter (hname' _)
      · exact h.request (hname' _)

theorem Contained.readFrame (h : Contained root d) {frame : DownloadDirectoryFrame}
    {frames : List DownloadDirectoryFrame} (hname : root.name ∈ frame.localComponents)
    (hframes : ∀ frame ∈ frames, root.name ∈ frame.localComponents) :
    Contained root (d.readFrame answers frame frames).state := by
  rw [Discovery.readFrame]
  split
  · exact ⟨hframes, h.prepared, h.requests⟩
  · exact ⟨List.forall_mem_cons.mpr ⟨hname, hframes⟩, h.prepared, h.requests⟩
  · exact ⟨hframes, h.prepared, h.requests⟩
  · exact ⟨hframes, h.prepared, h.requests⟩
  · exact ⟨hframes, h.prepared, h.requests⟩

/-- One round of the loop keeps what is local below the root. -/
theorem Contained.step (h : Contained root d) :
    Contained root (d.step debug childId root answers).state := by
  rw [Discovery.step]
  split
  · exact h
  · rename_i frame frames hpending
    have hframes := h.frames
    rw [hpending, List.forall_mem_cons] at hframes
    split
    · rename_i file entries _
      have htaken : Contained root { d with pending := { frame with entries } :: frames } :=
        ⟨List.forall_mem_cons.mpr hframes, h.prepared, h.requests⟩
      exact htaken.takeEntry hframes.1
    · exact h.readFrame hframes.1 hframes.2

theorem Contained.startFile {attrs : FileAttributes} :
    Contained root (Discovery.startFile childId root answers attrs : DiscoveryRun windows).state := by
  rw [Discovery.startFile]
  split
  · exact .empty
  · rename_i request hrequest
    obtain ⟨_, -, hrequest⟩ := Except.bind_eq_ok_iff.mp hrequest
    split
    · exact .empty
    · refine Contained.empty.send (BelongsTo.of_forLocalDownload hrequest ?_) fun d hd => hd
      exact List.mem_cons_self

theorem Contained.startDirectory :
    Contained root (Discovery.startDirectory debug root answers : DiscoveryRun windows).state := by
  rw [Discovery.startDirectory]
  split
  · exact .empty
  · split
    · exact .empty
    · rename_i target htarget
      have hname : root.name ∈ [root.name] := List.mem_cons_self
      have hprepared : ∀ target' ∈ [target], BelongsTo root target' :=
        List.forall_mem_singleton.mpr (BelongsTo.of_new htarget hname)
      split
      · exact ⟨nofun, hprepared, nofun⟩
      · exact ⟨List.forall_mem_singleton.mpr hname, hprepared, nofun⟩

theorem Contained.start :
    Contained root (Discovery.start debug childId root answers : DiscoveryRun windows).state := by
  rw [Discovery.start]
  split
  · exact .empty
  · dsimp only
    split
    · exact .empty
    · split
      · exact .empty
      · exact .startDirectory
      · exact .startFile

/-- Every run keeps what is local below the root. -/
theorem Contained.run (rounds : List Answers) :
    Contained root
      (rounds.foldl (DiscoveryRun.step debug childId root) (.idle : DiscoveryRun windows)).state := by
  have hstep (run : DiscoveryRun windows) (h : Contained root run.state) (answers : Answers) :
      Contained root (run.step debug childId root answers).state := by
    cases run with
    | idle => exact .start
    | running d => exact Contained.step h
    | ended result d => exact h
  have hall (rounds : List Answers) : ∀ run : DiscoveryRun windows, Contained root run.state →
      Contained root (rounds.foldl (DiscoveryRun.step debug childId root) run).state := by
    induction rounds with
    | nil => exact fun run h => h
    | cons answers rounds ih => exact fun run h => ih _ (hstep run h answers)
  exact hall rounds .idle .empty

/-! ## Other names -/

/-- An entry is gone from its frame and counted as skipped, and nothing else has come of it. -/
def Skips (d d' : Discovery windows) : Prop :=
  d'.pending = d.pending ∧ d'.prepared = d.prepared ∧ d'.requests = d.requests ∧
    d'.summary.discoveredFiles = d.summary.discoveredFiles ∧
    d'.summary.skippedEntries = saturatingSucc d.summary.skippedEntries

theorem LocalDownloadTarget.new_of_not_plain {directory : LocalPath} {components : List (List Char)}
    {name : List Char} (hname : name ∈ components) (hplain : ¬IsPlainName windows name) :
    ∃ error, (new directory components : Except String (LocalDownloadTarget windows)) =
      .error error := by
  cases htarget : (new directory components : Except String (LocalDownloadTarget windows)) with
  | error error => exact ⟨error, rfl⟩
  | ok target =>
    have hcomponents := (new_eq_ok htarget).2
    exact absurd (target.isPlainName name (hcomponents ▸ hname)) hplain

theorem name_of_downloadEntry {parent : List Char} {file : RemoteFile} {entry : DownloadEntry}
    (h : downloadEntry debug parent file = .ok entry) : entry.name = file.filename := by
  unfold downloadEntry at h
  dsimp only at h
  repeat' split at h
  all_goals cases h
  all_goals rfl

/-- Whatever the server answers, an entry whose name is not plain is skipped. -/
theorem skips_takeEntry (frame : DownloadDirectoryFrame) {file : RemoteFile}
    (hplain : ¬IsPlainName windows file.filename) :
    ∃ d', d.takeEntry debug childId root answers frame file = .running d' ∧ Skips d d' := by
  rw [Discovery.takeEntry]
  split
  · exact ⟨_, rfl, rfl, rfl, rfl, rfl, rfl⟩
  · rename_i entry hentry
    rw [← name_of_downloadEntry hentry] at hplain
    -- an entry that is filtered out is skipped before its name is looked at
    split
    · exact ⟨_, rfl, rfl, rfl, rfl, rfl, rfl⟩
    · have hname : entry.name ∈ frame.localComponents ++ [entry.name] := by simp
      obtain ⟨error, herror⟩ : ∃ error, (LocalDownloadTarget.new root.localDirectory
          (frame.localComponents ++ [entry.name]) : Except String (LocalDownloadTarget windows)) =
            .error error :=
        LocalDownloadTarget.new_of_not_plain hname hplain
      dsimp only
      -- directories are skipped when they are entered, files when they are requested
      split
      · rw [Discovery.enter]
        split
        · exact ⟨_, rfl, rfl, rfl, rfl, rfl, rfl⟩
        · exact ⟨_, rfl, rfl, rfl, rfl, rfl, rfl⟩
        · rw [herror]
          exact ⟨_, rfl, rfl, rfl, rfl, rfl, rfl⟩
      · rw [Discovery.request]
        split
        · exact ⟨_, rfl, rfl, rfl, rfl, rfl, rfl⟩
        · rename_i request hrequest
          obtain ⟨_, -, hrequest⟩ := Except.bind_eq_ok_iff.mp hrequest
          obtain ⟨target, htarget, -⟩ := Except.bind_eq_ok_iff.mp hrequest
          rw [herror] at htarget
          cases htarget

end Steps

/-- A local target is strictly inside its directory, and none is built from a name that is not
    plain.  So in every run of discovery, whatever the server sends: each local path is strictly
    inside the chosen directory; where the name of the root is not plain, there is none; and an
    entry whose name is not plain is skipped. -/
theorem discovery_inside (windows : Bool) (debug : List Char → String)
    (childId : Uuid → List Char → Uuid) (root : SftpDownloadRoot) (rounds : List Answers) :
    let run := rounds.foldl (DiscoveryRun.step debug childId root) (.idle : DiscoveryRun windows)
    (∀ target : LocalDownloadTarget windows, StrictlyInside target.root target.finalPath) ∧
      (∀ directory components name, name ∈ components → ¬IsPlainName windows name →
        ∃ error, (LocalDownloadTarget.new directory components :
          Except String (LocalDownloadTarget windows)) = .error error) ∧
      (∀ path ∈ run.localPaths, StrictlyInside root.localDirectory path) ∧
      (¬IsPlainName windows root.name → run.localPaths = []) ∧
      ∀ d frame frames file entries answers, run = .running d → d.pending = frame :: frames →
        frame.entries = file :: entries → ¬IsPlainName windows file.filename →
        ∃ d', run.step debug childId root answers = .running d' ∧
          Skips { d with pending := { frame with entries } :: frames } d' := by
  intro run
  have hrun : Contained root run.state := Contained.run rounds
  -- every local path of the run is that of a target of the root
  have htargets : ∀ path ∈ run.localPaths, ∃ target : LocalDownloadTarget windows,
      BelongsTo root target ∧ path = target.finalPath := by
    intro path hpath
    obtain hpath | hpath := List.mem_append.mp hpath
    · obtain ⟨target, htarget, rfl⟩ := List.mem_map.mp hpath
      exact ⟨target, hrun.prepared target htarget, rfl⟩
    · obtain ⟨request, hrequest, rfl⟩ := List.mem_map.mp hpath
      exact ⟨request.localTarget, hrun.requests request hrequest, rfl⟩
  refine ⟨fun target => target.strictlyInside, ?_, fun path hpath => ?_, fun hplain => ?_, ?_⟩
  · intro directory components name hname hplain
    exact LocalDownloadTarget.new_of_not_plain hname hplain
  · obtain ⟨target, htarget, rfl⟩ := htargets path hpath
    rw [← htarget.root_eq]
    exact target.strictlyInside
  -- a path of the run would have the name of the root among its components
  · refine List.eq_nil_iff_forall_not_mem.mpr fun path hpath => ?_
    obtain ⟨target, htarget, -⟩ := htargets path hpath
    exact hplain (target.isPlainName root.name htarget.name_mem)
  · intro d frame frames file entries answers heq hpending hentries hplain
    rw [heq, DiscoveryRun.step, Discovery.step, hpending]
    dsimp only
    rw [hentries]
    exact skips_takeEntry frame hplain

/-- A directory `x` on a server, to be put below `C:\dl`. -/
def driveRoot : SftpDownloadRoot where
  transferId := 1
  remotePath := "/srv/x".toList
  localDirectory := [.drive 'C', .rootDir, .normal "dl".toList]
  name := ['x']
  filterPatterns := []
  expectedDirectory := true
  allowExistingLocalDirectories := false
  excludedRemotePaths := []

/-- The server lists a name with a drive, the parent directory and a file. -/
def driveRounds : List Answers :=
  let file (name : String) : RemoteFile :=
    { filename := name.toList
      attrs := { isSymlink := false, isDir := false, isRegular := true, size := some 1 } }
  [{ lstat := .ok { isSymlink := false, isDir := true, isRegular := false, size := none }
     opendir := .ok "h" },
    { readdir := .ok [file "C:evil", file "..", file "a"] }, {}, {}, {}]

theorem discovery_inside_drive :
    let run := driveRounds.foldl (DiscoveryRun.step String.ofList (fun id _ => id) driveRoot)
      (.idle : DiscoveryRun true)
    run.localPaths =
        [[.drive 'C', .rootDir, .normal ['d', 'l'], .normal ['x']],
          [.drive 'C', .rootDir, .normal ['d', 'l'], .normal ['x'], .normal ['a']]] ∧
      run.state.summary.skippedEntries = 2 ∧
      ∀ path ∈ run.localPaths, StrictlyInside driveRoot.localDirectory path :=
  ⟨by decide, by decide,
    (discovery_inside true String.ofList (fun id _ => id) driveRoot driveRounds).2.2.1⟩

end AxSsh.Downloads
