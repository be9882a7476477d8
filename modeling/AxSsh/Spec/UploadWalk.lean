import AxSsh.Native.LocalUploads
import Mathlib.Data.List.Infix

/-!
# The walk over local files

The discovery of local uploads keeps a stack of paths and open directories.  It finds what the
recursive walk finds: a path that is rejected is one issue, a regular file is sent once, and a
directory is left to its entries.

## Key results
- `discover_eq`: the loop gives what the walk over the roots finds
- `mem_walk_iff`: the files that the walk sends are those that are reached
- `nodup_walk`: it sends each of them once
- `discoverLocalUploads_walk`: the three together
-/

namespace AxSsh

namespace LocalUploads

/-! ## The tree -/

/-- An entry of a directory. -/
def LocalFiles.Child (files : LocalFiles) (q p : LocalPath) : Prop :=
  files.symlinkMetadata p = .ok .directory ∧
    ∃ entries name, files.readDir p = .ok entries ∧ Except.ok name ∈ entries ∧ q = p ++ [name]

/-- A discovery in a finite tree, whose directories have no entry twice. -/
structure TreeScan extends Scan where
  finite : WellFounded files.Child
  distinct : ∀ path entries, files.readDir path = .ok entries →
    (entries.filterMap Except.toOption).Nodup

/-! ## The walk -/

/-- What a path is to the walk. -/
inductive Visited where
  | rejected (issue : String)
  | file (name : List Char) (size : Nat)
  | directory (name : List Char) (entries : List (Except String OsName))

/-- What comes of an entry. -/
inductive Found where
  | sent (file : PreparedLocalUpload)
  | skipped (issue : String)

variable (scan : Scan)

def classify (path : LocalPath) : Visited :=
  match scan.files.symlinkMetadata path with
  | .error _ => .rejected ("cannot inspect local upload path " ++ scan.debug path)
  | .ok .symlink =>
    .rejected ("local upload tree contains a symbolic link: " ++ scan.debug path)
  | .ok fileType =>
    match uploadLocalName path with
    | .error _ => .rejected ("invalid local upload path " ++ scan.debug path)
    | .ok name =>
      if transferNameMatchesFilter name scan.filters then
        .rejected ("Excluded by transfer filter: " ++ scan.debug path)
      else
        match fileType with
        | .directory =>
          match scan.files.readDir path with
          | .ok entries => .directory name entries
          | .error _ => .rejected ("cannot read local upload directory " ++ scan.debug path)
        | .file size => .file name size
        | _ =>
          .rejected ("local upload tree contains an unsupported file type: " ++ scan.debug path)

/-- The remote directory joined with names. -/
def remotePathOf (names : List (List Char)) : RemotePath :=
  names.foldl joinRemoteUploadPath scan.remoteDirectory

/-- The remote directories for the local ones on the way to a file, the outermost first. -/
def createdDirectories (names : List (List Char)) : List RemotePath :=
  names.inits.tail.map (remotePathOf scan)

def preparedUpload (path : LocalPath) (names : List (List Char)) (name : List Char) (size : Nat) :
    PreparedLocalUpload where
  localPath := path
  remotePath := remotePathOf scan (names ++ [name])
  remoteDirectories := createdDirectories scan names
  size := size

variable {scan}

/-- A path has a valid name that no filter matches. -/
structure Accepted (scan : Scan) (path : LocalPath) (name : List Char) : Prop where
  valid : uploadLocalName path = .ok name
  unfiltered : transferNameMatchesFilter name scan.filters = false

theorem classify_cases (scan : Scan) (path : LocalPath) :
    (∃ issue, classify scan path = .rejected issue) ∨ ∃ name, Accepted scan path name ∧
      ((∃ size, scan.files.symlinkMetadata path = .ok (.file size) ∧
          classify scan path = .file name size) ∨
        ∃ entries, scan.files.symlinkMetadata path = .ok .directory ∧
          scan.files.readDir path = .ok entries ∧
          classify scan path = .directory name entries) := by
  unfold classify
  split
  · exact Or.inl ⟨_, rfl⟩
  · exact Or.inl ⟨_, rfl⟩
  next hmetadata =>
  split
  · exact Or.inl ⟨_, rfl⟩
  next name hname =>
  split
  · exact Or.inl ⟨_, rfl⟩
  next hfilter =>
  have haccepted : Accepted scan path name := ⟨hname, Bool.eq_false_iff.mpr hfilter⟩
  split
  · split
    · next hentries =>
      exact Or.inr ⟨name, haccepted, Or.inr ⟨_, hmetadata, hentries, rfl⟩⟩
    · exact Or.inl ⟨_, rfl⟩
  · exact Or.inr ⟨name, haccepted, Or.inl ⟨_, hmetadata, rfl⟩⟩
  · exact Or.inl ⟨_, rfl⟩

theorem classify_eq_directory_iff {path : LocalPath} {name : List Char}
    {entries : List (Except String OsName)} :
    classify scan path = .directory name entries ↔
      Accepted scan path name ∧ scan.files.symlinkMetadata path = .ok .directory ∧
        scan.files.readDir path = .ok entries := by
  constructor
  · intro h
    obtain ⟨issue, hissue⟩ | ⟨name', haccepted, ⟨size, -, hfile⟩ | ⟨entries', hkind, hlist, hdir⟩⟩ :=
      classify_cases scan path
    · cases h.symm.trans hissue
    · cases h.symm.trans hfile
    · obtain ⟨rfl, rfl⟩ := Visited.directory.inj (h.symm.trans hdir)
      exact ⟨haccepted, hkind, hlist⟩
  · rintro ⟨haccepted, hkind, hlist⟩
    simp only [classify, hkind, haccepted.valid, haccepted.unfiltered, hlist, Bool.false_eq_true,
      if_false]

theorem classify_eq_file_iff {path : LocalPath} {name : List Char} {size : Nat} :
    classify scan path = .file name size ↔
      Accepted scan path name ∧ scan.files.symlinkMetadata path = .ok (.file size) := by
  constructor
  · intro h
    obtain ⟨issue, hissue⟩ | ⟨name', haccepted, ⟨size', hkind, hfile⟩ | ⟨entries, -, -, hdir⟩⟩ :=
      classify_cases scan path
    · cases h.symm.trans hissue
    · obtain ⟨rfl, rfl⟩ := Visited.file.inj (h.symm.trans hfile)
      exact ⟨haccepted, hkind⟩
    · cases h.symm.trans hdir
  · rintro ⟨haccepted, hkind⟩
    simp only [classify, hkind, haccepted.valid, haccepted.unfiltered, Bool.false_eq_true, if_false]

/-- What the walk finds at a path below the directories with some names. -/
def walk (scan : TreeScan) (path : LocalPath) (names : List (List Char)) : List Found :=
  match _h : classify scan.toScan path with
  | .rejected issue => [.skipped issue]
  | .file name size => [.sent (preparedUpload scan.toScan path names name size)]
  | .directory name entries =>
    entries.attach.flatMap fun ⟨entry, _hentry⟩ =>
      match entry with
      | .error e => [.skipped ("cannot read local upload directory: " ++ e)]
      | .ok entryName => walk scan (path ++ [entryName]) (names ++ [name])
termination_by scan.finite.wrap path
decreasing_by
  obtain ⟨-, hmetadata, hentries⟩ := classify_eq_directory_iff.mp _h
  exact ⟨hmetadata, entries, entryName, hentries, _hentry, rfl⟩

/-- What the walk finds in a directory. -/
def walkEntry (scan : TreeScan) (path : LocalPath) (names : List (List Char)) :
    Except String OsName → List Found
  | .error e => [.skipped ("cannot read local upload directory: " ++ e)]
  | .ok name => walk scan (path ++ [name]) names

theorem walk_eq (scan : TreeScan) (path : LocalPath) (names : List (List Char)) :
    walk scan path names =
      match classify scan.toScan path with
      | .rejected issue => [.skipped issue]
      | .file name size => [.sent (preparedUpload scan.toScan path names name size)]
      | .directory name entries => entries.flatMap (walkEntry scan path (names ++ [name])) := by
  rw [walk]
  split
  · next h => rw [h]
  · next h => rw [h]
  · next name entries h =>
    rw [h]
    dsimp only
    conv_rhs => rw [← List.attach_map_subtype_val entries, List.flatMap_map]
    refine List.flatMap_congr fun entry _ => ?_
    obtain ⟨entry | entry, _⟩ := entry <;> rfl

/-! ## The loop -/

/-- A frame, with the names of the directories that it is below. -/
inductive Item where
  | visit (path : LocalPath) (names : List (List Char))
  | entries (path : LocalPath) (entries : List (Except String OsName)) (names : List (List Char))
      (name : List Char)

/-- The node for the directories on the way to a path, from the innermost name. -/
def nodeRev (scan : Scan) : List (List Char) → Option UploadDirectoryNode
  | [] => none
  | name :: names => some (.mk (remotePathOf scan (name :: names).reverse) (nodeRev scan names))

def node (scan : Scan) (names : List (List Char)) : Option UploadDirectoryNode :=
  nodeRev scan names.reverse

theorem node_append (scan : Scan) (names : List (List Char)) (name : List Char) :
    node scan (names ++ [name]) =
      some (.mk (remotePathOf scan (names ++ [name])) (node scan names)) := by
  rw [node, List.reverse_append, List.reverse_singleton, List.singleton_append, nodeRev,
    List.reverse_cons, List.reverse_reverse, node]

theorem remotePathOf_append (scan : Scan) (names : List (List Char)) (name : List Char) :
    remotePathOf scan (names ++ [name]) = joinRemoteUploadPath (remotePathOf scan names) name := by
  rw [remotePathOf, List.foldl_append, remotePathOf]
  rfl

theorem createdDirectories_append (scan : Scan) (names : List (List Char)) (name : List Char) :
    createdDirectories scan (names ++ [name]) =
      createdDirectories scan names ++ [remotePathOf scan (names ++ [name])] := by
  have hinits : (names ++ [name]).inits.tail = names.inits.tail ++ [names ++ [name]] := by
    rw [List.inits_append]
    cases names <;> simp
  rw [createdDirectories, hinits, List.map_append, createdDirectories]
  rfl

theorem remotePath_node (scan : Scan) (names : List (List Char)) :
    ((node scan names).map (·.remotePath)).getD scan.remoteDirectory = remotePathOf scan names := by
  induction names using List.reverseRecOn with
  | nil => rfl
  | append_singleton names name _ =>
    rw [node_append]
    rfl

theorem ancestorPaths_node (scan : Scan) (names : List (List Char)) :
    (((node scan names).map (·.ancestorPaths)).getD []).reverse = createdDirectories scan names := by
  induction names using List.reverseRecOn with
  | nil => rfl
  | append_singleton names name ih =>
    rw [node_append, createdDirectories_append, ← ih, ← List.reverse_cons]
    cases node scan names <;> rfl

def Item.frame (scan : Scan) : Item → UploadWalkFrame
  | visit path names => .visit path (node scan names)
  | entries path list names name =>
    .readDirectory path list (.mk (remotePathOf scan (names ++ [name])) (node scan names))

def emit (scan : Scan) : Found → Progress → Except String Unit × Progress
  | .sent file, progress => send scan file progress
  | .skipped issue, progress => (.ok (), recordUploadDiscoveryIssue issue progress)

/-- What a frame finds by itself. -/
def Item.own (scan : Scan) : Item → List Found
  | visit path names =>
    match classify scan path with
    | .rejected issue => [.skipped issue]
    | .file name size => [.sent (preparedUpload scan path names name size)]
    | .directory _ _ => []
  | entries _ (.error e :: _) _ _ => [.skipped ("cannot read local upload directory: " ++ e)]
  | entries _ _ _ _ => []

def Item.next (scan : Scan) : Item → List Item
  | visit path names =>
    match classify scan path with
    | .directory name list => [entries path list names name]
    | _ => []
  | entries _ [] _ _ => []
  | entries path (.error _ :: list) names name => [entries path list names name]
  | entries path (.ok entryName :: list) names name =>
    [visit (path ++ [entryName]) (names ++ [name]), entries path list names name]

/-- What is found below a frame. -/
def Item.found (scan : TreeScan) : Item → List Found
  | visit path names => walk scan path names
  | entries path list names name => list.flatMap (walkEntry scan path (names ++ [name]))

theorem found_eq (scan : TreeScan) (item : Item) :
    item.found scan = item.own scan.toScan ++ (item.next scan.toScan).flatMap (Item.found scan) := by
  cases item with
  | visit path names =>
    rw [Item.found, walk_eq, Item.own, Item.next]
    cases classify scan.toScan path <;> simp [Item.found]
  | entries path list names name =>
    match list with
    | [] => rfl
    | .error e :: list => simp [Item.found, Item.own, Item.next, walkEntry]
    | .ok entryName :: list => simp [Item.found, Item.own, Item.next, walkEntry]

/-- The branch of the loop for a path, by what the path is to the walk. -/
theorem visit_eq (scan : Scan) (path : LocalPath) (parent : Option UploadDirectoryNode)
    (progress : Progress) :
    visit scan path parent progress =
      match classify scan path with
      | .rejected issue => (.ok [], recordUploadDiscoveryIssue issue progress)
      | .file name size =>
        let directory := (parent.map (·.remotePath)).getD scan.remoteDirectory
        let file := ⟨path, joinRemoteUploadPath directory name,
          ((parent.map (·.ancestorPaths)).getD []).reverse, size⟩
        match send scan file progress with
        | (.ok (), progress) => (.ok [], progress)
        | (.error e, progress) => (.error e, progress)
      | .directory name entries =>
        let directory := (parent.map (·.remotePath)).getD scan.remoteDirectory
        (.ok [.readDirectory path entries (.mk (joinRemoteUploadPath directory name) parent)],
          progress) := by
  unfold visit classify
  cases scan.files.symlinkMetadata path with
  | error _ => rfl
  | ok fileType =>
    dsimp only
    -- a link is rejected before its name is looked at
    by_cases hlink : fileType = .symlink
    · rw [if_pos hlink, hlink]
    rw [if_neg hlink]
    cases uploadLocalName path with
    | error _ => cases fileType <;> first | rfl | exact absurd rfl hlink
    | ok name =>
      dsimp only
      cases transferNameMatchesFilter name scan.filters with
      | true => cases fileType <;> first | rfl | exact absurd rfl hlink
      | false =>
        cases fileType with
        | symlink => exact absurd rfl hlink
        | directory => cases scan.files.readDir path <;> rfl
        | file size => rfl
        | other => rfl

theorem step_frame (scan : Scan) (item : Item) (progress : Progress) :
    step scan (item.frame scan) progress =
      StackLoop.andThen (StackLoop.emitAll (emit scan) (item.own scan) progress)
        (fun progress => (.ok ((item.next scan).map (Item.frame scan)), progress))
        fun e progress => (.error e, progress) := by
  cases item with
  | visit path names =>
    rw [Item.frame, step, visit_eq, Item.own, Item.next]
    cases classify scan path with
    | rejected issue => rfl
    | file name size =>
      dsimp only
      rw [remotePath_node, ancestorPaths_node, ← remotePathOf_append]
      have hfile : preparedUpload scan path names name size =
          ⟨path, remotePathOf scan (names ++ [name]), createdDirectories scan names, size⟩ := rfl
      rw [StackLoop.emitAll, emit, hfile]
      rcases send scan _ progress with ⟨_ | _, _⟩ <;> rfl
    | directory name entries =>
      dsimp only
      rw [remotePath_node, ← remotePathOf_append]
      rfl
  | entries path list names name =>
    rcases list with _ | ⟨e | entryName, list⟩
    · rfl
    · rfl
    · rw [Item.frame, step, ← node_append]
      rfl

theorem acc_entries {scan : Scan} {path : LocalPath} {list : List (Except String OsName)}
    {names : List (List Char)} {name : List Char}
    (h : ∀ entryName, Except.ok entryName ∈ list → ∀ names,
      Acc (fun b a => b ∈ Item.next scan a) (.visit (path ++ [entryName]) names)) :
    Acc (fun b a => b ∈ Item.next scan a) (.entries path list names name) := by
  induction list with
  | nil => exact Acc.intro _ nofun
  | cons entry list ih =>
    have hrest := ih fun entryName hmem => h entryName (List.mem_cons_of_mem entry hmem)
    refine Acc.intro _ fun b hb => ?_
    cases entry with
    | error e =>
      obtain rfl := List.mem_singleton.mp hb
      exact hrest
    | ok entryName =>
      obtain rfl | hb := List.mem_cons.mp hb
      · exact h entryName List.mem_cons_self _
      · obtain rfl := List.mem_singleton.mp hb
        exact hrest

/-- The walk ends, since the tree is finite. -/
theorem acc_visit (scan : TreeScan) (path : LocalPath) (names : List (List Char)) :
    Acc (fun b a => b ∈ Item.next scan.toScan a) (.visit path names) := by
  induction path using scan.finite.induction generalizing names with
  | _ path ih =>
    refine Acc.intro _ fun b hb => ?_
    rw [Item.next] at hb
    split at hb
    · next name list hclassify =>
      obtain rfl := List.mem_singleton.mp hb
      obtain ⟨-, hmetadata, hlist⟩ := classify_eq_directory_iff.mp hclassify
      exact acc_entries fun entryName hmem names =>
        ih (path ++ [entryName]) ⟨hmetadata, list, entryName, hlist, hmem, rfl⟩ names
    · cases hb

theorem follows (scan : TreeScan) :
    StackLoop.Follows (step scan.toScan) (emit scan.toScan) (Item.frame scan.toScan)
      (Item.own scan.toScan) (Item.next scan.toScan) where
  step_eq := step_frame scan.toScan
  wellFounded := ⟨fun item => match item with
    | .visit path names => acc_visit scan path names
    | .entries path _ _ _ => acc_entries fun entryName _ names =>
      acc_visit scan (path ++ [entryName]) names⟩

/-! ## The result -/

def Found.file? : Found → Option PreparedLocalUpload
  | sent file => some file
  | skipped _ => none

def Found.issue? : Found → Option String
  | sent _ => none
  | skipped issue => some issue

/-- The progress after some files have been sent and some issues recorded. -/
def progressOf (files : List PreparedLocalUpload) (issues : List String) : Progress where
  sent := files
  summary := {
    discoveredFiles := min files.length (2 ^ 64 - 1)
    skippedEntries := min issues.length (2 ^ 64 - 1)
    firstIssue := issues.head? }

theorem saturatingSucc_min (n : Nat) :
    saturatingSucc (min n (2 ^ 64 - 1)) = min (n + 1) (2 ^ 64 - 1) := by
  rw [saturatingSucc]
  omega

theorem record_progressOf (files : List PreparedLocalUpload) (issues : List String)
    (issue : String) :
    recordUploadDiscoveryIssue issue (progressOf files issues) =
      progressOf files (issues ++ [issue]) := by
  unfold recordUploadDiscoveryIssue progressOf
  dsimp only
  rw [saturatingSucc_min, List.length_append, List.length_singleton, List.head?_append]
  rfl

/-- The receiver takes this many files. -/
def Takes (scan : Scan) (count : Nat) : Prop := ∀ k, scan.taken = some k → count ≤ k

theorem send_progressOf {scan : Scan} {files : List PreparedLocalUpload} (issues : List String)
    (file : PreparedLocalUpload) (h : Takes scan (files.length + 1)) :
    send scan file (progressOf files issues) = (.ok (), progressOf (files ++ [file]) issues) := by
  have hopen : scan.taken.all (files.length < ·) = true := by
    cases htaken : scan.taken with
    | none => rfl
    | some k => exact decide_eq_true (h k htaken)
  unfold send progressOf
  dsimp only
  rw [if_pos hopen, saturatingSucc_min, List.length_append, List.length_singleton]

theorem send_closed {scan : Scan} {files : List PreparedLocalUpload} (issues : List String)
    (file : PreparedLocalUpload) (h : scan.taken = some files.length) :
    send scan file (progressOf files issues) =
      (.error "SFTP upload queue stopped during local discovery", progressOf files issues) := by
  unfold send progressOf
  dsimp only
  rw [h, if_neg (by simp)]

section Emit

variable {scan : Scan} {found : List Found} {files : List PreparedLocalUpload}
  {issues : List String}

theorem emitAll_skipped (issue : String) :
    StackLoop.emitAll (emit scan) (.skipped issue :: found) (progressOf files issues) =
      StackLoop.emitAll (emit scan) found (progressOf files (issues ++ [issue])) := by
  rw [StackLoop.emitAll, emit, record_progressOf, StackLoop.andThen]

theorem emitAll_sent {file : PreparedLocalUpload} (h : Takes scan (files.length + 1)) :
    StackLoop.emitAll (emit scan) (.sent file :: found) (progressOf files issues) =
      StackLoop.emitAll (emit scan) found (progressOf (files ++ [file]) issues) := by
  rw [StackLoop.emitAll, emit, send_progressOf issues file h, StackLoop.andThen]

/-- All is recorded where the receiver stays for long enough. -/
theorem emitAll_eq (h : Takes scan (files.length + (found.filterMap Found.file?).length)) :
    StackLoop.emitAll (emit scan) found (progressOf files issues) =
      (.ok (), progressOf (files ++ found.filterMap Found.file?)
        (issues ++ found.filterMap Found.issue?)) := by
  induction found generalizing files issues with
  | nil =>
    rw [List.filterMap_nil, List.filterMap_nil, List.append_nil, List.append_nil]
    rfl
  | cons o found ih =>
    cases o with
    | skipped issue =>
      rw [emitAll_skipped, ih h]
      simp [Found.file?, Found.issue?, List.filterMap_cons]
    | sent file =>
      have hrest : Takes scan ((files ++ [file]).length + (found.filterMap Found.file?).length) := by
        rw [List.length_append, List.length_singleton, Nat.add_right_comm]
        exact h
      have hfirst : Takes scan (files.length + 1) := by
        intro k hk
        have hle := hrest k hk
        rw [List.length_append, List.length_singleton] at hle
        omega
      rw [emitAll_sent hfirst, ih hrest]
      simp [Found.file?, Found.issue?, List.filterMap_cons]

/-- A receiver that goes away has taken the first files. -/
theorem emitAll_closed {k : Nat} (htaken : scan.taken = some k) (hle : files.length ≤ k)
    (h : k < files.length + (found.filterMap Found.file?).length) :
    ∃ progress, StackLoop.emitAll (emit scan) found (progressOf files issues) =
        (.error "SFTP upload queue stopped during local discovery", progress) ∧
      progress.sent = (files ++ found.filterMap Found.file?).take k := by
  induction found generalizing files issues with
  | nil =>
    rw [List.filterMap_nil, List.length_nil] at h
    omega
  | cons o found ih =>
    cases o with
    | skipped issue =>
      rw [emitAll_skipped]
      exact ih hle h
    | sent file =>
      -- the channel is closed at this file, or at a later one
      obtain rfl | hlt := Nat.eq_or_lt_of_le hle
      · refine ⟨progressOf files issues, ?_, ?_⟩
        · rw [StackLoop.emitAll, emit, send_closed issues file htaken, StackLoop.andThen]
        · exact (List.take_left' rfl).symm
      · have htakes : Takes scan (files.length + 1) := by
          rintro k' hk'
          obtain rfl := Option.some.inj (htaken.symm.trans hk')
          exact hlt
        have hrest : files ++ (Found.sent file :: found).filterMap Found.file? =
            files ++ [file] ++ found.filterMap Found.file? := by simp [Found.file?]
        rw [emitAll_sent htakes, hrest]
        refine ih ?_ ?_
        · rw [List.length_append]
          exact hlt
        · have hlen := congrArg List.length hrest
          rw [List.length_append, List.length_append] at hlen
          omega

end Emit

/-! ## The roots -/

def hasName (path : LocalPath) : Bool := (uploadLocalName path).isOk

/-- Everything that is found: the roots without a valid name, which are looked at first and from
    the last one, and what the walks from the others find. -/
def walkRoots (scan : TreeScan) (roots : List LocalPath) : List Found :=
  ((roots.filter (!hasName ·)).reverse.map fun root =>
      .skipped ("invalid local upload root " ++ scan.debug root)) ++
    (roots.filter hasName).flatMap (walk scan · [])

theorem pushRoots_eq (scan : Scan) (roots : List LocalPath) :
    pushRoots scan roots =
      ((roots.filter hasName).map fun root => .visit root none,
        progressOf [] ((roots.filter (!hasName ·)).reverse.map fun root =>
          "invalid local upload root " ++ scan.debug root)) := by
  rw [pushRoots, List.foldl_reverse]
  induction roots with
  | nil => rfl
  | cons root roots ih =>
    rw [List.foldr_cons, ih]
    cases hname : uploadLocalName root with
    | error e =>
      have hno : hasName root = false := by rw [hasName, hname]; rfl
      simp [hno, record_progressOf]
    | ok name =>
      have hyes : hasName root = true := by rw [hasName, hname]; rfl
      simp [hyes]

theorem files_of_not_hasName (scan : TreeScan) {root : LocalPath} (h : hasName root = false) :
    (walk scan root []).filterMap Found.file? = [] := by
  rw [walk_eq]
  obtain ⟨issue, hissue⟩ | ⟨name, haccepted, -⟩ := classify_cases scan.toScan root
  · rw [hissue]
    rfl
  · rw [hasName, haccepted.valid] at h
    cases h

theorem files_of_issues (f : LocalPath → String) (l : List LocalPath) :
    (l.map fun root => Found.skipped (f root)).filterMap Found.file? = [] := by
  simp [Found.file?, List.filterMap_map]

/-- The loop gives what the walks from the roots find. -/
theorem discover_eq (scan : TreeScan) (roots : List LocalPath) :
    ∃ n, ∀ fuel, discoverLocalUploadsStreaming scan.toScan (n + fuel) roots =
      let (result, progress) :=
        StackLoop.emitAll (emit scan.toScan) (walkRoots scan roots) (progressOf [] [])
      some (result.map fun _ => progress.summary, progress.sent) := by
  have hitems : (roots.filter hasName).map (fun root => UploadWalkFrame.visit root none) =
      ((roots.filter hasName).map fun root => Item.visit root []).map
        (Item.frame scan.toScan) := by
    rw [List.map_map]
    rfl
  have hissues : StackLoop.emitAll (emit scan.toScan) (walkRoots scan roots) (progressOf [] []) =
      StackLoop.emitAll (emit scan.toScan)
        (((roots.filter hasName).map fun root => Item.visit root []).flatMap (Item.found scan))
        (pushRoots scan.toScan roots).2 := by
    rw [walkRoots, StackLoop.emitAll_append, pushRoots_eq, List.flatMap_map]
    rw [emitAll_eq, files_of_issues]
    · simp [StackLoop.andThen, List.filterMap_map, Found.issue?, Function.comp_def, Item.found]
    · rw [files_of_issues]
      exact fun k _ => Nat.zero_le k
  obtain ⟨n, hn⟩ := StackLoop.run_eq (follows scan) (found_eq scan)
    ((roots.filter hasName).map fun root => Item.visit root []) (pushRoots scan.toScan roots).2
  refine ⟨n, fun fuel => ?_⟩
  have hrun := hn fuel
  rw [← hitems, ← hissues] at hrun
  have hstack : (pushRoots scan.toScan roots).1 =
      (roots.filter hasName).map fun root => .visit root none := by rw [pushRoots_eq]
  unfold discoverLocalUploadsStreaming
  dsimp only
  rw [hstack, hrun, Option.map_some]

/-! ## What the walk sends -/

/-- A path is reached from a root, through directories with the names `names`. -/
inductive Reaches (scan : Scan) (root : LocalPath) :
    LocalPath → List (List Char) → List Char → Prop
  | root {name} (accepted : Accepted scan root name) : Reaches scan root root [] name
  | entry {path names name entries entryName name'} (above : Reaches scan root path names name)
      (directory : scan.files.symlinkMetadata path = .ok .directory)
      (listed : scan.files.readDir path = .ok entries) (mem : Except.ok entryName ∈ entries)
      (accepted : Accepted scan (path ++ [entryName]) name') :
      Reaches scan root (path ++ [entryName]) (names ++ [name]) name'

theorem Reaches.accepted {scan : Scan} {root path : LocalPath} {names : List (List Char)}
    {name : List Char} (h : Reaches scan root path names name) : Accepted scan path name := by
  cases h with
  | root accepted => exact accepted
  | entry _ _ _ _ accepted => exact accepted

/-- The files below a path that is reached are those that the walk from there sends. -/
theorem sent_mem_walk {scan : TreeScan} {root path : LocalPath} {names : List (List Char)}
    {name : List Char} {file : PreparedLocalUpload} (h : Reaches scan.toScan root path names name)
    (hfile : Found.sent file ∈ walk scan path names) : Found.sent file ∈ walk scan root [] := by
  induction h with
  | root accepted => exact hfile
  | @entry path names name entries entryName name' above directory listed mem accepted ih =>
    refine ih ?_
    rw [walk_eq, classify_eq_directory_iff.mpr ⟨above.accepted, directory, listed⟩]
    exact List.mem_flatMap.mpr ⟨.ok entryName, mem, hfile⟩

theorem exists_reaches_of_mem_walk {scan : TreeScan} {root : LocalPath}
    {file : PreparedLocalUpload} (path : LocalPath) (names : List (List Char))
    (h : ∀ name, Accepted scan.toScan path name → Reaches scan.toScan root path names name)
    (hfile : Found.sent file ∈ walk scan path names) :
    ∃ path names name size, Reaches scan.toScan root path names name ∧
      scan.files.symlinkMetadata path = .ok (.file size) ∧
      file = preparedUpload scan.toScan path names name size := by
  induction path using scan.finite.induction generalizing names with
  | _ path ih =>
    rw [walk_eq] at hfile
    split at hfile
    · obtain hfile := List.mem_singleton.mp hfile
      cases hfile
    · next name size hclassify =>
      obtain ⟨haccepted, hkind⟩ := classify_eq_file_iff.mp hclassify
      obtain rfl := Found.sent.inj (List.mem_singleton.mp hfile)
      exact ⟨path, names, name, size, h name haccepted, hkind, rfl⟩
    · next name entries hclassify =>
      obtain ⟨haccepted, hkind, hlist⟩ := classify_eq_directory_iff.mp hclassify
      obtain ⟨entry, hmem, hfile⟩ := List.mem_flatMap.mp hfile
      cases entry with
      | error e =>
        have hfile := List.mem_singleton.mp hfile
        cases hfile
      | ok entryName =>
        exact ih (path ++ [entryName]) ⟨hkind, entries, entryName, hlist, hmem, rfl⟩
          (names ++ [name])
          (fun name' haccepted' => (h name haccepted).entry hkind hlist hmem haccepted') hfile

/-- The walk from a root sends the regular files that are reached from it. -/
theorem mem_walk_iff (scan : TreeScan) (root : LocalPath) (file : PreparedLocalUpload) :
    Found.sent file ∈ walk scan root [] ↔
      ∃ path names name size, Reaches scan.toScan root path names name ∧
        scan.files.symlinkMetadata path = .ok (.file size) ∧
        file = preparedUpload scan.toScan path names name size := by
  constructor
  · exact exists_reaches_of_mem_walk root [] fun name haccepted => .root haccepted
  · rintro ⟨path, names, name, size, hreaches, hkind, rfl⟩
    refine sent_mem_walk hreaches ?_
    rw [walk_eq, classify_eq_file_iff.mpr ⟨hreaches.accepted, hkind⟩]
    exact List.mem_singleton_self _

def sentPaths (found : List Found) : List LocalPath :=
  (found.filterMap Found.file?).map (·.localPath)

theorem sentPaths_flatMap {α : Type} (f : α → List Found) (l : List α) :
    sentPaths (l.flatMap f) = l.flatMap fun a => sentPaths (f a) := by
  induction l with
  | nil => rfl
  | cons a l ih =>
    rw [List.flatMap_cons, List.flatMap_cons, ← ih, sentPaths, List.filterMap_append,
      List.map_append]
    rfl

/-- What the walk sends lies below where it is. -/
theorem isPrefix_of_mem_sentPaths {scan : TreeScan} {path p : LocalPath}
    {names : List (List Char)} (h : p ∈ sentPaths (walk scan path names)) : path <+: p := by
  induction path using scan.finite.induction generalizing names with
  | _ path ih =>
    rw [walk_eq] at h
    split at h
    · cases h
    · obtain rfl := List.mem_singleton.mp h
      exact List.prefix_rfl
    · next name entries hclassify =>
      obtain ⟨-, hkind, hlist⟩ := classify_eq_directory_iff.mp hclassify
      rw [sentPaths_flatMap] at h
      obtain ⟨entry, hmem, hp⟩ := List.mem_flatMap.mp h
      cases entry with
      | error e => cases hp
      | ok entryName =>
        have hbelow := ih (path ++ [entryName]) ⟨hkind, entries, entryName, hlist, hmem, rfl⟩ hp
        exact (List.prefix_append path [entryName]).trans hbelow

/-- The walk sends each file once. -/
theorem nodup_walk (scan : TreeScan) (path : LocalPath) (names : List (List Char)) :
    (sentPaths (walk scan path names)).Nodup := by
  induction path using scan.finite.induction generalizing names with
  | _ path ih =>
    rw [walk_eq]
    split
    · exact List.nodup_nil
    · exact List.nodup_singleton _
    · next name entries hclassify =>
      obtain ⟨-, hkind, hlist⟩ := classify_eq_directory_iff.mp hclassify
      rw [sentPaths_flatMap, List.nodup_flatMap]
      constructor
      · intro entry hmem
        cases entry with
        | error e => exact List.nodup_nil
        | ok entryName =>
          exact ih (path ++ [entryName]) ⟨hkind, entries, entryName, hlist, hmem, rfl⟩ _
      · -- the files of two entries differ in the name of the entry
        refine (List.pairwise_filterMap.mp (scan.distinct path entries hlist)).imp ?_
        intro entry entry' hne p hp hp'
        cases entry with
        | error e => cases hp
        | ok entryName =>
          cases entry' with
          | error e => cases hp'
          | ok entryName' =>
            have hbelow := isPrefix_of_mem_sentPaths hp
            have hbelow' := isPrefix_of_mem_sentPaths hp'
            have heq := (List.prefix_of_prefix_length_le hbelow hbelow' (by simp)).eq_of_length
              (by simp)
            have hname : entryName = entryName' := List.singleton_inj.mp (List.append_cancel_left heq)
            exact hne entryName rfl entryName' rfl hname

/-- Discovery ends with what the recursive walk finds, in its order, as far as the receiver takes
    it; from each root the walk sends exactly the regular files that are reached from it, each of
    them once. -/
theorem discoverLocalUploads_walk (scan : TreeScan) (roots : List LocalPath) :
    (∃ n, ∀ fuel,
      let files := (walkRoots scan roots).filterMap Found.file?
      let issues := (walkRoots scan roots).filterMap Found.issue?
      (Takes scan.toScan files.length →
        discoverLocalUploadsStreaming scan.toScan (n + fuel) roots =
          some (.ok {
            discoveredFiles := min files.length (2 ^ 64 - 1)
            skippedEntries := min issues.length (2 ^ 64 - 1)
            firstIssue := issues.head? }, files)) ∧
      ∀ k, scan.taken = some k → k < files.length →
        discoverLocalUploadsStreaming scan.toScan (n + fuel) roots =
          some (.error "SFTP upload queue stopped during local discovery", files.take k)) ∧
    (walkRoots scan roots).filterMap Found.file? =
      roots.flatMap (fun root => (walk scan root []).filterMap Found.file?) ∧
    ∀ root, (sentPaths (walk scan root [])).Nodup ∧
      ∀ file, Found.sent file ∈ walk scan root [] ↔
        ∃ path names name size, Reaches scan.toScan root path names name ∧
          scan.files.symlinkMetadata path = .ok (.file size) ∧
          file = preparedUpload scan.toScan path names name size := by
  refine ⟨?_, ?_, fun root => ⟨nodup_walk scan root [], mem_walk_iff scan root⟩⟩
  · obtain ⟨n, hn⟩ := discover_eq scan roots
    refine ⟨n, fun fuel => ⟨fun htakes => ?_, fun k htaken hlt => ?_⟩⟩
    -- the channel takes all files, or it is closed after the first k of them
    · rw [hn fuel, emitAll_eq (by rwa [List.length_nil, Nat.zero_add])]
      rfl
    · obtain ⟨progress, hclosed, hsent⟩ : ∃ progress,
          StackLoop.emitAll (emit scan.toScan) (walkRoots scan roots) (progressOf [] []) =
            (.error "SFTP upload queue stopped during local discovery", progress) ∧
          progress.sent = ([] ++ (walkRoots scan roots).filterMap Found.file?).take k :=
        emitAll_closed htaken (by exact Nat.zero_le k) (by rwa [List.length_nil, Nat.zero_add])
      rw [hn fuel, hclosed]
      dsimp only
      rw [hsent]
      rfl
  -- issues of the roots themselves hold no file
  · rw [walkRoots, List.filterMap_append, List.filterMap_flatMap]
    rw [files_of_issues, List.nil_append]
    induction roots with
    | nil => rfl
    | cons root roots ih =>
      rw [List.flatMap_cons, ← ih]
      cases hname : hasName root with
      | true => rw [List.filter_cons_of_pos hname, List.flatMap_cons]
      | false =>
        rw [List.filter_cons_of_neg (Bool.eq_false_iff.mp hname),
          files_of_not_hasName scan hname, List.nil_append]

/-- A regular file and nothing else. -/
def oneFile : TreeScan where
  files := {
    symlinkMetadata path := if path = [.utf8 ['a']] then .ok (.file 3) else .error "not found"
    readDir _ := .error "not a directory" }
  debug _ := ""
  remoteDirectory := ['/']
  filters := []
  finite := ⟨fun path => Acc.intro path fun _ ⟨_, _, _, hlist, _⟩ => nomatch hlist⟩
  distinct := nofun

/-- A root that is listed twice is walked twice, and its file sent twice. -/
theorem root_listed_twice_sent_twice :
    discoverLocalUploadsStreaming oneFile.toScan 2 [[.utf8 ['a']], [.utf8 ['a']]] =
      some (.ok { discoveredFiles := 2 },
        [⟨[.utf8 ['a']], ['/', 'a'], [], 3⟩, ⟨[.utf8 ['a']], ['/', 'a'], [], 3⟩]) := rfl

end LocalUploads

end AxSsh
