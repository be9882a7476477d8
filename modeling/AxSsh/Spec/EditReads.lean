import AxSsh.ForStd.RangeReads
import AxSsh.Spec.EditRequests

/-!
# Reading the copy of a remote edit

`read_edit_file` succeeds only with all bytes of a file that stayed the same, and closes what it
opened once.

## Key results
- `readChunk_spec`, `readChunks_spec`: the window of reads has the bytes of the file in order
- `readEditFile_succeeds`: what a run that succeeds said
- `readEditFile_guarded`: every run
-/

namespace AxSsh

namespace SftpEdit

open Dialogue RangeReads

/-- The replies of the server to reads are those for a file. -/
structure Serves (server : EditServer) (file : FileData) : Prop where
  data : ∀ offset bytes, server (.read offset) = .reply (.data bytes) → bytes <+: file.drop offset
  eof : ∀ offset, server (.read offset) = .reply (.status .eof) → file.length ≤ offset

def EditRequest.isRead : EditRequest → Bool
  | .read .. => true
  | _ => false

def EditEvent.isClose : EditEvent → Bool
  | .sent (.close _) => true
  | _ => false

section Reads

variable {server : EditServer} {handle : String} {size : Nat} {file : FileData}

theorem expect_data_iff {late wrong : EditError} {answer : SftpAnswer} {data : FileData} :
    answer.expect SftpPacket.data? late wrong = .ok data ↔ answer = .reply (.data data) := by
  rw [expect_eq_ok_iff]
  constructor
  · rintro ⟨packet, rfl, hpacket⟩
    unfold SftpPacket.data? at hpacket
    split at hpacket <;> cases hpacket
    rfl
  · exact fun h => ⟨_, h, rfl⟩

/-- The reply to a read extends the chunk. -/
theorem Serves.arrived (h : Serves server file) {start length : Nat} {chunk data : FileData}
    (hchunk : Arrived file start length chunk)
    (hserver : server (.read (start + chunk.length)) = .reply (.data data))
    (hfits : data.length ≤ length - chunk.length) : Arrived file start length (chunk ++ data) := by
  refine hchunk.extend ?_
  rw [Arrived, List.prefix_take_iff]
  exact ⟨h.data _ data hserver, hfits⟩

theorem readChunk_spec {start length rounds : Nat} {chunk out : FileData}
    (h : (readChunk server handle start length rounds chunk).result = .ok out)
    (hrounds : length ≤ chunk.length + rounds) (hle : chunk.length ≤ length) :
    out.length = length ∧
      ∀ file, Serves server file → Arrived file start length chunk →
        Arrived file start length out := by
  induction rounds generalizing chunk with
  | zero =>
    cases h
    exact ⟨by omega, fun _ _ harrived => harrived⟩
  | succ rounds ih =>
    rw [readChunk] at h
    split at h
    · rename_i hshort
      obtain ⟨data, hdata, h⟩ := result_bind_eq_ok_iff.mp h
      have hserver : server (.read (start + chunk.length)) = .reply (.data data) := by
        -- the first request of a chunk was sent before
        split at hdata <;> exact expect_data_iff.mp hdata
      obtain ⟨hvalid, h⟩ := result_bind_unit_iff.mp h
      simp only [result_lift, bailIf_eq_ok_iff, Bool.or_eq_false_iff, List.isEmpty_eq_false_iff,
        decide_eq_false_iff_not, Nat.not_lt] at hvalid
      obtain ⟨hnonempty, hfits⟩ := hvalid
      have hpos := List.length_pos_iff.mpr hnonempty
      obtain ⟨hlength, hout⟩ := ih h (by rw [List.length_append]; omega)
        (by rw [List.length_append]; omega)
      exact ⟨hlength, fun file hfile hchunk => hout file hfile (hfile.arrived hchunk hserver hfits)⟩
    · cases h
      exact ⟨by omega, fun _ _ harrived => harrived⟩

/-- The window holds the ranges from the data to what is queued. -/
structure Windowed (size first queued : Nat) (window : List (Nat × Nat)) : Prop where
  abut : Abut first window queued
  within : queued ≤ size
  solid : ∀ range ∈ window, 0 < range.2

theorem fillWindow_spec {room first queued queued' : Nat} {window window' : List (Nat × Nat)}
    (h : Windowed size first queued window)
    (hfill : (fillWindow handle size room queued window).result = .ok (queued', window')) :
    Windowed size first queued' window' := by
  induction room generalizing queued window with
  | zero =>
    cases hfill
    exact h
  | succ room ih =>
    rw [fillWindow] at hfill
    split at hfill
    · rename_i hlt
      refine ih ⟨h.abut.push _, ?_, fun range hrange => ?_⟩ (result_bind_unit_iff.mp hfill).2
      · omega
      · rcases List.mem_append.mp hrange with hrange | hrange
        · exact h.solid range hrange
        · obtain rfl := List.mem_singleton.mp hrange
          show 0 < min (size - queued) chunkBytes
          unfold chunkBytes
          omega
    · cases hfill
      exact h

theorem readChunks_spec {rounds queued : Nat} {window : List (Nat × Nat)} {data out : FileData}
    (h : (readChunks server handle size rounds queued window data).result = .ok out)
    (hwindow : Windowed size data.length queued window) (hrounds : size ≤ data.length + rounds) :
    out.length = size ∧ ∀ file, Serves server file →
      data = file.take data.length → out = file.take size := by
  induction rounds generalizing queued window data with
  | zero =>
    -- the rounds are used up, so everything has arrived
    obtain rfl := Except.ok.inj h
    have hle := hwindow.abut.le.trans hwindow.within
    have hfull : data.length = size := by omega
    exact ⟨hfull, fun file _ hdata => hfull ▸ hdata⟩
  | succ rounds ih =>
    rw [readChunks] at h
    split at h
    · obtain ⟨⟨queued', window'⟩, hfill, hnext⟩ := result_bind_eq_ok_iff.mp h
      have hfilled := fillWindow_spec hwindow hfill
      cases window' with
      | nil => cases hnext
      | cons range rest =>
        obtain ⟨start, length⟩ := range
        obtain ⟨chunk, hchunk, hloop⟩ := result_bind_eq_ok_iff.mp hnext
        -- the next chunk begins where the data ends
        obtain ⟨rfl, hrest⟩ := hfilled.abut
        obtain ⟨hlength, harrived⟩ := readChunk_spec hchunk (by simp) (Nat.zero_le _)
        have hsolid := hfilled.solid _ List.mem_cons_self
        have hmore : (data ++ chunk).length = data.length + length := by
          rw [List.length_append, hlength]
        obtain ⟨hout, hfile⟩ := ih hloop
          ⟨hmore ▸ hrest, hfilled.within, fun r hr => hfilled.solid r (List.mem_cons_of_mem _ hr)⟩
          (by rw [hmore]; simp only at hsolid; omega)
        refine ⟨hout, fun file hserves hdata => hfile file hserves ?_⟩
        have htake := (harrived file hserves .nil).take_append hlength
        rw [hmore, ← htake, ← hdata]
    · obtain rfl := Except.ok.inj h
      have hle := hwindow.abut.le.trans hwindow.within
      have hfull : data.length = size := by omega
      exact ⟨hfull, fun file _ hdata => hfull ▸ hdata⟩

end Reads

/-! ## A whole run -/

section Runs

variable {server : EditServer} {path : RemotePath} {handle : String} {size maxBytes : Nat}
  {modified : Option Nat} {value : SftpWriteResult}

/-- The events of a check of the open file. -/
def handleCheck (handle : String) (attrs : FileAttributes) : List EditEvent :=
  [.sent (.fstat handle), .answered (.fstat handle) (.reply (.attrs attrs))]

/-- The events of the open file between its first and its last check. -/
def IsRead (e : EditEvent) : Prop := e.request.isRead = true

theorem isRead_fillWindow {room queued : Nat} {window : List (Nat × Nat)} :
    Says IsRead (fillWindow handle size room queued window) := by
  induction room generalizing queued window with
  | zero => exact .pure _
  | succ room ih =>
    rw [fillWindow]
    split
    · exact .bind (.say rfl) fun _ _ => ih
    · exact .pure _

theorem isRead_readChunk {start length rounds : Nat} {chunk : FileData} :
    Says IsRead (readChunk server handle start length rounds chunk) := by
  induction rounds generalizing chunk with
  | zero => exact .pure _
  | succ rounds ih =>
    rw [readChunk]
    split
    · refine .bind ?_ fun _ _ => .bind (.lift _) fun _ _ => ih
      split
      · intro e he
        obtain rfl := List.mem_singleton.mp he
        rfl
      · exact says_ask rfl rfl
    · exact .pure _

theorem isRead_readChunks {rounds queued : Nat} {window : List (Nat × Nat)} {data : FileData} :
    Says IsRead (readChunks server handle size rounds queued window data) := by
  induction rounds generalizing queued window data with
  | zero => exact .pure _
  | succ rounds ih =>
    rw [readChunks]
    split
    · refine .bind isRead_fillWindow fun (queued', window') _ => ?_
      cases window' with
      | nil => exact .lift _
      | cons range rest => exact .bind isRead_readChunk fun _ _ => ih
    · exact .pure _

/-- What the open file gave, and what was said to get it. -/
structure Copied (server : EditServer) (path : RemotePath) (handle : String) (size : Nat)
    (modified : Option Nat) (data : FileData) (said : List EditEvent) : Prop where
  length : data.length = size
  content : ∀ file, Serves server file → data = file
  said : ∃ opened finished current reads, opened.Matches size modified ∧
    finished.Matches size modified ∧ current.Matches size modified ∧ (∀ e ∈ reads, IsRead e) ∧
    said = handleCheck handle opened ++ reads ++ handleCheck handle finished ++
      inspection path current

theorem readOpened_succeeds
    (h : (readOpened server path handle size modified).result = .ok value) :
    ∃ data, value = .editFile path data size modified ∧
      Copied server path handle size modified data
        (readOpened server path handle size modified).said := by
  -- the steps of the source, none of which has failed
  unfold readOpened at h ⊢
  obtain ⟨opened, hopened, h⟩ := result_bind_eq_ok_iff.mp h
  obtain ⟨hmatches, h⟩ := lift_bind_unit_iff.mp h
  obtain ⟨data, hdata, h⟩ := result_bind_eq_ok_iff.mp h
  obtain ⟨hprobe, h⟩ := result_bind_unit_iff.mp h
  obtain ⟨finished, hfinished, h⟩ := result_bind_eq_ok_iff.mp h
  obtain ⟨hfinal, h⟩ := lift_bind_unit_iff.mp h
  obtain ⟨current, hcurrent, h⟩ := result_bind_eq_ok_iff.mp h
  obtain ⟨hlast, h⟩ := lift_bind_unit_iff.mp h
  cases h
  -- the probe after the announced size found the end of the file
  have heof : server (.read size) = .reply (.status .eof) := by
    obtain ⟨packet, hserver, hpacket⟩ := expect_eq_ok_iff.mp hprobe
    split at hpacket
    · rename_i heq
      exact heq ▸ hserver
    · cases hpacket
  obtain ⟨hlength, hcontent⟩ := readChunks_spec hdata
    ⟨rfl, Nat.zero_le _, nofun⟩ (by simp)
  refine ⟨data, rfl, hlength, fun file hfile => ?_, ?_⟩
  · rw [hcontent file hfile rfl]
    exact List.take_of_length_le (hfile.eof size heof)
  · rw [ask_bind_of_ok hopened, lift_bind_of_ok hmatches, said_bind_of_ok hdata,
      ask_bind_of_ok hprobe, ask_bind_of_ok hfinished, lift_bind_of_ok hfinal,
      said_bind_of_ok hcurrent, lift_bind_of_ok hlast, said_attributes hcurrent,
      expect_attrs_iff.mp hopened, expect_attrs_iff.mp hfinished]
    refine ⟨opened, finished, current,
      (readChunks server handle size size 0 [] []).said ++
        [.sent (.read handle size 1), .answered (.read handle size 1) (server (.read size))],
      requireFingerprint_eq_ok_iff.mp hmatches, requireFingerprint_eq_ok_iff.mp hfinal,
      requireFingerprint_eq_ok_iff.mp hlast, ?_, ?_⟩
    · intro e he
      rcases List.mem_append.mp he with he | he
      · exact isRead_readChunks e he
      · rcases List.mem_pair.mp he with rfl | rfl <;> rfl
    · simp [handleCheck]

theorem inspectEdit_succeeds {initial : FileAttributes}
    (h : (inspectEdit server path maxBytes).result = .ok (initial, size)) :
    initial.Matches size initial.mtime ∧
      (inspectEdit server path maxBytes).said = inspection path initial := by
  unfold inspectEdit at h ⊢
  obtain ⟨hlimit, h⟩ := lift_bind_unit_iff.mp h
  obtain ⟨attrs, hattrs, h⟩ := result_bind_eq_ok_iff.mp h
  obtain ⟨size', hsize, h⟩ := lift_bind_eq_ok_iff.mp h
  obtain ⟨hfits, h⟩ := lift_bind_unit_iff.mp h
  cases h
  obtain ⟨-, -, hvalid⟩ := attributes_eq_ok_iff.mp hattrs
  obtain ⟨hlink, hregular, -⟩ := validateAttributes_eq_ok_iff.mp hvalid
  constructor
  · refine ⟨hregular, hlink, ?_, rfl⟩
    split at hsize <;> cases hsize
    assumption
  · rw [lift_bind_of_ok hlimit, said_bind_of_ok hattrs, lift_bind_of_ok hsize,
      lift_bind_of_ok hfits, said_attributes hattrs]
    exact List.append_nil _

/-- An event that neither opens nor closes a file. -/
def Keeps (e : EditEvent) : Prop :=
  e.isClose = false ∧ ∀ path answer, e ≠ .answered (.openRead path) answer

theorem keeps_attributes {step : EditStep} : Says Keeps (attributes server step path) := by
  refine .bind (.lift _) fun _ _ => .bind (says_ask ⟨rfl, nofun⟩ ⟨rfl, nofun⟩) fun _ _ => ?_
  exact .bind (.lift _) fun _ _ => .pure _

theorem keeps_inspectEdit : Says Keeps (inspectEdit server path maxBytes) := by
  refine .bind (.lift _) fun _ _ => .bind keeps_attributes fun _ _ => ?_
  exact .bind (.lift _) fun _ _ => .bind (.lift _) fun _ _ => .pure _

theorem IsRead.keeps {e : EditEvent} (h : IsRead e) : Keeps e := by
  constructor
  · cases e with
    | sent request => cases request <;> first | rfl | cases h
    | answered request answer => rfl
  · rintro path answer rfl
    cases h

theorem keeps_readOpened : Says Keeps (readOpened server path handle size modified) := by
  refine .bind (says_ask ⟨rfl, nofun⟩ ⟨rfl, nofun⟩) fun _ _ => .bind (.lift _) fun _ _ => ?_
  refine .bind (isRead_readChunks.mono fun e he => he.keeps) fun _ _ => ?_
  refine .bind (says_ask ⟨rfl, nofun⟩ ⟨rfl, nofun⟩) fun _ _ => ?_
  refine .bind (says_ask ⟨rfl, nofun⟩ ⟨rfl, nofun⟩) fun _ _ => .bind (.lift _) fun _ _ => ?_
  exact .bind keeps_attributes fun _ _ => .bind (.lift _) fun _ _ => .pure _

def openingRead (path : RemotePath) (answer : SftpAnswer) : List EditEvent :=
  [.sent (.openRead path), .answered (.openRead path) answer]

def closing (handle : String) (answer : SftpAnswer) : List EditEvent :=
  [.sent (.close handle), .answered (.close handle) answer]

/-- A run closes the handle that it got once, and succeeds only with the bytes of a file that every
    check found the same. -/
structure ReadGuarded (server : EditServer) (path : RemotePath)
    (out : EditProgram SftpWriteResult) : Prop where
  closes : ∀ handle, .answered (.openRead path) (.reply (.handle handle)) ∈ out.said →
    out.said.filter (·.isClose) = [.sent (.close handle)]
  unopened : (∀ handle, .answered (.openRead path) (.reply (.handle handle)) ∉ out.said) →
    out.said.filter (·.isClose) = []
  succeeds : ∀ value, out.result = .ok value → ∃ initial size handle data said,
    value = .editFile path data size initial.mtime ∧ initial.Matches size initial.mtime ∧
      Copied server path handle size initial.mtime data said ∧
      out.said = inspection path initial ++ openingRead path (.reply (.handle handle)) ++ said ++
        closing handle (.reply (.status .ok))

theorem filter_isClose {said : List EditEvent} (h : ∀ e ∈ said, Keeps e) :
    said.filter (·.isClose) = [] :=
  List.filter_eq_nil_iff.mpr fun e he => by simp [(h e he).1]

theorem not_opened {said : List EditEvent} (h : ∀ e ∈ said, Keeps e) (path : RemotePath)
    (answer : SftpAnswer) : .answered (.openRead path) answer ∉ said := fun hmem => (h _ hmem).2 path answer rfl

/-- A run that gets no handle. -/
theorem readEditFile_unanswered {initial : FileAttributes}
    (hinspect : (inspectEdit server path maxBytes).result = .ok (initial, size))
    (hopen : ∀ handle, server .openFile ≠ .reply (.handle handle)) :
    (readEditFile server path maxBytes).said =
        inspection path initial ++ openingRead path (server .openFile) ∧
      ∀ value, (readEditFile server path maxBytes).result ≠ .ok value := by
  unfold readEditFile
  rw [bind_of_ok hinspect, (inspectEdit_succeeds hinspect).2]
  cases hanswer : (server .openFile).expect SftpPacket.handle?
      (.text "SFTP edit open timed out") (.text "cannot open remote edit file") with
  | ok handle => exact absurd (expect_handle_iff.mp hanswer) (hopen handle)
  | error e =>
    dsimp only
    rw [bind_of_error hanswer]
    exact ⟨rfl, nofun⟩

/-- A run from its open file on. -/
theorem readEditFile_opened {initial : FileAttributes}
    (hinspect : (inspectEdit server path maxBytes).result = .ok (initial, size))
    (hopen : server .openFile = .reply (.handle handle)) :
    readEditFile server path maxBytes =
      ⟨(readOpened server path handle size initial.mtime).result.bind fun value =>
          (closeFile server handle "closing remote edit file timed out"
            "cannot close remote edit file").result.map fun _ => value,
        inspection path initial ++ openingRead path (.reply (.handle handle)) ++
          (readOpened server path handle size initial.mtime).said ++
          closing handle (server .close)⟩ := by
  unfold readEditFile
  rw [bind_of_ok hinspect, (inspectEdit_succeeds hinspect).2]
  dsimp only
  rw [ask_bind_of_ok (expect_handle_iff.mpr hopen), hopen, bind_of_ok result_attempt,
    bind_of_ok result_attempt]
  simp [closeFile, ask, openingRead, closing]

theorem readGuarded_of_unopened {out : EditProgram SftpWriteResult}
    (hfilter : out.said.filter (·.isClose) = [])
    (hopen : ∀ handle, .answered (.openRead path) (.reply (.handle handle)) ∉ out.said)
    (hfails : ∀ value, out.result ≠ .ok value) : ReadGuarded server path out :=
  ⟨fun handle hmem => absurd hmem (hopen handle), fun _ => hfilter,
    fun value hvalue => absurd hvalue (hfails value)⟩

theorem readEditFile_guarded (server : EditServer) (path : RemotePath) (maxBytes : Nat) :
    ReadGuarded server path (readEditFile server path maxBytes) := by
  have hkeeps : Says Keeps (inspectEdit server path maxBytes) := keeps_inspectEdit
  cases hinspect : (inspectEdit server path maxBytes).result with
  | error e =>
    have hrun : readEditFile server path maxBytes =
        ⟨.error e, (inspectEdit server path maxBytes).said⟩ := bind_of_error hinspect
    rw [hrun]
    exact readGuarded_of_unopened (filter_isClose hkeeps) (fun _ => not_opened hkeeps _ _) nofun
  | ok found =>
    obtain ⟨initial, size⟩ := found
    obtain ⟨hmatches, hsaid⟩ := inspectEdit_succeeds hinspect
    have hinspection : ∀ e ∈ inspection path initial, Keeps e := hsaid ▸ hkeeps
    -- an answered handle is open until the read is over
    by_cases hopen : ∃ handle, server .openFile = .reply (.handle handle)
    · obtain ⟨handle, hopen⟩ := hopen
      have hread : Says Keeps (readOpened server path handle size initial.mtime) :=
        keeps_readOpened
      rw [readEditFile_opened hinspect hopen]
      constructor
      · intro handle' hmem
        -- inspecting and reading open nothing, so the handle is the one that was answered
        have hsame : handle' = handle := by
          have hinspected := not_opened hinspection path (.reply (.handle handle'))
          have hopened := not_opened hread path (.reply (.handle handle'))
          simpa [hinspected, hopened, openingRead, closing] using hmem
        rw [hsame, List.filter_append, List.filter_append, List.filter_append,
          filter_isClose hinspection, filter_isClose hread]
        rfl
      · intro hnone
        exact absurd (by simp [openingRead]) (hnone handle)
      · intro value hvalue
        obtain ⟨value', hresult, hclosed⟩ := Except.bind_eq_ok_iff.mp hvalue
        obtain ⟨_, hdone, rfl⟩ := Except.map_eq_ok_iff.mp hclosed
        obtain ⟨data, rfl, hcopied⟩ := readOpened_succeeds hresult
        refine ⟨initial, size, handle, data, _, rfl, hmatches, hcopied, ?_⟩
        rw [expect_done_iff.mp hdone]
    · obtain ⟨hrun, hfails⟩ :=
        readEditFile_unanswered hinspect fun handle hanswer => hopen ⟨handle, hanswer⟩
      refine readGuarded_of_unopened ?_ ?_ hfails
      · rw [hrun, List.filter_append, filter_isClose hinspection]
        rfl
      · intro handle hmem
        have hinspected := not_opened hinspection path (.reply (.handle handle))
        rw [hrun] at hmem
        exact hopen ⟨handle, by simpa [hinspected, openingRead, eq_comm] using hmem⟩

end Runs

end SftpEdit

end AxSsh
