import AxSsh.ForStd.Except
import AxSsh.Native.X11Setup

/-!
# The fake cookie is the way in

A setup packet is given by its parts, and its bytes are the encoding of these.  The gate takes the
encoding of one packet from the remote side and goes on only if the packet carries the fake cookie.
The rewritten packet is the same with other authorization data.

## Key results
- `validateSetupPacket_iff`: what is validated is a packet that carries the cookie
- `readSetupPacket_iff`: the bytes that are taken from the remote side
- `x11_setup_gate`: the gate, and the packet that is sent to the local server
-/

namespace AxSsh

inductive X11ByteOrder where
  | little
  | big
deriving DecidableEq, Repr

def X11ByteOrder.mark : X11ByteOrder → UInt8
  | .little => 'l'.toUInt8
  | .big => 'B'.toUInt8

def X11ByteOrder.u16 (o : X11ByteOrder) (n : Nat) : List UInt8 :=
  match o with
  | .little => [.ofNat n, .ofNat (n / 256)]
  | .big => [.ofNat (n / 256), .ofNat n]

/-- A setup packet.  Its paddings fill its two fields up to a multiple of four bytes. -/
structure X11SetupPacket where
  byteOrder : X11ByteOrder
  unused : UInt8
  version : List UInt8
  unusedEnd : List UInt8
  name : List UInt8
  namePadding : List UInt8
  data : List UInt8
  dataPadding : List UInt8
  version_length : version.length = 4
  unusedEnd_length : unusedEnd.length = 2
  name_length : name.length < 65536
  data_length : data.length < 65536
  namePadding_length : name.length + namePadding.length = paddedLen name.length
  dataPadding_length : data.length + dataPadding.length = paddedLen data.length

namespace X11SetupPacket

def header (s : X11SetupPacket) : List UInt8 :=
  [s.byteOrder.mark, s.unused] ++ s.version ++ s.byteOrder.u16 s.name.length ++
    s.byteOrder.u16 s.data.length ++ s.unusedEnd

def encode (s : X11SetupPacket) : List UInt8 :=
  s.header ++ s.name ++ s.namePadding ++ s.data ++ s.dataPadding

/-- A packet that carries a cookie under the protocol of the gate. -/
structure Carries (s : X11SetupPacket) (cookie : List UInt8) : Prop where
  name_eq : s.name = x11AuthProtocol
  data_eq : s.data = cookie
  pos : 0 < cookie.length
  le : cookie.length ≤ maxAuthDataBytes

end X11SetupPacket

/-! ## Numbers -/

theorem readU16_u16 (o : X11ByteOrder) {n : Nat} (h : n < 65536) :
    readU16 (o.u16 n) o.mark = .ok n := by
  have hlow : (UInt8.ofNat n).toNat = n % 256 := UInt8.toNat_ofNat'
  have hhigh : (UInt8.ofNat (n / 256)).toNat = n / 256 % 256 := UInt8.toNat_ofNat'
  cases o with
  | little =>
    rw [X11ByteOrder.u16, readU16, X11ByteOrder.mark, if_pos rfl, hlow, hhigh]
    exact congrArg Except.ok (by omega)
  | big =>
    rw [X11ByteOrder.u16, readU16, X11ByteOrder.mark, if_neg (by decide), if_pos rfl, hlow, hhigh]
    exact congrArg Except.ok (by omega)

theorem readU16_eq_ok {bytes : List UInt8} {byteOrder : UInt8} {n : Nat}
    (h : readU16 bytes byteOrder = .ok n) :
    n < 65536 ∧ ∃ o : X11ByteOrder, byteOrder = o.mark ∧ bytes = o.u16 n := by
  unfold readU16 at h
  split at h
  · next a b =>
    have ha : a.toNat < 256 := a.toNat_lt
    have hb : b.toNat < 256 := b.toNat_lt
    have hbyte {c : UInt8} {m : Nat} (hm : m % 256 = c.toNat) : UInt8.ofNat m = c :=
      UInt8.toNat_inj.mp (UInt8.toNat_ofNat'.trans hm)
    split at h
    · next hmark =>
      obtain rfl := Except.ok.inj h
      refine ⟨by omega, .little, hmark, ?_⟩
      rw [X11ByteOrder.u16, hbyte (c := a) (by omega), hbyte (c := b) (by omega)]
    · split at h
      · next hmark =>
        obtain rfl := Except.ok.inj h
        refine ⟨by omega, .big, hmark, ?_⟩
        rw [X11ByteOrder.u16, hbyte (c := a) (by omega), hbyte (c := b) (by omega)]
      · exact nomatch h
  · exact nomatch h

theorem X11ByteOrder.mark_inj {o o' : X11ByteOrder} (h : o.mark = o'.mark) : o = o' := by
  cases o <;> cases o' <;> first | rfl | exact absurd h (by decide)

theorem X11ByteOrder.u16_length (o : X11ByteOrder) (n : Nat) : (o.u16 n).length = 2 := by
  cases o <;> rfl

/-! ## Parts of a packet -/

theorem slice_append {packet : List UInt8} {a b c : Nat} (hab : a ≤ b) (hbc : b ≤ c) :
    slice packet a b ++ slice packet b c = slice packet a c := by
  have hsplit : c - a = (b - a) + (c - b) := by omega
  have hdrop : packet.drop b = (packet.drop a).drop (b - a) := by
    rw [List.drop_drop, Nat.add_sub_cancel' hab]
  rw [slice, slice, slice, hsplit, List.take_add, hdrop]

theorem slice_length {packet : List UInt8} {a b : Nat} (hb : b ≤ packet.length) :
    (slice packet a b).length = b - a := by
  rw [slice, List.length_take, List.length_drop]
  omega

theorem slice_all (packet : List UInt8) : slice packet 0 packet.length = packet := by
  rw [slice, List.drop_zero, Nat.sub_zero, List.take_length]

/-- A part that lies behind `front`. -/
theorem slice_mid {front part rest : List UInt8} {start stop : Nat} (hstart : front.length = start)
    (hstop : start + part.length = stop) : slice (front ++ part ++ rest) start stop = part := by
  have hlength : stop - start = part.length := by omega
  rw [slice, List.append_assoc, List.drop_left' hstart, hlength, List.take_left]

namespace X11SetupPacket

variable (s : X11SetupPacket)

theorem header_length : s.header.length = x11SetupHeaderBytes := by
  simp only [header, List.length_append, X11ByteOrder.u16_length, s.version_length,
    s.unusedEnd_length]
  rfl

theorem encode_length : s.encode.length = setupPacketLen s.name.length s.data.length := by
  have hname := s.namePadding_length
  have hdata := s.dataPadding_length
  simp only [encode, List.length_append, s.header_length, setupPacketLen]
  omega

/-- What the gate reads off a header. -/
theorem authLengths_header (rest : List UInt8) :
    authLengths (s.header ++ rest) =
      (validateAuthLengths s.name.length s.data.length).map
        fun _ => (s.name.length, s.data.length) := by
  have hversion := s.version_length
  have hname : slice (s.header ++ rest) 6 8 = s.byteOrder.u16 s.name.length := by
    have hassoc : s.header ++ rest = ([s.byteOrder.mark, s.unused] ++ s.version) ++
        s.byteOrder.u16 s.name.length ++
          (s.byteOrder.u16 s.data.length ++ s.unusedEnd ++ rest) := by
      simp only [header, List.append_assoc]
    rw [hassoc]
    exact slice_mid (by simp [hversion]) (by rw [X11ByteOrder.u16_length])
  have hdata : slice (s.header ++ rest) 8 10 = s.byteOrder.u16 s.data.length := by
    have hassoc : s.header ++ rest = ([s.byteOrder.mark, s.unused] ++ s.version ++
        s.byteOrder.u16 s.name.length) ++ s.byteOrder.u16 s.data.length ++
          (s.unusedEnd ++ rest) := by
      simp only [header, List.append_assoc]
    rw [hassoc]
    exact slice_mid (by simp [hversion, X11ByteOrder.u16_length])
      (by rw [X11ByteOrder.u16_length])
  have hhead : (s.header ++ rest).headD 0 = s.byteOrder.mark := rfl
  rw [authLengths, hname, hdata, hhead, readU16_u16 _ s.name_length, readU16_u16 _ s.data_length]
  change (validateAuthLengths s.name.length s.data.length >>= fun _ =>
    .ok (s.name.length, s.data.length)) = _
  cases validateAuthLengths s.name.length s.data.length <;> rfl

/-- Where the authorization data of a packet begins. -/
def dataStart : Nat := x11SetupHeaderBytes + paddedLen s.name.length

/-- A packet up to its authorization data. -/
def front : List UInt8 := s.header ++ s.name ++ s.namePadding

theorem front_length : s.front.length = s.dataStart := by
  rw [front, List.append_assoc, List.length_append, List.length_append, header_length,
    s.namePadding_length, dataStart]

theorem encode_eq : s.encode = s.front ++ s.data ++ s.dataPadding := rfl

end X11SetupPacket

/-! ## Validation -/

theorem validateAuthLengths_eq_ok {protocolLen dataLen : Nat} :
    validateAuthLengths protocolLen dataLen = .ok () ↔
      0 < protocolLen ∧ protocolLen ≤ maxAuthProtocolBytes ∧ 0 < dataLen ∧
        dataLen ≤ maxAuthDataBytes := by
  unfold validateAuthLengths
  split
  · constructor
    · nofun
    · omega
  · exact ⟨fun _ => by omega, fun _ => rfl⟩

theorem X11SetupPacket.authLengths_of_carries {s : X11SetupPacket} {cookie : List UInt8}
    (h : s.Carries cookie) (rest : List UInt8) :
    authLengths (s.header ++ rest) = .ok (s.name.length, s.data.length) := by
  have hlengths : validateAuthLengths s.name.length s.data.length = .ok () := by
    rw [validateAuthLengths_eq_ok, h.name_eq, h.data_eq]
    exact ⟨by decide, by decide, h.pos, h.le⟩
  rw [s.authLengths_header, hlengths]
  rfl

/-- Two checked lengths are the numbers in the header. -/
theorem authLengths_eq_ok {packet : List UInt8} {protocolLen dataLen : Nat}
    (h : authLengths packet = .ok (protocolLen, dataLen)) :
    (∃ o : X11ByteOrder, packet.headD 0 = o.mark ∧ slice packet 6 8 = o.u16 protocolLen ∧
      slice packet 8 10 = o.u16 dataLen) ∧
    (protocolLen < 65536 ∧ dataLen < 65536) ∧
    0 < dataLen ∧ dataLen ≤ maxAuthDataBytes := by
  unfold authLengths at h
  obtain ⟨pl, hpl, h⟩ := Except.bind_eq_ok_iff.mp h
  obtain ⟨dl, hdl, h⟩ := Except.bind_eq_ok_iff.mp h
  obtain ⟨⟨⟩, hcheck, h⟩ := Except.bind_eq_ok_iff.mp h
  cases h
  obtain ⟨hplt, o, hmark, hname⟩ := readU16_eq_ok hpl
  obtain ⟨hdlt, o', hmark', hdata⟩ := readU16_eq_ok hdl
  obtain rfl := X11ByteOrder.mark_inj (hmark.symm.trans hmark')
  exact ⟨⟨o, hmark, hname, hdata⟩, ⟨hplt, hdlt⟩, (validateAuthLengths_eq_ok.mp hcheck).2.2⟩

theorem le_paddedLen (n : Nat) : n ≤ paddedLen n := by
  unfold paddedLen
  omega

/-- A packet of the length that its header says has the parts of a setup packet. -/
theorem exists_packet {packet : List UInt8} {protocolLen dataLen : Nat}
    (hlengths : authLengths packet = .ok (protocolLen, dataLen))
    (hlength : packet.length = setupPacketLen protocolLen dataLen) :
    ∃ s : X11SetupPacket, packet = s.encode ∧
      s.name = slice packet 12 (12 + protocolLen) ∧
      s.data = slice packet (12 + paddedLen protocolLen) (12 + paddedLen protocolLen + dataLen) ∧
      s.name.length = protocolLen ∧ s.data.length = dataLen := by
  obtain ⟨⟨o, hmark, hname, hdata⟩, ⟨hpl, hdl⟩, -⟩ := authLengths_eq_ok hlengths
  have hpadName := le_paddedLen protocolLen
  have hpadData := le_paddedLen dataLen
  have htotal : packet.length = 12 + paddedLen protocolLen + paddedLen dataLen := hlength
  have hnameLength : (slice packet 12 (12 + protocolLen)).length = protocolLen := by
    rw [slice_length (by omega)]
    omega
  have hdataLength : (slice packet (12 + paddedLen protocolLen)
      (12 + paddedLen protocolLen + dataLen)).length = dataLen := by
    rw [slice_length (by omega)]
    omega
  obtain ⟨unused, hunused⟩ : ∃ u, slice packet 1 2 = [u] :=
    List.length_eq_one_iff.mp (slice_length (by omega))
  have hfirst : slice packet 0 1 = [o.mark] := by
    obtain ⟨first, rest, rfl⟩ : ∃ first rest, packet = first :: rest :=
      List.exists_cons_of_length_pos (by omega)
    exact congrArg (fun b => [b]) hmark
  refine ⟨{
    byteOrder := o
    unused
    version := slice packet 2 6
    unusedEnd := slice packet 10 12
    name := slice packet 12 (12 + protocolLen)
    namePadding := slice packet (12 + protocolLen) (12 + paddedLen protocolLen)
    data := slice packet (12 + paddedLen protocolLen) (12 + paddedLen protocolLen + dataLen)
    dataPadding := slice packet (12 + paddedLen protocolLen + dataLen) packet.length
    version_length := slice_length (by omega)
    unusedEnd_length := slice_length (by omega)
    name_length := by omega
    data_length := by omega
    namePadding_length := by rw [hnameLength, slice_length (by omega)]; omega
    dataPadding_length := by rw [hdataLength, slice_length (by omega)]; omega }, ?_, rfl, rfl,
    hnameLength, hdataLength⟩
  -- the parts follow one another from the first byte to the last
  have hlead : [o.mark, unused] = slice packet 0 2 := by
    rw [← slice_append (Nat.zero_le 1) (Nat.le_succ 1), hfirst, hunused]
    rfl
  simp only [X11SetupPacket.encode, X11SetupPacket.header, hnameLength, hdataLength]
  rw [hlead, ← hname, ← hdata, slice_append (by omega) (by omega),
    slice_append (by omega) (by omega), slice_append (by omega) (by omega),
    slice_append (by omega) (by omega), slice_append (by omega) (by omega),
    slice_append (by omega) (by omega), slice_append (by omega) (by omega),
    slice_append (by omega) (by omega), slice_all]

/-- **What is validated is a packet that carries the cookie.** -/
theorem validateSetupPacket_iff {packet cookie : List UInt8} {range : Nat × Nat} :
    validateSetupPacket packet cookie = .ok range ↔
      ∃ s : X11SetupPacket, packet = s.encode ∧ s.Carries cookie ∧
        range = (s.dataStart, s.dataStart + cookie.length) := by
  constructor
  · intro h
    unfold validateSetupPacket at h
    split at h
    · exact nomatch h
    obtain ⟨⟨protocolLen, dataLen⟩, hlengths, h⟩ := Except.bind_eq_ok_iff.mp h
    dsimp only at h
    split at h
    · exact nomatch h
    next hlength =>
    split at h
    · exact nomatch h
    next hprotocol =>
    split at h
    · exact nomatch h
    next hcookie =>
    -- the lengths that the header announces cut the packet into its parts
    obtain ⟨s, hs, hname, hdata, hnameLength, hdataLength⟩ :=
      exists_packet hlengths (not_not.mp hlength)
    obtain ⟨hlen, heq⟩ := not_or.mp hcookie
    obtain ⟨hpos, hle⟩ := (authLengths_eq_ok hlengths).2.2
    have hcookieLength : cookie.length = dataLen := not_not.mp hlen
    refine ⟨s, hs, ⟨hname.trans (not_not.mp hprotocol), hdata.trans (not_not.mp heq), ?_, ?_⟩, ?_⟩
    · omega
    · omega
    · rw [X11SetupPacket.dataStart, hnameLength, hcookieLength]
      exact (Except.ok.inj h).symm
  · rintro ⟨s, rfl, hs, rfl⟩
    -- what the gate reads at the offsets are the parts of the packet
    have hlengths : authLengths s.encode = .ok (s.name.length, s.data.length) := by
      have hassoc : s.encode = s.header ++ (s.name ++ s.namePadding ++ s.data ++ s.dataPadding) := by
        simp only [X11SetupPacket.encode, List.append_assoc]
      rw [hassoc]
      exact X11SetupPacket.authLengths_of_carries hs _
    have hprotocol : slice s.encode 12 (12 + s.name.length) = x11AuthProtocol := by
      have hassoc : s.encode =
          s.header ++ s.name ++ (s.namePadding ++ s.data ++ s.dataPadding) := by
        simp only [X11SetupPacket.encode, List.append_assoc]
      rw [hassoc]
      exact (slice_mid s.header_length rfl).trans hs.name_eq
    have hdata : slice s.encode s.dataStart (s.dataStart + s.data.length) = cookie := by
      rw [s.encode_eq, slice_mid s.front_length rfl]
      exact hs.data_eq
    have hheader : ¬s.encode.length < x11SetupHeaderBytes := by
      rw [s.encode_length, setupPacketLen]
      omega
    rw [validateSetupPacket, if_neg hheader, hlengths]
    change (if _ then _ else _) = _
    rw [if_neg (not_not.mpr s.encode_length)]
    change (if slice s.encode 12 (12 + s.name.length) ≠ x11AuthProtocol then _ else _) = _
    rw [if_neg (not_not.mpr hprotocol)]
    change (if cookie.length ≠ s.data.length ∨
      slice s.encode s.dataStart (s.dataStart + s.data.length) ≠ cookie then _ else _) = _
    rw [if_neg (by rw [hdata, hs.data_eq]; simp), ← hs.data_eq]
    rfl

/-! ## What is read -/

/-- The bytes of the remote side up to its end, its first failure or the deadline. -/
def receivedBytes : List InnerRead → List UInt8
  | [] => []
  | .pending :: reads => receivedBytes reads
  | .failed :: _ => []
  | .data bytes :: reads => if bytes = [] then [] else bytes ++ receivedBytes reads

/-- A read takes its size off the remote side, or there is less than that. -/
theorem readExact_spec (size : Nat) (reads : List InnerRead) :
    match (readExact size reads).1 with
    | .ok bytes =>
      bytes.length = size ∧ receivedBytes reads = bytes ++ receivedBytes (readExact size reads).2
    | .error _ => (receivedBytes reads).length < size := by
  fun_induction readExact size reads with
  | case1 reads => exact ⟨rfl, rfl⟩
  | case2 size => exact Nat.succ_pos size
  | case3 size reads ih => exact ih
  | case4 size reads => exact Nat.succ_pos size
  | case5 size reads => exact Nat.succ_pos size
  -- a read that is not enough: the rest comes from the reads behind it
  | case6 size bytes reads hne hle result rest hread ih =>
    rw [hread] at ih
    rw [receivedBytes, if_neg hne]
    cases result with
    | error e =>
      simp only [Except.map] at ih ⊢
      rw [List.length_append]
      omega
    | ok more =>
      simp only [Except.map] at ih ⊢
      rw [List.length_append, ih.2, List.append_assoc]
      exact ⟨by omega, rfl⟩
  -- a read that is too much: what is left over is read next
  | case7 size bytes reads hne hle =>
    have hdrop : bytes.drop (size + 1) ≠ [] := by
      rw [ne_eq, List.drop_eq_nil_iff]
      exact hle
    change (bytes.take (size + 1)).length = size + 1 ∧
      receivedBytes (.data bytes :: reads) =
        bytes.take (size + 1) ++ receivedBytes (.data (bytes.drop (size + 1)) :: reads)
    rw [receivedBytes, if_neg hne, receivedBytes, if_neg hdrop, ← List.append_assoc, List.take_append_drop,
      List.length_take]
    exact ⟨by omega, rfl⟩

theorem readExact_ok {size : Nat} {reads : List InnerRead} {bytes : List UInt8}
    (h : (readExact size reads).1 = .ok bytes) :
    bytes.length = size ∧ receivedBytes reads = bytes ++ receivedBytes (readExact size reads).2 := by
  have hspec := readExact_spec size reads
  rwa [h] at hspec

/-- Where the bytes are there, they are read. -/
theorem readExact_of_received {size : Nat} {reads : List InnerRead} {bytes more : List UInt8}
    (hreceived : receivedBytes reads = bytes ++ more) (hlength : bytes.length = size) :
    ∃ rest, readExact size reads = (.ok bytes, rest) ∧ receivedBytes rest = more := by
  have hspec := readExact_spec size reads
  cases h : readExact size reads with
  | mk result rest =>
    rw [h] at hspec
    cases result with
    | error e =>
      dsimp only at hspec
      rw [hreceived, List.length_append] at hspec
      omega
    | ok bytes' =>
      obtain ⟨hlength', heq⟩ := hspec
      obtain ⟨rfl, rfl⟩ := List.append_inj (hreceived.symm.trans heq) (hlength.trans hlength'.symm)
      exact ⟨rest, rfl, rfl⟩

theorem readSetupPacket_ok {reads rest : List InnerRead} {packet : List UInt8}
    (h : readSetupPacket reads = (.ok packet, rest)) :
    receivedBytes reads = packet ++ receivedBytes rest := by
  unfold readSetupPacket at h
  split at h
  · exact nomatch h
  · next header reads' hheader =>
    have hfirst := readExact_ok (congrArg Prod.fst hheader)
    rw [hheader] at hfirst
    split at h
    · exact nomatch h
    · next protocolLen dataLen _ =>
      dsimp only at h
      split at h
      · exact nomatch h
      · next body rest' hbody =>
        have hsecond := readExact_ok (congrArg Prod.fst hbody)
        rw [hbody] at hsecond
        cases h
        rw [hfirst.2, hsecond.2, List.append_assoc]

/-- A packet that carries some cookie is read as a whole. -/
theorem readSetupPacket_of_received {reads : List InnerRead} {s : X11SetupPacket}
    {cookie more : List UInt8} (hs : s.Carries cookie)
    (hreceived : receivedBytes reads = s.encode ++ more) :
    ∃ rest, readSetupPacket reads = (.ok s.encode, rest) ∧ receivedBytes rest = more := by
  have hassoc : s.encode = s.header ++ (s.name ++ s.namePadding ++ s.data ++ s.dataPadding) := by
    simp only [X11SetupPacket.encode, List.append_assoc]
  have hbodyLength : (s.name ++ s.namePadding ++ s.data ++ s.dataPadding).length =
      setupPacketLen s.name.length s.data.length - x11SetupHeaderBytes := by
    have hlength := s.encode_length
    rw [hassoc, List.length_append, s.header_length] at hlength
    omega
  have hlengths := X11SetupPacket.authLengths_of_carries hs []
  rw [List.append_nil] at hlengths
  rw [hassoc, List.append_assoc] at hreceived
  obtain ⟨rest, hheader, hrest⟩ := readExact_of_received hreceived s.header_length
  obtain ⟨rest', hbody, hrest'⟩ := readExact_of_received hrest hbodyLength
  refine ⟨rest', ?_, hrest'⟩
  rw [readSetupPacket, hheader]
  dsimp only
  rw [hlengths]
  dsimp only
  rw [hbody, hassoc]

/-! ## The gate -/

/-- The remote side begins with a packet that carries the cookie. -/
def Admitted (reads : List InnerRead) (cookie : List UInt8) : Prop :=
  ∃ (s : X11SetupPacket) (more : List UInt8), s.Carries cookie ∧ receivedBytes reads = s.encode ++ more

theorem authenticateThenPrepare_spec {T W : Type} (reads : List InnerRead) (cookie : List UInt8)
    (prepare : W → Except String T × W) (world : W) :
    let gate := authenticateThenPrepare reads cookie prepare world
    (∃ s : X11SetupPacket, s.Carries cookie ∧
      receivedBytes reads = s.encode ++ receivedBytes gate.reads ∧
      gate.world = (prepare world).2 ∧
      gate.result = (prepare world).1.map fun prepared => (s.encode, prepared)) ∨
    (gate.world = world ∧ (∃ message, gate.result = .error message) ∧
      ¬Admitted reads cookie) := by
  by_cases hadmitted : Admitted reads cookie
  · obtain ⟨s, more, hs, hreceived⟩ := hadmitted
    obtain ⟨rest, hread, rfl⟩ := readSetupPacket_of_received hs hreceived
    have hvalid : validateSetupPacket s.encode cookie =
        .ok (s.dataStart, s.dataStart + cookie.length) :=
      validateSetupPacket_iff.mpr ⟨s, rfl, hs, rfl⟩
    have hgate : authenticateThenPrepare reads cookie prepare world =
        ⟨(prepare world).1.map fun prepared => (s.encode, prepared), rest,
          (prepare world).2⟩ := by
      rw [authenticateThenPrepare, hread]
      dsimp only
      rw [hvalid]
    rw [hgate]
    exact .inl ⟨s, hs, hreceived, rfl, rfl⟩
  · refine .inr ?_
    -- nothing is prepared before the packet is validated
    unfold authenticateThenPrepare
    split
    · exact ⟨rfl, ⟨_, rfl⟩, hadmitted⟩
    · next setup rest hread =>
      split
      · exact ⟨rfl, ⟨_, rfl⟩, hadmitted⟩
      · next range hvalid =>
        obtain ⟨s, rfl, hs, -⟩ := validateSetupPacket_iff.mp hvalid
        exact absurd ⟨s, _, hs, readSetupPacket_ok hread⟩ hadmitted

/-! ## The rewritten packet -/

theorem rewriteSetupPacket_cookie {s : X11SetupPacket} {cookie real : List UInt8}
    (hs : s.Carries cookie) (hlength : real.length = cookie.length) :
    ∃ s' : X11SetupPacket, rewriteSetupPacket s.encode cookie (.cookie real) = .ok s'.encode ∧
      s'.byteOrder = s.byteOrder ∧ s'.version = s.version ∧ s'.Carries real := by
  have hdata : s.data.length = cookie.length := congrArg List.length hs.data_eq
  have hreal : real.length = s.data.length := hlength.trans hdata.symm
  let s' : X11SetupPacket := { s with
    data := real
    data_length := hreal ▸ s.data_length
    dataPadding_length := by rw [hreal]; exact s.dataPadding_length }
  have hfront : s'.front = s.front := by
    simp only [s', X11SetupPacket.front, X11SetupPacket.header, hreal]
  refine ⟨s', ?_, rfl, rfl, ⟨hs.name_eq, rfl, hlength ▸ hs.pos, hlength ▸ hs.le⟩⟩
  have hvalid : validateSetupPacket s.encode cookie =
      .ok (s.dataStart, s.dataStart + cookie.length) :=
    validateSetupPacket_iff.mpr ⟨s, rfl, hs, rfl⟩
  have htake : s.encode.take s.dataStart = s.front := by
    rw [s.encode_eq, List.append_assoc, List.take_left' s.front_length]
  have hdrop : s.encode.drop (s.dataStart + cookie.length) = s.dataPadding := by
    rw [s.encode_eq, List.drop_left']
    rw [List.length_append, s.front_length, hdata]
  rw [rewriteSetupPacket, hvalid]
  change (if real.length = s.dataStart + cookie.length - s.dataStart then
    Except.ok (s.encode.take s.dataStart ++ real ++ s.encode.drop (s.dataStart + cookie.length))
    else _) = _
  rw [if_pos (by omega), htake, hdrop, s'.encode_eq, hfront]

theorem rewriteSetupPacket_none {s : X11SetupPacket} {cookie : List UInt8} (hs : s.Carries cookie) :
    ∃ s' : X11SetupPacket, rewriteSetupPacket s.encode cookie .none = .ok s'.encode ∧
      s'.byteOrder = s.byteOrder ∧ s'.version = s.version ∧ s'.name = [] ∧ s'.data = [] := by
  let s' : X11SetupPacket := { s with
    name := []
    namePadding := []
    data := []
    dataPadding := []
    name_length := by decide
    data_length := by decide
    namePadding_length := rfl
    dataPadding_length := rfl }
  refine ⟨s', ?_, rfl, rfl, rfl, rfl⟩
  have hvalid : validateSetupPacket s.encode cookie =
      .ok (s.dataStart, s.dataStart + cookie.length) :=
    validateSetupPacket_iff.mpr ⟨s, rfl, hs, rfl⟩
  have hversion := s.version_length
  have hzero (o : X11ByteOrder) : o.u16 0 = [0, 0] := by cases o <;> rfl
  -- the four bytes of the two lengths, and what stands around them
  have hparts : s.encode = ([s.byteOrder.mark, s.unused] ++ s.version) ++
      (s.byteOrder.u16 s.name.length ++ s.byteOrder.u16 s.data.length) ++
      (s.unusedEnd ++ (s.name ++ s.namePadding ++ s.data ++ s.dataPadding)) := by
    simp only [X11SetupPacket.encode, X11SetupPacket.header, List.append_assoc]
  have htake : s.encode.take 6 = [s.byteOrder.mark, s.unused] ++ s.version := by
    rw [hparts, List.append_assoc, List.take_left' (by simp [hversion])]
  have hdrop : s.encode.drop 10 =
      s.unusedEnd ++ (s.name ++ s.namePadding ++ s.data ++ s.dataPadding) := by
    rw [hparts, List.drop_left' (by simp [hversion, X11ByteOrder.u16_length])]
  have hencode : s'.encode = [s.byteOrder.mark, s.unused] ++ s.version ++ List.replicate 4 0 ++
      s.unusedEnd := by
    simp only [s', X11SetupPacket.encode, X11SetupPacket.header, List.length_nil, hzero,
      List.append_assoc, List.append_nil]
    rfl
  rw [rewriteSetupPacket, hvalid]
  change Except.ok ((s.encode.take 6 ++ List.replicate 4 0 ++ s.encode.drop 10).take
    x11SetupHeaderBytes) = _
  rw [htake, hdrop, hencode, ← List.append_assoc, List.take_left']
  simp [hversion, s.unusedEnd_length, x11SetupHeaderBytes]

/-! ## Local cookies -/

theorem length_chunksOfTwo (bytes : List UInt8) : (chunksOfTwo bytes).length = bytes.length / 2 := by
  fun_induction chunksOfTwo bytes with
  | case1 a b rest ih =>
    simp only [List.length_cons, ih]
    omega
  | case2 bytes hshort =>
    match bytes with
    | [] => rfl
    | [_] => simp
    | a :: b :: rest => exact absurd rfl (hshort a b rest)

theorem decodeCookie_length {value : List Char} {cookie : List UInt8}
    (h : decodeCookie value = .ok cookie) : cookie.length = x11CookieBytes := by
  unfold decodeCookie at h
  dsimp only at h
  split at h
  · exact nomatch h
  · next hcheck =>
    have hlength := not_not.mp (not_or.mp hcheck).1
    rw [Except.length_of_mapM h, length_chunksOfTwo, hlength]
    rfl

theorem parseXauthLines_length {lines : List (List Char)} {selected : Option (List UInt8)}
    {cookie : List UInt8} (hselected : ∀ c, selected = some c → c.length = x11CookieBytes)
    (h : parseXauthLines lines selected = .ok cookie) : cookie.length = x11CookieBytes := by
  fun_induction parseXauthLines lines selected with
  | case1 => exact nomatch h
  | case2 selected =>
    obtain rfl := Except.ok.inj h
    exact hselected selected rfl
  | case3 line rest selected _ protocol value _ _ ih => exact ih hselected h
  | case4 => exact nomatch h
  | case5 => exact nomatch h
  | case6 line rest selected _ protocol value _ _ cookie' hcookie _ ih =>
    refine ih (fun c hc => ?_) h
    obtain rfl := Option.some.inj hc
    exact decodeCookie_length hcookie
  | case7 line rest selected _ ih => exact ih hselected h

/-- An authorization as the program has it: a cookie that `xauth` lists, or none. -/
def LocalX11Auth.Loaded : LocalX11Auth → Prop
  | .cookie real => ∃ output, parseXauthOutput output = .ok real
  | .none => True

theorem LocalX11Auth.Loaded.length {real : List UInt8} (h : (LocalX11Auth.cookie real).Loaded) :
    real.length = x11CookieBytes := by
  obtain ⟨output, hparse⟩ := h
  have hnone : ∀ c : List UInt8, Option.none = some c → c.length = x11CookieBytes := nofun
  exact parseXauthLines_length hnone hparse

theorem x11_setup_gate :
    (∀ {T W : Type} (reads : List InnerRead) (cookie : List UInt8)
      (prepare : W → Except String T × W) (world : W),
      let gate := authenticateThenPrepare reads cookie prepare world
      (∃ s : X11SetupPacket, s.Carries cookie ∧
        receivedBytes reads = s.encode ++ receivedBytes gate.reads ∧
        gate.world = (prepare world).2 ∧
        gate.result = (prepare world).1.map fun prepared => (s.encode, prepared)) ∨
      (gate.world = world ∧ (∃ message, gate.result = .error message) ∧
        ¬Admitted reads cookie)) ∧
    ∀ (packet : List UInt8) (range : Nat × Nat) (cookie : Vector UInt8 x11CookieBytes)
      (localAuth : LocalX11Auth),
      validateSetupPacket packet cookie.toList = .ok range → localAuth.Loaded →
      ∃ s s' : X11SetupPacket, packet = s.encode ∧ s.Carries cookie.toList ∧
        rewriteSetupPacket packet cookie.toList localAuth = .ok s'.encode ∧
        s'.byteOrder = s.byteOrder ∧ s'.version = s.version ∧
        match localAuth with
        | .cookie real => s'.Carries real ∧ ∃ range', validateSetupPacket s'.encode real = .ok range'
        | .none => s'.name = [] ∧ s'.data = [] := by
  refine ⟨authenticateThenPrepare_spec, fun packet range cookie localAuth hvalid hloaded => ?_⟩
  -- what is validated is the encoding of a packet, and it is rewritten part by part
  obtain ⟨s, rfl, hs, -⟩ := validateSetupPacket_iff.mp hvalid
  cases localAuth with
  | cookie real =>
    have hlength : real.length = cookie.toList.length :=
      hloaded.length.trans (Vector.length_toList).symm
    obtain ⟨s', hrewrite, horder, hversion, hcarries⟩ := rewriteSetupPacket_cookie hs hlength
    exact ⟨s, s', rfl, hs, hrewrite, horder, hversion, hcarries, _,
      validateSetupPacket_iff.mpr ⟨s', rfl, hcarries, rfl⟩⟩
  | none =>
    obtain ⟨s', hrewrite, horder, hversion, hname, hdata⟩ := rewriteSetupPacket_none hs
    exact ⟨s, s', rfl, hs, hrewrite, horder, hversion, hname, hdata⟩

end AxSsh
