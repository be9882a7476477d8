import AxSsh.Native.HostKeyChecks
import AxSsh.Spec.KnownHostsEdits

/-!
# Confirmed and accepted host keys

A connection accepts a key by its pin, unless the `known_hosts` file speaks against the key, and
without a pin only when the file trusts it.  A prompt carries the fingerprint of the key it shows,
so a confirmation pins that key, and afterwards no other one is accepted.

## Key results
- `checkServerKey_iff`: when a key is accepted
- `prompts_step`, `prompts_run`: a prompt is about one key
- `decision_of_plain`: for an ordinary host name, what a confirmation leaves in the file
- `host_keys_agree`: checks, errors, probes and confirmations together
- `revoked_meanwhile`: a confirmed key that was revoked before the confirmation
-/

namespace AxSsh.HostKeys

open KnownHostsEdit

variable {Key : Type} [DecidableEq Key] {F : KeyCodec Key}

/-! ## The check -/

/-- Whether a handler accepts a key that it is shown first. -/
def Accepts (F : KeyCodec Key) (handler : ClientHandler Key)
    (serverPublicKey : PublicKeyOrCertificate Key) : Prop :=
  (checkServerKey F handler serverPublicKey {}).1 = true

/-- The decision of the snapshot that a handler was given. -/
def ClientHandler.decision (F : KeyCodec Key) (handler : ClientHandler Key) (key : Key) :
    TrustDecision :=
  AxSsh.decision F.toKeyFormat handler.knownHosts handler.host handler.port key

theorem checkServerKey_iff (handler : ClientHandler Key) (key : Key) :
    Accepts F handler (.publicKey key) ↔
      handler.decision F key ≠ .revoked ∧
        ((∃ pin, handler.expectedFingerprint = some pin ∧ pin = F.fingerprint key ∧
            handler.decision F key ≠ .changed) ∨
          (handler.expectedFingerprint = none ∧ handler.decision F key = .trusted)) := by
  have hanswer : (checkServerKey F handler (.publicKey key) {}).1 =
      if handler.decision F key = .revoked then false
      else if handler.expectedFingerprint.isSome then
        fingerprintIsTrusted handler.expectedFingerprint (F.fingerprint key) &&
          decide (handler.decision F key ≠ .changed)
      else decide (handler.decision F key = .trusted) := rfl
  unfold Accepts
  rw [hanswer]
  by_cases hrevoked : handler.decision F key = .revoked
  · simp [hrevoked]
  · rw [if_neg hrevoked]
    cases hpin : handler.expectedFingerprint with
    | none => simp [hrevoked]
    | some pin => simp [hrevoked, fingerprintIsTrusted]

theorem not_accepts_certificate (handler : ClientHandler Key) :
    ¬Accepts F handler .certificate := nofun

/-- What is recorded of a key, and of the answer. -/
theorem checkServerKey_observation (handler : ClientHandler Key) (key : Key) :
    (checkServerKey F handler (.publicKey key) {}).2 =
      { fingerprint := some (F.fingerprint key)
        publicKey := some (F.toOpenssh key)
        decision := some (handler.decision F key)
        accepted := some (checkServerKey F handler (.publicKey key) {}).1 } := rfl

/-! ## Connections and probes -/

/-- A refused key is reported, with what was presented. -/
theorem connectTransport_refused (file : KnownHostsFile) (ssh : SshEndpoint)
    (expected : Option (List Char)) {peer : Peer Key} {key : Key} (htcp : peer.tcp = .connected)
    (hkey : peer.presents = some (.publicKey key)) (hfails : peer.RefusalFails)
    (hrefused : ¬Accepts F (clientHandler F file ssh expected) (.publicKey key)) :
    (connectTransport F file ssh expected peer).1 = .error
      (if (clientHandler F file ssh expected).decision F key = .revoked then
        .hostKeyRevoked (F.fingerprint key) (some (F.toOpenssh key))
      else .hostKeyRejected expected (F.fingerprint key) (some (F.toOpenssh key))) := by
  have hanswer : (checkServerKey F (clientHandler F file ssh expected) (.publicKey key) {}).1 =
      false := by simpa [Accepts] using hrefused
  have hends : peer.ends (some false) = .failed := hfails
  have hobservation := checkServerKey_observation (F := F) (clientHandler F file ssh expected) key
  rw [hanswer] at hobservation
  simp only [connectTransport, htcp, hkey, Option.map_some, hanswer, hends, Option.getD_some,
    hobservation, handshakeError, Option.some.injEq]

/-- What a connection observed is nothing, or the one key that was presented. -/
theorem connectTransport_observation (file : KnownHostsFile) (ssh : SshEndpoint)
    (expected : Option (List Char)) (peer : Peer Key) :
    (connectTransport F file ssh expected peer).2.fingerprint = none ∨
      ∃ key, peer.presents = some (.publicKey key) ∧
        (connectTransport F file ssh expected peer).2 =
          (checkServerKey F (clientHandler F file ssh expected) (.publicKey key) {}).2 := by
  unfold connectTransport
  split
  · exact .inl rfl
  · exact .inl rfl
  · cases hkey : peer.presents with
    | none =>
      left
      dsimp only [Option.map_none, Option.getD_none]
      split <;> rfl
    | some serverPublicKey =>
      cases serverPublicKey with
      | certificate =>
        left
        dsimp only [Option.map_some, Option.getD_some]
        split <;> rfl
      | publicKey key =>
        right
        refine ⟨key, rfl, ?_⟩
        dsimp only [Option.map_some, Option.getD_some]
        split <;> rfl

/-- The key that an error is about. -/
def TransportError.hostKey : TransportError → Option (List Char × Option (List Char))
  | .hostKeyRejected _ actual publicKey | .hostKeyRevoked actual publicKey =>
    some (actual, publicKey)
  | .network _ => none

/-- An error about a host key is about what was observed. -/
theorem handshakeError_hostKey {ssh : SshEndpoint} {expected : Option (List Char)}
    {observation : FingerprintObservation} {actual : List Char} {publicKey : Option (List Char)}
    (h : (handshakeError ssh expected observation).hostKey = some (actual, publicKey)) :
    observation.fingerprint = some actual ∧ observation.publicKey = publicKey := by
  unfold handshakeError at h
  split at h
  · rename_i hfingerprint _
    split at h
    all_goals
      cases h
      exact ⟨hfingerprint, rfl⟩
  · cases h

/-- A prompt's fingerprint and text are those of one key. -/
def OfKey (F : KeyCodec Key) (fingerprint : List Char) (publicKey : Option (List Char)) : Prop :=
  ∃ key, fingerprint = F.fingerprint key ∧ publicKey = some (F.toOpenssh key)

theorem connectTransport_hostKey {file : KnownHostsFile} {ssh : SshEndpoint}
    {expected : Option (List Char)} {peer : Peer Key} {error : TransportError} {actual : List Char}
    {publicKey : Option (List Char)}
    (h : (connectTransport F file ssh expected peer).1 = .error error)
    (hkey : error.hostKey = some (actual, publicKey)) : OfKey F actual publicKey := by
  have hobservation := connectTransport_observation (F := F) file ssh expected peer
  have herror : error.hostKey = none ∨
      error = handshakeError ssh expected (connectTransport F file ssh expected peer).2 := by
    unfold connectTransport at h ⊢
    split at h
    · cases h
      exact .inl rfl
    · cases h
      exact .inl rfl
    · dsimp only at h ⊢
      split at h
      · cases h
      · cases h
        exact .inr rfl
      · cases h
        exact .inl rfl
  rcases herror with hnone | rfl
  · simp [hnone] at hkey
  · obtain ⟨hfingerprint, hpublicKey⟩ := handshakeError_hostKey hkey
    rcases hobservation with hnone | ⟨key, _, hkey⟩
    · simp [hnone] at hfingerprint
    · rw [hkey, checkServerKey_observation] at hfingerprint hpublicKey
      exact ⟨key, (Option.some.inj hfingerprint).symm, hpublicKey.symm⟩

/-- A probe reports the decision on the key that was presented. -/
theorem probeHostKey_ok {file : KnownHostsFile} {ssh : SshEndpoint} {peer : Peer Key}
    {probe : HostKeyProbe} (h : probeHostKey F file ssh peer = .ok probe) :
    ∃ key, peer.presents = some (.publicKey key) ∧ probe =
      { fingerprint := F.fingerprint key
        decision := (clientHandler F file ssh none).decision F key
        publicKey := some (F.toOpenssh key) } := by
  unfold probeHostKey at h
  dsimp only at h
  rcases connectTransport_observation (F := F) file ssh none peer with hnone | ⟨key, hkey, hobs⟩
  · rw [hnone] at h
    split at h
    all_goals simp_all
  · refine ⟨key, hkey, ?_⟩
    rw [hobs, checkServerKey_observation] at h
    split at h
    · rename_i hfingerprint
      cases hfingerprint
      dsimp only at h
      split at h
      · exact (Except.ok.inj h).symm
      · cases h
      · cases h
    · rename_i hfingerprint
      cases hfingerprint
    · rename_i hfingerprint
      cases hfingerprint
      exact (Except.ok.inj h).symm
    · cases h

/-- A probe that got through reports the key, whether it is refused or accepted. -/
theorem probeHostKey_reports (file : KnownHostsFile) (ssh : SshEndpoint) {peer : Peer Key}
    {key : Key} (htcp : peer.tcp = .connected) (hkey : peer.presents = some (.publicKey key))
    (hfails : peer.RefusalFails) (hends : peer.ends (some true) = .connected) :
    ∃ probe, probeHostKey F file ssh peer = .ok probe := by
  have hrefused : peer.ends (some false) = .failed := hfails
  have hobservation := checkServerKey_observation (F := F) (clientHandler F file ssh none) key
  unfold probeHostKey connectTransport
  cases hanswer : (checkServerKey F (clientHandler F file ssh none) (.publicKey key) {}).1 with
  | true =>
    simp only [htcp, hkey, Option.map_some, hanswer, hends, Option.getD_some, hobservation]
    exact ⟨_, rfl⟩
  | false =>
    simp only [htcp, hkey, Option.map_some, hanswer, hrefused, Option.getD_some, hobservation]
    exact ⟨_, rfl⟩

/-! ## Prompts -/

namespace HostKeyState

variable {s : HostKeyState}

/-- Every prompt is about one key. -/
def PromptsInv (F : KeyCodec Key) (s : HostKeyState) : Prop :=
  ∀ tab pending, s.prompts.lookup tab = some pending →
    OfKey F pending.fingerprint pending.publicKey

omit [DecidableEq Key] in
theorem PromptsInv.insert (h : PromptsInv F s) {tab : Uuid} {pending : PendingHostKey}
    (hpending : OfKey F pending.fingerprint pending.publicKey) :
    PromptsInv F { s with prompts := s.prompts.insert tab pending } := by
  intro other prompt hprompt
  rw [AssocMap.lookup_insert_ite] at hprompt
  split at hprompt
  · cases hprompt
    exact hpending
  · exact h other prompt hprompt

omit [DecidableEq Key] in
theorem PromptsInv.erase (h : PromptsInv F s) (tab : Uuid) (file : KnownHostsFile)
    (profiles : AssocMap Uuid SshEndpoint) :
    PromptsInv F { s with file, profiles, prompts := s.prompts.erase tab } := by
  intro other prompt hprompt
  rw [AssocMap.lookup_erase_ite] at hprompt
  split at hprompt
  · cases hprompt
  · exact h other prompt hprompt

omit [DecidableEq Key] in
theorem prompts_finishConnection (h : PromptsInv F s) {tab profileId : Uuid} {ssh : SshEndpoint}
    {result : Except TransportError Unit}
    (hresult : ∀ error actual publicKey, result = .error error →
      error.hostKey = some (actual, publicKey) → OfKey F actual publicKey) :
    PromptsInv F (s.finishConnection tab profileId ssh result) := by
  unfold finishConnection
  dsimp only
  split
  · exact h.insert (hresult _ _ _ rfl rfl)
  · exact h.insert (hresult _ _ _ rfl rfl)
  · exact h

omit [DecidableEq Key] in
theorem prompts_confirm (h : PromptsInv F s) (tab : Uuid) (saved written : Bool) :
    PromptsInv F (s.confirm F tab saved written) := by
  unfold confirm
  -- a confirmation drops its prompt, or fails and keeps it
  split
  · exact h
  · rename_i pending _
    split
    · split
      · unfold confirmRevokedHostKey
        split
        · exact h
        · dsimp only
          split
          · split
            · exact h.erase tab _ _
            · exact h
          · exact h
      · exact h
    · split
      · split
        · exact h
        · rename_i confirmed hconfirmed
          unfold confirmHostKey at hconfirmed
          simp only [Option.bind_eq_bind, Option.bind_eq_some_iff, Option.some.injEq] at hconfirmed
          obtain ⟨ssh, _, file, _, rfl⟩ := hconfirmed
          exact h.erase tab _ _
      · unfold confirmHostKeyFails
        split
        · split <;> exact h
        · exact h

/-- One step keeps every prompt about one key. -/
theorem prompts_step (h : PromptsInv F s) (input : Input Key) : PromptsInv F (step F s input) := by
  cases input with
  | replaceFile file => exact h
  | editProfile profileId ssh => cases ssh <;> exact h
  | probe tab profileId peer =>
    simp only [step]
    split
    · exact h
    · rename_i ssh _
      unfold finishHostKeyProbe
      split
      · exact h
      · rename_i probe hprobe
        obtain ⟨key, _, rfl⟩ := probeHostKey_ok hprobe
        split
        · exact h
        · exact h.insert ⟨key, rfl, rfl⟩
  | connect tab profileId peer =>
    simp only [step]
    split
    · exact h
    · exact prompts_finishConnection h fun _ _ _ => connectTransport_hostKey
  | confirm tab saved written => exact prompts_confirm h tab saved written
  | reject tab => exact h.erase tab _ _

theorem prompts_run (h : s.prompts = ∅) (inputs : List (Input Key)) :
    PromptsInv F (inputs.foldl (step F) s) := by
  have hstart : PromptsInv F s := by
    intro tab pending hpending
    rw [h] at hpending
    cases hpending
  induction inputs using List.reverseRecOn with
  | nil => exact hstart
  | append_singleton inputs input ih =>
    rw [List.foldl_append]
    exact prompts_step ih input

end HostKeyState

/-! ## Confirmations -/

section Confirm

variable {s confirmed : HostKeyState} {pending : PendingHostKey}

omit [DecidableEq Key] in
/-- A confirmation edits the file for the key, and pins the fingerprint. -/
theorem confirmHostKey_some (h : s.confirmHostKey F pending = some confirmed) :
    ∃ (ssh : SshEndpoint) (key : Key) (edit : KnownHostsEdit Key) (content : List Char),
      (ssh.host = pending.host ∧ ssh.port = pending.port) ∧
      confirmed.profiles.lookup pending.profileId =
        some { ssh with hostKeyFingerprint := some pending.fingerprint } ∧
      pending.publicKey.bind F.fromOpenssh = some key ∧
      (edit = .append pending.host pending.port key ∨
        edit = .replace pending.host pending.port key) ∧
      confirmed.file = .text (edit.apply F.toKeyFormat content) ∧
      (s.file = .text content ∨ content = []) := by
  unfold HostKeyState.confirmHostKey at h
  simp only [Option.bind_eq_bind, Option.bind_eq_some_iff, Option.some.injEq] at h
  obtain ⟨ssh, hssh, file, hfile, rfl⟩ := h
  unfold HostKeyState.pendingProfile at hssh
  obtain ⟨_, hendpoint⟩ := Option.filter_eq_some_iff.mp hssh
  have hpinned := AssocMap.lookup_insert_ite s.profiles pending.profileId pending.profileId
    { ssh with hostKeyFingerprint := some pending.fingerprint }
  rw [if_pos rfl] at hpinned
  unfold HostKeyState.writeConfirmed at hfile
  simp only [Option.bind_eq_bind, Option.bind_eq_some_iff] at hfile
  obtain ⟨key, hkey, hfile⟩ := hfile
  have hendpoint : ssh.host = pending.host ∧ ssh.port = pending.port := by simpa using hendpoint
  have hparsed := Option.bind_eq_some_iff.mpr hkey
  -- the key is replaced, appended, or written to a new file
  split at hfile
  · rename_i hcontent
    cases hfile
    exact ⟨ssh, key, _, _, hendpoint, hpinned, hparsed, .inr rfl, rfl, .inl hcontent⟩
  · rename_i hcontent
    cases hfile
    exact ⟨ssh, key, _, _, hendpoint, hpinned, hparsed, .inl rfl, rfl, .inl hcontent⟩
  · cases hfile
    exact ⟨ssh, key, _, _, hendpoint, hpinned, hparsed, .inl rfl, rfl, .inr rfl⟩
  · cases hfile

/-- After the edit the file does not conflict with the key, and it revokes the key only if it did
    before. -/
theorem decision_of_plain (hreads : F.ReadsBack) {host : List Char} {port : Nat} {key : Key}
    {edit : KnownHostsEdit Key} (hedit : edit = .append host port key ∨ edit = .replace host port key)
    (hplain : Plain (formatHost host port)) (content : List Char) :
    let decision := AxSsh.decision F.toKeyFormat
      (loadDefault F (.text (edit.apply F.toKeyFormat content))) host port key
    decision ≠ .changed ∧
      (decision = .revoked → Says F.toKeyFormat (entriesOf F.toKeyFormat content) host port key true) := by
  unfold loadDefault
  dsimp only
  split
  · simp [AxSsh.decision]
  · rename_i entries hentries
    -- the file that was written is within the limits, else it is not read
    have hloaded : entries = entriesOf F.toKeyFormat (edit.apply F.toKeyFormat content) := by
      unfold loadFromPath at hentries
      split at hentries
      · cases hentries
      · split at hentries
        · cases hentries
        · exact (Except.ok.inj hentries).symm
    have hwritten : edit.written F.toKeyFormat = [⟨formatHost host port, key, false⟩] := by
      rcases hedit with rfl | rfl
      all_goals exact written_of_plain hreads key hplain
    rw [hloaded, entriesOf_apply, hwritten]
    constructor
    · intro hchanged
      refine ((decision_changed_iff _ host port key).mp hchanged).2.1 (says_append.mpr (.inr ?_))
      exact ⟨_, List.mem_singleton_self _, hostPatternsMatch_self hplain, rfl, rfl⟩
    · intro hrevoked
      rcases says_append.mp ((decision_revoked_iff _ host port key).mp hrevoked) with hkept | hnew
      · exact says_of_kept hkept
      -- what was written is not a revocation
      · obtain ⟨e, hmem, _, _, hrevoked⟩ := hnew
        rw [List.mem_singleton.mp hmem] at hrevoked
        cases hrevoked

end Confirm

/-! ## The agreement -/

/-- The connection of a profile accepts a key. -/
def HostKeyState.Accepts (F : KeyCodec Key) (s : HostKeyState) (profileId : Uuid)
    (serverPublicKey : PublicKeyOrCertificate Key) : Prop :=
  ∃ ssh, s.profiles.lookup profileId = some ssh ∧
    HostKeys.Accepts F (clientHandler F s.file ssh ssh.hostKeyFingerprint) serverPublicKey

/-- What checks, errors, probes and confirmations say of a key. -/
structure Agreement (F : KeyCodec Key) : Prop where
  accepts : ∀ (handler : ClientHandler Key) (key : Key),
    Accepts F handler (.publicKey key) ↔
      handler.decision F key ≠ .revoked ∧
        ((∃ pin, handler.expectedFingerprint = some pin ∧ pin = F.fingerprint key ∧
            handler.decision F key ≠ .changed) ∨
          (handler.expectedFingerprint = none ∧ handler.decision F key = .trusted))
  certificate : ∀ handler : ClientHandler Key, ¬Accepts F handler .certificate
  refused : ∀ (file : KnownHostsFile) (ssh : SshEndpoint) (expected : Option (List Char))
    (peer : Peer Key) (key : Key), peer.tcp = .connected → peer.presents = some (.publicKey key) →
    peer.RefusalFails → ¬Accepts F (clientHandler F file ssh expected) (.publicKey key) →
    (connectTransport F file ssh expected peer).1 = .error
      (if (clientHandler F file ssh expected).decision F key = .revoked then
        .hostKeyRevoked (F.fingerprint key) (some (F.toOpenssh key))
      else .hostKeyRejected expected (F.fingerprint key) (some (F.toOpenssh key)))
  probe : ∀ (file : KnownHostsFile) (ssh : SshEndpoint) (pin : Option (List Char)) (peer : Peer Key)
    (key : Key), peer.presents = some (.publicKey key) →
    (∀ probe, probeHostKey F file ssh peer = .ok probe → probe =
      { fingerprint := F.fingerprint key
        decision := (clientHandler F file ssh pin).decision F key
        publicKey := some (F.toOpenssh key) }) ∧
    (peer.tcp = .connected → peer.RefusalFails → peer.ends (some true) = .connected →
      ∃ probe, probeHostKey F file ssh peer = .ok probe)
  /-- After a confirmation of `key`, and until the profile is changed, its connections accept this
  key alone, as long as the file they load does not revoke it or conflict with it.  For an ordinary
  host name, the file of the confirmation does neither, unless it revoked the key before. -/
  confirmed : ∀ (start confirmed : HostKeyState) (inputs : List (HostKeyState.Input Key))
    (tab : Uuid) (pending : PendingHostKey), start.prompts = ∅ →
    (inputs.foldl (HostKeyState.step F) start).prompts.lookup tab = some pending →
    (inputs.foldl (HostKeyState.step F) start).confirmHostKey F pending = some confirmed →
    ∃ key, pending.publicKey = some (F.toOpenssh key) ∧
      (∀ later : List (HostKeyState.Input Key),
        let s := later.foldl (HostKeyState.step F) confirmed
        s.profiles.lookup pending.profileId = confirmed.profiles.lookup pending.profileId →
        ∀ other, s.Accepts F pending.profileId (.publicKey other) ↔
          other = key ∧
            AxSsh.decision F.toKeyFormat (loadDefault F s.file) pending.host pending.port key ≠
              .revoked ∧
            AxSsh.decision F.toKeyFormat (loadDefault F s.file) pending.host pending.port key ≠
              .changed) ∧
      (Plain (formatHost pending.host pending.port) →
        (∀ content, (inputs.foldl (HostKeyState.step F) start).file = .text content →
          ¬Says F.toKeyFormat (entriesOf F.toKeyFormat content) pending.host pending.port key true) →
        confirmed.Accepts F pending.profileId (.publicKey key))

theorem accepts_confirmed (hinjective : Function.Injective F.fingerprint) {s : HostKeyState}
    {profileId : Uuid} {ssh : SshEndpoint} {key : Key}
    (hprofile : s.profiles.lookup profileId =
      some { ssh with hostKeyFingerprint := some (F.fingerprint key) }) (other : Key) :
    s.Accepts F profileId (.publicKey other) ↔
      other = key ∧
        AxSsh.decision F.toKeyFormat (loadDefault F s.file) ssh.host ssh.port key ≠ .revoked ∧
        AxSsh.decision F.toKeyFormat (loadDefault F s.file) ssh.host ssh.port key ≠ .changed := by
  unfold HostKeyState.Accepts
  constructor
  · rintro ⟨ssh', hssh, haccepts⟩
    rw [hprofile] at hssh
    cases hssh
    obtain ⟨hrevoked, hpinned | ⟨hnone, _⟩⟩ := (checkServerKey_iff _ other).mp haccepts
    · obtain ⟨pin, hpin, hsame, hchanged⟩ := hpinned
      -- The pin names one key.
      obtain rfl : other = key := by
        apply hinjective
        rw [← hsame]
        exact (Option.some.inj hpin).symm
      exact ⟨rfl, hrevoked, hchanged⟩
    · cases hnone
  · rintro ⟨rfl, hrevoked, hchanged⟩
    refine ⟨_, hprofile, (checkServerKey_iff _ other).mpr ⟨hrevoked, .inl ⟨_, rfl, rfl, hchanged⟩⟩⟩

/-- Where fingerprints tell keys apart and keys read back from their texts, host key checks and
    confirmations agree. -/
theorem host_keys_agree (F : KeyCodec Key) (hinjective : Function.Injective F.fingerprint)
    (hopen : ∀ key, F.fromOpenssh (F.toOpenssh key) = some key) (hreads : F.ReadsBack) :
    Agreement F where
  accepts := checkServerKey_iff
  certificate := not_accepts_certificate
  refused file ssh expected _ _ := connectTransport_refused file ssh expected
  probe file ssh pin peer key hkey := by
    refine ⟨fun probe hprobe => ?_, fun htcp hfails hends => ?_⟩
    · obtain ⟨key', hkey', rfl⟩ := probeHostKey_ok hprobe
      rw [hkey] at hkey'
      cases hkey'
      rfl
    · exact probeHostKey_reports file ssh htcp hkey hfails hends
  confirmed start confirmed inputs tab pending hstart hprompt hconfirm := by
    obtain ⟨key, hfingerprint, hpublicKey⟩ :=
      HostKeyState.prompts_run (F := F) hstart inputs tab pending hprompt
    obtain ⟨ssh, parsed, edit, content, ⟨hhost, hport⟩, hpinned, hparsed, hedit, hfile, hbefore⟩ :=
      confirmHostKey_some hconfirm
    -- the fingerprint that was shown is that of the key that is confirmed
    obtain rfl : key = parsed := by
      rw [hpublicKey, Option.bind_some, hopen] at hparsed
      exact Option.some.inj hparsed
    rw [hfingerprint] at hpinned
    refine ⟨key, hpublicKey, fun later hprofile other => ?_, fun hplain hunrevoked => ?_⟩
    · rw [hpinned] at hprofile
      rw [← hhost, ← hport]
      -- the written file makes the key neither changed nor revoked
      exact accepts_confirmed hinjective hprofile other
    · obtain ⟨hchanged, hrevoked⟩ := decision_of_plain hreads hedit hplain content
      refine (accepts_confirmed hinjective hpinned key).mpr ⟨rfl, ?_⟩
      rw [hhost, hport, hfile]
      refine ⟨fun hdecision => ?_, hchanged⟩
      have hsaid := hrevoked hdecision
      rcases hbefore with hcontent | rfl
      · exact hunrevoked content hcontent hsaid
      · simp [Says] at hsaid

/-! ## Two keys -/

/-- The keys `k` and `n`. -/
def twoKeys : KeyCodec Bool where
  parsePublicKeyBase64 field :=
    if field = ['k'] then some true else if field = ['n'] then some false else none
  toOpenssh key := if key then ['t', ' ', 'k'] else ['t', ' ', 'n']
  fingerprint key := if key then ['k'] else ['n']
  verifyHashed _ _ _ := false
  fromOpenssh text :=
    if text = ['t', ' ', 'k'] then some true
    else if text = ['t', ' ', 'n'] then some false
    else none

/-- A server with the key `k`. -/
def serverK : Peer Bool where
  tcp := .connected
  presents := some (.publicKey true)
  ends answer := if answer = some false then .failed else .connected

theorem host_keys_agree_twoKeys :
    Agreement twoKeys ∧
      (connectTransport twoKeys .missing ⟨['h'], 22, none⟩ none serverK).1 =
        .error (.hostKeyRejected none ['k'] (some ['t', ' ', 'k'])) := by
  have hagree := host_keys_agree twoKeys (by unfold Function.Injective; decide) (by decide)
    (by unfold KeyFormat.ReadsBack; decide)
  refine ⟨hagree, hagree.refused .missing ⟨['h'], 22, none⟩ none serverK true rfl rfl rfl ?_⟩
  intro haccepts
  cases haccepts

/-- One profile, and no `known_hosts` file. -/
def oneProfile : HostKeyState where
  file := .missing
  profiles := (∅ : AssocMap Uuid SshEndpoint).insert ⟨1⟩ ⟨['h'], 22, none⟩

/-- The unknown key is shown to the user, and another program revokes it. -/
def revokedAfterProbe : List (HostKeyState.Input Bool) :=
  [.probe ⟨2⟩ ⟨1⟩ serverK, .replaceFile (.text "@revoked h t k\n".toList)]

theorem revoked_meanwhile :
    ¬∀ (start confirmed : HostKeyState) (inputs : List (HostKeyState.Input Bool)) (tab : Uuid)
      (pending : PendingHostKey) (key : Bool), start.prompts = ∅ →
      (inputs.foldl (HostKeyState.step twoKeys) start).prompts.lookup tab = some pending →
      (inputs.foldl (HostKeyState.step twoKeys) start).confirmHostKey twoKeys pending =
        some confirmed →
      pending.publicKey = some (twoKeys.toOpenssh key) →
      confirmed.Accepts twoKeys pending.profileId (.publicKey key) := by
  intro h
  have hloaded : loadDefault twoKeys (.text
      (appendConfirmed twoKeys.toKeyFormat ['h'] 22 true "@revoked h t k\n".toList)) =
        [⟨['h'], true, true⟩, ⟨['h'], true, false⟩] := rfl
  have hplain : Plain (formatHost ['h'] 22) := by
    refine ⟨by decide, ?_, by decide, by decide, by decide⟩
    intro c hc
    obtain rfl := List.mem_singleton.mp hc
    rfl
  -- The line of the other program is still there.
  have hmem : ⟨['h'], true, true⟩ ∈ loadDefault twoKeys (.text
      (appendConfirmed twoKeys.toKeyFormat ['h'] 22 true "@revoked h t k\n".toList)) := by
    rw [hloaded]
    exact List.mem_cons_self
  obtain ⟨ssh, hssh, haccepts⟩ :=
    h oneProfile _ revokedAfterProbe ⟨2⟩ ⟨⟨1⟩, ['h'], 22, ['k'], some ['t', ' ', 'k'], false, false⟩
      true rfl rfl rfl rfl
  have hpinned : ssh = ⟨['h'], 22, some ['k']⟩ := (Option.some.inj hssh).symm
  subst hpinned
  have hrevoked := ((checkServerKey_iff _ true).mp haccepts).1
  exact hrevoked ((decision_revoked_iff _ _ _ true).mpr
    ⟨⟨['h'], true, true⟩, hmem, hostPatternsMatch_self hplain, rfl, rfl⟩)

end AxSsh.HostKeys
