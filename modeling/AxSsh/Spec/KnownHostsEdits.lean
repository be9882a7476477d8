import AxSsh.Spec.KnownHostsText

/-!
# What an edit of known_hosts changes

An edit should leave a file the loader accepts, decide for its own host what the user confirmed, and
decide for every other host what was decided before.  The edits work line by line and check none of
the loader's limits, so all three depend on the text: there has to be room, the written line has
to read back, and a line that is dropped must not be the only one of its key for another host.

## Key results
- `decision_eq_iff`: the decision by what the entries of the host say
- `KnownHostsEdit.spares_iff`: when the decisions of another host stay
- `KnownHostsEdit.meetsClaim_iff`: exactly when an edit is effective and local
- `written_of_plain`: an ordinary host name reads back
-/

namespace AxSsh

open TextLines

variable {Key : Type} [DecidableEq Key] {F : KeyFormat Key}

/-! ## Decisions -/

/-- An entry for the host says that the key is revoked, or that it is not. -/
def Says (F : KeyFormat Key) (entries : List (Entry Key)) (host : List Char) (port : Nat)
    (key : Key) (revoked : Bool) : Prop :=
  ∃ e ∈ entries, hostPatternsMatch F e.hosts (hostCandidates host port) = true ∧ e.key = key ∧
    e.revoked = revoked

omit [DecidableEq Key] in
theorem says_append {es es' : List (Entry Key)} {host : List Char} {port : Nat} {key : Key}
    {revoked : Bool} : Says F (es ++ es') host port key revoked ↔
      Says F es host port key revoked ∨ Says F es' host port key revoked := by
  simp only [Says, List.mem_append, or_and_right, exists_or]

theorem any_listed_iff (entries : List (Entry Key)) (host : List Char) (port : Nat) (key : Key)
    (p : Entry Key → Bool) (revoked : Bool) (hp : ∀ e, p e = true ↔ e.revoked = revoked) :
    ((entries.filter fun e => hostPatternsMatch F e.hosts (hostCandidates host port)).any
      fun e => e.key = key ∧ p e) = true ↔ Says F entries host port key revoked := by
  rw [List.any_eq_true]
  constructor
  · rintro ⟨e, he, hsays⟩
    obtain ⟨hmem, hmatch⟩ := List.mem_filter.mp he
    obtain ⟨hkey, hrevoked⟩ := of_decide_eq_true hsays
    exact ⟨e, hmem, hmatch, hkey, (hp e).mp hrevoked⟩
  · rintro ⟨e, hmem, hmatch, hkey, hrevoked⟩
    exact ⟨e, List.mem_filter.mpr ⟨hmem, hmatch⟩, decide_eq_true ⟨hkey, (hp e).mpr hrevoked⟩⟩

theorem decision_revoked_iff (entries : List (Entry Key)) (host : List Char) (port : Nat)
    (key : Key) :
    decision F entries host port key = .revoked ↔ Says F entries host port key true := by
  rw [← any_listed_iff entries host port key (fun e => e.revoked) true fun _ => Iff.rfl]
  unfold decision
  simp only
  split
  · next h => exact iff_of_true rfl h
  · next h =>
    refine iff_of_false ?_ h
    split
    · nofun
    · split <;> nofun

theorem decision_trusted_iff (entries : List (Entry Key)) (host : List Char) (port : Nat)
    (key : Key) :
    decision F entries host port key = .trusted ↔
      ¬Says F entries host port key true ∧ Says F entries host port key false := by
  rw [← any_listed_iff entries host port key (fun e => e.revoked) true fun _ => Iff.rfl,
    ← any_listed_iff entries host port key (fun e => !e.revoked) false fun e => by simp]
  unfold decision
  simp only
  split
  · next h => exact iff_of_false nofun fun hnot => hnot.1 h
  · next h =>
    split
    · next htrusted => exact iff_of_true rfl ⟨h, htrusted⟩
    · next htrusted =>
      refine iff_of_false ?_ fun hboth => htrusted hboth.2
      split <;> nofun

/-- The host is listed at all. -/
def Listed (F : KeyFormat Key) (entries : List (Entry Key)) (host : List Char) (port : Nat) :
    Prop :=
  ∃ key revoked, Says F entries host port key revoked

theorem decision_changed_iff (entries : List (Entry Key)) (host : List Char) (port : Nat)
    (key : Key) :
    decision F entries host port key = .changed ↔
      ¬Says F entries host port key true ∧ ¬Says F entries host port key false ∧
        Listed F entries host port := by
  have hlisted : (entries.filter fun e =>
      hostPatternsMatch F e.hosts (hostCandidates host port)) ≠ [] ↔
        Listed F entries host port := by
    rw [← List.isEmpty_eq_false_iff, List.isEmpty_eq_false_iff_exists_mem]
    constructor
    · rintro ⟨e, he⟩
      obtain ⟨hmem, hmatch⟩ := List.mem_filter.mp he
      exact ⟨e.key, e.revoked, e, hmem, hmatch, rfl, rfl⟩
    · rintro ⟨key', revoked, e, hmem, hmatch, -⟩
      exact ⟨e, List.mem_filter.mpr ⟨hmem, hmatch⟩⟩
  rw [← any_listed_iff entries host port key (fun e => e.revoked) true fun _ => Iff.rfl,
    ← any_listed_iff entries host port key (fun e => !e.revoked) false fun e => by simp, ← hlisted]
  unfold decision
  simp only
  split
  · next h => exact iff_of_false nofun fun hnot => hnot.1 h
  · next h =>
    split
    · next htrusted => exact iff_of_false nofun fun hnot => hnot.2.1 htrusted
    · next htrusted =>
      split
      · next hne => exact iff_of_true rfl ⟨h, htrusted, hne⟩
      · next hne => exact iff_of_false nofun fun hnot => hne hnot.2.2

/-- Two lists of entries decide alike for a host when they say the same of revoked keys, and of the
    keys that are not. -/
theorem decision_eq_iff (es es' : List (Entry Key)) (host : List Char) (port : Nat) :
    (∀ key, decision F es' host port key = decision F es host port key) ↔
      ∀ key, (Says F es' host port key true ↔ Says F es host port key true) ∧
        (¬Says F es host port key true →
          (Says F es' host port key false ↔ Says F es host port key false)) := by
  constructor
  · intro h key
    have hrevoked : Says F es' host port key true ↔ Says F es host port key true := by
      rw [← decision_revoked_iff, ← decision_revoked_iff, h key]
    refine ⟨hrevoked, fun hnot => ?_⟩
    -- an unrevoked key is trusted exactly where it is said
    have htrusted := decision_trusted_iff (F := F) es host port key
    have htrusted' := decision_trusted_iff (F := F) es' host port key
    rw [h key] at htrusted'
    constructor
    · intro hsays
      exact (htrusted.mp (htrusted'.mpr ⟨mt hrevoked.mp hnot, hsays⟩)).2
    · intro hsays
      exact (htrusted'.mp (htrusted.mpr ⟨hnot, hsays⟩)).2
  · intro h
    -- whether anything is said of the host decides between a changed and an unknown key
    have hlisted : Listed F es' host port ↔ Listed F es host port := by
      constructor
      · rintro ⟨key, revoked, hsays⟩
        obtain ⟨hrev, hunrev⟩ := h key
        by_cases hr : Says F es host port key true
        · exact ⟨key, true, hr⟩
        · cases revoked with
          | true => exact ⟨key, true, hrev.mp hsays⟩
          | false => exact ⟨key, false, (hunrev hr).mp hsays⟩
      · rintro ⟨key, revoked, hsays⟩
        obtain ⟨hrev, hunrev⟩ := h key
        by_cases hr : Says F es host port key true
        · exact ⟨key, true, hrev.mpr hr⟩
        · cases revoked with
          | true => exact ⟨key, true, hrev.mpr hsays⟩
          | false => exact ⟨key, false, (hunrev hr).mpr hsays⟩
    intro key
    obtain ⟨hrev, hunrev⟩ := h key
    cases hdec : decision F es host port key with
    | revoked => rw [decision_revoked_iff] at hdec ⊢; exact hrev.mpr hdec
    | trusted =>
      rw [decision_trusted_iff] at hdec ⊢
      exact ⟨mt hrev.mp hdec.1, (hunrev hdec.1).mpr hdec.2⟩
    | changed =>
      rw [decision_changed_iff] at hdec ⊢
      exact ⟨mt hrev.mp hdec.1, mt (hunrev hdec.1).mp hdec.2.1, hlisted.mpr hdec.2.2⟩
    | unknown =>
      -- an unknown key is what is left when nothing is said of the host
      have hnotRevoked : ¬Says F es host port key true := by
        rw [← decision_revoked_iff, hdec]; nofun
      have hnotTrusted := mt (decision_trusted_iff (F := F) es host port key).mpr (by rw [hdec]; nofun)
      have hnotChanged := mt (decision_changed_iff (F := F) es host port key).mpr (by rw [hdec]; nofun)
      have hunsaid : ¬Says F es host port key false := fun hs => hnotTrusted ⟨hnotRevoked, hs⟩
      cases hdec' : decision F es' host port key with
      | unknown => rfl
      | revoked =>
        rw [decision_revoked_iff] at hdec'
        exact absurd (hrev.mp hdec') hnotRevoked
      | trusted =>
        rw [decision_trusted_iff] at hdec'
        exact absurd ((hunrev hnotRevoked).mp hdec'.2) hunsaid
      | changed =>
        rw [decision_changed_iff] at hdec'
        exact absurd ⟨hnotRevoked, hunsaid, hlisted.mp hdec'.2.2⟩ hnotChanged

/-! ## The claim on one edit -/

namespace KnownHostsEdit

/-- The host that the edit is about. -/
def target : KnownHostsEdit Key → List Char × Nat
  | .append host port _ | .replace host port _ | .remove host port _ => (host, port)

/-- What the edit is for: the confirmed key is trusted, the removed one is not decided on. -/
def Effective (F : KeyFormat Key) (edit : KnownHostsEdit Key) (before after : List (Entry Key)) :
    Prop :=
  match edit with
  | .append host port key | .replace host port key =>
    decision F before host port key ≠ .revoked → decision F after host port key = .trusted
  | .remove host port fingerprint =>
    ∀ key, F.fingerprint key = fingerprint →
      decision F after host port key ≠ .trusted ∧ decision F after host port key ≠ .revoked

/-- A newly written host field names the host. -/
def WritesTo (F : KeyFormat Key) (edit : KnownHostsEdit Key) (host : List Char) (port : Nat) :
    Prop :=
  ∃ e ∈ edit.written F, hostPatternsMatch F e.hosts (hostCandidates host port) = true

/-- Every other host keeps its decisions. -/
def Local (F : KeyFormat Key) (edit : KnownHostsEdit Key) (before after : List (Entry Key)) :
    Prop :=
  ∀ host port, (host, port) ≠ edit.target → ¬edit.WritesTo F host port → ∀ key,
    decision F after host port key = decision F before host port key

/-- The edited file is accepted, and the edit is effective and local. -/
def MeetsClaim (F : KeyFormat Key) (edit : KnownHostsEdit Key) (text : List Char) : Prop :=
  (loadFromPath F (edit.apply F text)).isOk = true ∧
    edit.Effective F (entriesOf F text) (entriesOf F (edit.apply F text)) ∧
    edit.Local F (entriesOf F text) (entriesOf F (edit.apply F text))

/-! ## When it holds -/

/-- The written line reads back as an entry of its key for its host; an append also finds the key
    trusted already, as long as its line does not revoke it. -/
def Names (F : KeyFormat Key) (edit : KnownHostsEdit Key) (before : List (Entry Key)) : Prop :=
  match edit with
  | .append host port key =>
    decision F before host port key = .revoked ∨
      (¬Says F (edit.written F) host port key true ∧
        (Says F (edit.written F) host port key false ∨
          decision F before host port key = .trusted))
  | .replace host port key =>
    decision F before host port key = .revoked ∨
      (¬Says F (edit.written F) host port key true ∧ Says F (edit.written F) host port key false)
  | .remove _ _ _ => True

/-- For every other host, each entry that is dropped leaves one with its key, revoked if it was. -/
def Spares (F : KeyFormat Key) (edit : KnownHostsEdit Key) (before : List (Entry Key)) : Prop :=
  ∀ host port, (host, port) ≠ edit.target → ¬edit.WritesTo F host port →
    ∀ e ∈ before, edit.keeps F e = false →
      hostPatternsMatch F e.hosts (hostCandidates host port) = true →
        ∃ e' ∈ before, edit.keeps F e' = true ∧
          hostPatternsMatch F e'.hosts (hostCandidates host port) = true ∧ e'.key = e.key ∧
            (e.revoked = true → e'.revoked = true)

omit [DecidableEq Key] in
theorem mem_after {edit : KnownHostsEdit Key} {before : List (Entry Key)} {e : Entry Key} :
    e ∈ before.filter (edit.keeps F) ↔ e ∈ before ∧ edit.keeps F e = true := List.mem_filter

omit [DecidableEq Key] in
/-- A host that no written field names is decided by the kept entries. -/
theorem says_after_iff {edit : KnownHostsEdit Key} {before : List (Entry Key)} {host : List Char}
    {port : Nat} (hwrites : ¬edit.WritesTo F host port) (key : Key) (revoked : Bool) :
    Says F (before.filter (edit.keeps F) ++ edit.written F) host port key revoked ↔
      Says F (before.filter (edit.keeps F)) host port key revoked := by
  rw [says_append]
  refine or_iff_left ?_
  rintro ⟨e, hmem, hmatch, -⟩
  exact hwrites ⟨e, hmem, hmatch⟩

omit [DecidableEq Key] in
theorem says_of_kept {edit : KnownHostsEdit Key} {before : List (Entry Key)} {host : List Char}
    {port : Nat} {key : Key} {revoked : Bool}
    (h : Says F (before.filter (edit.keeps F)) host port key revoked) :
    Says F before host port key revoked := by
  obtain ⟨e, hmem, hsays⟩ := h
  exact ⟨e, (mem_after.mp hmem).1, hsays⟩

/-- Every other host keeps its decisions exactly when what is dropped is spared. -/
theorem spares_iff (edit : KnownHostsEdit Key) (before : List (Entry Key)) :
    edit.Local F before (before.filter (edit.keeps F) ++ edit.written F) ↔
      edit.Spares F before := by
  constructor
  · intro h host port hne hwrites e he hdropped hmatch
    have hkeys := (decision_eq_iff _ _ host port).mp (h host port hne hwrites) e.key
    rw [says_after_iff hwrites, says_after_iff hwrites] at hkeys
    obtain ⟨hrevoked, htrusted⟩ := hkeys
    have hsays : Says F before host port e.key e.revoked := ⟨e, he, hmatch, rfl, rfl⟩
    have hspare : ∀ revoked, Says F (before.filter (edit.keeps F)) host port e.key revoked →
        (e.revoked = true → revoked = true) → ∃ e' ∈ before, edit.keeps F e' = true ∧
          hostPatternsMatch F e'.hosts (hostCandidates host port) = true ∧ e'.key = e.key ∧
            (e.revoked = true → e'.revoked = true) := by
      rintro revoked ⟨e', hmem, hmatch', hkey', hrevoked'⟩ himp
      obtain ⟨hbefore, hkeeps⟩ := mem_after.mp hmem
      exact ⟨e', hbefore, hkeeps, hmatch', hkey', fun hr => hrevoked'.trans (himp hr)⟩
    by_cases hr : Says F before host port e.key true
    · exact hspare true (hrevoked.mpr hr) fun _ => rfl
    · cases hre : e.revoked with
      | true => exact absurd (hre ▸ hsays) hr
      | false =>
        rw [← hre]
        exact hspare false ((htrusted hr).mpr (hre ▸ hsays)) fun hr' => by rw [hre] at hr'; cases hr'
  · intro h host port hne hwrites
    rw [decision_eq_iff]
    intro key
    rw [says_after_iff hwrites, says_after_iff hwrites]
    have hspares := h host port hne hwrites
    constructor
    · refine ⟨says_of_kept, ?_⟩
      rintro ⟨e, he, hmatch, rfl, hrevoked⟩
      cases hkeeps : edit.keeps F e with
      | true => exact ⟨e, mem_after.mpr ⟨he, hkeeps⟩, hmatch, rfl, hrevoked⟩
      | false =>
        obtain ⟨e', he', hkeeps', hmatch', hkey', himp⟩ := hspares e he hkeeps hmatch
        exact ⟨e', mem_after.mpr ⟨he', hkeeps'⟩, hmatch', hkey', himp hrevoked⟩
    · intro hnot
      refine ⟨says_of_kept, ?_⟩
      rintro ⟨e, he, hmatch, rfl, hunrevoked⟩
      cases hkeeps : edit.keeps F e with
      | true => exact ⟨e, mem_after.mpr ⟨he, hkeeps⟩, hmatch, rfl, hunrevoked⟩
      | false =>
        obtain ⟨e', he', hkeeps', hmatch', hkey', -⟩ := hspares e he hkeeps hmatch
        refine ⟨e', mem_after.mpr ⟨he', hkeeps'⟩, hmatch', hkey', ?_⟩
        -- a revoked entry of the key was ruled out before
        cases hrevoked' : e'.revoked with
        | false => rfl
        | true => exact absurd ⟨e', he', hmatch', hkey', hrevoked'⟩ hnot

/-- The kept entries say nothing new of a key. -/
theorem not_says_kept_revoked (edit : KnownHostsEdit Key) {before : List (Entry Key)}
    {host : List Char} {port : Nat} {key : Key} (h : decision F before host port key ≠ .revoked) :
    ¬Says F (before.filter (edit.keeps F)) host port key true :=
  fun hsays => h ((decision_revoked_iff before host port key).mpr (says_of_kept hsays))

theorem effective_append_iff (host : List Char) (port : Nat) (key : Key)
    (before : List (Entry Key)) :
    (append host port key).Effective F before
        (before.filter ((append host port key).keeps F) ++ (append host port key).written F) ↔
      (append host port key).Names F before := by
  have hall : before.filter ((append host port key).keeps F) = before :=
    List.filter_eq_self.mpr fun _ _ => rfl
  rw [hall]
  by_cases hrevoked : decision F before host port key = .revoked
  · exact iff_of_true (fun hnot => absurd hrevoked hnot) (.inl hrevoked)
  have hunsaid : ¬Says F before host port key true :=
    fun hsays => hrevoked ((decision_revoked_iff before host port key).mpr hsays)
  constructor
  · intro h
    have htrusted := h hrevoked
    rw [decision_trusted_iff, says_append, says_append, not_or] at htrusted
    refine .inr ⟨htrusted.1.2, htrusted.2.symm.imp_right fun hsays => ?_⟩
    exact (decision_trusted_iff before host port key).mpr ⟨hunsaid, hsays⟩
  · rintro (h | ⟨hwritten, hsays⟩) _
    · exact absurd h hrevoked
    · rw [decision_trusted_iff, says_append, says_append, not_or]
      refine ⟨⟨hunsaid, hwritten⟩, hsays.symm.imp_left fun htrusted => ?_⟩
      exact ((decision_trusted_iff before host port key).mp htrusted).2

theorem effective_replace_iff (host : List Char) (port : Nat) (key : Key)
    (before : List (Entry Key)) :
    (replace host port key).Effective F before
        (before.filter ((replace host port key).keeps F) ++ (replace host port key).written F) ↔
      (replace host port key).Names F before := by
  by_cases hrevoked : decision F before host port key = .revoked
  · exact iff_of_true (fun hnot => absurd hrevoked hnot) (.inl hrevoked)
  have hunsaid := not_says_kept_revoked (replace host port key) hrevoked
  have hdropped : ¬Says F (before.filter ((replace host port key).keeps F)) host port key false := by
    rintro ⟨e, hmem, hmatch, -, hunrevoked⟩
    have hkeeps := (mem_after.mp hmem).2
    simp [keeps, hmatch, hunrevoked] at hkeeps
  constructor
  · intro h
    have htrusted := h hrevoked
    rw [decision_trusted_iff, says_append, says_append, not_or] at htrusted
    exact .inr ⟨htrusted.1.2, htrusted.2.resolve_left hdropped⟩
  · rintro (h | ⟨hwritten, hsays⟩) _
    · exact absurd h hrevoked
    · rw [decision_trusted_iff, says_append, says_append, not_or]
      exact ⟨⟨hunsaid, hwritten⟩, .inr hsays⟩

/-- No entry of a removed key is left for its host. -/
theorem effective_remove (host : List Char) (port : Nat) (fingerprint : List Char)
    (before : List (Entry Key)) :
    (remove host port fingerprint : KnownHostsEdit Key).Effective F before
      (before.filter ((remove host port fingerprint).keeps F) ++
        (remove host port fingerprint).written F) := by
  have hwritten : (remove host port fingerprint : KnownHostsEdit Key).written F = [] :=
    entriesOf_nil
  rw [hwritten, List.append_nil]
  intro key hkey
  have hunsaid : ∀ revoked, ¬Says F (before.filter ((remove host port fingerprint).keeps F)) host
      port key revoked := by
    rintro revoked ⟨e, hmem, hmatch, rfl, -⟩
    have hkeeps := (mem_after.mp hmem).2
    simp [keeps, hmatch, hkey] at hkeeps
  rw [Ne, Ne, decision_trusted_iff, decision_revoked_iff]
  exact ⟨fun h => hunsaid false h.2, hunsaid true⟩

theorem effective_iff (edit : KnownHostsEdit Key) (before : List (Entry Key)) :
    edit.Effective F before (before.filter (edit.keeps F) ++ edit.written F) ↔
      edit.Names F before := by
  cases edit with
  | append host port key => exact effective_append_iff host port key before
  | replace host port key => exact effective_replace_iff host port key before
  | remove host port fingerprint =>
    exact iff_of_true (effective_remove host port fingerprint before) trivial

/-- An edit of an accepted file is accepted, effective and local exactly when there is room, its
    line reads back and every other host is spared. -/
theorem meetsClaim_iff (F : KeyFormat Key) (edit : KnownHostsEdit Key) (text : List Char)
    (h : (loadFromPath F text).isOk = true) :
    edit.MeetsClaim F text ↔
      edit.WithinLimits F text ∧ edit.Names F (entriesOf F text) ∧
        edit.Spares F (entriesOf F text) := by
  unfold MeetsClaim
  rw [loadFromPath_apply_iff edit h, entriesOf_apply, effective_iff, spares_iff]

end KnownHostsEdit

/-! ## Ordinary host names -/

/-- The OpenSSH form of a key is one line, and its second word is the base64 form. -/
def KeyFormat.ReadsBack (F : KeyFormat Key) : Prop :=
  ∀ key, '\n' ∉ F.toOpenssh key ∧ 2 ≤ (words (F.toOpenssh key)).length ∧
    F.parsePublicKeyBase64 ((words (F.toOpenssh key)).getD 1 []) = some key

/-- A host field of one word and one pattern, which is no comment, marker, negation or hash. -/
structure Plain (field : List Char) : Prop where
  ne_nil : field ≠ []
  word : ∀ c ∈ field, TextLines.isWhitespace c = false
  single : ',' ∉ field
  start : field.head? ≠ some '#' ∧ field.head? ≠ some '@' ∧ field.head? ≠ some '!'
  literal : "|1|".toList.isPrefixOf field = false

theorem globMatchFrom_self (pattern : List UInt8) (star : Option StarPoint)
    (hstar : ∀ s, star = some s →
      pattern.length ≤ s.1.length ∧ pattern.length ≤ s.2.length) :
    globMatchFrom pattern pattern star hstar = true := by
  induction pattern generalizing star with
  | nil =>
    unfold globMatchFrom
    rfl
  | cons p pattern ih =>
    -- the next byte matches before a star is looked for
    unfold globMatchFrom
    simp only [true_or, ↓reduceIte]
    exact ih star _

/-- Without wildcards a pattern matches itself only. -/
theorem globMatchFrom_literal {pattern : List UInt8}
    (h : ∀ p ∈ pattern, p ≠ '*'.toUInt8 ∧ p ≠ '?'.toUInt8) (value : List UInt8)
    (hstar : ∀ s, (none : Option StarPoint) = some s →
      pattern.length ≤ s.1.length ∧ value.length ≤ s.2.length) :
    globMatchFrom pattern value none hstar = decide (pattern = value) := by
  induction pattern generalizing value with
  | nil =>
    unfold globMatchFrom
    cases value <;> simp
  | cons p pattern ih =>
    obtain ⟨hstarless, hplain⟩ := h p List.mem_cons_self
    unfold globMatchFrom
    cases value with
    | nil => simp [hstarless]
    | cons v value =>
      simp only [hplain, or_false, hstarless, ↓reduceIte]
      by_cases hpv : p = v
      · rw [if_pos hpv, ih fun q hq => h q (List.mem_cons_of_mem p hq)]
        simp [hpv]
      · rw [if_neg hpv]
        simp [hpv]

omit [DecidableEq Key] in
theorem hostPatternsMatch_self {host : List Char} {port : Nat} (h : Plain (formatHost host port)) :
    hostPatternsMatch F (formatHost host port) (hostCandidates host port) = true := by
  have hmem : formatHost host port ∈ (hostCandidates host port).filter (· ≠ []) := by
    refine List.mem_filter.mpr ⟨?_, by simpa using h.ne_nil⟩
    unfold hostCandidates
    split
    · exact List.mem_cons_of_mem _ (List.mem_singleton_self _)
    · exact List.mem_cons_self
  have hmatch : patternMatches F (formatHost host port) (formatHost host port) = true := by
    unfold patternMatches
    rw [h.literal]
    exact globMatchFrom_self _ none (by simp)
  have hany : ((hostCandidates host port).filter (· ≠ [])).any
      (patternMatches F (formatHost host port)) = true :=
    List.any_eq_true.mpr ⟨_, hmem, hmatch⟩
  unfold hostPatternsMatch
  rw [List.splitOn_eq_singleton h.single]
  simp only [hostPatternsMatchFrom, if_neg h.ne_nil, h.start.2.2, ↓reduceIte, false_and, hany, Bool.or_true]

omit [DecidableEq Key] in
/-- The line written for an ordinary host reads back as its entry. -/
theorem written_of_plain (hF : F.ReadsBack) {host : List Char} {port : Nat} (key : Key)
    (h : Plain (formatHost host port)) :
    entriesOf F (confirmedLine F host port key) = [⟨formatHost host port, key, false⟩] := by
  obtain ⟨hline, hlen, hkey⟩ := hF key
  -- the host is one word, and it is no marker
  have hwords : words (formatHost host port ++ ' ' :: F.toOpenssh key) =
      formatHost host port :: words (F.toOpenssh key) := by
    rw [words_append_space (by decide), words_word h.ne_nil h.word]
    rfl
  have hfeed : '\n' ∉ formatHost host port ++ ' ' :: F.toOpenssh key := by
    intro hmem
    rcases List.mem_append.mp hmem with hfield | hrest
    · exact absurd (h.word _ hfield) (by decide)
    · rcases List.mem_cons.mp hrest with heq | hopenssh
      · cases heq
      · exact hline hopenssh
  have hfields : parseFields F (formatHost host port :: words (F.toOpenssh key)) =
      some ⟨formatHost host port, key, false⟩ := by
    have hlen' : ¬((formatHost host port :: words (F.toOpenssh key)).length < 0 + 3) := by
      rw [List.length_cons]
      omega
    unfold parseFields
    simp only [List.head?_cons, Option.filter_some, h.start.2.1, decide_false, Bool.false_eq_true,
      ↓reduceIte, Option.isSome_none, Option.any_none, if_neg hlen', List.getD_cons_succ, hkey,
      List.getD_cons_zero, reduceCtorEq]
  have hparse : parseLine F (formatHost host port ++ ' ' :: F.toOpenssh key) =
      some ⟨formatHost host port, key, false⟩ := by
    rw [parseLine_eq, hwords, if_neg, hfields]
    simp [h.start.1]
  -- what is appended is one line
  have hsplit : confirmedLine F host port key =
      (formatHost host port ++ ' ' :: F.toOpenssh key) ++ '\n' :: [] := by
    simp [confirmedLine]
  rw [hsplit, entriesOf_append_feed, entriesOf_nil, List.append_nil, entriesOf_eq, parts,
    List.splitOn_eq_singleton hfeed, List.filterMap_cons_some hparse]
  rfl

/-! ## A line of two hosts -/

namespace KnownHostsEdit

/-- Keys of one letter. -/
def letterKeys : KeyFormat Char where
  parsePublicKeyBase64 field :=
    match field with
    | [c] => some c
    | _ => none
  toOpenssh key := ['t', ' ', key]
  fingerprint key := [key]
  verifyHashed _ _ _ := false

theorem patternMatches_letter {a b : Char} (ha : a = 'a' ∨ a = 'b') :
    patternMatches letterKeys [a] [b] = decide (bytes [a] = bytes [b]) := by
  have hglob : globMatch [a] [b] = decide (bytes [a] = bytes [b]) := by
    refine globMatchFrom_literal ?_ _ (by simp)
    rcases ha with rfl | rfl <;> decide +kernel
  rcases ha with rfl | rfl <;> exact hglob

theorem entriesOf_twoHosts : entriesOf letterKeys ['a', ',', 'b', ' ', 't', ' ', 'k', '\n'] =
    [⟨['a', ',', 'b'], 'k', false⟩] := by decide

/-- The line of two hosts matches either. -/
theorem twoHosts_match {host : List Char} (h : host = ['a'] ∨ host = ['b']) :
    hostPatternsMatch letterKeys ['a', ',', 'b'] (hostCandidates host 22) = true := by
  have hsplit : ['a', ',', 'b'].splitOn ',' = [['a'], ['b']] := by decide
  rcases h with rfl | rfl
  all_goals
    simp only [hostPatternsMatch, hsplit, hostPatternsMatchFrom, hostCandidates, formatHost]
    simp [patternMatches_letter]

theorem written_newKey (edit : KnownHostsEdit Char)
    (h : edit = append ['a'] 22 'n' ∨ edit = replace ['a'] 22 'n') :
    edit.written letterKeys = [⟨['a'], 'n', false⟩] := by
  rcases h with rfl | rfl <;> decide

theorem newKey_match (host : List Char) (h : host = ['a'] ∨ host = ['b']) :
    hostPatternsMatch letterKeys ['a'] (hostCandidates host 22) = decide (host = ['a']) := by
  have hsplit : ['a'].splitOn ',' = [['a']] := by decide
  rcases h with rfl | rfl
  all_goals
    simp only [hostPatternsMatch, hsplit, hostPatternsMatchFrom, hostCandidates, formatHost]
    simp [patternMatches_letter]
    try decide

/-- A new host is appended to a file with another one. -/
theorem meetsClaim_iff_newHost :
    (append ['a'] 22 'n').MeetsClaim letterKeys ['b', ' ', 't', ' ', 'k', '\n'] := by
  have hwritten := written_newKey (append ['a'] 22 'n') (.inl rfl)
  refine (meetsClaim_iff letterKeys (append ['a'] 22 'n') ['b', ' ', 't', ' ', 'k', '\n']
    (by decide)).mpr ⟨⟨by decide, by decide⟩, .inr ⟨?_, .inl ?_⟩, ?_⟩
  · rintro ⟨e, hmem, -, -, hrevoked⟩
    rw [hwritten, List.mem_singleton] at hmem
    rw [hmem] at hrevoked
    cases hrevoked
  · exact ⟨⟨['a'], 'n', false⟩, hwritten ▸ List.mem_singleton_self _,
      newKey_match ['a'] (.inl rfl), rfl, rfl⟩
  · intro host port _ _ e _ hdropped
    cases hdropped

/-- Replacing the key of one of two hosts on a line forgets the other one. -/
theorem shared_line_forgotten :
    (loadFromPath letterKeys ['a', ',', 'b', ' ', 't', ' ', 'k', '\n']).isOk = true ∧
      ¬(replace ['a'] 22 'n').MeetsClaim letterKeys
        ['a', ',', 'b', ' ', 't', ' ', 'k', '\n'] := by
  refine ⟨by decide, fun ⟨_, _, hlocal⟩ => ?_⟩
  have hwritten := written_newKey (replace ['a'] 22 'n') (.inr rfl)
  have hwrites : ¬(replace ['a'] 22 'n').WritesTo letterKeys ['b'] 22 := by
    rintro ⟨e, hmem, hmatch⟩
    rw [hwritten, List.mem_singleton] at hmem
    rw [hmem, newKey_match ['b'] (.inr rfl)] at hmatch
    cases hmatch
  have hkept := hlocal ['b'] 22 (by decide) hwrites 'k'
  rw [entriesOf_apply, entriesOf_twoHosts, hwritten] at hkept
  have hdropped : (replace ['a'] 22 'n').keeps letterKeys ⟨['a', ',', 'b'], 'k', false⟩ = false := by
    simp [keeps, twoHosts_match (.inl rfl)]
  have hbefore : decision letterKeys [⟨['a', ',', 'b'], 'k', false⟩] ['b'] 22 'k' = .trusted := by
    rw [decision_trusted_iff]
    refine ⟨?_, ⟨_, List.mem_singleton_self _, twoHosts_match (.inr rfl), rfl, rfl⟩⟩
    rintro ⟨e, hmem, -, -, hrevoked⟩
    rw [List.mem_singleton.mp hmem] at hrevoked
    cases hrevoked
  rw [hbefore, decision_trusted_iff, List.filter_cons_of_neg (by simp [hdropped]),
    List.filter_nil, List.nil_append] at hkept
  obtain ⟨e, hmem, -, hkey, -⟩ := hkept.2
  rw [List.mem_singleton.mp hmem] at hkey
  exact absurd hkey (by decide)

end KnownHostsEdit

end AxSsh
