import AxSsh.ForStd.TextLines

/-!
# The known_hosts file

`ssh/known_hosts.rs`: loading a `known_hosts` file, the trust decision for a host and a key, and
the three edits of the file.

Public keys, their fingerprints and the comparison with a hashed host come from the libraries that
the source uses, and are the fields of `KeyFormat`.  A file is its text, as `read_to_string` gives
it; an append reads a missing file as an empty one.
-/

namespace AxSsh

open TextLines

def maxFileBytes : Nat := 4 * 1024 * 1024
def maxLines : Nat := 16384

inductive TrustDecision where
  | unknown
  | trusted
  | changed
  | revoked
deriving DecidableEq, Repr

/-- What the source takes from its key and hash libraries. -/
structure KeyFormat (Key : Type) where
  parsePublicKeyBase64 : List Char → Option Key
  toOpenssh : Key → List Char
  /-- The SHA-256 fingerprint. -/
  fingerprint : Key → List Char
  /-- Whether a salt and a digest, both in base64, are the HMAC of a host. -/
  verifyHashed : (salt digest candidate : List Char) → Bool

structure Entry (Key : Type) where
  hosts : List Char
  key : Key
  revoked : Bool
deriving DecidableEq

/-! ## Host patterns -/

/-- The part of a glob and of a value from which a `*` starts over. -/
abbrev StarPoint := List UInt8 × List UInt8

theorem starPoint_le (pattern value : List UInt8) :
    ∀ s, some (pattern, value) = some s → pattern.length ≤ s.1.length ∧
      value.length ≤ s.2.length := by
  intro s h
  cases h
  exact ⟨Nat.le_refl _, Nat.le_refl _⟩

/-- The loop of `glob_match`, with what is left of the pattern and of the value. -/
def globMatchFrom (pattern value : List UInt8) (star : Option StarPoint)
    (hstar : ∀ s, star = some s →
      pattern.length ≤ s.1.length ∧ value.length ≤ s.2.length) : Bool :=
  let retry : Bool :=
    match hs : star with
    | some (afterStar, _ :: backtrack) =>
      globMatchFrom afterStar backtrack (some (afterStar, backtrack))
        (by intro s h; cases h; exact ⟨Nat.le_refl _, Nat.le_refl _⟩)
    | _ => false
  match hv : value with
  | [] => pattern.all (· == '*'.toUInt8)
  | v :: value' =>
    match hp : pattern with
    | [] => retry
    | p :: pattern' =>
      if p = v ∨ p = '?'.toUInt8 then
        globMatchFrom pattern' value' star (by
          intro s h
          have hs := hstar s h
          simp only [List.length_cons] at hs
          omega)
      else if p = '*'.toUInt8 then
        globMatchFrom pattern' (v :: value') (some (pattern', v :: value'))
          (by intro s h; cases h; exact ⟨Nat.le_refl _, Nat.le_refl _⟩)
      else retry
termination_by
  ((star.map fun s => s.1.length).getD (pattern.length + 1),
    (star.map fun s => s.2.length).getD 0, value.length)
decreasing_by
  · subst hs
    simp only [Option.map_some, Option.getD_some]
    refine Prod.Lex.right _ (Prod.Lex.left _ _ ?_)
    simp
  · subst hp hv
    cases star with
    | none =>
      simp only [Option.map_none, Option.getD_none]
      exact Prod.Lex.left _ _ (by simp)
    | some s => exact Prod.Lex.right _ (Prod.Lex.right _ (by simp))
  · subst hp hv
    refine Prod.Lex.left _ _ ?_
    cases star with
    | none =>
      simp only [Option.map_some, Option.map_none, Option.getD_some, Option.getD_none,
        List.length_cons]
      omega
    | some s =>
      have hs := (hstar s rfl).1
      simp only [List.length_cons] at hs
      simp only [Option.map_some, Option.getD_some]
      omega

/-- The UTF-8 bytes of a text. -/
def bytes (text : List Char) : List UInt8 := text.flatMap String.utf8EncodeChar

def globMatch (pattern value : List Char) : Bool :=
  globMatchFrom (bytes pattern) (bytes value) none nofun

def formatHost (host : List Char) (port : Nat) : List Char :=
  if port = 22 then host else '[' :: host ++ "]:".toList ++ (toString port).toList

def hostCandidates (host : List Char) (port : Nat) : List (List Char) :=
  if port = 22 then [host, formatHost host port] else [formatHost host port, []]

/-- `str::split_once`. -/
def splitOnce (sep : Char) (text : List Char) : Option (List Char × List Char) :=
  if sep ∈ text then some (text.takeWhile (· ≠ sep), (text.dropWhile (· ≠ sep)).tail) else none

section

variable {Key : Type} (F : KeyFormat Key)

/-- A pattern without its negation against one candidate. -/
def patternMatches (pattern candidate : List Char) : Bool :=
  if "|1|".toList.isPrefixOf pattern then
    match splitOnce '|' (pattern.drop 3) with
    | none => false
    | some (salt, digest) => F.verifyHashed salt digest candidate
  else globMatch pattern candidate

/-- The loop of `host_patterns_match` over the patterns that are left. -/
def hostPatternsMatchFrom (candidates : List (List Char)) : List (List Char) → Bool → Bool
  | [], matched => matched
  | pattern :: patterns, matched =>
    if pattern = [] then hostPatternsMatchFrom candidates patterns matched
    else
      let negated := pattern.head? = some '!'
      let pattern := if negated then pattern.tail else pattern
      let thisMatch := (candidates.filter (· ≠ [])).any (patternMatches F pattern)
      if negated ∧ thisMatch then false
      else hostPatternsMatchFrom candidates patterns (matched || thisMatch)

def hostPatternsMatch (patterns : List Char) (candidates : List (List Char)) : Bool :=
  hostPatternsMatchFrom F candidates (patterns.splitOn ',') false

/-! ## Loading -/

def revokedMarker : List Char := "@revoked".toList

/-- What the loader makes of the words of a line. -/
def parseFields (fields : List (List Char)) : Option (Entry Key) :=
  let marker := fields.head?.filter fun field => field.head? = some '@'
  let offset := if marker.isSome then 1 else 0
  if marker.any (· ≠ revokedMarker) then none
  else if fields.length < offset + 3 then none
  else
    match F.parsePublicKeyBase64 (fields.getD (offset + 2) []) with
    | none => none
    | some key =>
      some { hosts := fields.getD offset [], key, revoked := marker = some revokedMarker }

def parseLine (line : List Char) : Option (Entry Key) :=
  let line := trim line
  if line = [] ∨ line.head? = some '#' then none else parseFields F (words line)

/-- The entries of a text, whatever its size. -/
def entriesOf (text : List Char) : List (Entry Key) := (lines text).filterMap (parseLine F)

def loadFromPath (text : List Char) : Except String (List (Entry Key)) :=
  if maxFileBytes < byteSize text then
    .error ("known_hosts file exceeds " ++ toString maxFileBytes ++ " bytes")
  else if maxLines < (lines text).length then
    .error ("known_hosts file exceeds " ++ toString maxLines ++ " lines")
  else .ok (entriesOf F text)

def decision [DecidableEq Key] (entries : List (Entry Key)) (host : List Char) (port : Nat)
    (key : Key) : TrustDecision :=
  let candidates := hostCandidates host port
  let listed := entries.filter fun entry => hostPatternsMatch F entry.hosts candidates
  if listed.any fun entry => entry.key = key ∧ entry.revoked then .revoked
  else if listed.any fun entry => entry.key = key ∧ !entry.revoked then .trusted
  else if listed ≠ [] then .changed
  else .unknown

/-! ## Edits -/

/-- The line that an edit writes for a confirmed key. -/
def confirmedLine (host : List Char) (port : Nat) (key : Key) : List Char :=
  formatHost host port ++ ' ' :: F.toOpenssh key ++ ['\n']

def appendConfirmed (host : List Char) (port : Nat) (key : Key) (existing : List Char) :
    List Char :=
  let separator := if existing = [] ∨ existing.getLast? = some '\n' then [] else ['\n']
  existing ++ separator ++ confirmedLine F host port key

/-- Whether `replace_confirmed_openssh` keeps a line. -/
def replaceKeeps (host : List Char) (port : Nat) (line : List Char) : Bool :=
  match words line with
  | [] => true
  | first :: fields =>
    let marker := first.head? = some '@'
    let offset := if marker then 1 else 0
    marker || (first :: fields).length < offset + 3 ||
      !hostPatternsMatch F ((first :: fields).getD offset []) (hostCandidates host port)

def replaceConfirmed (host : List Char) (port : Nat) (key : Key) (text : List Char) : List Char :=
  let kept := (lines text).filter (replaceKeeps F host port)
  let pre := if kept = [] then [] else join kept ++ ['\n']
  pre ++ confirmedLine F host port key

/-- Whether `remove_key` drops a line. -/
def removeDrops (host : List Char) (port : Nat) (fingerprint : List Char) (line : List Char) :
    Bool :=
  let fields := words line
  let offset := if fields.head?.any (fun field => field.head? = some '@') then 1 else 0
  offset + 3 ≤ fields.length &&
    hostPatternsMatch F (fields.getD offset []) (hostCandidates host port) &&
      (F.parsePublicKeyBase64 (fields.getD (offset + 2) [])).any fun key =>
        F.fingerprint key = fingerprint

def removeKey (host : List Char) (port : Nat) (fingerprint : List Char) (text : List Char) :
    List Char × Bool :=
  let kept := (lines text).filter fun line => !removeDrops F host port fingerprint line
  if (lines text).any (removeDrops F host port fingerprint) then (join kept ++ ['\n'], true)
  else (text, false)

/-- The edits of a file that succeed. -/
inductive KnownHostsEdit (Key : Type) where
  | append (host : List Char) (port : Nat) (key : Key)
  | replace (host : List Char) (port : Nat) (key : Key)
  | remove (host : List Char) (port : Nat) (fingerprint : List Char)

def KnownHostsEdit.apply : KnownHostsEdit Key → List Char → List Char
  | .append host port key, text => appendConfirmed F host port key text
  | .replace host port key, text => replaceConfirmed F host port key text
  | .remove host port fingerprint, text => (removeKey F host port fingerprint text).1

end

end AxSsh
