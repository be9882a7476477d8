import AxSsh.Native.SessionFiles

/-!
# Session exports

The exports of `workspace/session_management.rs`, and how `serde_json` reads the text of a transfer:
its profiles are read as those of a file are.
-/

namespace AxSsh.Profiles

/-- `SessionTransferEnvelope` as it is written. -/
structure SessionTransferWire where
  format : String
  version : Nat
  kind : SessionTransferKind
  groupName : Option String := none
  profiles : List SessionProfileWire

/-- `serde_json::to_string_pretty` and `serde_json::from_str`, up to the values that are written and
    read. -/
structure TransferFormat where
  toStringPretty : SessionTransferWire → String
  fromStr : String → Except String SessionTransferWire

def SessionTransferEnvelope.serialize (envelope : SessionTransferEnvelope ConnectionFields) :
    SessionTransferWire where
  format := envelope.format
  version := envelope.version
  kind := envelope.kind
  groupName := envelope.groupName
  profiles := envelope.profiles.map SessionProfile.serialize

def SessionTransferWire.deserialize (p : Platform) (wire : SessionTransferWire) :
    Except String (SessionTransferEnvelope ConnectionFields) := do
  let profiles ← wire.profiles.mapM (·.deserialize p)
  pure
    { format := wire.format, version := wire.version, kind := wire.kind
      groupName := wire.groupName, profiles }

namespace TransferFormat

variable (F : TransferFormat)

/-- `serde_json::from_str::<SessionTransferEnvelope>`. -/
def readEnvelope (p : Platform) (text : String) :
    Except String (SessionTransferEnvelope ConnectionFields) := do
  let wire ← F.fromStr text
  wire.deserialize p

def serializeSessionTransfer (envelope : SessionTransferEnvelope ConnectionFields) :
    Except String String := do
  validateSessionTransfer envelope
  let text := F.toStringPretty envelope.serialize
  bailIf (decide (maxSessionTransferBytes < text.utf8ByteSize))
    "session export exceeds the 256 KiB clipboard limit"
  pure text

/-- `parseStr` is `Uuid::parse_str`. -/
def exportSessionProfile (parseStr : String → Option Uuid) (sessionId : String) (store : Store) :
    Except String String :=
  match parseStr sessionId with
  | none => .error "invalid session id"
  | some sessionId =>
    match store.find sessionId with
    | none => .error "session not found"
    | some profile =>
      F.serializeSessionTransfer
        { format := sessionTransferFormat
          version := sessionTransferVersion
          kind := .server
          groupName := none
          profiles := [sanitizeTransferredProfile profile] }

def exportSessionGroup (groupName : String) (store : Store) : Except String String := do
  let groupName ← normalizedTransferGroupName groupName
  bailIf (decide (groupName ∉ store.groups)) "group not found"
  let profiles := store.sessions.filter fun profile =>
    normalizeGroupName profile.groupName = groupName
  bailIf (decide (maxSessionTransferProfiles < profiles.length))
    s!"group exceeds the {maxSessionTransferProfiles} server export limit"
  F.serializeSessionTransfer
    { format := sessionTransferFormat
      version := sessionTransferVersion
      kind := .group
      groupName := some groupName
      profiles := profiles.map sanitizeTransferredProfile }

end TransferFormat

end AxSsh.Profiles
