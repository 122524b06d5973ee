import BpmpPlatform.Store.Written

/-! # Loading an instance

`load` reads the version of a stream, then its snapshot, and then opens an iterator over its events; it takes no lock,
so each read is given the database of its own moment.
-/
namespace BpmpPlatform.Store
open Std Outcome Replication

section Load
variable {events : MessageFormat Wire.EventEnvelope} {snapshots : MessageFormat Wire.WorkflowSnapshot} {C M : Type}
  (crypto : PayloadCrypto (Plaintext events snapshots) C) (tenant : TenantId) (inst : InstanceId)

/-- `map_runtime_payload_read_error`. -/
def payloadReadError (payload : EncryptedPayload C) : CryptoError → StoreError
  | .keyRevoked => .dataUnavailableForCompliance payload.keyScope.value payload.keyVersion payload.keyEpoch
  | _ => .cryptoUnavailable

def StoreValue.toSnapshotRecord : StoreValue C M → Except StoreError (Nat × EncryptedPayload C)
  | .snapshot sequence record => .ok (sequence, record)
  | _ => .error (.corruptData .undecodable)

def StoreValue.toEventRecord : StoreValue C M → Except StoreError (EncryptedPayload C)
  | .event record => .ok record
  | _ => .error (.corruptData .undecodable)

def Plaintext.toSnapshot : Plaintext events snapshots → Except StoreError SnapshotEnvelope
  | .snapshot bytes => (SnapshotCodec.decode snapshots bytes).mapError fun error => .corruptData (.snapshot error)
  | _ => .error (.corruptData .undecodable)

def Plaintext.toEvent : Plaintext events snapshots → Except StoreError EventEnvelope
  | .event bytes => (EventCodec.decode events bytes).mapError fun error => .corruptData (.event error)
  | _ => .error (.corruptData .undecodable)

/-- The part of `load_snapshot` after the record is found. -/
def openSnapshot (value : StoreValue C M) : Except StoreError SnapshotEnvelope := do
  let (recordedSequence, encrypted) ← value.toSnapshotRecord
  let plaintext ← (crypto.decrypt (snapshotStorageKey tenant inst) encrypted).mapError (payloadReadError encrypted)
  let snapshot ← plaintext.toSnapshot
  ensure (snapshot.tenantId == tenant && snapshot.instanceId == inst && snapshot.state.sequence == recordedSequence)
    (.corruptData (.detail "snapshot scope or sequence does not match its storage record"))
  return snapshot

def loadSnapshot (db : Db C M) : Except StoreError (Option SnapshotEnvelope) :=
  match db[(⟨snapshotsCf, snapshotStorageKey tenant inst⟩ : StorageKey StoreKey)]? with
  | none => .ok none
  | some value => do return some (← openSnapshot crypto tenant inst value)

def streamRecords (db : Db C M) : List (StorageKey StoreKey × StoreValue C M) :=
  (familyRecords db eventsCf).filter fun record =>
    record.1.key.label == "" && (streamPrefix tenant inst).isPrefixOf record.1.key.components

def sequenceFromEventKey (key : StoreKey) : Except StoreError Nat :=
  match key.numbers with
  | [sequence] =>
    if key.components = streamPrefix tenant inst then .ok sequence
    else .error (.corruptData (.detail "invalid event storage key"))
  | _ => .error (.corruptData (.detail "invalid event storage key"))

def loadEvent (key : StoreKey) (value : StoreValue C M) : Except StoreError EventEnvelope := do
  let encrypted ← value.toEventRecord
  let plaintext ← (crypto.decrypt key encrypted).mapError (payloadReadError encrypted)
  let event ← plaintext.toEvent
  ensure (event.metadata.tenantId == tenant && event.metadata.instanceId == inst)
    (.corruptData (.detail "event scope does not match its storage key"))
  return event

variable (maxReplayEvents : Nat)

def replayEvents (snapshotSequence : Nat) (taken : Nat) :
    List (StorageKey StoreKey × StoreValue C M) → Except StoreError (List EventEnvelope)
  | [] => .ok []
  | (key, value) :: records => do
    let sequence ← sequenceFromEventKey tenant inst key.key
    if sequence ≤ snapshotSequence then replayEvents snapshotSequence taken records
    else
      ensure (taken != maxReplayEvents) (.replayLimitExceeded maxReplayEvents)
      let event ← loadEvent crypto tenant inst key.key value
      return event :: (← replayEvents snapshotSequence (taken + 1) records)

def snapshotPosition (snapshot : Option SnapshotEnvelope) : Nat :=
  (snapshot.map fun snapshot => snapshot.state.sequence).getD 0

/-- `WorkflowStorePort::load` with the database at the time of each of its three reads. -/
def load (versionDb snapshotDb eventsDb : Db C M) : Except StoreError LoadedInstance := do
  let version ← readVersion versionDb tenant inst
  let snapshot ← loadSnapshot crypto tenant inst snapshotDb
  let snapshotSequence := snapshotPosition snapshot
  ensure (decide (snapshotSequence ≤ version)) (.corruptData (.detail "snapshot sequence exceeds stream version"))
  let tail ← replayEvents crypto tenant inst maxReplayEvents snapshotSequence 0 (streamRecords tenant inst eventsDb)
  ensure (decide (snapshotSequence + tail.length ≤ u64Max)) (.corruptData (.detail "stream version overflow"))
  ensure (snapshotSequence + tail.length == version)
    (.corruptData (.detail "stream metadata version does not match snapshot and tail events"))
  return ⟨snapshot, tail, version⟩

end Load

deriving instance DecidableEq for LoadedInstance

namespace Sample

def crypto : PayloadCrypto (Plaintext (.plain _) (.plain _)) (Plaintext (.plain _) (.plain _)) where
  encrypt nonce scope _ plain := .ok ⟨scope, "1", 1, "none", nonce, plain⟩
  decrypt _ payload := .ok payload.ciphertext
  decrypt_encrypt h := by
    cases h
    rfl
  encrypt_header _ _ _ _ _ := rfl

def nonces (nonce : UInt8) : Nonces := fun _ => [nonce]

def tenant : TenantId := .lit "acme"

def order : InstanceId := .lit "order"

def actor : ActorId := .lit "clerk"

def result (version : Nat) (eventIds : List String) : CommittedResult :=
  ⟨version, eventIds, .lit "config-1", .lit "policy-1"⟩

def audit (command : CommandId) : AuthorizationAudit where
  decisionId := "decision"
  tenantId := tenant
  actorId := actor
  workloadId := "engine"
  roles := ["clerk"]
  action := "complete"
  workflowType := .lit "orders"
  workflowVersion := .lit "1"
  instanceId := order
  activeNodeId := "score"
  policyVersion := .lit "policy-1"
  configVersion := .lit "config-1"
  bundleSequence := 1
  revokeEpoch := 0
  occurredAtEpochMs := 10
  commandId := command
  correlationId := .lit "correlation"
  matchedGrantIds := ["grant"]
  encryptionKeyScope := .lit "scope"

def event (command : CommandId) (eventId : String) (sequence : Nat) : EventEnvelope where
  metadata := {
    eventId := eventId
    tenantId := tenant
    instanceId := order
    sequence := sequence
    schemaVersion := eventSchemaVersion
    correlationId := .lit "correlation"
    causationCommandId := command
    occurredAtEpochMs := 10
    configVersion := .lit "config-1"
    policyVersion := .lit "policy-1"
    actorId := actor
    encryptionKeyScope := .lit "scope"
    workflowType := .lit "orders"
    workflowVersion := .lit "1" }
  event := .scriptTaskCompleted (.lit "score") 10

def request (command : CommandId) (expectedVersion : Nat) (eventIds : List String) (version : Nat) : CommitRequest where
  tenantId := tenant
  instanceId := order
  actorId := actor
  idempotencyKey := ⟨command.value, command.nonBlank⟩
  commandId := command
  expectedVersion := expectedVersion
  events := eventIds.zipIdx.map fun id => event command id.1 (expectedVersion + 1 + id.2)
  snapshot := none
  authorizationAudit := audit command
  result := result version eventIds

end Sample

end BpmpPlatform.Store
