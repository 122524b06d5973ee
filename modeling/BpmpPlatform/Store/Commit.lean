import BpmpPlatform.Store.Records

/-! # Committing directly and by a replicated batch

The direct path checks the database and writes; the replicated path turns the checks into conditions of a batch, which
is applied later and whose answer is then resolved.
-/
namespace BpmpPlatform.Store
open Std Outcome Replication

section Reads
variable {C M : Type} (db : Db C M)

def decodeU64Value : Option (StoreValue C M) → Except StoreError Nat
  | none => .ok 0
  | some (.number value) => .ok value
  | some _ => .error (.corruptData (.detail "invalid durable u64 value"))

def readU64Value (family : String) (key : StoreKey) : Except StoreError Nat :=
  decodeU64Value db[(⟨family, key⟩ : StorageKey StoreKey)]?

def readVersion (tenant : TenantId) (inst : InstanceId) : Except StoreError Nat :=
  match db[(⟨streamMetaCf, streamMetaKey tenant inst⟩ : StorageKey StoreKey)]? with
  | none => .ok 0
  | some (.number value) => .ok value
  | some _ => .error (.corruptData (.detail "invalid stream version"))

def StoreValue.toCommandResult : StoreValue C M → Except StoreError StoredCommandResult
  | .commandResult stored => .ok stored
  | _ => .error (.corruptData .undecodable)

def StoredCommandResult.result (stored : StoredCommandResult) : Except StoreError CommittedResult := do
  let configVersion ← (Identifier.new .ConfigVersion stored.configVersion).mapError fun error =>
    StoreError.corruptData (.identifier error)
  let policyVersion ← (Identifier.new .PolicyVersion stored.policyVersion).mapError fun error =>
    StoreError.corruptData (.identifier error)
  return ⟨stored.version, stored.eventIds, configVersion, policyVersion⟩

def loadResult (tenant : TenantId) (actor : ActorId) (idempotencyKey : IdempotencyKey) (command : CommandId) :
    Except StoreError (Option CommittedResult) :=
  match db[(⟨idempotencyCf, idempotencyStorageKey tenant actor idempotencyKey⟩ : StorageKey StoreKey)]? with
  | none => .ok none
  | some value => do
    let stored ← value.toCommandResult
    ensure (stored.commandId == command.value) .idempotencyConflict
    return some (← stored.result)

end Reads

section Request
variable (request : CommitRequest)

def validateSequences : Except StoreError Unit := do
  ensure ((request.events.head?.all fun event => event.sequence == request.expectedVersion + 1) &&
    CommitRequest.contiguous request.events &&
    request.events.all fun event =>
      event.metadata.tenantId == request.tenantId && event.metadata.instanceId == request.instanceId)
    .nonContiguousSequence
  ensure (request.snapshot.all request.snapshotFits) .invalidSnapshot

def validateRequest : Except StoreError Unit := do
  request.validateAuthorizationAudit.mapError fun _ => StoreError.invalidAuthorizationAudit
  validateSequences request

def commandResult : StoredCommandResult where
  commandId := request.commandId.value
  version := request.result.version
  eventIds := request.result.eventIds
  configVersion := request.result.configVersion.value
  policyVersion := request.result.policyVersion.value

def resultKey : StoreKey := idempotencyStorageKey request.tenantId request.actorId request.idempotencyKey

def auditRecord (audit : AuthorizationAudit) : AuthorizationAuditRecord where
  decisionId := audit.decisionId
  tenantId := audit.tenantId.value
  actorId := audit.actorId.value
  workloadId := audit.workloadId
  action := audit.action
  resourceRef := audit.instanceId.value
  allowed := true
  denyReasonCode := ""
  policyVersion := audit.policyVersion.value
  revokeEpoch := audit.revokeEpoch
  occurredAtEpochMs := audit.occurredAtEpochMs
  commandId := audit.commandId.value
  correlationId := audit.correlationId.value
  workflowType := audit.workflowType.value
  workflowVersion := audit.workflowVersion.value
  instanceId := audit.instanceId.value
  activeNodeId := audit.activeNodeId
  roles := audit.roles
  configVersion := audit.configVersion.value
  bundleSequence := audit.bundleSequence
  matchedGrantIds := audit.matchedGrantIds

def outboxEntry (event : EventEnvelope) (outboxSequence : Nat) : OutboxEntry where
  tenantId := request.tenantId.value
  instanceId := request.instanceId.value
  sequence := event.sequence
  eventId := event.metadata.eventId
  outboxSequence := outboxSequence

end Request

section Encrypted
variable {events : MessageFormat Wire.EventEnvelope} {snapshots : MessageFormat Wire.WorkflowSnapshot} {C : Type}
  (crypto : PayloadCrypto (Plaintext events snapshots) C) (nonces : Nonces) (request : CommitRequest)

structure PreparedEvent (C : Type) where
  envelope : EventEnvelope
  record : EncryptedPayload C
  key : StoreKey

def encryptRecord (scope : KeyScope) (key : StoreKey) (plain : Plaintext events snapshots) :
    Except StoreError (EncryptedPayload C) :=
  (crypto.encrypt (nonces key) scope key plain).mapError fun _ => .cryptoUnavailable

def prepareEncryptedEvent (event : EventEnvelope) : Except StoreError (PreparedEvent C) := do
  let key := eventStorageKey request.tenantId request.instanceId event.sequence
  let record ← encryptRecord crypto nonces event.metadata.encryptionKeyScope key
    (.event (EventCodec.encode events event))
  return ⟨event, record, key⟩

def prepareEncryptedEvents : Except StoreError (List (PreparedEvent C)) :=
  collectAll (prepareEncryptedEvent crypto nonces request) request.events

/-- The record of a snapshot carries its sequence number in clear. -/
def prepareEncryptedSnapshot : Except StoreError (Option (StoreKey × Nat × EncryptedPayload C)) :=
  match request.snapshot with
  | none => .ok none
  | some snapshot => do
    let key := snapshotStorageKey request.tenantId request.instanceId
    let record ← encryptRecord crypto nonces snapshot.encryptionKeyScope key
      (.snapshot (SnapshotCodec.encode snapshots snapshot))
    return some (key, snapshot.state.sequence, record)

def prepareEncryptedAuthorizationAudit : Except StoreError (StoreKey × EncryptedPayload C) := do
  let audit := request.authorizationAudit
  let key := authorizationAuditStorageKey audit.tenantId audit.commandId
  let record ← encryptRecord crypto nonces audit.encryptionKeyScope key (.authorizationAudit (auditRecord audit))
  return (key, record)

structure Encrypted (C : Type) where
  events : List (PreparedEvent C)
  snapshot : Option (StoreKey × Nat × EncryptedPayload C)
  audit : StoreKey × EncryptedPayload C

def encryptRequest : Except StoreError (Encrypted C) := do
  let preparedEvents ← prepareEncryptedEvents crypto nonces request
  let preparedSnapshot ← prepareEncryptedSnapshot crypto nonces request
  let preparedAudit ← prepareEncryptedAuthorizationAudit crypto nonces request
  return ⟨preparedEvents, preparedSnapshot, preparedAudit⟩

end Encrypted

section Direct
variable {C M : Type} (db : Db C M) (request : CommitRequest)

/-- The loop of `build_commit_batch` over the events, with the cursor of the outbox. -/
def commitEvents (outboxSequence : Nat) : List (PreparedEvent C) → Except StoreError (List (DbWrite C M) × Nat)
  | [] => .ok ([], outboxSequence)
  | prepared :: rest => do
    let dedupKey := dedupStorageKey request.tenantId prepared.envelope.metadata.eventId
    ensure db[(⟨dedupCf, dedupKey⟩ : StorageKey StoreKey)]?.isNone .duplicateEvent
    ensure (decide (outboxSequence + 1 ≤ u64Max)) (.unavailable "outbox sequence overflow")
    let (writes, tail) ← commitEvents (outboxSequence + 1) rest
    return (.put ⟨eventsCf, prepared.key⟩ (.event prepared.record) :: .put ⟨dedupCf, dedupKey⟩ .empty ::
      .put ⟨outboxCf, outboxStorageKey (outboxSequence + 1)⟩
        (.outboxEntry (outboxEntry request prepared.envelope (outboxSequence + 1))) :: writes, tail)

def buildCommitBatch (encrypted : Encrypted C) (outboxTail : Nat) : Except StoreError (List (DbWrite C M)) := do
  ensure db[(⟨authorizationAuditCf, encrypted.audit.1⟩ : StorageKey StoreKey)]?.isNone .invalidAuthorizationAudit
  let (writes, outboxSequence) ← commitEvents db request outboxTail encrypted.events
  let snapshotWrites : List (DbWrite C M) := match encrypted.snapshot with
    | some (key, sequence, record) => [.put ⟨snapshotsCf, key⟩ (.snapshot sequence record)]
    | none => []
  return writes ++ .put ⟨outboxMetaCf, outboxTailKey⟩ (.number outboxSequence) :: (snapshotWrites ++
    [.put ⟨streamMetaCf, streamMetaKey request.tenantId request.instanceId⟩ (.number request.result.version),
      .put ⟨idempotencyCf, idempotencyStorageKey request.tenantId request.actorId request.idempotencyKey⟩
        (.commandResult (commandResult request)),
      .put ⟨authorizationAuditCf, encrypted.audit.1⟩ (.authorizationAudit encrypted.audit.2)])

variable {events : MessageFormat Wire.EventEnvelope} {snapshots : MessageFormat Wire.WorkflowSnapshot}
  (crypto : PayloadCrypto (Plaintext events snapshots) C) (nonces : Nonces)

/-- `WorkflowStorePort::commit`; one that fails leaves the database as it is. -/
def commit : Except StoreError (CommitOutcome × Db C M) := do
  validateRequest request
  let encrypted ← encryptRequest crypto nonces request
  match ← loadResult db request.tenantId request.actorId request.idempotencyKey request.commandId with
  | some result =>
    let auditKey := authorizationAuditStorageKey request.tenantId request.commandId
    ensure db[(⟨authorizationAuditCf, auditKey⟩ : StorageKey StoreKey)]?.isSome
      (.corruptData (.detail "idempotency result exists without authorization audit"))
    return (.duplicate result, db)
  | none =>
    let actual ← readVersion db request.tenantId request.instanceId
    ensure (actual == request.expectedVersion) (.versionConflict request.expectedVersion actual)
    let outboxTail ← readU64Value db outboxMetaCf outboxTailKey
    let batch ← buildCommitBatch db request encrypted outboxTail
    return (.committed request.result, applyWrites db batch)

end Direct

section Replicated
variable {C M : Type} (format : RocksFormat StoreKey (StoreValue C M) M) (db : Db C M) (request : CommitRequest)

def missingPrecondition (family : String) (key : StoreKey) : Precondition StoreKey := ⟨⟨family, key⟩, .missing⟩

def currentValuePrecondition (family : String) (key : StoreKey) (expected : Option (StoreValue C M)) :
    Precondition StoreKey :=
  ⟨⟨family, key⟩, match expected with
    | none => .missing
    | some value => .digest (format.valueDigest value)⟩

def currentDbPrecondition (family : String) (key : StoreKey) : Precondition StoreKey :=
  currentValuePrecondition format family key db[(⟨family, key⟩ : StorageKey StoreKey)]?

def expectedVersionValue (expectedVersion : Nat) : Option (StoreValue C M) :=
  if 0 < expectedVersion then some (.number expectedVersion) else none

/-- The loop of `build_prepared_workflow_batch` over the events, with the identities seen so far. -/
def prepareEvents (eventIds : List String) (outboxSequence : Nat) : List (PreparedEvent C) →
    Except StoreError (List (Precondition StoreKey) × List (Mutation StoreKey (StoreValue C M)) × Nat)
  | [] => .ok ([], [], outboxSequence)
  | prepared :: rest => do
    ensure (!eventIds.contains prepared.envelope.metadata.eventId) .duplicateEvent
    let dedupKey := dedupStorageKey request.tenantId prepared.envelope.metadata.eventId
    ensure (decide (outboxSequence + 1 ≤ u64Max)) (.unavailable "outbox sequence overflow")
    let outboxKey := outboxStorageKey (outboxSequence + 1)
    let (preconditions, mutations, tail) ← prepareEvents (prepared.envelope.metadata.eventId :: eventIds)
      (outboxSequence + 1) rest
    return (missingPrecondition eventsCf prepared.key :: missingPrecondition dedupCf dedupKey ::
        missingPrecondition outboxCf outboxKey :: preconditions,
      .put ⟨eventsCf, prepared.key⟩ (.event prepared.record) :: .put ⟨dedupCf, dedupKey⟩ .empty ::
        .put ⟨outboxCf, outboxKey⟩ (.outboxEntry (outboxEntry request prepared.envelope (outboxSequence + 1))) ::
        mutations, tail)

def buildPreparedWorkflowBatch (encrypted : Encrypted C) :
    Except StoreError (PreparedAtomicBatch StoreKey (StoreValue C M)) := do
  let idempotencyKey := idempotencyStorageKey request.tenantId request.actorId request.idempotencyKey
  let streamKey := streamMetaKey request.tenantId request.instanceId
  let snapshotPreconditions := match encrypted.snapshot with
    | some (key, _, _) => [currentDbPrecondition format db snapshotsCf key]
    | none => []
  let outboxTail ← readU64Value db outboxMetaCf outboxTailKey
  let (preconditions, mutations, outboxSequence) ← prepareEvents request [] outboxTail encrypted.events
  let snapshotMutations : List (Mutation StoreKey (StoreValue C M)) := match encrypted.snapshot with
    | some (key, sequence, record) => [.put ⟨snapshotsCf, key⟩ (.snapshot sequence record)]
    | none => []
  let result : StoreValue C M := .commandResult (commandResult request)
  return .new format.toByteFormat request.commandId.value idempotencyKey
    (currentValuePrecondition format streamMetaCf streamKey (expectedVersionValue request.expectedVersion) ::
      missingPrecondition idempotencyCf idempotencyKey :: missingPrecondition authorizationAuditCf encrypted.audit.1 ::
      currentDbPrecondition format db outboxMetaCf outboxTailKey :: (snapshotPreconditions ++ preconditions))
    (mutations ++ .put ⟨outboxMetaCf, outboxTailKey⟩ (.number outboxSequence) :: (snapshotMutations ++
      [.put ⟨streamMetaCf, streamKey⟩ (.number request.result.version), .put ⟨idempotencyCf, idempotencyKey⟩ result,
        .put ⟨authorizationAuditCf, encrypted.audit.1⟩ (.authorizationAudit encrypted.audit.2)]))
    result

inductive WorkflowCommitPreparation (C M : Type)
  | alreadyCommitted (result : CommittedResult)
  | proposal (batch : PreparedAtomicBatch StoreKey (StoreValue C M))

variable {events : MessageFormat Wire.EventEnvelope} {snapshots : MessageFormat Wire.WorkflowSnapshot}
  (crypto : PayloadCrypto (Plaintext events snapshots) C) (nonces : Nonces)

def prepareWorkflowBatch : Except StoreError (WorkflowCommitPreparation C M) := do
  validateRequest request
  match ← loadResult db request.tenantId request.actorId request.idempotencyKey request.commandId with
  | some result => return .alreadyCommitted result
  | none =>
    let encrypted ← encryptRequest crypto nonces request
    return .proposal (← buildPreparedWorkflowBatch format db request encrypted)

def appliedResult (response : ApplyResponse (StoreValue C M)) : Except StoreError CommittedResult := do
  let stored ← response.responsePayload.toCommandResult
  ensure (stored.commandId == request.commandId.value)
    (.corruptData (.detail "Raft response payload command identity does not match request"))
  stored.result

def reconcileApply : Except StoreError CommitOutcome := do
  match ← loadResult db request.tenantId request.actorId request.idempotencyKey request.commandId with
  | some result => return .duplicate result
  | none =>
    let actual ← readVersion db request.tenantId request.instanceId
    ensure (actual == request.expectedVersion) (.versionConflict request.expectedVersion actual)
    throw (.unavailable "authoritative workflow precondition failed")

def resolveWorkflowApply (response : ApplyResponse (StoreValue C M)) : Except StoreError CommitOutcome := do
  ensure (response.commandId == request.commandId.value)
    (.corruptData (.detail "Raft response command identity does not match request"))
  match response.outcome with
  | .applied => return .committed (← appliedResult request response)
  | .duplicate => return .duplicate (← appliedResult request response)
  | .preconditionFailed _ => reconcileApply db request
  | .rejected _ => reconcileApply db request

end Replicated

end BpmpPlatform.Store
