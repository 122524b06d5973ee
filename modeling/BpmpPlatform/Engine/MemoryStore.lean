import BpmpPlatform.Engine.EventCodec

/-! # The in-memory workflow store

`InMemoryWorkflowStore` with its idempotency lookup, `load` and `commit`. The state is passed explicitly: a
commit returns the state it leaves behind also when it fails.
-/
namespace BpmpPlatform
open Std Outcome

structure StreamKey where
  tenantId : TenantId
  instanceId : InstanceId
  deriving DecidableEq

structure IdempotencyScope where
  tenantId : TenantId
  actorId : ActorId
  idempotencyKey : IdempotencyKey
  deriving DecidableEq

structure AuthorizationAuditKey where
  tenantId : TenantId
  commandId : CommandId
  deriving DecidableEq

section Keys

instance : Ord StreamKey := ⟨compareLex (compareOn StreamKey.tenantId) (compareOn StreamKey.instanceId)⟩

instance : TransOrd StreamKey := inferInstanceAs (TransCmp (compareLex _ _))

instance : LawfulEqOrd StreamKey := lawfulEqCmp_two fun a b _ _ => by
  cases a; cases b; simp_all

instance : Ord IdempotencyScope :=
  ⟨compareLex (compareOn IdempotencyScope.tenantId)
    (compareLex (compareOn IdempotencyScope.actorId) (compareOn IdempotencyScope.idempotencyKey))⟩

instance : TransOrd IdempotencyScope := inferInstanceAs (TransCmp (compareLex _ _))

instance : LawfulEqOrd IdempotencyScope := lawfulEqCmp_three fun a b _ _ _ => by
  cases a; cases b; simp_all

instance : Ord AuthorizationAuditKey :=
  ⟨compareLex (compareOn AuthorizationAuditKey.tenantId) (compareOn AuthorizationAuditKey.commandId)⟩

instance : TransOrd AuthorizationAuditKey := inferInstanceAs (TransCmp (compareLex _ _))

instance : LawfulEqOrd AuthorizationAuditKey := lawfulEqCmp_two fun a b _ _ => by
  cases a; cases b; simp_all

end Keys

structure StoredResult where
  commandId : CommandId
  result : CommittedResult

variable (format : MessageFormat Wire.EventEnvelope)

structure OutboxRecord where
  cursor : Nat
  tenantId : String
  instanceId : String
  eventId : String
  correlationId : String
  causationCommandId : String
  payload : format.Bytes

structure MemoryState where
  streams : ExtTreeMap StreamKey (List EventEnvelope) := ∅
  snapshots : ExtTreeMap StreamKey SnapshotEnvelope := ∅
  idempotency : ExtTreeMap IdempotencyScope StoredResult := ∅
  authorizationAudits : ExtTreeMap AuthorizationAuditKey AuthorizationAudit := ∅
  outbox : List (OutboxRecord format) := []

variable {format}

namespace MemoryState

/-- The events recorded under a key; an absent stream and an empty one cannot be told apart. -/
def stream (state : MemoryState format) (key : StreamKey) : List EventEnvelope := state.streams[key]?.getD []

/-- `u64::try_from` on a length. -/
def u64Length (length : Nat) : Except StoreError Nat :=
  if length ≤ u64Max then .ok length
  else .error (.unavailable "out of range integral type conversion attempted")

/-- Both the lookup and the commit answer a known key like this. -/
def storedResult (state : MemoryState format) (scope : IdempotencyScope) (commandId : CommandId) :
    Except StoreError (Option CommittedResult) :=
  match state.idempotency[scope]? with
  | none => .ok none
  | some stored => if stored.commandId = commandId then .ok (some stored.result) else .error .idempotencyConflict

def lookupIdempotency (state : MemoryState format) (tenantId : TenantId) (actorId : ActorId)
    (idempotencyKey : IdempotencyKey) (commandId : CommandId) : Except StoreError (Option CommittedResult) :=
  state.storedResult ⟨tenantId, actorId, idempotencyKey⟩ commandId

def load (state : MemoryState format) (tenantId : TenantId) (instanceId : InstanceId) :
    Except StoreError LoadedInstance := do
  let key : StreamKey := ⟨tenantId, instanceId⟩
  let version ← u64Length (state.stream key).length
  let snapshot := state.snapshots[key]?
  let snapshotSequence := (snapshot.map fun snapshot => snapshot.state.sequence).getD 0
  return {
    snapshot := snapshot
    events := (state.stream key).filter fun event => decide (event.sequence > snapshotSequence)
    version := version }

end MemoryState

namespace CommitRequest

def describedBy (audit : AuthorizationAudit) (event : EventEnvelope) : Bool :=
  event.metadata.tenantId == audit.tenantId && event.metadata.actorId == audit.actorId &&
    event.metadata.causationCommandId == audit.commandId && event.metadata.correlationId == audit.correlationId &&
    event.metadata.policyVersion == audit.policyVersion && event.metadata.configVersion == audit.configVersion

def validateAuthorizationAudit (request : CommitRequest) : Except StoreError Unit :=
  let audit := request.authorizationAudit
  ensure (audit.tenantId == request.tenantId && audit.actorId == request.actorId &&
    audit.commandId == request.commandId && audit.policyVersion == request.result.policyVersion &&
    audit.configVersion == request.result.configVersion && audit.decisionId != "" && audit.workloadId != "" &&
    audit.action != "" && !audit.matchedGrantIds.isEmpty && request.events.all (describedBy audit))
    .invalidAuthorizationAudit

def streamKey (request : CommitRequest) : StreamKey := ⟨request.tenantId, request.instanceId⟩

def idempotencyScope (request : CommitRequest) : IdempotencyScope :=
  ⟨request.tenantId, request.actorId, request.idempotencyKey⟩

def auditKey (request : CommitRequest) : AuthorizationAuditKey := ⟨request.tenantId, request.commandId⟩

def snapshotFits (request : CommitRequest) (snapshot : SnapshotEnvelope) : Bool :=
  snapshot.tenantId == request.tenantId && snapshot.instanceId == request.instanceId &&
    decide (request.expectedVersion < snapshot.state.sequence) &&
    decide (snapshot.state.sequence ≤ request.result.version)

/-- The outbox records of the events from the given index on; `outboxTail` is the length of the outbox. -/
def outboxRecordsFrom (format : MessageFormat Wire.EventEnvelope) (request : CommitRequest) (outboxTail : Nat) :
    Nat → List EventEnvelope → Except StoreError (List (OutboxRecord format))
  | _, [] => .ok []
  | index, event :: events => do
    ensure (outboxTail + index + 1 ≤ u64Max) (.unavailable "outbox cursor overflow")
    let records ← outboxRecordsFrom format request outboxTail (index + 1) events
    return {
      cursor := outboxTail + index + 1
      tenantId := request.tenantId.value
      instanceId := request.instanceId.value
      eventId := event.metadata.eventId
      correlationId := event.metadata.correlationId.value
      causationCommandId := event.metadata.causationCommandId.value
      payload := EventCodec.encode format event } :: records

/-- `windows(2)`: no sequence number is followed by any other than its successor. -/
def contiguous : List EventEnvelope → Bool
  | first :: second :: rest => second.sequence == first.sequence + 1 && contiguous (second :: rest)
  | _ => true

def checkAppend (request : CommitRequest) (stream : List EventEnvelope) : Except StoreError Unit := do
  let actual ← MemoryState.u64Length stream.length
  ensure (actual == request.expectedVersion) (.versionConflict request.expectedVersion actual)
  ensure ((request.events.head?.all fun event => event.sequence == actual + 1) && contiguous request.events)
    .nonContiguousSequence

end CommitRequest

namespace MemoryState
variable (state : MemoryState format) (request : CommitRequest)

/-- The part of `commit` before the stream is opened: a stored result, or the outbox records to append. -/
def prepareCommit : Except StoreError (CommittedResult ⊕ List (OutboxRecord format)) := do
  request.validateAuthorizationAudit
  match ← state.storedResult request.idempotencyScope request.commandId with
  | some result => return .inl result
  | none =>
    ensure (!state.authorizationAudits.contains request.auditKey) .invalidAuthorizationAudit
    ensure (request.snapshot.all request.snapshotFits) .invalidSnapshot
    let outboxTail ← u64Length state.outbox.length
    return .inr (← request.outboxRecordsFrom format outboxTail 0 request.events)

/-- `streams.entry(key).or_default()`. -/
def openStream (key : StreamKey) : MemoryState format :=
  { state with streams := state.streams.insert key (state.stream key) }

def append (records : List (OutboxRecord format)) : MemoryState format where
  streams := state.streams.insert request.streamKey (state.stream request.streamKey ++ request.events)
  outbox := state.outbox ++ records
  snapshots := match request.snapshot with
    | some snapshot => state.snapshots.insert request.streamKey snapshot
    | none => state.snapshots
  idempotency := state.idempotency.insert request.idempotencyScope ⟨request.commandId, request.result⟩
  authorizationAudits := state.authorizationAudits.insert request.auditKey request.authorizationAudit

def commit : Except StoreError CommitOutcome × MemoryState format :=
  match state.prepareCommit request with
  | .error error => (.error error, state)
  | .ok (.inl result) => (.ok (.duplicate result), state)
  | .ok (.inr records) =>
    let opened := state.openStream request.streamKey
    -- a failure from here on leaves the opened stream behind
    match request.checkAppend (opened.stream request.streamKey) with
    | .error error => (.error error, opened)
    | .ok () => (.ok (.committed request.result), opened.append request records)

end MemoryState

end BpmpPlatform
