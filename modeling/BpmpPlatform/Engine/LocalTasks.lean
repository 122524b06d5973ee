import BpmpPlatform.Engine.RemoteTask
import BpmpPlatform.Engine.Acceptance

/-! # The local task runtime

`run_once_with_batch_size`: every activation is executed and completed through the engine, or left to the remote
workers, before the checkpoint moves past it.
-/
namespace BpmpPlatform
open Std Outcome

inductive LocalTaskExecutionOutcome
  | completed
  | notHandled

/-- Why an activation could not be passed on; the source keeps the text of the cause. -/
inductive LocalDispatchFailure
  | completion (cause : CompletionFailure)
  | remote (error : RemoteTaskError)

/-- The errors of the modelled functions; a corrupt event keeps the error of the codec instead of its text. -/
inductive LocalTaskRuntimeError
  | invalidConfiguration
  | adapterBatchLimitExceeded
  | nonContiguousOutbox
  | corruptEvent (error : EventCodecError)
  | eventScopeMismatch
  | checkpointConflict
  | store (detail : String)
  | execution (detail : String)
  | dispatch (cause : LocalDispatchFailure)
  | outbox (error : OutboxError)

structure LocalTaskRunOutcome where
  scanned : Nat
  executed : Nat
  checkpoint : Nat

structure LocalTaskPorts where
  execute : LocalTaskActivation → Except LocalTaskRuntimeError LocalTaskExecutionOutcome
  resolveDefinition : TenantId → WorkflowType → WorkflowVersion → Except String WorkflowDefinition
  credentials : BoundaryDispatchRequest → Except BoundaryRuntimeError BoundaryDispatchCredentials
  engine : EnginePorts
  storeRemoteTask : RemoteTask → Except RemoteTaskError RemoteTaskEnqueueOutcome

inductive Handover
  | executor (activation : LocalTaskActivation)
  | remoteQueue (activation : LocalTaskActivation)

def Handover.activation : Handover → LocalTaskActivation
  | .executor activation | .remoteQueue activation => activation

def localTaskIdentity (eventId : String) : String := "local-task:" ++ eventId

def localTaskCompletion (activation : LocalTaskActivation) : Except CompletionFailure BoundaryDispatchRequest := do
  let identity := localTaskIdentity activation.eventId
  let commandId ← (Identifier.new .CommandId identity).mapError .identifier
  let instanceId ← (Identifier.new .InstanceId activation.instanceId).mapError .identifier
  let idempotencyKey ← (Identifier.new .IdempotencyKey identity).mapError .identifier
  let correlationId ← (Identifier.new .CorrelationId identity).mapError .identifier
  return {
    tenantId := activation.tenantId
    instanceId := instanceId
    commandId := commandId
    idempotencyKey := idempotencyKey
    correlationId := correlationId
    command := match activation.kind with
      | .service => .completeServiceTask activation.nodeId ∅ activation.occurredAtEpochMs
      | .script => .completeScriptTask activation.nodeId activation.occurredAtEpochMs
    source := .timer
    occurredAtEpochMs := activation.occurredAtEpochMs
    workflowType := activation.workflowType
    workflowVersion := activation.workflowVersion
    authorizationContextRef := none }

section Runtime
variable {format : MessageFormat Wire.EventEnvelope} (ports : LocalTaskPorts)

def prepareCompletion (activation : LocalTaskActivation) :
    Except CompletionFailure (WorkflowDefinition × AuthorizedCommand) := do
  let definition ← (ports.resolveDefinition activation.tenantId activation.workflowType
    activation.workflowVersion).mapError .definition
  let request ← localTaskCompletion activation
  let credentials ← (ports.credentials request).mapError .credentials
  return (definition, request.authorized credentials)

def dispatchCompletion (activation : LocalTaskActivation) (store : MemoryState format) :
    Except CompletionFailure Unit × MemoryState format :=
  match prepareCompletion ports activation with
  | .error error => (.error error, store)
  | .ok (definition, request) =>
    match handle ports.engine definition request store with
    | (.error error, store') => (.error (.engine error), store')
    | (.ok _, store') => (.ok (), store')

/-- `enqueue_remote_task`; whether the task can be stored is up to the storage. -/
def enqueueRemoteTask (activation : LocalTaskActivation) : Except RemoteTaskError RemoteTaskEnqueueOutcome := do
  let task ← RemoteTask.tryFrom activation
  validateRemoteTask task
  ports.storeRemoteTask task

def handOver (activation : LocalTaskActivation) (store : MemoryState format) :
    Except LocalTaskRuntimeError Bool × MemoryState format × List Handover :=
  match ports.execute activation with
  | .error error => (.error error, store, [])
  | .ok .completed =>
    match dispatchCompletion ports activation store with
    | (.error error, store') => (.error (.dispatch (.completion error)), store', [.executor activation])
    | (.ok (), store') => (.ok true, store', [.executor activation])
  | .ok .notHandled =>
    match enqueueRemoteTask ports activation with
    | .error error => (.error (.dispatch (.remote error)), store, [])
    | .ok _ => (.ok false, store, [.remoteQueue activation])

structure LocalTaskState (format : MessageFormat Wire.EventEnvelope) where
  store : MemoryState format := {}
  checkpoint : Nat := 0

def LocalTaskState.checkpointLocalTask (s : LocalTaskState format) (expected committed : Nat) :
    Except LocalTaskRuntimeError (LocalTaskState format) := do
  ensure (s.checkpoint == expected) .checkpointConflict
  ensure (decide (expected < committed) && decide (committed ≤ s.store.outbox.length))
    (.store "local task checkpoint is outside the committed outbox range")
  return { s with checkpoint := committed }

def readRecord (checkpoint : Nat) (record : OutboxRecord format) : Except LocalTaskRuntimeError EventEnvelope := do
  ensure (decide (checkpoint < record.cursor)) .nonContiguousOutbox
  let envelope ← (EventCodec.decode format record.payload).mapError .corruptEvent
  ensure (envelope.metadata.eventId == record.eventId && envelope.metadata.tenantId.value == record.tenantId &&
    envelope.metadata.instanceId.value == record.instanceId) .eventScopeMismatch
  return envelope

def passOn (checkpoint : Nat) (record : OutboxRecord format) (store : MemoryState format) :
    Except LocalTaskRuntimeError Bool × MemoryState format × List Handover :=
  match readRecord checkpoint record with
  | .error error => (.error error, store, [])
  | .ok envelope =>
    match localTaskActivation record.cursor envelope with
    | none => (.ok false, store, [])
    | some activation => handOver ports activation store

def processRecord (checkpoint : Nat) (record : OutboxRecord format) (s : LocalTaskState format) :
    Except LocalTaskRuntimeError Bool × LocalTaskState format × List Handover :=
  match passOn ports checkpoint record s.store with
  | (.error error, store', given) => (.error error, { s with store := store' }, given)
  | (.ok executed, store', given) =>
    match { s with store := store' : LocalTaskState format }.checkpointLocalTask checkpoint record.cursor with
    | .error error => (.error error, { s with store := store' }, given)
    | .ok s' => (.ok executed, s', given)

def processRecords (checkpoint executed : Nat) : List (OutboxRecord format) → LocalTaskState format →
    Except LocalTaskRuntimeError (Nat × Nat) × LocalTaskState format × List Handover
  | [], s => (.ok (executed, checkpoint), s, [])
  | record :: records, s =>
    match processRecord ports checkpoint record s with
    | (.error error, s', given) => (.error error, s', given)
    | (.ok done, s', given) =>
      let rest := processRecords record.cursor (executed + done.toNat) records s'
      (rest.1, rest.2.1, given ++ rest.2.2)

def readBatch (batchSize : Nat) (s : LocalTaskState format) :
    Except LocalTaskRuntimeError (List (OutboxRecord format)) := do
  ensure (batchSize != 0) .invalidConfiguration
  let records ← (s.store.readAfter s.checkpoint batchSize).mapError .outbox
  ensure (decide (records.length ≤ batchSize)) .adapterBatchLimitExceeded
  return records

def runOnceWithBatchSize (batchSize : Nat) (s : LocalTaskState format) :
    Except LocalTaskRuntimeError LocalTaskRunOutcome × LocalTaskState format × List Handover :=
  match readBatch batchSize s with
  | .error error => (.error error, s, [])
  | .ok records =>
    match processRecords ports s.checkpoint 0 records s with
    | (.error error, s', given) => (.error error, s', given)
    | (.ok (executed, checkpoint), s', given) => (.ok ⟨records.length, executed, checkpoint⟩, s', given)

end Runtime

end BpmpPlatform
