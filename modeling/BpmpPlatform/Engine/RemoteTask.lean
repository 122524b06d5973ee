import BpmpPlatform.Engine.TimerDispatch

/-! # Activations, remote tasks and completion commands

What the local task runtime reads from an activation event, the remote task it can become, and the command either of
them is completed with.
-/
namespace BpmpPlatform
open Std Outcome

inductive LocalTaskKind
  | service
  | script
  deriving DecidableEq

structure LocalTaskActivation where
  cursor : Nat
  eventId : String
  eventSequence : Nat
  tenantId : TenantId
  instanceId : String
  workflowType : WorkflowType
  workflowVersion : WorkflowVersion
  nodeId : NodeId
  kind : LocalTaskKind
  taskType : String
  implementationRef : String
  implementationVersion : String
  occurredAtEpochMs : Nat
  correlationId : CorrelationId
  configVersion : ConfigVersion
  policyVersion : PolicyVersion

/-- `activation`: the task an event activates, if the runtime is to execute it. -/
def localTaskActivation (cursor : Nat) (envelope : EventEnvelope) : Option LocalTaskActivation :=
  let common (nodeId : NodeId) (kind : LocalTaskKind) (taskType implementationRef implementationVersion : String) :
      LocalTaskActivation := {
    cursor := cursor
    eventId := envelope.metadata.eventId
    eventSequence := envelope.metadata.sequence
    tenantId := envelope.metadata.tenantId
    instanceId := envelope.metadata.instanceId.value
    workflowType := envelope.metadata.workflowType
    workflowVersion := envelope.metadata.workflowVersion
    nodeId := nodeId
    kind := kind
    taskType := taskType
    implementationRef := implementationRef
    implementationVersion := implementationVersion
    occurredAtEpochMs := envelope.metadata.occurredAtEpochMs
    correlationId := envelope.metadata.correlationId
    configVersion := envelope.metadata.configVersion
    policyVersion := envelope.metadata.policyVersion }
  match envelope.event with
  | .serviceTaskActivated nodeId taskType _ => some (common nodeId .service taskType.value taskType.value "")
  | .scriptTaskActivated nodeId taskType implementationRef implementationVersion _ =>
    some (common nodeId .script taskType.value implementationRef implementationVersion)
  | _ => none

structure RemoteTask where
  taskId : String
  tenantId : TenantId
  instanceId : InstanceId
  workflowType : WorkflowType
  workflowVersion : WorkflowVersion
  nodeId : NodeId
  taskType : String
  activationEventId : String
  activationSequence : Nat
  activatedAtEpochMs : Nat
  correlationId : CorrelationId
  configVersion : ConfigVersion
  policyVersion : PolicyVersion
  deriving DecidableEq

/-- A failed completion keeps the error it came from instead of its text. -/
inductive CompletionFailure
  | definition (detail : String)
  | identifier (error : IdentifierError)
  | credentials (error : BoundaryRuntimeError)
  | engine (error : EngineError)

inductive RemoteTaskError
  | unsupportedTaskKind
  | invalidActivation
  | invalidRequest
  | staleLease
  | conflict
  | notFound
  | notLeader (leaderId : Option Nat) (leaderAddress : Option String)
  | store (detail : String)
  | completion (cause : CompletionFailure)

inductive RemoteTaskEnqueueOutcome
  | enqueued
  | duplicate

def RemoteTask.tryFrom (value : LocalTaskActivation) : Except RemoteTaskError RemoteTask := do
  ensure (value.kind == .service) .unsupportedTaskKind
  let instanceId ← (Identifier.new .InstanceId value.instanceId).mapError fun _ => .invalidActivation
  return {
    taskId := value.eventId
    tenantId := value.tenantId
    instanceId := instanceId
    workflowType := value.workflowType
    workflowVersion := value.workflowVersion
    nodeId := value.nodeId
    taskType := value.taskType
    activationEventId := value.eventId
    activationSequence := value.eventSequence
    activatedAtEpochMs := value.occurredAtEpochMs
    correlationId := value.correlationId
    configVersion := value.configVersion
    policyVersion := value.policyVersion }

def validateRemoteTask (task : RemoteTask) : Except RemoteTaskError Unit :=
  ensure (!Text.isBlank task.taskId && !Text.isBlank task.taskType && task.activationEventId == task.taskId &&
    task.activationSequence != 0 && task.activatedAtEpochMs != 0) .invalidActivation

structure BoundaryDispatchCredentials where
  actorProof : List UInt8
  workloadProof : List UInt8
  encryptionKeyScope : KeyScope

def BoundaryDispatchRequest.authorized (request : BoundaryDispatchRequest) (credentials : BoundaryDispatchCredentials) :
    AuthorizedCommand where
  tenantId := request.tenantId
  instanceId := request.instanceId
  commandId := request.commandId
  idempotencyKey := request.idempotencyKey
  correlationId := request.correlationId
  evaluatedAtEpochMs := request.occurredAtEpochMs
  actorProof := credentials.actorProof
  actorProofKind := .signedInternalContext
  workloadProof := credentials.workloadProof
  encryptionKeyScope := credentials.encryptionKeyScope
  vars := ∅
  command := request.command

end BpmpPlatform
