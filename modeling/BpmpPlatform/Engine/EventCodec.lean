import BpmpPlatform.Engine.EventWire
import BpmpPlatform.Engine.SnapshotCodec
import BpmpPlatform.Engine.Application

/-! # Decoding events

`EventCodec` with the checks of `from_wire`. It has its own error type and its own names for the fields;
the readers of values and enumerations are those of the snapshot codec.
-/
namespace BpmpPlatform
open Std Outcome

inductive EventCodecError
  | decode (detail : String)
  | missingMetadata
  | missingEvent
  | tenantMismatch
  | emptyField (field : String)
  | missingWorkflowVariableValue
  | invalidMultiInstanceMode (code : Int)
  | invalidPositiveField (field : String)
  | invalidDigestLength
  | invalidBoundaryTriggerKind (code : Int)
  | unsupportedSchema (version : Nat)
  | invalidCaseEnum (field value : String)
  | identifier (field : String) (error : IdentifierError)
  deriving DecidableEq

namespace EventCodec

def identifier (kind : IdentifierKind) (value field : String) : Except EventCodecError (Identifier kind) :=
  (Identifier.new kind value).mapError (.identifier field)

def identifiers (kind : IdentifierKind) (field : String) (values : List String) :
    Except EventCodecError (List (Identifier kind)) :=
  collectAll (fun value => identifier kind value field) values

def nonEmpty (value field : String) : Except EventCodecError String :=
  if Text.isBlank value then .error (.emptyField field) else .ok value

/-- `positive` and `positive_u64`. -/
def positive (value : Nat) (field : String) : Except EventCodecError Nat :=
  if value = 0 then .error (.invalidPositiveField field) else .ok value

/-- The one error of the value readers is a missing value. -/
def workflowValueItemsFromWire (items : List (Option Wire.Value)) : Except EventCodecError (List WorkflowValue) :=
  (BpmpPlatform.workflowValueItemsFromWire items).mapError fun _ => .missingWorkflowVariableValue

def workflowValueItemFromWire (item : Option Wire.Value) : Except EventCodecError WorkflowValue := do
  let wire ← okOr .missingWorkflowVariableValue item
  (workflowValueFromWire wire).mapError fun _ => .missingWorkflowVariableValue

def workflowVariableFromWire (var : Wire.WorkflowVariable) : Except EventCodecError (String × WorkflowValue) := do
  let name ← nonEmpty var.name "workflow_variable.name"
  let value ← workflowValueItemFromWire var.value
  return (name, value)

def multiInstanceModeFromWire (code : Int) : Except EventCodecError MultiInstanceMode :=
  (BpmpPlatform.multiInstanceModeFromWire code).mapError fun _ => .invalidMultiInstanceMode code

def boundaryTriggerFromWire (kind : Int) (reference : String) : Except EventCodecError BoundaryTrigger :=
  let text := nonEmpty reference "boundary_trigger.reference"
  triggerFrom (.invalidBoundaryTriggerKind kind) text text (optionalNonEmpty reference) kind

def casePlanItemKindFromName (value : String) : Except EventCodecError CasePlanItemKind :=
  (casePlanItemKindFromWire value).mapError fun _ => .invalidCaseEnum "plan_item_kind" value

def casePlanItemStatusFromName (value : String) : Except EventCodecError CasePlanItemStatus :=
  (casePlanItemStatusFromWire value).mapError fun _ => .invalidCaseEnum "plan_item_status" value

def parentFromWire : Option String → Except EventCodecError (Option ScopeInstanceId)
  | none => .ok none
  | some value => do return some (← identifier .ScopeInstanceId value "parent_scope_instance_id")

def itemFromWire : Option (Option Wire.Value) → Except EventCodecError (Option WorkflowValue)
  | none => .ok none
  | some item => do return some (← workflowValueItemFromWire item)

/-- `try_into` on the bytes of a digest. -/
def digestFromWire (bytes : List UInt8) : Except EventCodecError (Vector UInt8 32) :=
  if h : bytes.length = 32 then .ok ⟨bytes.toArray, h⟩ else .error .invalidDigestLength

/-- The match of `from_wire` on the message. -/
def eventFromWire (occurredAt : Nat) : Wire.Event → Except EventCodecError DomainEvent
  | .workflowStarted tenantId workflowType workflowVersion startNodeId => do
    let tenantId ← identifier .TenantId tenantId "workflow_started.tenant_id"
    let workflowType ← identifier .WorkflowType workflowType "workflow_type"
    let workflowVersion ← identifier .WorkflowVersion workflowVersion "workflow_version"
    let startNodeId ← identifier .NodeId startNodeId "start_node_id"
    return .workflowStarted tenantId workflowType workflowVersion startNodeId occurredAt
  | .serviceTaskActivated nodeId taskType => do
    let nodeId ← identifier .NodeId nodeId "node_id"
    let taskType ← identifier .TaskType taskType "task_type"
    return .serviceTaskActivated nodeId taskType occurredAt
  | .serviceTaskCompleted nodeId outputs => do
    let nodeId ← identifier .NodeId nodeId "node_id"
    let outputs ← collectMap workflowVariableFromWire outputs
    return .serviceTaskCompleted nodeId outputs occurredAt
  | .userTaskActivated nodeId taskType assignmentPolicyRef formKey => do
    let nodeId ← identifier .NodeId nodeId "node_id"
    let taskType ← identifier .TaskType taskType "task_type"
    let assignmentPolicyRef ← nonEmpty assignmentPolicyRef "assignment_policy_ref"
    return .userTaskActivated nodeId taskType assignmentPolicyRef (optionalNonEmpty formKey) occurredAt
  | .userTaskCompleted nodeId decision resultVariable => do
    let nodeId ← identifier .NodeId nodeId "node_id"
    let decision ← nonEmpty decision "decision"
    let resultVariable ← nonEmpty resultVariable "result_variable"
    return .userTaskCompleted nodeId decision resultVariable occurredAt
  | .scriptTaskActivated nodeId taskType implementationRef implementationVersion => do
    let nodeId ← identifier .NodeId nodeId "node_id"
    let taskType ← identifier .TaskType taskType "task_type"
    let implementationRef ← nonEmpty implementationRef "implementation_ref"
    let implementationVersion ← nonEmpty implementationVersion "implementation_version"
    return .scriptTaskActivated nodeId taskType implementationRef implementationVersion occurredAt
  | .scriptTaskCompleted nodeId => do
    let nodeId ← identifier .NodeId nodeId "node_id"
    return .scriptTaskCompleted nodeId occurredAt
  | .decisionTaskEvaluated nodeId decisionTableId outputs => do
    let nodeId ← identifier .NodeId nodeId "node_id"
    let decisionTableId ← nonEmpty decisionTableId "decision_table_id"
    let outputs ← collectMap workflowVariableFromWire outputs
    return .decisionTaskEvaluated nodeId decisionTableId outputs occurredAt
  | .gatewaySplitActivated gatewayId joinGatewayId selectedTargetNodeIds => do
    let gatewayId ← identifier .NodeId gatewayId "gateway_id"
    let joinGatewayId ← identifier .NodeId joinGatewayId "join_gateway_id"
    let selectedTargets ← identifiers .NodeId "selected_target_node_id" selectedTargetNodeIds
    return .gatewaySplitActivated gatewayId joinGatewayId selectedTargets occurredAt
  | .gatewayTokenArrived gatewayId => do
    let gatewayId ← identifier .NodeId gatewayId "gateway_id"
    return .gatewayTokenArrived gatewayId occurredAt
  | .gatewayJoined gatewayId => do
    let gatewayId ← identifier .NodeId gatewayId "gateway_id"
    return .gatewayJoined gatewayId occurredAt
  | .boundaryEventArmed boundaryEventId attachedNodeId targetNodeId cancelActivity triggerKind triggerReference => do
    let boundaryEventId ← identifier .NodeId boundaryEventId "boundary_event_id"
    let attachedNodeId ← identifier .NodeId attachedNodeId "attached_node_id"
    let targetNodeId ← identifier .NodeId targetNodeId "target_node_id"
    let trigger ← boundaryTriggerFromWire triggerKind triggerReference
    return .boundaryEventArmed boundaryEventId attachedNodeId targetNodeId cancelActivity trigger occurredAt
  | .boundaryEventsDisarmed attachedNodeId boundaryEventIds => do
    let attachedNodeId ← identifier .NodeId attachedNodeId "attached_node_id"
    let boundaryEventIds ← identifiers .NodeId "boundary_event_id" boundaryEventIds
    return .boundaryEventsDisarmed attachedNodeId boundaryEventIds occurredAt
  | .multiInstanceStarted nodeId taskType mode totalInstances maxParallelism itemVariable items => do
    let nodeId ← identifier .NodeId nodeId "node_id"
    let taskType ← identifier .TaskType taskType "task_type"
    let mode ← multiInstanceModeFromWire mode
    let maxParallelism ← positive maxParallelism "max_parallelism"
    let items ← workflowValueItemsFromWire items
    return .multiInstanceStarted nodeId taskType mode totalInstances maxParallelism
      (optionalNonEmpty itemVariable) items occurredAt
  | .multiInstanceIterationActivated nodeId taskType iteration item => do
    let nodeId ← identifier .NodeId nodeId "node_id"
    let taskType ← identifier .TaskType taskType "task_type"
    let item ← itemFromWire item
    return .multiInstanceIterationActivated nodeId taskType iteration item occurredAt
  | .multiInstanceIterationCompleted nodeId iteration => do
    let nodeId ← identifier .NodeId nodeId "node_id"
    return .multiInstanceIterationCompleted nodeId iteration occurredAt
  | .multiInstanceCompleted nodeId completionConditionSatisfied cancelledIterations => do
    let nodeId ← identifier .NodeId nodeId "node_id"
    return .multiInstanceCompleted nodeId completionConditionSatisfied cancelledIterations occurredAt
  | .boundaryEventTriggered boundaryEventId attachedNodeId targetNodeId cancelActivity cancelledIterations
      cancelledTaskTokens => do
    let boundaryEventId ← identifier .NodeId boundaryEventId "boundary_event_id"
    let attachedNodeId ← identifier .NodeId attachedNodeId "attached_node_id"
    let targetNodeId ← identifier .NodeId targetNodeId "target_node_id"
    return .boundaryEventTriggered boundaryEventId attachedNodeId targetNodeId cancelActivity cancelledIterations
      cancelledTaskTokens occurredAt
  | .scopeEntered scopeInstanceId scopeNodeId startNodeId parentScopeInstanceId invocation => do
    let scopeInstanceId ← identifier .ScopeInstanceId scopeInstanceId "scope_instance_id"
    let scopeNodeId ← identifier .NodeId scopeNodeId "scope_node_id"
    let startNodeId ← identifier .NodeId startNodeId "start_node_id"
    let parentScopeInstanceId ← parentFromWire parentScopeInstanceId
    let invocation ← positive invocation "scope_invocation"
    return .scopeEntered scopeInstanceId scopeNodeId startNodeId parentScopeInstanceId invocation occurredAt
  | .scopeCompleted scopeInstanceId scopeNodeId endNodeId => do
    let scopeInstanceId ← identifier .ScopeInstanceId scopeInstanceId "scope_instance_id"
    let scopeNodeId ← identifier .NodeId scopeNodeId "scope_node_id"
    let endNodeId ← identifier .NodeId endNodeId "end_node_id"
    return .scopeCompleted scopeInstanceId scopeNodeId endNodeId occurredAt
  | .workflowBranchCompleted endNodeId => do
    let endNodeId ← identifier .NodeId endNodeId "end_node_id"
    return .workflowBranchCompleted endNodeId occurredAt
  | .workflowCompleted => .ok (.workflowCompleted occurredAt)
  | .workflowTerminatedForCompliance policyId requestDigest reasonCode reconciliationCount => do
    let policyId ← nonEmpty policyId "termination.policy_id"
    let requestDigest ← digestFromWire requestDigest
    let reasonCode ← nonEmpty reasonCode "termination.reason_code"
    return .workflowTerminatedForCompliance policyId requestDigest reasonCode reconciliationCount occurredAt
  | .caseActivated caseId caseType stageIds milestoneIds => do
    let caseId ← identifier .CaseId caseId "case_id"
    let caseModelId ← identifier .CaseModelId caseType "case_type"
    let stageIds ← identifiers .PlanItemId "stage_id" stageIds
    let milestoneIds ← identifiers .PlanItemId "milestone_id" milestoneIds
    return .caseActivated caseId caseModelId stageIds milestoneIds occurredAt
  | .caseSentrySatisfied caseId sentryId => do
    let caseId ← identifier .CaseId caseId "case_id"
    let sentryId ← identifier .SentryId sentryId "sentry_id"
    return .caseSentrySatisfied caseId sentryId occurredAt
  | .casePlanItemTransitioned caseId planItemId planItemKind status satisfiedSentryIds => do
    let caseId ← identifier .CaseId caseId "case_id"
    let planItemId ← identifier .PlanItemId planItemId "plan_item_id"
    let kind ← casePlanItemKindFromName planItemKind
    let status ← casePlanItemStatusFromName status
    let satisfiedSentryIds ← identifiers .SentryId "satisfied_sentry_id" satisfiedSentryIds
    return .casePlanItemTransitioned caseId planItemId kind status satisfiedSentryIds occurredAt
  | .caseCompleted caseId => do
    let caseId ← identifier .CaseId caseId "case_id"
    return .caseCompleted caseId occurredAt
  | .userTaskCancelled nodeId reason => do
    let nodeId ← identifier .NodeId nodeId "node_id"
    let reason ← nonEmpty reason "cancellation.reason"
    return .userTaskCancelled nodeId reason occurredAt

def tenantAgrees (tenantId : TenantId) : DomainEvent → Bool
  | .workflowStarted started _ _ _ _ => started == tenantId
  | _ => true

/-- `from_wire`. -/
def envelopeFromWire (envelope : Wire.EventEnvelope) : Except EventCodecError EventEnvelope := do
  let metadata ← okOr .missingMetadata envelope.metadata
  ensure (metadata.schemaVersion == eventSchemaVersion) (.unsupportedSchema metadata.schemaVersion)
  let tenantId ← identifier .TenantId metadata.tenantId "tenant_id"
  let wireEvent ← okOr .missingEvent envelope.event
  let event ← eventFromWire metadata.occurredAtEpochMs wireEvent
  ensure (tenantAgrees tenantId event) .tenantMismatch
  let instanceId ← identifier .InstanceId metadata.instanceId "instance_id"
  let correlationId ← identifier .CorrelationId metadata.correlationId "correlation_id"
  let causationCommandId ← identifier .CommandId metadata.causationCommandId "causation_command_id"
  let configVersion ← identifier .ConfigVersion metadata.configVersion "config_version"
  let policyVersion ← identifier .PolicyVersion metadata.policyVersion "policy_version"
  let actorId ← identifier .ActorId metadata.actorId "actor_id"
  let encryptionKeyScope ← identifier .KeyScope metadata.encryptionKeyScope "encryption_key_scope"
  let workflowType ← identifier .WorkflowType metadata.workflowType "metadata.workflow_type"
  let workflowVersion ← identifier .WorkflowVersion metadata.workflowVersion "metadata.workflow_version"
  return {
    metadata := {
      eventId := metadata.eventId
      tenantId := tenantId
      instanceId := instanceId
      sequence := metadata.sequence
      schemaVersion := metadata.schemaVersion
      correlationId := correlationId
      causationCommandId := causationCommandId
      occurredAtEpochMs := metadata.occurredAtEpochMs
      configVersion := configVersion
      policyVersion := policyVersion
      actorId := actorId
      encryptionKeyScope := encryptionKeyScope
      workflowType := workflowType
      workflowVersion := workflowVersion }
    event := event }

/-- `upcast`: version 0 carried the same fields before the schema marker became mandatory. -/
def upcast (envelope : Wire.EventEnvelope) : Except EventCodecError Wire.EventEnvelope := do
  let metadata ← okOr .missingMetadata envelope.metadata
  if metadata.schemaVersion = eventSchemaVersion then return envelope
  else if metadata.schemaVersion = 0 then
    return { envelope with metadata := some { metadata with schemaVersion := eventSchemaVersion } }
  else throw (.unsupportedSchema metadata.schemaVersion)

section Format
variable (format : MessageFormat Wire.EventEnvelope)

def encode (envelope : EventEnvelope) : format.Bytes := format.encode (envelopeToWire envelope)

def decode (bytes : format.Bytes) : Except EventCodecError EventEnvelope :=
  match format.decode bytes with
  | .error detail => .error (.decode detail)
  | .ok envelope => do envelopeFromWire (← upcast envelope)

/-- The same message as written before the schema marker, with schema version 0. -/
def encodeV0 (envelope : EventEnvelope) : format.Bytes :=
  format.encode { envelopeToWire envelope with
    metadata := some { eventMetadataToWire envelope.metadata with schemaVersion := 0 } }

end Format

end EventCodec

end BpmpPlatform
