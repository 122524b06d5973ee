import BpmpPlatform.Engine.Ports

/-! # Events on the wire

The messages of `engine.proto` that an event envelope is made of, and `to_wire`.
-/
namespace BpmpPlatform
open Std

namespace Wire

/-- The `event` oneof of `EventEnvelope`, one constructor for each of its messages. -/
inductive Event
  | caseActivated (caseId caseType : String) (stageIds milestoneIds : List String)
  | caseSentrySatisfied (caseId sentryId : String)
  | casePlanItemTransitioned (caseId planItemId planItemKind status : String) (satisfiedSentryIds : List String)
  | caseCompleted (caseId : String)
  | workflowStarted (tenantId workflowType workflowVersion startNodeId : String)
  | serviceTaskActivated (nodeId taskType : String)
  | serviceTaskCompleted (nodeId : String) (outputs : List WorkflowVariable)
  | userTaskActivated (nodeId taskType assignmentPolicyRef formKey : String)
  | userTaskCompleted (nodeId decision resultVariable : String)
  | userTaskCancelled (nodeId reason : String)
  | scriptTaskActivated (nodeId taskType implementationRef implementationVersion : String)
  | scriptTaskCompleted (nodeId : String)
  | decisionTaskEvaluated (nodeId decisionTableId : String) (outputs : List WorkflowVariable)
  | gatewaySplitActivated (gatewayId joinGatewayId : String) (selectedTargetNodeIds : List String)
  | gatewayTokenArrived (gatewayId : String)
  | gatewayJoined (gatewayId : String)
  | boundaryEventArmed (boundaryEventId attachedNodeId targetNodeId : String) (cancelActivity : Bool)
      (triggerKind : Int) (triggerReference : String)
  | boundaryEventsDisarmed (attachedNodeId : String) (boundaryEventIds : List String)
  | multiInstanceStarted (nodeId taskType : String) (mode : Int) (totalInstances maxParallelism : Nat)
      (itemVariable : String) (items : List (Option Value))
  | multiInstanceIterationActivated (nodeId taskType : String) (iteration : Nat) (item : Option (Option Value))
  | multiInstanceIterationCompleted (nodeId : String) (iteration : Nat)
  | multiInstanceCompleted (nodeId : String) (completionConditionSatisfied : Bool) (cancelledIterations : List Nat)
  | boundaryEventTriggered (boundaryEventId attachedNodeId targetNodeId : String) (cancelActivity : Bool)
      (cancelledIterations : List Nat) (cancelledTaskTokens : Nat)
  | scopeEntered (scopeInstanceId scopeNodeId startNodeId : String) (parentScopeInstanceId : Option String)
      (invocation : Nat)
  | scopeCompleted (scopeInstanceId scopeNodeId endNodeId : String)
  | workflowBranchCompleted (endNodeId : String)
  | workflowCompleted
  | workflowTerminatedForCompliance (policyId : String) (requestDigest : List UInt8) (reasonCode : String)
      (reconciliationCount : Nat)

structure EventMetadata where
  eventId : String
  tenantId : String
  instanceId : String
  sequence : Nat
  schemaVersion : Nat
  correlationId : String
  causationCommandId : String
  occurredAtEpochMs : Nat
  configVersion : String
  policyVersion : String
  actorId : String
  encryptionKeyScope : String
  workflowType : String
  workflowVersion : String

structure EventEnvelope where
  metadata : Option EventMetadata
  event : Option Event

end Wire

def identifiersToWire {kind : IdentifierKind} (ids : List (Identifier kind)) : List String :=
  ids.map Identifier.value

def outputsToWire (outputs : Variables) : List Wire.WorkflowVariable :=
  outputs.toList.map fun entry => ⟨entry.1, some (workflowValueToWire entry.2)⟩

/-- The match of `to_wire` on the event; the time of an event travels in the metadata. -/
def eventToWire : DomainEvent → Wire.Event
  | .caseActivated caseId caseModelId stageIds milestoneIds _ =>
    .caseActivated caseId.value caseModelId.value (identifiersToWire stageIds) (identifiersToWire milestoneIds)
  | .caseSentrySatisfied caseId sentryId _ => .caseSentrySatisfied caseId.value sentryId.value
  | .casePlanItemTransitioned caseId planItemId kind status satisfiedSentryIds _ =>
    .casePlanItemTransitioned caseId.value planItemId.value (casePlanItemKindName kind)
      (casePlanItemStatusName status) (identifiersToWire satisfiedSentryIds)
  | .caseCompleted caseId _ => .caseCompleted caseId.value
  | .workflowStarted tenantId workflowType workflowVersion startNodeId _ =>
    .workflowStarted tenantId.value workflowType.value workflowVersion.value startNodeId.value
  | .serviceTaskActivated nodeId taskType _ => .serviceTaskActivated nodeId.value taskType.value
  | .serviceTaskCompleted nodeId outputs _ => .serviceTaskCompleted nodeId.value (outputsToWire outputs)
  | .userTaskActivated nodeId taskType assignmentPolicyRef formKey _ =>
    .userTaskActivated nodeId.value taskType.value assignmentPolicyRef (formKey.getD "")
  | .userTaskCompleted nodeId decision resultVariable _ => .userTaskCompleted nodeId.value decision resultVariable
  | .userTaskCancelled nodeId reason _ => .userTaskCancelled nodeId.value reason
  | .scriptTaskActivated nodeId taskType implementationRef implementationVersion _ =>
    .scriptTaskActivated nodeId.value taskType.value implementationRef implementationVersion
  | .scriptTaskCompleted nodeId _ => .scriptTaskCompleted nodeId.value
  | .decisionTaskEvaluated nodeId decisionTableId outputs _ =>
    .decisionTaskEvaluated nodeId.value decisionTableId (outputsToWire outputs)
  | .gatewaySplitActivated gatewayId joinGatewayId selectedTargets _ =>
    .gatewaySplitActivated gatewayId.value joinGatewayId.value (identifiersToWire selectedTargets)
  | .gatewayTokenArrived gatewayId _ => .gatewayTokenArrived gatewayId.value
  | .gatewayJoined gatewayId _ => .gatewayJoined gatewayId.value
  | .boundaryEventArmed boundaryEventId attachedNodeId targetNodeId cancelActivity trigger _ =>
    .boundaryEventArmed boundaryEventId.value attachedNodeId.value targetNodeId.value cancelActivity
      (boundaryTriggerToWire trigger).1 (boundaryTriggerToWire trigger).2
  | .boundaryEventsDisarmed attachedNodeId boundaryEventIds _ =>
    .boundaryEventsDisarmed attachedNodeId.value (identifiersToWire boundaryEventIds)
  | .multiInstanceStarted nodeId taskType mode totalInstances maxParallelism itemVariable items _ =>
    .multiInstanceStarted nodeId.value taskType.value (multiInstanceModeToWire mode) totalInstances maxParallelism
      (itemVariable.getD "") (workflowValueItemsToWire items)
  | .multiInstanceIterationActivated nodeId taskType iteration item _ =>
    .multiInstanceIterationActivated nodeId.value taskType.value iteration
      (item.map fun value => some (workflowValueToWire value))
  | .multiInstanceIterationCompleted nodeId iteration _ => .multiInstanceIterationCompleted nodeId.value iteration
  | .multiInstanceCompleted nodeId completionConditionSatisfied cancelledIterations _ =>
    .multiInstanceCompleted nodeId.value completionConditionSatisfied cancelledIterations
  | .boundaryEventTriggered boundaryEventId attachedNodeId targetNodeId cancelActivity cancelledIterations
      cancelledTaskTokens _ =>
    .boundaryEventTriggered boundaryEventId.value attachedNodeId.value targetNodeId.value cancelActivity
      cancelledIterations cancelledTaskTokens
  | .scopeEntered scopeInstanceId scopeNodeId startNodeId parentScopeInstanceId invocation _ =>
    .scopeEntered scopeInstanceId.value scopeNodeId.value startNodeId.value
      (parentScopeInstanceId.map Identifier.value) invocation
  | .scopeCompleted scopeInstanceId scopeNodeId endNodeId _ =>
    .scopeCompleted scopeInstanceId.value scopeNodeId.value endNodeId.value
  | .workflowBranchCompleted endNodeId _ => .workflowBranchCompleted endNodeId.value
  | .workflowCompleted _ => .workflowCompleted
  | .workflowTerminatedForCompliance policyId requestDigest reasonCode reconciliationCount _ =>
    .workflowTerminatedForCompliance policyId requestDigest.toList reasonCode reconciliationCount

def eventMetadataToWire (metadata : EventMetadata) : Wire.EventMetadata where
  eventId := metadata.eventId
  tenantId := metadata.tenantId.value
  instanceId := metadata.instanceId.value
  sequence := metadata.sequence
  schemaVersion := metadata.schemaVersion
  correlationId := metadata.correlationId.value
  causationCommandId := metadata.causationCommandId.value
  occurredAtEpochMs := metadata.occurredAtEpochMs
  configVersion := metadata.configVersion.value
  policyVersion := metadata.policyVersion.value
  actorId := metadata.actorId.value
  encryptionKeyScope := metadata.encryptionKeyScope.value
  workflowType := metadata.workflowType.value
  workflowVersion := metadata.workflowVersion.value

/-- `to_wire`. -/
def envelopeToWire (envelope : EventEnvelope) : Wire.EventEnvelope where
  metadata := some (eventMetadataToWire envelope.metadata)
  event := some (eventToWire envelope.event)

end BpmpPlatform
