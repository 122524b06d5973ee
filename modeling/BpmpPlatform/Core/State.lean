import BpmpPlatform.Core.Validation

/-! # Commands, events and instance state -/
namespace BpmpPlatform
open Std Outcome

/-- The engine policy values that decisions read, with what `EnginePolicy::validate` checks of them. -/
structure EnginePolicy where
  snapshotIntervalEvents : Nat
  maxEventsPerDecision : Nat
  maxMultiInstanceCardinality : Nat
  defaultMultiInstanceParallelism : Nat
  snapshotInterval_pos : 0 < snapshotIntervalEvents
  maxEvents_pos : 0 < maxEventsPerDecision
  cardinality_pos : 0 < maxMultiInstanceCardinality
  parallelism_pos : 0 < defaultMultiInstanceParallelism
  parallelism_le : defaultMultiInstanceParallelism ≤ maxMultiInstanceCardinality

structure DecisionContext where
  engine : EnginePolicy
  vars : Variables

inductive CaseLifecycle
  | active
  | completed
  deriving DecidableEq

inductive CasePlanItemKind
  | stage
  | milestone
  deriving DecidableEq

inductive CasePlanItemStatus
  | available
  | active
  | completed
  deriving DecidableEq

structure CasePlanItemState where
  kind : CasePlanItemKind
  status : CasePlanItemStatus
  deriving DecidableEq

structure ActiveCase where
  modelId : CaseModelId
  lifecycle : CaseLifecycle
  satisfiedSentries : ExtTreeSet SentryId
  planItems : ExtTreeMap PlanItemId CasePlanItemState
  deriving DecidableEq

structure ActiveMultiInstance where
  taskType : TaskType
  mode : MultiInstanceMode
  totalInstances : Nat
  nextIteration : Nat
  maxParallelism : Nat
  itemVariable : Option String
  items : List WorkflowValue
  activeIterations : ExtTreeSet Nat
  completedIterations : ExtTreeSet Nat
  deriving DecidableEq

structure ActiveBoundarySubscription where
  attachedNodeId : NodeId
  targetNodeId : NodeId
  cancelActivity : Bool
  trigger : BoundaryTrigger
  armedAtEpochMs : Nat
  deriving DecidableEq

structure ActiveExecutionScope where
  scopeNodeId : NodeId
  startNodeId : NodeId
  parentScopeInstanceId : Option ScopeInstanceId
  invocation : Nat
  deriving DecidableEq

structure PendingGatewayJoin where
  expectedTokens : Nat
  arrivedTokens : Nat
  deriving DecidableEq

inductive Command
  | activateCase (caseId : CaseId) (caseModelId : CaseModelId) (occurredAt : Nat)
  | evaluateCaseSentries (caseId : CaseId) (occurredAt : Nat)
  | startWorkflow (tenantId : TenantId) (occurredAt : Nat)
  | completeServiceTask (nodeId : NodeId) (outputs : Variables) (occurredAt : Nat)
  | completeUserTask (nodeId : NodeId) (decision : String) (occurredAt : Nat)
  | completeScriptTask (nodeId : NodeId) (occurredAt : Nat)
  | completeMultiInstanceIteration (nodeId : NodeId) (iteration : Nat) (occurredAt : Nat)
  | triggerBoundaryEvent (boundaryEventId : NodeId) (occurredAt : Nat)

inductive DomainEvent
  | caseActivated (caseId : CaseId) (caseModelId : CaseModelId)
      (stageIds milestoneIds : List PlanItemId) (occurredAt : Nat)
  | caseSentrySatisfied (caseId : CaseId) (sentryId : SentryId) (occurredAt : Nat)
  | casePlanItemTransitioned (caseId : CaseId) (planItemId : PlanItemId) (kind : CasePlanItemKind)
      (status : CasePlanItemStatus) (satisfiedSentryIds : List SentryId) (occurredAt : Nat)
  | caseCompleted (caseId : CaseId) (occurredAt : Nat)
  | workflowStarted (tenantId : TenantId) (workflowType : WorkflowType)
      (workflowVersion : WorkflowVersion) (startNodeId : NodeId) (occurredAt : Nat)
  | serviceTaskActivated (nodeId : NodeId) (taskType : TaskType) (occurredAt : Nat)
  | serviceTaskCompleted (nodeId : NodeId) (outputs : Variables) (occurredAt : Nat)
  | userTaskActivated (nodeId : NodeId) (taskType : TaskType) (assignmentPolicyRef : String)
      (formKey : Option String) (occurredAt : Nat)
  | userTaskCompleted (nodeId : NodeId) (decision resultVariable : String) (occurredAt : Nat)
  | userTaskCancelled (nodeId : NodeId) (reason : String) (occurredAt : Nat)
  | scriptTaskActivated (nodeId : NodeId) (taskType : TaskType)
      (implementationRef implementationVersion : String) (occurredAt : Nat)
  | scriptTaskCompleted (nodeId : NodeId) (occurredAt : Nat)
  | decisionTaskEvaluated (nodeId : NodeId) (decisionTableId : String) (outputs : Variables)
      (occurredAt : Nat)
  | gatewaySplitActivated (gatewayId joinGatewayId : NodeId) (selectedTargets : List NodeId)
      (occurredAt : Nat)
  | gatewayTokenArrived (gatewayId : NodeId) (occurredAt : Nat)
  | gatewayJoined (gatewayId : NodeId) (occurredAt : Nat)
  | boundaryEventArmed (boundaryEventId attachedNodeId targetNodeId : NodeId) (cancelActivity : Bool)
      (trigger : BoundaryTrigger) (occurredAt : Nat)
  | boundaryEventsDisarmed (attachedNodeId : NodeId) (boundaryEventIds : List NodeId)
      (occurredAt : Nat)
  | multiInstanceStarted (nodeId : NodeId) (taskType : TaskType) (mode : MultiInstanceMode)
      (totalInstances maxParallelism : Nat) (itemVariable : Option String)
      (items : List WorkflowValue) (occurredAt : Nat)
  | multiInstanceIterationActivated (nodeId : NodeId) (taskType : TaskType) (iteration : Nat)
      (item : Option WorkflowValue) (occurredAt : Nat)
  | multiInstanceIterationCompleted (nodeId : NodeId) (iteration : Nat) (occurredAt : Nat)
  | multiInstanceCompleted (nodeId : NodeId) (completionConditionSatisfied : Bool)
      (cancelledIterations : List Nat) (occurredAt : Nat)
  | boundaryEventTriggered (boundaryEventId attachedNodeId targetNodeId : NodeId)
      (cancelActivity : Bool) (cancelledIterations : List Nat) (cancelledTaskTokens : Nat)
      (occurredAt : Nat)
  | scopeEntered (scopeInstanceId : ScopeInstanceId) (scopeNodeId startNodeId : NodeId)
      (parentScopeInstanceId : Option ScopeInstanceId) (invocation : Nat) (occurredAt : Nat)
  | scopeCompleted (scopeInstanceId : ScopeInstanceId) (scopeNodeId endNodeId : NodeId)
      (occurredAt : Nat)
  | workflowBranchCompleted (endNodeId : NodeId) (occurredAt : Nat)
  | workflowCompleted (occurredAt : Nat)
  | workflowTerminatedForCompliance (policyId : String) (requestDigest : Vector UInt8 32)
      (reasonCode : String) (reconciliationCount : Nat) (occurredAt : Nat)
  deriving DecidableEq

inductive Lifecycle
  | initial
  | active (activeNode : NodeId)
  | completed
  | terminatedForCompliance
  deriving DecidableEq

def Lifecycle.isActive : Lifecycle → Bool
  | .active _ => true
  | _ => false

structure InstanceState where
  lifecycle : Lifecycle := .initial
  sequence : Nat := 0
  vars : Variables := ∅
  activeTokens : ExtTreeMap NodeId Nat := ∅
  pendingGatewayJoins : ExtTreeMap NodeId PendingGatewayJoin := ∅
  activeMultiInstances : ExtTreeMap NodeId ActiveMultiInstance := ∅
  activeBoundarySubscriptions : ExtTreeMap NodeId ActiveBoundarySubscription := ∅
  activeScopes : ExtTreeMap ScopeInstanceId ActiveExecutionScope := ∅
  scopeInvocationCounts : ExtTreeMap NodeId Nat := ∅
  activeCases : ExtTreeMap CaseId ActiveCase := ∅
  deriving DecidableEq

/-- The routing part of the state, which decisions transform before they return their events. -/
structure RoutingState where
  activeTokens : ExtTreeMap NodeId Nat
  pendingJoins : ExtTreeMap NodeId PendingGatewayJoin
  activeMultiInstances : ExtTreeMap NodeId ActiveMultiInstance
  activeBoundarySubscriptions : ExtTreeMap NodeId ActiveBoundarySubscription
  activeScopes : ExtTreeMap ScopeInstanceId ActiveExecutionScope
  scopeInvocationCounts : ExtTreeMap NodeId Nat

/-- `RoutingState::from`. -/
def InstanceState.routing (state : InstanceState) : RoutingState where
  activeTokens := state.activeTokens
  pendingJoins := state.pendingGatewayJoins
  activeMultiInstances := state.activeMultiInstances
  activeBoundarySubscriptions := state.activeBoundarySubscriptions
  activeScopes := state.activeScopes
  scopeInvocationCounts := state.scopeInvocationCounts

def Sample.policy (interval : Nat) (h : 0 < interval) : EnginePolicy :=
  ⟨interval, 1000, 10000, 32, h, by decide, by decide, by decide, by decide⟩

end BpmpPlatform
