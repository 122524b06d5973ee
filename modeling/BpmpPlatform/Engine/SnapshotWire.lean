import BpmpPlatform.Core.State

/-! # Snapshots on the wire

The messages of `engine.proto` that a snapshot is made of, and `to_wire`. Enumerations travel as their
numbers, identifiers as their texts.
-/
namespace BpmpPlatform
open Std

/-- What the engine persists of an instance at a snapshot boundary. -/
structure SnapshotEnvelope where
  tenantId : TenantId
  instanceId : InstanceId
  workflowType : WorkflowType
  workflowVersion : WorkflowVersion
  state : InstanceState
  configVersion : ConfigVersion
  policyVersion : PolicyVersion
  encryptionKeyScope : KeyScope
  deriving DecidableEq

namespace Wire

/-- The `value` oneof of `WorkflowVariable` and of `WorkflowValueItem`; an item may lack its value. -/
inductive Value
  | booleanValue (value : Bool)
  | integerValue (value : Int64)
  | stringValue (value : String)
  | listValue (items : List (Option Value))

structure WorkflowVariable where
  name : String
  value : Option Value

structure ActiveToken where
  nodeId : String
  count : Nat

structure PendingGatewayJoin where
  gatewayId : String
  expectedTokens : Nat
  arrivedTokens : Nat

structure ActiveMultiInstance where
  nodeId : String
  taskType : String
  mode : Int
  totalInstances : Nat
  nextIteration : Nat
  maxParallelism : Nat
  itemVariable : String
  items : List (Option Value)
  activeIterations : List Nat
  completedIterations : List Nat

structure ActiveBoundarySubscription where
  boundaryEventId : String
  attachedNodeId : String
  targetNodeId : String
  cancelActivity : Bool
  triggerKind : Int
  triggerReference : String
  armedAtEpochMs : Nat

structure ActiveExecutionScope where
  scopeInstanceId : String
  scopeNodeId : String
  startNodeId : String
  parentScopeInstanceId : Option String
  invocation : Nat

structure ScopeInvocationCounter where
  scopeNodeId : String
  invocations : Nat

structure CasePlanItemState where
  planItemId : String
  kind : String
  status : String

structure ActiveCase where
  caseId : String
  status : String
  satisfiedSentryIds : List String
  planItems : List CasePlanItemState
  caseModelId : String

structure WorkflowSnapshot where
  tenantId : String
  instanceId : String
  sequence : Nat
  schemaVersion : Nat
  workflowType : String
  workflowVersion : String
  lifecycle : Int
  activeNodeId : String
  configVersion : String
  policyVersion : String
  encryptionKeyScope : String
  vars : List WorkflowVariable
  activeTokens : List ActiveToken
  pendingGatewayJoins : List PendingGatewayJoin
  activeMultiInstances : List ActiveMultiInstance
  activeBoundarySubscriptions : List ActiveBoundarySubscription
  activeScopes : List ActiveExecutionScope
  scopeInvocationCounters : List ScopeInvocationCounter
  activeCases : List ActiveCase

inductive WorkflowLifecycle
  | unspecified
  | initial
  | active
  | completed
  | terminatedForCompliance
  deriving DecidableEq

def WorkflowLifecycle.code : WorkflowLifecycle → Int
  | .unspecified => 0
  | .initial => 1
  | .active => 2
  | .completed => 3
  | .terminatedForCompliance => 4

/-- `WorkflowLifecycle::try_from`. -/
def WorkflowLifecycle.ofCode : Int → Option WorkflowLifecycle
  | 0 => some .unspecified
  | 1 => some .initial
  | 2 => some .active
  | 3 => some .completed
  | 4 => some .terminatedForCompliance
  | _ => none

end Wire

def snapshotSchemaVersion : Nat := 1

mutual

def workflowValueToWire : WorkflowValue → Wire.Value
  | .boolean value => .booleanValue value
  | .integer value => .integerValue value
  | .string value => .stringValue value
  | .list items => .listValue (workflowValueItemsToWire items)

/-- `workflow_value_item_to_wire` on every item. -/
def workflowValueItemsToWire : List WorkflowValue → List (Option Wire.Value)
  | [] => []
  | item :: rest => some (workflowValueToWire item) :: workflowValueItemsToWire rest

end

def multiInstanceModeToWire : MultiInstanceMode → Int
  | .sequential => 1
  | .parallel => 2

def boundaryTriggerToWire : BoundaryTrigger → Int × String
  | .timer .date expression => (1, expression)
  | .timer .duration expression => (2, expression)
  | .timer .cycle expression => (3, expression)
  | .error errorRef => (4, errorRef.getD "")
  | .message messageRef => (5, messageRef)

/-- The readers of a trigger differ in how they read its texts and in their errors. -/
@[simp] def triggerFrom {ε : Type} (invalid : ε) (timer message : Except ε String) (error : Option String) :
    Int → Except ε BoundaryTrigger
  | 1 => do return .timer .date (← timer)
  | 2 => do return .timer .duration (← timer)
  | 3 => do return .timer .cycle (← timer)
  | 4 => .ok (.error error)
  | 5 => do return .message (← message)
  | _ => .error invalid

def caseLifecycleName : CaseLifecycle → String
  | .active => "ACTIVE"
  | .completed => "COMPLETED"

def casePlanItemKindName : CasePlanItemKind → String
  | .stage => "STAGE"
  | .milestone => "MILESTONE"

def casePlanItemStatusName : CasePlanItemStatus → String
  | .available => "AVAILABLE"
  | .active => "ACTIVE"
  | .completed => "COMPLETED"

def lifecycleToWire : Lifecycle → Wire.WorkflowLifecycle × String
  | .initial => (.initial, "")
  | .active activeNode => (.active, activeNode.value)
  | .completed => (.completed, "")
  | .terminatedForCompliance => (.terminatedForCompliance, "")

def activeMultiInstanceToWire (entry : NodeId × ActiveMultiInstance) : Wire.ActiveMultiInstance where
  nodeId := entry.1.value
  taskType := entry.2.taskType.value
  mode := multiInstanceModeToWire entry.2.mode
  totalInstances := entry.2.totalInstances
  nextIteration := entry.2.nextIteration
  maxParallelism := entry.2.maxParallelism
  itemVariable := entry.2.itemVariable.getD ""
  items := workflowValueItemsToWire entry.2.items
  activeIterations := entry.2.activeIterations.toList
  completedIterations := entry.2.completedIterations.toList

def activeBoundarySubscriptionToWire (entry : NodeId × ActiveBoundarySubscription) :
    Wire.ActiveBoundarySubscription where
  boundaryEventId := entry.1.value
  attachedNodeId := entry.2.attachedNodeId.value
  targetNodeId := entry.2.targetNodeId.value
  cancelActivity := entry.2.cancelActivity
  triggerKind := (boundaryTriggerToWire entry.2.trigger).1
  triggerReference := (boundaryTriggerToWire entry.2.trigger).2
  armedAtEpochMs := entry.2.armedAtEpochMs

def activeExecutionScopeToWire (entry : ScopeInstanceId × ActiveExecutionScope) :
    Wire.ActiveExecutionScope where
  scopeInstanceId := entry.1.value
  scopeNodeId := entry.2.scopeNodeId.value
  startNodeId := entry.2.startNodeId.value
  parentScopeInstanceId := entry.2.parentScopeInstanceId.map Identifier.value
  invocation := entry.2.invocation

def activeCaseToWire (entry : CaseId × ActiveCase) : Wire.ActiveCase where
  caseId := entry.1.value
  status := caseLifecycleName entry.2.lifecycle
  satisfiedSentryIds := entry.2.satisfiedSentries.toList.map Identifier.value
  planItems := entry.2.planItems.toList.map fun item =>
    ⟨item.1.value, casePlanItemKindName item.2.kind, casePlanItemStatusName item.2.status⟩
  caseModelId := entry.2.modelId.value

/-- `to_wire`. -/
def snapshotToWire (snapshot : SnapshotEnvelope) : Wire.WorkflowSnapshot where
  tenantId := snapshot.tenantId.value
  instanceId := snapshot.instanceId.value
  sequence := snapshot.state.sequence
  schemaVersion := snapshotSchemaVersion
  workflowType := snapshot.workflowType.value
  workflowVersion := snapshot.workflowVersion.value
  lifecycle := (lifecycleToWire snapshot.state.lifecycle).1.code
  activeNodeId := (lifecycleToWire snapshot.state.lifecycle).2
  configVersion := snapshot.configVersion.value
  policyVersion := snapshot.policyVersion.value
  encryptionKeyScope := snapshot.encryptionKeyScope.value
  vars := snapshot.state.vars.toList.map fun entry => ⟨entry.1, some (workflowValueToWire entry.2)⟩
  activeTokens := snapshot.state.activeTokens.toList.map fun entry => ⟨entry.1.value, entry.2⟩
  pendingGatewayJoins := snapshot.state.pendingGatewayJoins.toList.map fun entry =>
    ⟨entry.1.value, entry.2.expectedTokens, entry.2.arrivedTokens⟩
  activeMultiInstances := snapshot.state.activeMultiInstances.toList.map activeMultiInstanceToWire
  activeBoundarySubscriptions :=
    snapshot.state.activeBoundarySubscriptions.toList.map activeBoundarySubscriptionToWire
  activeScopes := snapshot.state.activeScopes.toList.map activeExecutionScopeToWire
  scopeInvocationCounters := snapshot.state.scopeInvocationCounts.toList.map fun entry =>
    ⟨entry.1.value, entry.2⟩
  activeCases := snapshot.state.activeCases.toList.map activeCaseToWire

end BpmpPlatform
