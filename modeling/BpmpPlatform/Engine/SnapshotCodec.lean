import BpmpPlatform.Engine.SnapshotWire

/-! # Decoding snapshots

`SnapshotCodec` with the checks of `from_wire`. The byte format is that of the protobuf library, which is
a parameter here.
-/
namespace BpmpPlatform
open Std Outcome

inductive SnapshotCodecError
  | decode (detail : String)
  | unsupportedSchema (version : Nat)
  | invalidLifecycle (code : Int)
  | inconsistentLifecycle (lifecycle : Wire.WorkflowLifecycle)
  | emptyField (field : String)
  | missingWorkflowVariableValue
  | invalidTokenState
  | invalidMultiInstanceMode (code : Int)
  | invalidMultiInstanceState
  | invalidScopeState
  | invalidCaseState
  | invalidBoundaryTriggerKind (code : Int)
  | identifier (field : String) (error : IdentifierError)
  deriving DecidableEq

section Fields

def identifier (kind : IdentifierKind) (value field : String) : Except SnapshotCodecError (Identifier kind) :=
  match Identifier.new kind value with
  | .ok id => .ok id
  | .error error => .error (.identifier field error)

def nonEmpty (value field : String) : Except SnapshotCodecError String :=
  if Text.isBlank value then .error (.emptyField field) else .ok value

def optionalNonEmpty (value : String) : Option String :=
  if Text.isBlank value then none else some value

mutual

def workflowValueFromWire : Wire.Value → Except SnapshotCodecError WorkflowValue
  | .booleanValue value => .ok (.boolean value)
  | .integerValue value => .ok (.integer value)
  | .stringValue value => .ok (.string value)
  | .listValue items => do return .list (← workflowValueItemsFromWire items)

/-- `workflow_value_item_from_wire` on every item. -/
def workflowValueItemsFromWire : List (Option Wire.Value) → Except SnapshotCodecError (List WorkflowValue)
  | [] => .ok []
  | none :: _ => .error .missingWorkflowVariableValue
  | some item :: rest => do
    let value ← workflowValueFromWire item
    let values ← workflowValueItemsFromWire rest
    return value :: values

end

def workflowVariableFromWire (var : Wire.WorkflowVariable) :
    Except SnapshotCodecError (String × WorkflowValue) := do
  let name ← nonEmpty var.name "workflow_variable.name"
  let wire ← okOr .missingWorkflowVariableValue var.value
  let value ← workflowValueFromWire wire
  return (name, value)

def lifecycleFromWire (code : Int) (activeNodeId : String) : Except SnapshotCodecError Lifecycle := do
  let lifecycle ← okOr (.invalidLifecycle code) (Wire.WorkflowLifecycle.ofCode code)
  match lifecycle, activeNodeId.isEmpty with
  | .initial, true => return .initial
  | .active, false => return .active (← identifier .NodeId activeNodeId "active_node_id")
  | .completed, true => return .completed
  | .terminatedForCompliance, true => return .terminatedForCompliance
  | lifecycle, _ => throw (.inconsistentLifecycle lifecycle)

def activeTokenFromWire (token : Wire.ActiveToken) : Except SnapshotCodecError (NodeId × Nat) := do
  ensure (token.count != 0) .invalidTokenState
  return (← identifier .NodeId token.nodeId "active_token.node_id", token.count)

def pendingGatewayJoinFromWire (join : Wire.PendingGatewayJoin) :
    Except SnapshotCodecError (NodeId × PendingGatewayJoin) := do
  ensure (!(join.expectedTokens == 0 || decide (join.arrivedTokens ≥ join.expectedTokens))) .invalidTokenState
  return (← identifier .NodeId join.gatewayId "pending_join.gateway_id",
    ⟨join.expectedTokens, join.arrivedTokens⟩)

def multiInstanceModeFromWire (code : Int) : Except SnapshotCodecError MultiInstanceMode :=
  match code with
  | 1 => .ok .sequential
  | 2 => .ok .parallel
  | code => .error (.invalidMultiInstanceMode code)

/-- The part of the check on the numbers of a multi-instance record that comes before it is built. -/
def multiInstanceBoundsValid (active : Wire.ActiveMultiInstance) : Bool :=
  !(active.totalInstances == 0 || active.maxParallelism == 0 ||
    decide (active.nextIteration > active.totalInstances) ||
    decide (active.maxParallelism > active.totalInstances))

/-- The test of `validate_active_multi_instance`. -/
def activeMultiInstanceValid (active : ActiveMultiInstance) : Bool :=
  !(decide (active.activeIterations.size > active.maxParallelism) ||
    (active.activeIterations.toList ++ active.completedIterations.toList).any (fun iteration =>
      decide (iteration ≥ active.totalInstances) || decide (iteration ≥ active.nextIteration)) ||
    !(active.activeIterations.toList.all fun iteration => !active.completedIterations.contains iteration) ||
    (!active.items.isEmpty && active.items.length != active.totalInstances))

def activeMultiInstanceFromWire (active : Wire.ActiveMultiInstance) :
    Except SnapshotCodecError (NodeId × ActiveMultiInstance) := do
  ensure (multiInstanceBoundsValid active) .invalidMultiInstanceState
  let taskType ← identifier .TaskType active.taskType "multi_instance.task_type"
  let mode ← multiInstanceModeFromWire active.mode
  let items ← workflowValueItemsFromWire active.items
  let decoded : ActiveMultiInstance := {
    taskType := taskType
    mode := mode
    totalInstances := active.totalInstances
    nextIteration := active.nextIteration
    maxParallelism := active.maxParallelism
    itemVariable := optionalNonEmpty active.itemVariable
    items := items
    activeIterations := ExtTreeSet.ofList active.activeIterations
    completedIterations := ExtTreeSet.ofList active.completedIterations }
  ensure (activeMultiInstanceValid decoded) .invalidMultiInstanceState
  return (← identifier .NodeId active.nodeId "multi_instance.node_id", decoded)

def boundaryTriggerFromWire (kind : Int) (reference : String) : Except SnapshotCodecError BoundaryTrigger :=
  let text := nonEmpty reference "boundary_subscription.trigger_reference"
  triggerFrom (.invalidBoundaryTriggerKind kind) text text (optionalNonEmpty reference) kind

def activeBoundarySubscriptionFromWire (subscription : Wire.ActiveBoundarySubscription) :
    Except SnapshotCodecError (NodeId × ActiveBoundarySubscription) := do
  let boundaryEventId ← identifier .NodeId subscription.boundaryEventId "boundary_subscription.boundary_event_id"
  let attachedNodeId ← identifier .NodeId subscription.attachedNodeId "boundary_subscription.attached_node_id"
  let targetNodeId ← identifier .NodeId subscription.targetNodeId "boundary_subscription.target_node_id"
  let trigger ← boundaryTriggerFromWire subscription.triggerKind subscription.triggerReference
  return (boundaryEventId,
    ⟨attachedNodeId, targetNodeId, subscription.cancelActivity, trigger, subscription.armedAtEpochMs⟩)

def parentFromWire : Option String → Except SnapshotCodecError (Option ScopeInstanceId)
  | none => .ok none
  | some value => do
    return some (← identifier .ScopeInstanceId value "active_scope.parent_scope_instance_id")

def activeExecutionScopeFromWire (scope : Wire.ActiveExecutionScope) :
    Except SnapshotCodecError (ScopeInstanceId × ActiveExecutionScope) := do
  ensure (scope.invocation != 0) .invalidScopeState
  let scopeInstanceId ← identifier .ScopeInstanceId scope.scopeInstanceId "active_scope.scope_instance_id"
  let scopeNodeId ← identifier .NodeId scope.scopeNodeId "active_scope.scope_node_id"
  let startNodeId ← identifier .NodeId scope.startNodeId "active_scope.start_node_id"
  let parent ← parentFromWire scope.parentScopeInstanceId
  return (scopeInstanceId, ⟨scopeNodeId, startNodeId, parent, scope.invocation⟩)

def scopeInvocationCounterFromWire (counter : Wire.ScopeInvocationCounter) :
    Except SnapshotCodecError (NodeId × Nat) := do
  ensure (counter.invocations != 0) .invalidScopeState
  return (← identifier .NodeId counter.scopeNodeId "scope_counter.scope_node_id", counter.invocations)

def caseLifecycleFromWire : String → Except SnapshotCodecError CaseLifecycle
  | "ACTIVE" => .ok .active
  | "COMPLETED" => .ok .completed
  | _ => .error .invalidCaseState

def casePlanItemKindFromWire : String → Except SnapshotCodecError CasePlanItemKind
  | "STAGE" => .ok .stage
  | "MILESTONE" => .ok .milestone
  | _ => .error .invalidCaseState

def casePlanItemStatusFromWire : String → Except SnapshotCodecError CasePlanItemStatus
  | "AVAILABLE" => .ok .available
  | "ACTIVE" => .ok .active
  | "COMPLETED" => .ok .completed
  | _ => .error .invalidCaseState

def casePlanItemFromWire (item : Wire.CasePlanItemState) :
    Except SnapshotCodecError (PlanItemId × CasePlanItemState) := do
  let kind ← casePlanItemKindFromWire item.kind
  let status ← casePlanItemStatusFromWire item.status
  return (← identifier .PlanItemId item.planItemId "case.plan_item_id", ⟨kind, status⟩)

def activeCaseFromWire (active : Wire.ActiveCase) : Except SnapshotCodecError (CaseId × ActiveCase) := do
  let lifecycle ← caseLifecycleFromWire active.status
  let planItems ← collectMap casePlanItemFromWire active.planItems
  let caseId ← identifier .CaseId active.caseId "case.case_id"
  let modelId ← identifier .CaseModelId active.caseModelId "case.case_model_id"
  let sentries ← collectAll (fun id => identifier .SentryId id "case.satisfied_sentry_id") active.satisfiedSentryIds
  return (caseId, ⟨modelId, lifecycle, ExtTreeSet.ofList sentries, planItems⟩)

end Fields

/-- `upcast`: version 0 had the same fields and no schema marker. -/
def upcast (snapshot : Wire.WorkflowSnapshot) : Except SnapshotCodecError Wire.WorkflowSnapshot :=
  if snapshot.schemaVersion = snapshotSchemaVersion then .ok snapshot
  else if snapshot.schemaVersion = 0 then .ok { snapshot with schemaVersion := snapshotSchemaVersion }
  else .error (.unsupportedSchema snapshot.schemaVersion)

/-- `from_wire`. -/
def snapshotFromWire (snapshot : Wire.WorkflowSnapshot) : Except SnapshotCodecError SnapshotEnvelope := do
  ensure (snapshot.schemaVersion == snapshotSchemaVersion) (.unsupportedSchema snapshot.schemaVersion)
  let lifecycle ← lifecycleFromWire snapshot.lifecycle snapshot.activeNodeId
  let activeTokens ← collectMap activeTokenFromWire snapshot.activeTokens
  let pendingGatewayJoins ← collectMap pendingGatewayJoinFromWire snapshot.pendingGatewayJoins
  let activeMultiInstances ← collectMap activeMultiInstanceFromWire snapshot.activeMultiInstances
  let activeBoundarySubscriptions ←
    collectMap activeBoundarySubscriptionFromWire snapshot.activeBoundarySubscriptions
  let activeScopes ← collectMap activeExecutionScopeFromWire snapshot.activeScopes
  let scopeInvocationCounts ← collectMap scopeInvocationCounterFromWire snapshot.scopeInvocationCounters
  let activeCases ← collectMap activeCaseFromWire snapshot.activeCases
  let tenantId ← identifier .TenantId snapshot.tenantId "tenant_id"
  let instanceId ← identifier .InstanceId snapshot.instanceId "instance_id"
  let workflowType ← identifier .WorkflowType snapshot.workflowType "workflow_type"
  let workflowVersion ← identifier .WorkflowVersion snapshot.workflowVersion "workflow_version"
  let vars ← collectMap workflowVariableFromWire snapshot.vars
  let configVersion ← identifier .ConfigVersion snapshot.configVersion "config_version"
  let policyVersion ← identifier .PolicyVersion snapshot.policyVersion "policy_version"
  let encryptionKeyScope ← identifier .KeyScope snapshot.encryptionKeyScope "encryption_key_scope"
  return {
    tenantId := tenantId
    instanceId := instanceId
    workflowType := workflowType
    workflowVersion := workflowVersion
    state := {
      lifecycle := lifecycle
      sequence := snapshot.sequence
      vars := vars
      activeTokens := activeTokens
      pendingGatewayJoins := pendingGatewayJoins
      activeMultiInstances := activeMultiInstances
      activeBoundarySubscriptions := activeBoundarySubscriptions
      activeScopes := activeScopes
      scopeInvocationCounts := scopeInvocationCounts
      activeCases := activeCases }
    configVersion := configVersion
    policyVersion := policyVersion
    encryptionKeyScope := encryptionKeyScope }

namespace SnapshotCodec
variable (format : MessageFormat Wire.WorkflowSnapshot)

def encode (snapshot : SnapshotEnvelope) : format.Bytes := format.encode (snapshotToWire snapshot)

def decode (bytes : format.Bytes) : Except SnapshotCodecError SnapshotEnvelope := do
  match format.decode bytes with
  | .error detail => throw (.decode detail)
  | .ok snapshot => snapshotFromWire (← upcast snapshot)

end SnapshotCodec

end BpmpPlatform
