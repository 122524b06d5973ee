import BpmpPlatform.Core.State

/-! # Operations on the routing state

The methods of `RoutingState`, each returning the new routing state instead of mutating it.
-/
namespace BpmpPlatform
open Std Outcome

def scopeIdentity (parent : Option ScopeInstanceId) (scopeNodeId : NodeId) (invocation : Nat) : String :=
  match parent with
  | none => scopeNodeId.value ++ "#" ++ toString invocation
  | some parent => parent.value ++ "/" ++ scopeNodeId.value ++ "#" ++ toString invocation

def scopeInstances (scopes : ExtTreeMap ScopeInstanceId ActiveExecutionScope) (scopeNodeId : NodeId) :
    List ScopeInstanceId :=
  keysWhere scopes fun scope => scope.scopeNodeId == scopeNodeId

namespace RoutingState
variable (r : RoutingState)

def hasOutstandingWork : Bool :=
  !r.activeTokens.isEmpty || !r.pendingJoins.isEmpty || !r.activeMultiInstances.isEmpty ||
    !r.activeBoundarySubscriptions.isEmpty || !r.activeScopes.isEmpty

def enterScope (scopeNodeId startNodeId : NodeId) (parent : Option ScopeInstanceId) :
    Except DomainError (RoutingState × ScopeInstanceId × Nat) := do
  ensure (scopeInstances r.activeScopes scopeNodeId).isEmpty (.scopeAlreadyActive scopeNodeId)
  let invocation ← checkedSucc u64Max (.scopeInvocationOverflow scopeNodeId)
    (r.scopeInvocationCounts[scopeNodeId]?.getD 0)
  match Identifier.new .ScopeInstanceId (scopeIdentity parent scopeNodeId invocation) with
  | .error _ => throw (.invalidScopeInstanceIdentity scopeNodeId)
  | .ok scopeInstanceId =>
    let scope : ActiveExecutionScope := ⟨scopeNodeId, startNodeId, parent, invocation⟩
    return ({ r with
      scopeInvocationCounts := r.scopeInvocationCounts.insert scopeNodeId invocation
      activeScopes := r.activeScopes.insert scopeInstanceId scope }, scopeInstanceId, invocation)

def completeScope (scopeInstanceId : ScopeInstanceId) (expectedScopeNodeId : NodeId) :
    Except DomainError (RoutingState × ActiveExecutionScope) := do
  let scope ← okOr (.scopeInstanceNotActive scopeInstanceId) r.activeScopes[scopeInstanceId]?
  ensure (scope.scopeNodeId == expectedScopeNodeId)
    (.scopeInstanceOwnerMismatch scopeInstanceId expectedScopeNodeId scope.scopeNodeId)
  return ({ r with activeScopes := r.activeScopes.erase scopeInstanceId }, scope)

def activateTask (nodeId : NodeId) : Except DomainError RoutingState := do
  let count ← checkedSucc u32Max (.tokenCountOverflow nodeId) (r.activeTokens[nodeId]?.getD 0)
  return { r with activeTokens := r.activeTokens.insert nodeId count }

def completeTask (nodeId : NodeId) : Except DomainError RoutingState := do
  let count ← okOr (.taskNotActive nodeId) r.activeTokens[nodeId]?
  match count with
  | 0 => throw (.panicked "attempt to subtract with overflow")
  | 1 => return { r with activeTokens := r.activeTokens.erase nodeId }
  | count + 1 => return { r with activeTokens := r.activeTokens.insert nodeId count }

def startMultiInstance (nodeId : NodeId) (state : ActiveMultiInstance) :
    Except DomainError RoutingState := do
  ensure (!r.activeMultiInstances.contains nodeId) (.multiInstanceAlreadyActive nodeId)
  return { r with activeMultiInstances := r.activeMultiInstances.insert nodeId state }

def activateNextMultiInstance (nodeId : NodeId) :
    Except DomainError (RoutingState × Nat × TaskType × Option WorkflowValue) := do
  let active ← okOr (.multiInstanceNotActive nodeId) r.activeMultiInstances[nodeId]?
  ensure (decide (active.nextIteration < active.totalInstances) &&
    decide (active.activeIterations.size < active.maxParallelism))
    (.multiInstanceActivationLimit nodeId)
  let next ← checkedSucc u32Max (.tokenCountOverflow nodeId) active.nextIteration
  let advanced := { active with
    nextIteration := next
    activeIterations := active.activeIterations.insert active.nextIteration }
  return ({ r with activeMultiInstances := r.activeMultiInstances.insert nodeId advanced },
    active.nextIteration, active.taskType, active.items[active.nextIteration]?)

/-- The Boolean is the `completed` field of `MultiInstanceProgress`. -/
def completeMultiInstanceIteration (nodeId : NodeId) (iteration : Nat) :
    Except DomainError (RoutingState × Bool) := do
  let active ← okOr (.multiInstanceNotActive nodeId) r.activeMultiInstances[nodeId]?
  ensure (active.activeIterations.contains iteration) (.multiInstanceIterationNotActive nodeId iteration)
  let advanced := { active with
    activeIterations := active.activeIterations.erase iteration
    completedIterations := active.completedIterations.insert iteration }
  return ({ r with activeMultiInstances := r.activeMultiInstances.insert nodeId advanced },
    advanced.completedIterations.size == advanced.totalInstances)

def finishMultiInstance (nodeId : NodeId) : RoutingState :=
  { r with activeMultiInstances := r.activeMultiInstances.erase nodeId }

def armedFor (nodeId : NodeId) : List NodeId :=
  keysWhere r.activeBoundarySubscriptions fun subscription => subscription.attachedNodeId == nodeId

def disarmBoundaries (nodeId : NodeId) : RoutingState :=
  { r with activeBoundarySubscriptions :=
      (r.armedFor nodeId).foldl (fun m id => m.erase id) r.activeBoundarySubscriptions }

def completeTasks (nodeId : NodeId) : Nat → RoutingState → Except DomainError RoutingState
  | 0, r => .ok r
  | n + 1, r => do completeTasks nodeId n (← r.completeTask nodeId)

def cancelActivity (nodeId : NodeId) (cancelledTaskTokens : Nat) : Except DomainError RoutingState :=
  completeTasks nodeId cancelledTaskTokens ((r.finishMultiInstance nodeId).disarmBoundaries nodeId)

def armBoundary (boundaryEventId : NodeId) (subscription : ActiveBoundarySubscription) :
    Except DomainError RoutingState := do
  ensure (!r.activeBoundarySubscriptions.contains boundaryEventId)
    (.boundaryEventAlreadyArmed boundaryEventId)
  return { r with activeBoundarySubscriptions :=
    r.activeBoundarySubscriptions.insert boundaryEventId subscription }

def openJoin (join : NodeId) (targetCount : Nat) : Except DomainError RoutingState := do
  ensure (decide (targetCount ≤ u32Max)) (.tokenCountOverflow join)
  ensure (!r.pendingJoins.contains join) (.joinAlreadyPending join)
  return { r with pendingJoins := r.pendingJoins.insert join ⟨targetCount, 0⟩ }

def arrive (join : NodeId) : Except DomainError (RoutingState × Bool) := do
  let state ← okOr (.unexpectedGatewayJoin join) r.pendingJoins[join]?
  let arrived ← checkedSucc u32Max (.tokenCountOverflow join) state.arrivedTokens
  ensure (decide (arrived ≤ state.expectedTokens)) (.unexpectedGatewayJoin join)
  return ({ r with pendingJoins := r.pendingJoins.insert join { state with arrivedTokens := arrived } },
    arrived == state.expectedTokens)

def closeJoin (join : NodeId) : RoutingState :=
  { r with pendingJoins := r.pendingJoins.erase join }

end RoutingState

end BpmpPlatform
