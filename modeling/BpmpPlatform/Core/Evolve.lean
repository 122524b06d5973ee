import BpmpPlatform.Core.Routing

/-! # The event application function

`evolve` re-implements the effect of every event on the instance state; `rehydrate` folds it.
-/
namespace BpmpPlatform
open Std

/-- `saturating_add(1)` on a `u64`. -/
def saturatingSucc (limit n : Nat) : Nat := if n < limit then n + 1 else n

/-- The node shown as active: the first that holds a token, or the given one. -/
def firstActive (tokens : ExtTreeMap NodeId Nat) (nodeId : NodeId) : Lifecycle :=
  .active (tokens.keys.head?.getD nodeId)

/-- The token part of `complete_active_token`. -/
def releaseTokens (tokens : ExtTreeMap NodeId Nat) (nodeId : NodeId) (released : Nat) :
    ExtTreeMap NodeId Nat :=
  match tokens[nodeId]? with
  | none => tokens
  | some count =>
    if count - released = 0 then tokens.erase nodeId else tokens.insert nodeId (count - released)

def adjust {K V : Type} [Ord K] [TransOrd K] (m : ExtTreeMap K V) (k : K) (f : V → V) :
    ExtTreeMap K V :=
  match m[k]? with
  | none => m
  | some v => m.insert k (f v)

theorem getElem?_adjust {K V : Type} [Ord K] [TransOrd K] [LawfulEqOrd K] [DecidableEq K] (m : ExtTreeMap K V)
    (k k' : K) (f : V → V) : (adjust m k f)[k']? = if k = k' then m[k]?.map f else m[k']? := by
  unfold adjust
  cases hk : m[k]? with
  | none =>
    by_cases heq : k = k'
    · rw [if_pos heq, ← heq, hk]
      rfl
    · rw [if_neg heq]
  | some => rw [getElem?_insert_eq]; rfl

def initialPlanItems (stageIds milestoneIds : List PlanItemId) :
    ExtTreeMap PlanItemId CasePlanItemState :=
  ((∅ : ExtTreeMap PlanItemId CasePlanItemState).insertMany
    (stageIds.map fun id => (id, ⟨.stage, .available⟩))).insertMany
    (milestoneIds.map fun id => (id, ⟨.milestone, .available⟩))

def applyEvent (state : InstanceState) : DomainEvent → InstanceState
  | .caseActivated caseId caseModelId stageIds milestoneIds _ =>
    { state with
      activeCases := state.activeCases.insert caseId
        ⟨caseModelId, .active, ∅, initialPlanItems stageIds milestoneIds⟩ }
  | .caseSentrySatisfied caseId sentryId _ =>
    { state with
      activeCases := adjust state.activeCases caseId fun active =>
        { active with satisfiedSentries := active.satisfiedSentries.insert sentryId } }
  | .casePlanItemTransitioned caseId planItemId kind status _ _ =>
    { state with
      activeCases := adjust state.activeCases caseId fun active =>
        { active with planItems := active.planItems.insert planItemId ⟨kind, status⟩ } }
  | .caseCompleted caseId _ =>
    { state with
      activeCases := adjust state.activeCases caseId fun active =>
        { active with lifecycle := .completed } }
  | .workflowStarted _ _ _ startNodeId _ => { state with lifecycle := .active startNodeId }
  | .serviceTaskActivated nodeId _ _ | .userTaskActivated nodeId _ _ _ _
  | .scriptTaskActivated nodeId _ _ _ _ =>
    let tokens := state.activeTokens.insert nodeId
      (saturatingSucc u32Max (state.activeTokens[nodeId]?.getD 0))
    { state with activeTokens := tokens, lifecycle := firstActive tokens nodeId }
  | .serviceTaskCompleted nodeId outputs _ =>
    let tokens := releaseTokens state.activeTokens nodeId 1
    { state with
      vars := state.vars.insertMany outputs.toList
      activeTokens := tokens
      lifecycle := firstActive tokens nodeId }
  | .scriptTaskCompleted nodeId _ =>
    let tokens := releaseTokens state.activeTokens nodeId 1
    { state with activeTokens := tokens, lifecycle := firstActive tokens nodeId }
  | .userTaskCompleted nodeId decision resultVariable _ =>
    let tokens := releaseTokens state.activeTokens nodeId 1
    { state with
      vars := state.vars.insert resultVariable (.string decision)
      activeTokens := tokens
      lifecycle := firstActive tokens nodeId }
  | .userTaskCancelled _ _ _ => state
  | .decisionTaskEvaluated _ _ outputs _ => { state with vars := state.vars.insertMany outputs.toList }
  | .gatewaySplitActivated _ joinGatewayId selectedTargets _ =>
    { state with
      pendingGatewayJoins :=
        state.pendingGatewayJoins.insert joinGatewayId ⟨min selectedTargets.length u32Max, 0⟩ }
  | .gatewayTokenArrived gatewayId _ =>
    { state with
      pendingGatewayJoins := adjust state.pendingGatewayJoins gatewayId fun join =>
        { join with arrivedTokens := saturatingSucc u32Max join.arrivedTokens }
      lifecycle := .active gatewayId }
  | .gatewayJoined gatewayId _ =>
    { state with
      pendingGatewayJoins := state.pendingGatewayJoins.erase gatewayId
      lifecycle := .active gatewayId }
  | .boundaryEventArmed boundaryEventId attachedNodeId targetNodeId cancelActivity trigger occurredAt =>
    { state with
      activeBoundarySubscriptions := state.activeBoundarySubscriptions.insert boundaryEventId
        ⟨attachedNodeId, targetNodeId, cancelActivity, trigger, occurredAt⟩ }
  | .boundaryEventsDisarmed _ boundaryEventIds _ =>
    { state with
      activeBoundarySubscriptions :=
        boundaryEventIds.foldl (fun m id => m.erase id) state.activeBoundarySubscriptions }
  | .multiInstanceStarted nodeId taskType mode totalInstances maxParallelism itemVariable items _ =>
    { state with
      activeMultiInstances := state.activeMultiInstances.insert nodeId
        ⟨taskType, mode, totalInstances, 0, maxParallelism, itemVariable, items, ∅, ∅⟩
      lifecycle := .active nodeId }
  | .multiInstanceIterationActivated nodeId _ iteration _ _ =>
    { state with
      activeMultiInstances := adjust state.activeMultiInstances nodeId fun active =>
        { active with
          activeIterations := active.activeIterations.insert iteration
          nextIteration := max active.nextIteration (saturatingSucc u32Max iteration) }
      lifecycle := .active nodeId }
  | .multiInstanceIterationCompleted nodeId iteration _ =>
    { state with
      activeMultiInstances := adjust state.activeMultiInstances nodeId fun active =>
        { active with
          activeIterations := active.activeIterations.erase iteration
          completedIterations := active.completedIterations.insert iteration }
      lifecycle := .active nodeId }
  | .multiInstanceCompleted nodeId _ _ _ =>
    { state with
      activeMultiInstances := state.activeMultiInstances.erase nodeId
      lifecycle := .active nodeId }
  | .boundaryEventTriggered _ attachedNodeId targetNodeId cancelActivity _ cancelledTaskTokens _ =>
    if cancelActivity then
      { state with
        activeMultiInstances := state.activeMultiInstances.erase attachedNodeId
        activeBoundarySubscriptions := state.activeBoundarySubscriptions.filter
          fun _ subscription => subscription.attachedNodeId != attachedNodeId
        activeTokens := releaseTokens state.activeTokens attachedNodeId cancelledTaskTokens
        lifecycle := .active targetNodeId }
    else { state with lifecycle := .active targetNodeId }
  | .scopeEntered scopeInstanceId scopeNodeId startNodeId parentScopeInstanceId invocation _ =>
    { state with
      scopeInvocationCounts := state.scopeInvocationCounts.insert scopeNodeId
        (max (state.scopeInvocationCounts[scopeNodeId]?.getD 0) invocation)
      activeScopes := state.activeScopes.insert scopeInstanceId
        ⟨scopeNodeId, startNodeId, parentScopeInstanceId, invocation⟩
      lifecycle := .active startNodeId }
  | .scopeCompleted scopeInstanceId scopeNodeId _ _ =>
    { state with
      activeScopes := state.activeScopes.erase scopeInstanceId
      lifecycle := .active scopeNodeId }
  | .workflowBranchCompleted endNodeId _ => { state with lifecycle := .active endNodeId }
  | .workflowCompleted _ =>
    { state with
      activeTokens := ∅
      pendingGatewayJoins := ∅
      activeMultiInstances := ∅
      activeBoundarySubscriptions := ∅
      activeScopes := ∅
      lifecycle := .completed }
  | .workflowTerminatedForCompliance _ _ _ _ _ =>
    { state with
      activeTokens := ∅
      pendingGatewayJoins := ∅
      activeMultiInstances := ∅
      activeBoundarySubscriptions := ∅
      activeScopes := ∅
      activeCases := ∅
      lifecycle := .terminatedForCompliance }

def evolve (state : InstanceState) (event : DomainEvent) : InstanceState :=
  { applyEvent state event with sequence := saturatingSucc u64Max state.sequence }

def rehydrate (snapshot : Option InstanceState) (events : List DomainEvent) : InstanceState :=
  events.foldl evolve (snapshot.getD {})

end BpmpPlatform
