import BpmpPlatform.Core.Cases

/-! # Decisions

`decide` with the routing state it holds when it returns, so that the events it emits can be compared
with the state it computed.
-/
namespace BpmpPlatform
open Std Outcome

namespace WorkflowDefinition

def activeScopeForNode (d : WorkflowDefinition) (state : InstanceState) (nodeId : NodeId) :
    Except DomainError (Option ScopeInstanceId) :=
  match d.ownerScopeId nodeId with
  | none => .ok none
  | some owner =>
    match scopeInstances state.activeScopes owner with
    | [] => .error (.scopeNotActive owner)
    | [found] => .ok (some found)
    | _ :: _ :: _ => .error (.ambiguousActiveScope owner)

end WorkflowDefinition

abbrev Decision := List DomainEvent × RoutingState

section Commands
variable (d : WorkflowDefinition) (state : InstanceState) (context : DecisionContext)

def continueAfterTask (nodeId next : NodeId) (completed : DomainEvent) (vars : Variables)
    (occurredAt : Nat) : Except DomainError Decision := do
  let r ← state.routing.completeTask nodeId
  let (disarmed, r) := disarmBoundaryEvents nodeId occurredAt r
  let scope ← d.activeScopeForNode state nodeId
  let (events, r) ← activationEvents d context.engine occurredAt next scope vars r
  return (completed :: (disarmed ++ events), r)

def startWorkflow (tenantId : TenantId) (occurredAt : Nat) : Except DomainError Decision := do
  ensure (tenantId == d.tenantId) (.tenantMismatch d.tenantId tenantId)
  match ← d.node d.startNode with
  | .start next =>
    let (events, r) ← activationEvents d context.engine occurredAt next none
      (stateVariablesWithContext state context.vars) state.routing
    return (.workflowStarted tenantId d.workflowType d.workflowVersion d.startNode occurredAt :: events, r)
  | _ => throw (.invalidStartNode d.startNode)

def completeServiceTask (nodeId : NodeId) (outputs : Variables) (occurredAt : Nat) :
    Except DomainError Decision := do
  match ← d.node nodeId with
  | .serviceTask _ next | .callActivity _ _ next =>
    continueAfterTask d state context nodeId next (.serviceTaskCompleted nodeId outputs occurredAt)
      (stateVariablesWithContext state context.vars) occurredAt
  | _ => throw (.nodeIsNotServiceTask nodeId)

def completeUserTask (nodeId : NodeId) (decision : String) (occurredAt : Nat) :
    Except DomainError Decision := do
  match ← d.node nodeId with
  | .userTask _ _ _ resultVariable next =>
    ensure (!Text.isBlank decision) (.invalidUserTaskDecision nodeId)
    continueAfterTask d state context nodeId next
      (.userTaskCompleted nodeId decision resultVariable occurredAt)
      ((stateVariablesWithContext state context.vars).insert resultVariable (.string decision)) occurredAt
  | _ => throw (.nodeIsNotUserTask nodeId)

def completeScriptTask (nodeId : NodeId) (occurredAt : Nat) : Except DomainError Decision := do
  match ← d.node nodeId with
  | .scriptTask _ _ _ next =>
    continueAfterTask d state context nodeId next (.scriptTaskCompleted nodeId occurredAt)
      (stateVariablesWithContext state context.vars) occurredAt
  | _ => throw (.nodeIsNotScriptTask nodeId)

/-- `i64::try_from` on a collection length. -/
def countValue (nodeId : NodeId) (count : Nat) : Except DomainError Int64 :=
  if (count : Int) ≤ Int64.maxValue.toInt then .ok (.ofNat count) else .error (.tokenCountOverflow nodeId)

def evaluateMultiInstanceCompletion (nodeId : NodeId) (spec : MultiInstanceDefinition)
    (r : RoutingState) : Except DomainError Bool :=
  match spec.completionCondition with
  | none => .ok false
  | some condition => do
    let active ← okOr (.multiInstanceNotActive nodeId) r.activeMultiInstances[nodeId]?
    let running ← countValue nodeId active.activeIterations.size
    let finished ← countValue nodeId active.completedIterations.size
    condition.evaluate ((stateVariablesWithContext state context.vars).insertMany
      [("nrOfInstances", .integer (.ofNat active.totalInstances)), ("nrOfActiveInstances", .integer running),
        ("nrOfCompletedInstances", .integer finished), ("nrOfTerminatedInstances", .integer 0)])

def Node.activityNext : Node → Option NodeId
  | .serviceTask _ next | .userTask _ _ _ _ next | .scriptTask _ _ _ next | .callActivity _ _ next =>
    some next
  | _ => none

def finishActivity (nodeId next : NodeId) (conditionSatisfied : Bool) (occurredAt : Nat)
    (r : RoutingState) : Except DomainError Decision := do
  let cancelled := if conditionSatisfied then
      (r.activeMultiInstances[nodeId]?.map fun active => active.activeIterations.toList).getD []
    else []
  let (disarmed, r) := disarmBoundaryEvents nodeId occurredAt (r.finishMultiInstance nodeId)
  let scope ← d.activeScopeForNode state nodeId
  let (events, r) ← activationEvents d context.engine occurredAt next scope
    (stateVariablesWithContext state context.vars) r
  return (.multiInstanceCompleted nodeId conditionSatisfied cancelled occurredAt :: (disarmed ++ events), r)

def continueActivity (nodeId : NodeId) (occurredAt : Nat) (r : RoutingState) :
    Except DomainError Decision := do
  let active ← okOr (.multiInstanceNotActive nodeId) r.activeMultiInstances[nodeId]?
  if active.nextIteration < active.totalInstances then
    let (r, iteration, taskType, item) ← r.activateNextMultiInstance nodeId
    return ([.multiInstanceIterationActivated nodeId taskType iteration item occurredAt], r)
  else
    return ([], r)

/-- The completion condition is only evaluated while iterations remain. -/
def conditionAfterIteration (nodeId : NodeId) (spec : MultiInstanceDefinition) (r : RoutingState)
    (completed : Bool) : Except DomainError Bool :=
  if completed then .ok false else evaluateMultiInstanceCompletion state context nodeId spec r

def afterIteration (nodeId next : NodeId) (completed conditionSatisfied : Bool) (occurredAt : Nat)
    (r : RoutingState) : Except DomainError Decision :=
  if completed || conditionSatisfied then
    finishActivity d state context nodeId next conditionSatisfied occurredAt r
  else continueActivity nodeId occurredAt r

def completeMultiInstanceIteration (nodeId : NodeId) (iteration occurredAt : Nat) :
    Except DomainError Decision := do
  let next ← okOr (.nodeIsNotMultiInstanceActivity nodeId) (← d.node nodeId).activityNext
  let active ← okOr (.multiInstanceNotActive nodeId) state.activeMultiInstances[nodeId]?
  ensure (active.activeIterations.contains iteration) (.multiInstanceIterationNotActive nodeId iteration)
  let (r, completed) ← state.routing.completeMultiInstanceIteration nodeId iteration
  let spec ← okOr (.multiInstanceNotActive nodeId) (d.multiInstance nodeId)
  let conditionSatisfied ← conditionAfterIteration state context nodeId spec r completed
  let (events, r) ← afterIteration d state context nodeId next completed conditionSatisfied occurredAt r
  return (.multiInstanceIterationCompleted nodeId iteration occurredAt :: events, r)

def subscriptionMatches (boundary : BoundaryEventDefinition) (subscription : ActiveBoundarySubscription) :
    Bool :=
  boundary.target == subscription.targetNodeId && boundary.cancelActivity == subscription.cancelActivity &&
    boundary.trigger == subscription.trigger

def Node.isUserTask : Node → Bool
  | .userTask .. => true
  | _ => false

def cancellationEvents (boundary : BoundaryEventDefinition) (owner : NodeId) (occurredAt : Nat) :
    Except DomainError (List DomainEvent) :=
  if boundary.cancelActivity then do
    let node ← d.node owner
    return if node.isUserTask then
        [.userTaskCancelled owner ("boundary:" ++ boundary.id.value) occurredAt]
      else []
  else .ok []

def cancelledTaskTokens (cancelActivity : Bool) (owner : NodeId) : Nat :=
  if cancelActivity && state.activeTokens[owner]?.getD 0 != 0 then 1 else 0

def interruptActivity (cancelActivity : Bool) (owner : NodeId) : Except DomainError RoutingState :=
  if cancelActivity then
    state.routing.cancelActivity owner (cancelledTaskTokens state cancelActivity owner)
  else .ok state.routing

def triggerBoundaryEvent (boundaryEventId : NodeId) (occurredAt : Nat) : Except DomainError Decision := do
  let subscription ← okOr (.boundaryEventNotArmed boundaryEventId)
    state.activeBoundarySubscriptions[boundaryEventId]?
  let owner := subscription.attachedNodeId
  let (_, boundary) ← okOr (.unknownBoundaryEvent boundaryEventId) (d.boundaryEvent boundaryEventId)
  ensure (subscriptionMatches boundary subscription)
    (.boundarySubscriptionDefinitionMismatch boundaryEventId)
  let normalTokens := state.activeTokens[owner]?.getD 0
  let multiInstance := state.activeMultiInstances[owner]?
  let scopeActive := !(scopeInstances state.activeScopes owner).isEmpty
  ensure (normalTokens != 0 || multiInstance.isSome || scopeActive) (.boundaryOwnerNotActive owner)
  ensure (!(boundary.cancelActivity && scopeActive)) (.interruptingScopeBoundaryUnsupported owner)
  let cancelledIterations := if boundary.cancelActivity then
      (multiInstance.map fun active => active.activeIterations.toList).getD []
    else []
  let cancelled ← cancellationEvents d boundary owner occurredAt
  let r ← interruptActivity state boundary.cancelActivity owner
  let scope ← d.activeScopeForNode state owner
  let (events, r) ← activationEvents d context.engine occurredAt boundary.target scope
    (stateVariablesWithContext state context.vars) r
  return (.boundaryEventTriggered boundary.id owner boundary.target boundary.cancelActivity
    cancelledIterations (cancelledTaskTokens state boundary.cancelActivity owner) occurredAt ::
      (cancelled ++ events), r)

end Commands

def hasToken (state : InstanceState) (nodeId : NodeId) : Bool :=
  state.activeTokens[nodeId]?.getD 0 != 0

/-- The match of `decide` on the command and the lifecycle. -/
def decideUnbounded (d : WorkflowDefinition) (state : InstanceState) (command : Command)
    (context : DecisionContext) : Except DomainError Decision :=
  match command, state.lifecycle with
  | .activateCase caseId caseModelId occurredAt, _ => do
    return (← activateCase d state caseId caseModelId occurredAt, state.routing)
  | .evaluateCaseSentries caseId occurredAt, _ => do
    return (← evaluateCaseSentries d state caseId context.vars occurredAt, state.routing)
  | .startWorkflow tenantId occurredAt, .initial => startWorkflow d state context tenantId occurredAt
  | .startWorkflow _ _, _ => .error .alreadyStarted
  | .completeServiceTask nodeId outputs occurredAt, .active _ =>
    if hasToken state nodeId then completeServiceTask d state context nodeId outputs occurredAt
    else .error (.taskNotActive nodeId)
  | .completeUserTask nodeId decision occurredAt, .active _ =>
    if hasToken state nodeId then completeUserTask d state context nodeId decision occurredAt
    else .error (.taskNotActive nodeId)
  | .completeScriptTask nodeId occurredAt, .active _ =>
    if hasToken state nodeId then completeScriptTask d state context nodeId occurredAt
    else .error (.taskNotActive nodeId)
  | .completeMultiInstanceIteration nodeId iteration occurredAt, .active _ =>
    completeMultiInstanceIteration d state context nodeId iteration occurredAt
  | .triggerBoundaryEvent boundaryEventId occurredAt, .active _ =>
    triggerBoundaryEvent d state context boundaryEventId occurredAt
  | _, .initial => .error .notStarted
  | _, .completed => .error .alreadyCompleted
  | _, .terminatedForCompliance => .error .terminatedForCompliance

/-- `decide`, together with the routing state it has computed when it returns. -/
def decideRouting (d : WorkflowDefinition) (state : InstanceState) (command : Command)
    (context : DecisionContext) : Except DomainError Decision := do
  let (events, r) ← decideUnbounded d state command context
  ensure (decide (events.length ≤ u32Max) && decide (events.length ≤ context.engine.maxEventsPerDecision))
    (.decisionLimitExceeded (min events.length u32Max) context.engine.maxEventsPerDecision)
  return (events, r)

/-- `decide`. -/
def decideEvents (d : WorkflowDefinition) (state : InstanceState) (command : Command)
    (context : DecisionContext) : Except DomainError (List DomainEvent) :=
  Prod.fst <$> decideRouting d state command context

end BpmpPlatform
