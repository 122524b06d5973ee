import BpmpPlatform.Core.Evolve

/-! # Activation of nodes

The work-list of `activation_events`. The routing state, the variables and the work-list are passed
explicitly; each part returns the events it pushes.
-/
namespace BpmpPlatform
open Std Outcome

def expressionVariable (expression : String) : String :=
  let trimmed := Text.trimChars expression.toList
  let inner := ((Text.stripLeading "$\x7b".toList trimmed).bind (Text.stripTrailing "\x7d".toList)).getD trimmed
  String.ofList (Text.trimChars inner)

def resolveCardinality (nodeId : NodeId) (expression : String) (vars : Variables) :
    Except DomainError Nat := do
  let fromVariable : Option Int64 := match vars[expressionVariable expression]? with
    | some (.integer value) => some value
    | _ => none
  let value ← okOr (.invalidMultiInstanceCardinality nodeId expression)
    ((Text.parseI64 (Text.trim expression)).or fromVariable)
  ensure (decide (0 ≤ value.toInt) && decide (value.toInt ≤ u32Max))
    (.invalidMultiInstanceCardinality nodeId expression)
  return value.toInt.toNat

def collectionItems (nodeId : NodeId) (spec : MultiInstanceDefinition) (vars : Variables) :
    Except DomainError (List WorkflowValue) :=
  match spec.collectionExpression with
  | none => .ok []
  | some expression =>
    match vars[expressionVariable expression]? with
    | some (.list items) =>
      if items.all WorkflowValue.isScalar then .ok items
      else .error (.multiInstanceCollectionTypeMismatch nodeId "list")
    | some value => .error (.multiInstanceCollectionTypeMismatch nodeId value.typeName)
    | none => .error (.multiInstanceInputMissing nodeId expression)

def materializeMultiInstance (nodeId : NodeId) (spec : MultiInstanceDefinition) (vars : Variables) :
    Except DomainError (Nat × List WorkflowValue) := do
  let items ← collectionItems nodeId spec vars
  ensure (decide (items.length ≤ u32Max)) (.tokenCountOverflow nodeId)
  match spec.cardinalityExpression with
  | none => return (items.length, items)
  | some expression =>
    let cardinality ← resolveCardinality nodeId expression vars
    ensure (!(spec.collectionExpression.isSome && cardinality != items.length))
      (.multiInstanceCardinalityMismatch nodeId items.length cardinality)
    return (cardinality, items)

def activateIterations (nodeId : NodeId) (occurredAt : Nat) :
    Nat → RoutingState → Except DomainError (List DomainEvent × RoutingState)
  | 0, r => .ok ([], r)
  | n + 1, r => do
    let (r, iteration, taskType, item) ← r.activateNextMultiInstance nodeId
    let (events, r) ← activateIterations nodeId occurredAt n r
    return (.multiInstanceIterationActivated nodeId taskType iteration item occurredAt :: events, r)

def effectiveParallelism (engine : EnginePolicy) (spec : MultiInstanceDefinition) (total : Nat) : Nat :=
  min (match spec.mode with
    | .sequential => 1
    | .parallel => spec.maxParallelism.getD engine.defaultMultiInstanceParallelism) (max total 1)

/-- The Boolean tells that the activity had no instances and is already completed. -/
def startMultiInstance (nodeId : NodeId) (taskType : TaskType) (spec : MultiInstanceDefinition)
    (vars : Variables) (engine : EnginePolicy) (occurredAt : Nat) (r : RoutingState) :
    Except DomainError (List DomainEvent × RoutingState × Bool) := do
  let (total, items) ← materializeMultiInstance nodeId spec vars
  ensure (decide (total ≤ engine.maxMultiInstanceCardinality))
    (.multiInstanceCardinalityExceeded nodeId total engine.maxMultiInstanceCardinality)
  let parallelism := effectiveParallelism engine spec total
  let r ← r.startMultiInstance nodeId
    ⟨taskType, spec.mode, total, 0, parallelism, spec.itemVariable, items, ∅, ∅⟩
  let started : DomainEvent := .multiInstanceStarted nodeId taskType spec.mode total parallelism
    spec.itemVariable items occurredAt
  if total = 0 then
    return ([started, .multiInstanceCompleted nodeId false [] occurredAt], r.finishMultiInstance nodeId, true)
  else
    let (events, r) ← activateIterations nodeId occurredAt parallelism r
    return (started :: events, r, false)

def subscriptionOf (nodeId : NodeId) (boundary : BoundaryEventDefinition) (occurredAt : Nat) :
    ActiveBoundarySubscription :=
  ⟨nodeId, boundary.target, boundary.cancelActivity, boundary.trigger, occurredAt⟩

/-- The loop of `arm_boundary_events` over the boundary events of a node. -/
def armAll (nodeId : NodeId) (occurredAt : Nat) :
    List BoundaryEventDefinition → RoutingState → Except DomainError (List DomainEvent × RoutingState)
  | [], r => .ok ([], r)
  | boundary :: rest, r => do
    let r ← r.armBoundary boundary.id (subscriptionOf nodeId boundary occurredAt)
    let (events, r) ← armAll nodeId occurredAt rest r
    return (.boundaryEventArmed boundary.id nodeId boundary.target boundary.cancelActivity
      boundary.trigger occurredAt :: events, r)

def armBoundaryEvents (d : WorkflowDefinition) (nodeId : NodeId) (occurredAt : Nat) (r : RoutingState) :
    Except DomainError (List DomainEvent × RoutingState) :=
  armAll nodeId occurredAt (d.boundaryEvents nodeId) r

def disarmBoundaryEvents (nodeId : NodeId) (occurredAt : Nat) (r : RoutingState) :
    List DomainEvent × RoutingState :=
  (if (r.armedFor nodeId).isEmpty then []
    else [.boundaryEventsDisarmed nodeId (r.armedFor nodeId) occurredAt], r.disarmBoundaries nodeId)

/-- The local state of `activation_events`; the head of `pending` is the top of its stack. -/
structure Progress where
  pending : List (NodeId × Option ScopeInstanceId)
  vars : Variables
  routing : RoutingState

theorem call_nonBlank (s : String) : Text.isBlank ("call:" ++ s) = false := by
  simp only [Text.isBlank, String.toList_append, List.all_append]
  rfl

def callTaskType (calledWorkflow : WorkflowType) (calledVersion : Option WorkflowVersion) : TaskType :=
  match calledVersion with
  | some version => ⟨"call:" ++ (calledWorkflow.value ++ "@" ++ version.value), call_nonBlank _⟩
  | none => ⟨"call:" ++ calledWorkflow.value, call_nonBlank _⟩

section Step
variable (d : WorkflowDefinition) (engine : EnginePolicy) (occurredAt : Nat)

/-- Service, user, script and call activities: a multi-instance start or a task token, and the
boundary events of the node. -/
def activateActivity (current : NodeId) (scope : Option ScopeInstanceId) (taskType : TaskType)
    (next : NodeId) (activated : DomainEvent) (p : Progress) :
    Except DomainError (List DomainEvent × Progress) :=
  match d.multiInstance current with
  | some spec => do
    let (events, r, completed) ← startMultiInstance current taskType spec p.vars engine occurredAt p.routing
    if completed then
      return (events, { p with pending := (next, scope) :: p.pending, routing := r })
    else
      let (armed, r) ← armBoundaryEvents d current occurredAt r
      return (events ++ armed, { p with routing := r })
  | none => do
    let r ← p.routing.activateTask current
    let (armed, r) ← armBoundaryEvents d current occurredAt r
    return (activated :: armed, { p with routing := r })

def evaluateDecisionTask (current : NodeId) (scope : Option ScopeInstanceId) (tableId : String)
    (next : NodeId) (p : Progress) : Except DomainError (List DomainEvent × Progress) := do
  let table ← okOr (.missingDecisionTable tableId) d.decisionTables[tableId]?
  let outputs ← evaluateDecisionTable table p.vars
  return ([.decisionTaskEvaluated current tableId outputs occurredAt],
    { p with pending := (next, scope) :: p.pending, vars := p.vars.insertMany outputs.toList })

def reachEnd (current : NodeId) (scope : Option ScopeInstanceId) (p : Progress) :
    Except DomainError (List DomainEvent × Progress) :=
  match d.ownerScopeId current with
  | some owner => do
    let scopeInstanceId ← okOr (.scopeContextMissing current) scope
    let (r, completedScope) ← p.routing.completeScope scopeInstanceId owner
    let (disarmed, r) := disarmBoundaryEvents owner occurredAt r
    let exit ← d.subProcessExit owner
    return (.scopeCompleted scopeInstanceId owner current occurredAt :: disarmed,
      { p with pending := (exit, completedScope.parentScopeInstanceId) :: p.pending, routing := r })
  | none =>
    if p.routing.hasOutstandingWork then .ok ([.workflowBranchCompleted current occurredAt], p)
    else .ok ([.workflowCompleted occurredAt], p)

def openSplit (current join : NodeId) (scope : Option ScopeInstanceId) (selected : List NodeId)
    (p : Progress) : Except DomainError (List DomainEvent × Progress) := do
  let r ← p.routing.openJoin join selected.length
  return ([.gatewaySplitActivated current join selected occurredAt],
    { p with pending := selected.map (fun target => (target, scope)) ++ p.pending, routing := r })

def arriveAtJoin (current : NodeId) (scope : Option ScopeInstanceId) (next : NodeId) (p : Progress) :
    Except DomainError (List DomainEvent × Progress) := do
  let (r, complete) ← p.routing.arrive current
  if complete then
    return ([.gatewayTokenArrived current occurredAt, .gatewayJoined current occurredAt],
      { p with pending := (next, scope) :: p.pending, routing := r.closeJoin current })
  else
    return ([.gatewayTokenArrived current occurredAt], { p with routing := r })

def enterSubProcess (current start : NodeId) (scope : Option ScopeInstanceId) (p : Progress) :
    Except DomainError (List DomainEvent × Progress) := do
  let (r, scopeInstanceId, invocation) ← p.routing.enterScope current start scope
  let (armed, r) ← armBoundaryEvents d current occurredAt r
  return (.scopeEntered scopeInstanceId current start scope invocation occurredAt :: armed,
    { p with pending := (start, some scopeInstanceId) :: p.pending, routing := r })

/-- One pass through the loop body: `current` has been popped, `p.pending` is what remains. -/
def activateNode (current : NodeId) (scope : Option ScopeInstanceId) (p : Progress) :
    Except DomainError (List DomainEvent × Progress) := do
  match ← d.node current with
  | .serviceTask taskType next =>
    activateActivity d engine occurredAt current scope taskType next
      (.serviceTaskActivated current taskType occurredAt) p
  | .userTask taskType assignmentPolicyRef formKey _ next =>
    activateActivity d engine occurredAt current scope taskType next
      (.userTaskActivated current taskType assignmentPolicyRef formKey occurredAt) p
  | .scriptTask taskType implementationRef implementationVersion next =>
    activateActivity d engine occurredAt current scope taskType next
      (.scriptTaskActivated current taskType implementationRef implementationVersion occurredAt) p
  | .callActivity calledWorkflow calledVersion next =>
    activateActivity d engine occurredAt current scope (callTaskType calledWorkflow calledVersion) next
      (.serviceTaskActivated current (callTaskType calledWorkflow calledVersion) occurredAt) p
  | .decisionTask tableId next => evaluateDecisionTask d occurredAt current scope tableId next p
  | .finish => reachEnd d occurredAt current scope p
  | .start next =>
    ensure ((d.ownerScopeId current).isSome && scope.isSome) (.transitionToStartNode current)
    return ([], { p with pending := (next, scope) :: p.pending })
  | .exclusiveGateway transitions _ =>
    let target ← selectTransition current transitions p.vars
    return ([], { p with pending := (target, scope) :: p.pending })
  | .parallelSplit targets join => openSplit occurredAt current join scope targets p
  | .inclusiveSplit transitions _ join =>
    openSplit occurredAt current join scope (← selectTransitions current transitions p.vars) p
  | .parallelJoin _ next | .inclusiveJoin _ next => arriveAtJoin occurredAt current scope next p
  | .subProcess start _ _ => enterSubProcess d occurredAt current start scope p

/-- The loop: `remaining` is what is left of `max_steps`. -/
def activationLoop (origin : NodeId) : Nat → Progress → Except DomainError (List DomainEvent × RoutingState)
  | remaining, p =>
    match p.pending with
    | [] => .ok ([], p.routing)
    | (current, scope) :: rest =>
      match remaining with
      | 0 => .error (.automaticTransitionLimitExceeded origin)
      | remaining + 1 => do
        let (events, p) ← activateNode d engine occurredAt current scope { p with pending := rest }
        let (later, r) ← activationLoop origin remaining p
        return (events ++ later, r)

def maxSteps : Nat := max (d.nodes.size * 4) 1

def activationEvents (nodeId : NodeId) (scope : Option ScopeInstanceId) (vars : Variables)
    (r : RoutingState) : Except DomainError (List DomainEvent × RoutingState) :=
  activationLoop d engine occurredAt nodeId (maxSteps d) ⟨[(nodeId, scope)], vars, r⟩

end Step

end BpmpPlatform
