import BpmpPlatform.Runtime.Steps

/-! # What a decision can do

One constructor for each way `decide` succeeds, with the routing state it ends with.
-/
namespace BpmpPlatform
open Std Outcome

section Decides
variable (d : WorkflowDefinition) (s : InstanceState) (context : DecisionContext)

/-- The outcome of completing one iteration of a multi-instance activity in routing state `r₁`. -/
inductive IterationOutcome (nodeId next : NodeId) (occurredAt : Nat) (r₁ : RoutingState) :
    List DomainEvent → RoutingState → Prop
  | finished {conditionSatisfied cancelled scope vars events r}
      (hs : d.activeScopeForNode s nodeId = .ok scope)
      (hr : Runs d context.engine occurredAt ⟨[(next, scope)], vars,
        (disarmBoundaryEvents nodeId occurredAt (r₁.finishMultiInstance nodeId)).2⟩ events r) :
      IterationOutcome nodeId next occurredAt r₁
        (.multiInstanceCompleted nodeId conditionSatisfied cancelled occurredAt ::
          ((disarmBoundaryEvents nodeId occurredAt (r₁.finishMultiInstance nodeId)).1 ++ events)) r
  | advanced {r iteration taskType item}
      (ha : r₁.activateNextMultiInstance nodeId = .ok (r, iteration, taskType, item)) :
      IterationOutcome nodeId next occurredAt r₁
        [.multiInstanceIterationActivated nodeId taskType iteration item occurredAt] r
  | waiting {active} (ha : r₁.activeMultiInstances[nodeId]? = some active) :
      IterationOutcome nodeId next occurredAt r₁ [] r₁

def OwnerActive (owner : NodeId) : Prop :=
  s.activeTokens[owner]?.getD 0 ≠ 0 ∨ (s.activeMultiInstances[owner]?).isSome = true ∨
    scopeInstances s.activeScopes owner ≠ []

def handler : Command → Except DomainError Decision
  | .activateCase caseId modelId occurredAt => (·, s.routing) <$> activateCase d s caseId modelId occurredAt
  | .evaluateCaseSentries caseId occurredAt => (·, s.routing) <$> evaluateCaseSentries d s caseId context.vars occurredAt
  | .startWorkflow tenantId occurredAt => startWorkflow d s context tenantId occurredAt
  | .completeServiceTask nodeId outputs occurredAt => completeServiceTask d s context nodeId outputs occurredAt
  | .completeUserTask nodeId decision occurredAt => completeUserTask d s context nodeId decision occurredAt
  | .completeScriptTask nodeId occurredAt => completeScriptTask d s context nodeId occurredAt
  | .completeMultiInstanceIteration nodeId iteration occurredAt =>
    completeMultiInstanceIteration d s context nodeId iteration occurredAt
  | .triggerBoundaryEvent boundaryEventId occurredAt => triggerBoundaryEvent d s context boundaryEventId occurredAt

inductive Decides : Command → List DomainEvent → RoutingState → Prop
  | activateCase {caseId modelId occurredAt events}
      (h : activateCase d s caseId modelId occurredAt = .ok events) :
      Decides (.activateCase caseId modelId occurredAt) events s.routing
  | evaluateCaseSentries {caseId occurredAt events}
      (h : evaluateCaseSentries d s caseId context.vars occurredAt = .ok events) :
      Decides (.evaluateCaseSentries caseId occurredAt) events s.routing
  | start {tenantId occurredAt next vars events r} (hl : s.lifecycle = .initial)
      (hn : d.nodes[d.startNode]? = some (.start next))
      (hr : Runs d context.engine occurredAt ⟨[(next, none)], vars, s.routing⟩ events r) :
      Decides (.startWorkflow tenantId occurredAt)
        (.workflowStarted tenantId d.workflowType d.workflowVersion d.startNode occurredAt :: events) r
  | task {command nodeId node next completed occurredAt r₁ scope vars events r}
      (hl : s.lifecycle.isActive = true) (hn : d.nodes[nodeId]? = some node)
      (hact : node.activityNext = some next) (he : TaskCompletion nodeId node occurredAt command completed)
      (hc : s.routing.completeTask nodeId = .ok r₁) (hs : d.activeScopeForNode s nodeId = .ok scope)
      (hr : Runs d context.engine occurredAt
        ⟨[(next, scope)], vars, (disarmBoundaryEvents nodeId occurredAt r₁).2⟩ events r) :
      Decides command (completed :: ((disarmBoundaryEvents nodeId occurredAt r₁).1 ++ events)) r
  | iteration {nodeId node next iteration occurredAt r₁ completed spec events r}
      (hl : s.lifecycle.isActive = true) (hn : d.nodes[nodeId]? = some node)
      (hact : node.activityNext = some next) (hmi : d.multiInstance nodeId = some spec)
      (hc : s.routing.completeMultiInstanceIteration nodeId iteration = .ok (r₁, completed))
      (ho : IterationOutcome d s context nodeId next occurredAt r₁ events r) :
      Decides (.completeMultiInstanceIteration nodeId iteration occurredAt)
        (.multiInstanceIterationCompleted nodeId iteration occurredAt :: events) r
  | trigger {boundaryEventId occurredAt subscription owner boundary cancelled iterations r₁ scope vars
        events r}
      (hl : s.lifecycle.isActive = true)
      (hsub : s.activeBoundarySubscriptions[boundaryEventId]? = some subscription)
      (hb : d.boundaryEvent boundaryEventId = some (owner, boundary))
      (hm : subscriptionMatches boundary subscription = true)
      (ho : OwnerActive s subscription.attachedNodeId)
      (hi : boundary.cancelActivity = true → scopeInstances s.activeScopes subscription.attachedNodeId = [])
      (hu : cancelled = [] ∨ ∃ reason, cancelled = [.userTaskCancelled subscription.attachedNodeId reason occurredAt])
      (hr₁ : interruptActivity s boundary.cancelActivity subscription.attachedNodeId = .ok r₁)
      (hs : d.activeScopeForNode s subscription.attachedNodeId = .ok scope)
      (hr : Runs d context.engine occurredAt ⟨[(boundary.target, scope)], vars, r₁⟩ events r) :
      Decides (.triggerBoundaryEvent boundaryEventId occurredAt)
        (.boundaryEventTriggered boundary.id subscription.attachedNodeId boundary.target
          boundary.cancelActivity iterations
          (cancelledTaskTokens s boundary.cancelActivity subscription.attachedNodeId) occurredAt ::
            (cancelled ++ events)) r

variable {d s context} {events : List DomainEvent} {r : RoutingState}
variable {occurredAt : Nat} {nodeId next owner : NodeId} {r₁ : RoutingState} {command : Command} {vars : Variables}

theorem activationEvents_runs {engine : EnginePolicy} {scope : Option ScopeInstanceId}
    (h : activationEvents d engine occurredAt nodeId scope vars r₁ = .ok (events, r)) :
    Runs d engine occurredAt ⟨[(nodeId, scope)], vars, r₁⟩ events r := activationLoop_runs h

theorem continueAfterTask_decides {node : Node} {completed : DomainEvent} (hl : s.lifecycle.isActive = true)
    (hn : d.nodes[nodeId]? = some node) (hact : node.activityNext = some next)
    (he : TaskCompletion nodeId node occurredAt command completed)
    (h : continueAfterTask d s context nodeId next completed vars occurredAt = .ok (events, r)) :
    Decides d s context command events r := by
  simp only [continueAfterTask, bind_eq_ok] at h
  obtain ⟨r₁,hc,scope,hs,⟨later,r₂⟩,hr,⟨⟩⟩ := h
  exact .task hl hn hact he hc hs (activationEvents_runs hr)

theorem continueActivity_outcome (h : continueActivity nodeId occurredAt r₁ = .ok (events, r)) :
    IterationOutcome d s context nodeId next occurredAt r₁ events r := by
  simp only [continueActivity, bind_eq_ok, okOr_eq_ok] at h
  obtain ⟨active,ha,h⟩ := h
  split at h
  · simp only [bind_eq_ok] at h
    obtain ⟨⟨r₂,iteration,taskType,item⟩,hn,⟨⟩⟩ := h
    exact .advanced hn
  · cases h
    exact .waiting ha

theorem completeMultiInstanceIteration_decides {iteration : Nat} (hl : s.lifecycle.isActive = true)
    (h : completeMultiInstanceIteration d s context nodeId iteration occurredAt = .ok (events, r)) :
    Decides d s context (.completeMultiInstanceIteration nodeId iteration occurredAt) events r := by
  simp only [completeMultiInstanceIteration, bind_eq_ok, node_eq_ok, okOr_eq_ok] at h
  obtain ⟨node,hn,next,hact,active,_,_,_,⟨r₁,completed⟩,hc,spec,hmi,condition,_,⟨later,r₂⟩,ho,⟨⟩⟩ := h
  refine .iteration hl hn hact hmi hc ?_
  unfold afterIteration at ho
  split at ho
  · simp only [finishActivity, bind_eq_ok] at ho
    obtain ⟨scope,hs,⟨later,r₂⟩,hr,⟨⟩⟩ := ho
    exact .finished hs (activationEvents_runs hr)
  · exact continueActivity_outcome ho

theorem ownerActive_of_check (h : (s.activeTokens[owner]?.getD 0 != 0 || (s.activeMultiInstances[owner]?).isSome ||
      !(scopeInstances s.activeScopes owner).isEmpty) = true) : OwnerActive s owner := by
  simp only [Bool.or_eq_true, bne_iff_ne, Bool.not_eq_true', List.isEmpty_eq_false_iff] at h
  rcases h with (h | h) | h
  · exact .inl h
  · exact .inr (.inl h)
  · exact .inr (.inr h)

theorem cancellationEvents_cases {boundary : BoundaryEventDefinition} {cancelled : List DomainEvent}
    (h : cancellationEvents d boundary owner occurredAt = .ok cancelled) :
    cancelled = [] ∨ ∃ reason, cancelled = [.userTaskCancelled owner reason occurredAt] := by
  unfold cancellationEvents at h
  split at h
  · simp only [bind_eq_ok] at h
    obtain ⟨node,_,⟨⟩⟩ := h
    split
    · exact .inr ⟨_,rfl⟩
    · exact .inl rfl
  · cases h; exact .inl rfl

theorem triggerBoundaryEvent_decides {boundaryEventId : NodeId} (hl : s.lifecycle.isActive = true)
    (h : triggerBoundaryEvent d s context boundaryEventId occurredAt = .ok (events, r)) :
    Decides d s context (.triggerBoundaryEvent boundaryEventId occurredAt) events r := by
  simp only [triggerBoundaryEvent, bind_eq_ok, okOr_eq_ok, ensure_eq_ok] at h
  obtain ⟨sub,hsub,⟨owner,boundary⟩,hb,_,hm,_,ho,_,hi,cancelled,hc,r₁,hr₁,scope,hs,⟨later,r₂⟩,hr,⟨⟩⟩ := h
  refine .trigger hl hsub hb hm (ownerActive_of_check ho) ?_ (cancellationEvents_cases hc) hr₁ hs
    (activationEvents_runs hr)
  intro hca
  have hor : boundary.cancelActivity = false ∨ scopeInstances s.activeScopes sub.attachedNodeId = [] := by
    simpa using hi
  exact hor.resolve_left (by rw [hca]; exact Bool.noConfusion)

theorem startWorkflow_decides {tenantId : TenantId} (hl : s.lifecycle = .initial)
    (h : startWorkflow d s context tenantId occurredAt = .ok (events, r)) :
    Decides d s context (.startWorkflow tenantId occurredAt) events r := by
  simp only [startWorkflow, bind_eq_ok, node_eq_ok] at h
  obtain ⟨_,_,node,hn,h⟩ := h
  cases node with
  | start =>
    simp only [bind_eq_ok] at h
    obtain ⟨⟨later,r₁⟩,hr,⟨⟩⟩ := h
    exact .start hl hn (activationEvents_runs hr)
  | _ => exact absurd h throw_ne_ok

section
variable (hl : s.lifecycle.isActive = true)
include hl

theorem completeServiceTask_decides {outputs : Variables}
    (h : completeServiceTask d s context nodeId outputs occurredAt = .ok (events, r)) :
    Decides d s context (.completeServiceTask nodeId outputs occurredAt) events r := by
  simp only [completeServiceTask, bind_eq_ok, node_eq_ok] at h
  obtain ⟨node,hn,h⟩ := h
  cases node with
  | serviceTask | callActivity => exact continueAfterTask_decides hl hn rfl .service h
  | _ => exact absurd h throw_ne_ok

theorem completeUserTask_decides {decision : String}
    (h : completeUserTask d s context nodeId decision occurredAt = .ok (events, r)) :
    Decides d s context (.completeUserTask nodeId decision occurredAt) events r := by
  simp only [completeUserTask, bind_eq_ok, node_eq_ok] at h
  obtain ⟨node,hn,h⟩ := h
  cases node with
  | userTask =>
    simp only [bind_eq_ok] at h
    obtain ⟨_,_,h⟩ := h
    exact continueAfterTask_decides hl hn rfl (.user rfl) h
  | _ => exact absurd h throw_ne_ok

theorem completeScriptTask_decides (h : completeScriptTask d s context nodeId occurredAt = .ok (events, r)) :
    Decides d s context (.completeScriptTask nodeId occurredAt) events r := by
  simp only [completeScriptTask, bind_eq_ok, node_eq_ok] at h
  obtain ⟨node,hn,h⟩ := h
  cases node with
  | scriptTask => exact continueAfterTask_decides hl hn rfl .script h
  | _ => exact absurd h throw_ne_ok

end

/-- A successful command other than a case command starts the workflow or finds it active. -/
theorem handler_of_decided {decision : Decision} (h : decideUnbounded d s command context = .ok decision) :
    handler d s context command = .ok decision ∧ match command with
      | .activateCase .. | .evaluateCaseSentries .. => True
      | .startWorkflow .. => s.lifecycle = .initial
      | _ => s.lifecycle.isActive = true := by
  cases hl : s.lifecycle with
  | active =>
    cases command <;> simp only [decideUnbounded, hl, reduceCtorEq] at h <;> try split at h
    all_goals first | exact ⟨h,rfl⟩ | exact ⟨h,trivial⟩ | cases h
  | _ => cases command <;> simp only [decideUnbounded, hl, reduceCtorEq] at h <;> first | exact ⟨h,rfl⟩ | exact ⟨h,trivial⟩

theorem decideUnbounded_decides
    (h : decideUnbounded d s command context = .ok (events, r)) : Decides d s context command events r := by
  obtain ⟨h,hl⟩ := handler_of_decided h
  cases command with
  | activateCase =>
    obtain ⟨_,ha,heq⟩ := map_eq_ok.mp h
    cases heq
    exact .activateCase ha
  | evaluateCaseSentries =>
    obtain ⟨_,ha,heq⟩ := map_eq_ok.mp h
    cases heq
    exact .evaluateCaseSentries ha
  | startWorkflow => exact startWorkflow_decides hl h
  | completeServiceTask => exact completeServiceTask_decides hl h
  | completeUserTask => exact completeUserTask_decides hl h
  | completeScriptTask => exact completeScriptTask_decides hl h
  | completeMultiInstanceIteration => exact completeMultiInstanceIteration_decides hl h
  | triggerBoundaryEvent => exact triggerBoundaryEvent_decides hl h

theorem handler_of_decideRouting (h : decideRouting d s command context = .ok (events, r)) :
    handler d s context command = .ok (events, r) := by
  simp only [decideRouting, bind_eq_ok] at h
  obtain ⟨⟨events',r'⟩,h,_,_,⟨⟩⟩ := h
  exact (handler_of_decided h).1

theorem decideRouting_decides
    (h : decideRouting d s command context = .ok (events, r)) : Decides d s context command events r := by
  simp only [decideRouting, bind_eq_ok] at h
  obtain ⟨⟨events',r'⟩,h,_,_,⟨⟩⟩ := h
  exact decideUnbounded_decides h

theorem decideEvents_eq_ok :
    decideEvents d s command context = .ok events ↔ ∃ r, decideRouting d s command context = .ok (events, r) := by
  simp only [decideEvents, map_eq_ok]
  constructor
  · rintro ⟨⟨events',r⟩,h,rfl⟩; exact ⟨r,h⟩
  · rintro ⟨r,h⟩; exact ⟨_,h,rfl⟩

end Decides

end BpmpPlatform
