import BpmpPlatform.Runtime.SubscriptionRuns

/-! # Where a decision continues

A command that moves a token releases something first and then runs the work-list from one node.
-/
namespace BpmpPlatform
open Std Outcome

section Continues
variable (d : WorkflowDefinition) (s : InstanceState)

inductive Continues : Command → NodeId → Option ScopeInstanceId → RoutingState → Prop
  | start {tenantId occurredAt next} (hl : s.lifecycle = .initial)
      (hn : d.nodes[d.startNode]? = some (.start next)) :
      Continues (.startWorkflow tenantId occurredAt) next none s.routing
  | task {command nodeId node next completed occurredAt r₁ scope} (hn : d.nodes[nodeId]? = some node)
      (hact : node.activityNext = some next) (he : TaskCompletion nodeId node occurredAt command completed)
      (hc : s.routing.completeTask nodeId = .ok r₁) (hs : d.activeScopeForNode s nodeId = .ok scope) :
      Continues command next scope (r₁.disarmBoundaries nodeId)
  | iteration {nodeId node next iteration occurredAt r₁ completed scope} (hn : d.nodes[nodeId]? = some node)
      (hact : node.activityNext = some next)
      (hc : s.routing.completeMultiInstanceIteration nodeId iteration = .ok (r₁, completed))
      (hs : d.activeScopeForNode s nodeId = .ok scope) :
      Continues (.completeMultiInstanceIteration nodeId iteration occurredAt) next scope
        ((r₁.finishMultiInstance nodeId).disarmBoundaries nodeId)
  | trigger {boundaryEventId occurredAt subscription owner boundary r₁ scope}
      (hsub : s.activeBoundarySubscriptions[boundaryEventId]? = some subscription)
      (hb : d.boundaryEvent boundaryEventId = some (owner, boundary))
      (ho : OwnerActive s subscription.attachedNodeId)
      (hi : boundary.cancelActivity = true → scopeInstances s.activeScopes subscription.attachedNodeId = [])
      (hr₁ : interruptActivity s boundary.cancelActivity subscription.attachedNodeId = .ok r₁)
      (hs : d.activeScopeForNode s subscription.attachedNodeId = .ok scope) :
      Continues (.triggerBoundaryEvent boundaryEventId occurredAt) boundary.target scope r₁

end Continues

def DomainError.blamesFlow : DomainError → Bool
  | .joinAlreadyPending _ | .unexpectedGatewayJoin _ | .scopeNotActive _ | .scopeInstanceNotActive _ => true
  | _ => false

theorem blamesFlow_of_blamesRouting {e : DomainError} (h : e.blamesRouting = false) : e.blamesFlow = false := by
  cases e <;> first | rfl | cases h

section Cases
variable {P : DomainError → Prop} (hP : ∀ e : DomainError, e.blamesRouting = false → P e) {caseId : CaseId}
  {vars : Variables} {occurredAt : Nat}
include hP

variable {satisfied : ExtTreeSet SentryId} {projected : PlanItems} {d : WorkflowDefinition} {s : InstanceState}

theorem satisfySentries_failsWith (sentries : List CaseSentryDefinition) :
    FailsWith P (satisfySentries caseId vars occurredAt satisfied sentries) := by
  induction sentries generalizing satisfied with
  | nil => exact .ok _
  | cons sentry rest ih =>
    unfold satisfySentries
    split
    · exact ih
    · refine .bind (BooleanExpression.evaluate_failsWith hP _) fun holds _ => ?_
      cases holds with
      | true => exact .bind ih fun _ _ => .pure _
      | false => exact ih

theorem transitionStages_failsWith (stages : List CaseStageDefinition) :
    FailsWith P (transitionStages caseId satisfied occurredAt projected stages) := by
  induction stages generalizing projected with
  | nil => exact .ok _
  | cons stage rest ih => exact .get (hP _ rfl) fun _ _ => .bind ih fun _ _ => .pure _

theorem transitionMilestones_failsWith (milestones : List CaseMilestoneDefinition) :
    FailsWith P (transitionMilestones caseId satisfied occurredAt projected milestones) := by
  induction milestones generalizing projected with
  | nil => exact .ok _
  | cons milestone rest ih => exact .get (hP _ rfl) fun _ _ => .bind ih fun _ _ => .pure _

theorem activateCase_failsWith {modelId : CaseModelId} : FailsWith P (activateCase d s caseId modelId occurredAt) :=
  .check (hP _ rfl) fun _ => .get (hP _ rfl) fun _ _ => .pure _

theorem evaluateCaseSentries_failsWith : FailsWith P (evaluateCaseSentries d s caseId vars occurredAt) :=
  .get (hP _ rfl) fun _ _ => .check (hP _ rfl) fun _ =>
    .get (hP _ rfl) fun _ _ => .bind (satisfySentries_failsWith hP _) fun _ _ =>
      .check (hP _ rfl) fun _ => .bind (transitionStages_failsWith hP _) fun _ _ =>
        .bind (transitionMilestones_failsWith hP _) fun _ _ => .pure _

end Cases

section Decisions
variable {P : DomainError → Prop} {d : WorkflowDefinition} {s : InstanceState} {context : DecisionContext}
  {command : Command} (hP : ∀ e : DomainError, e.blamesFlow = false → P e) {nodeId : NodeId} {completed : Bool}
include hP

theorem of_blamesRouting (e : DomainError) (h : e.blamesRouting = false) : P e := hP e (blamesFlow_of_blamesRouting h)

theorem countValue_failsWith {count : Nat} : FailsWith P (countValue nodeId count) := by
  unfold countValue
  split
  · exact .ok _
  · exact .error (hP _ rfl)

theorem conditionAfterIteration_failsWith {spec : MultiInstanceDefinition} {r : RoutingState} :
    FailsWith P (conditionAfterIteration s context nodeId spec r completed) := by
  have hR := of_blamesRouting hP
  unfold conditionAfterIteration evaluateMultiInstanceCompletion
  split
  · exact .ok _
  · split
    · exact .ok _
    · exact .get (hP _ rfl) fun _ _ => .bind (countValue_failsWith hP) fun _ _ =>
        .bind (countValue_failsWith hP) fun _ _ => BooleanExpression.evaluate_failsWith hR _

section Runs
variable (hscope : ∀ n, NodeActive s.routing n → FailsWith P (d.activeScopeForNode s n))
  (hrun : ∀ m scope vars r occurredAt, Continues d s command m scope r →
    FailsWith P (activationEvents d context.engine occurredAt m scope vars r))
include hscope hrun

variable {nodeId next : NodeId} {occurredAt iteration : Nat} {node : Node}

theorem continueAfterTask_failsWith {completed : DomainEvent} {vars : Variables} (hn : d.nodes[nodeId]? = some node)
    (hact : node.activityNext = some next) (he : TaskCompletion nodeId node occurredAt command completed) :
    FailsWith P (continueAfterTask d s context nodeId next completed vars occurredAt) := by
  have hR := of_blamesRouting hP
  refine .bind (completeTask_failsWith hR) fun r₁ hc => ?_
  have ha : NodeActive s.routing nodeId := by
    obtain ⟨count,hcnt,_⟩ := completeTask_eq_ok.mp hc
    exact .inl (by rw [hcnt]; simp)
  exact .bind (hscope nodeId ha) fun scope hs =>
    .bind (hrun _ _ _ _ _ (.task hn hact he hc hs)) fun _ _ => .pure _

theorem completeMultiInstanceIteration_failsWith
    (hcm : command = .completeMultiInstanceIteration nodeId iteration occurredAt) :
    FailsWith P (completeMultiInstanceIteration d s context nodeId iteration occurredAt) := by
  have hR := of_blamesRouting hP
  refine .bind (node_failsWith hR) fun node hn => .get (hP _ rfl) fun next hact => ?_
  refine .get (hP _ rfl) fun active ha => .check (hP _ rfl) fun _ => ?_
  refine .bind ?_ fun ⟨r₁,completed⟩ hc => .get (hP _ rfl) fun spec _ => ?_
  · exact .get (hP _ rfl) fun _ _ => .check (hP _ rfl) fun _ => .pure _
  refine .bind (conditionAfterIteration_failsWith hP) fun condition _ => .bind ?_ fun _ _ => .pure _
  unfold afterIteration
  split
  · have hac : NodeActive s.routing nodeId := .inr (.inl (ne_of_eq_of_ne ha (Option.some_ne_none _)))
    subst hcm
    exact .bind (hscope nodeId hac) fun scope hs =>
      .bind (hrun _ _ _ _ _ (.iteration (node_eq_ok.mp hn) hact hc hs)) fun _ _ => .pure _
  · refine .get (hP _ rfl) fun active _ => ?_
    split
    · exact .bind (activateNextMultiInstance_failsWith hR) fun _ _ => .pure _
    · exact .pure _

theorem triggerBoundaryEvent_failsWith {boundaryEventId : NodeId}
    (hpos : TokensPositive s.routing) (hcm : command = .triggerBoundaryEvent boundaryEventId occurredAt) :
    FailsWith P (triggerBoundaryEvent d s context boundaryEventId occurredAt) := by
  have hR := of_blamesRouting hP
  subst hcm
  refine .get (hP _ rfl) fun sub hsub => .get (hP _ rfl) fun ⟨owner,boundary⟩ hb => ?_
  refine .check (hP _ rfl) fun _ => .check (hP _ rfl) fun ho => ?_
  refine .check (hP _ rfl) fun hi => .bind ?_ fun _ _ => ?_
  · unfold cancellationEvents
    split
    · exact .bind (node_failsWith hR) fun _ _ => .pure _
    · exact .ok _
  refine .bind (interruptActivity_failsWith hR) fun r₁ hr₁ => ?_
  have how := ownerActive_of_check ho
  have hss : boundary.cancelActivity = true → scopeInstances s.activeScopes sub.attachedNodeId = [] := by
    intro hca
    have hor : boundary.cancelActivity = false ∨ scopeInstances s.activeScopes sub.attachedNodeId = [] := by
      simpa using hi
    exact hor.resolve_left (by rw [hca]; exact Bool.noConfusion)
  exact .bind (hscope _ ((ownerActive_iff hpos _).mp how)) fun scope hs =>
    .bind (hrun _ _ _ _ _ (.trigger hsub hb how hss hr₁ hs))
      fun _ _ => .pure _

/-- A decision blames joins and scopes only as the resolution of a scope or its run of the work-list does. -/
theorem decideEvents_failsWith (hpos : TokensPositive s.routing) : FailsWith P (decideEvents d s command context) := by
  have hR := of_blamesRouting hP
  have hun : FailsWith P (decideUnbounded d s command context) := by
    unfold decideUnbounded
    split
    · exact .bind (activateCase_failsWith hR) fun _ _ => .pure _
    · exact .bind (evaluateCaseSentries_failsWith hR) fun _ _ => .pure _
    · rename_i hl
      refine .check (hP _ rfl) fun _ => .bind (node_failsWith hR) fun node hn => ?_
      split
      · exact .bind (hrun _ _ _ _ _ (.start hl (node_eq_ok.mp hn))) fun _ _ => .pure _
      · exact .throw (hP _ rfl)
    · exact .error (hP _ rfl)
    · split
      · refine .bind (node_failsWith hR) fun node hn => ?_
        split
        · exact continueAfterTask_failsWith hP hscope hrun (node_eq_ok.mp hn) rfl .service
        · exact continueAfterTask_failsWith hP hscope hrun (node_eq_ok.mp hn) rfl .service
        · exact .throw (hP _ rfl)
      · exact .error (hP _ rfl)
    · split
      · refine .bind (node_failsWith hR) fun node hn => ?_
        split
        · exact .check (hP _ rfl) fun _ =>
            continueAfterTask_failsWith hP hscope hrun (node_eq_ok.mp hn) rfl (.user rfl)
        · exact .throw (hP _ rfl)
      · exact .error (hP _ rfl)
    · split
      · refine .bind (node_failsWith hR) fun node hn => ?_
        split
        · exact continueAfterTask_failsWith hP hscope hrun (node_eq_ok.mp hn) rfl .script
        · exact .throw (hP _ rfl)
      · exact .error (hP _ rfl)
    · exact completeMultiInstanceIteration_failsWith hP hscope hrun rfl
    · exact triggerBoundaryEvent_failsWith hP hscope hrun hpos rfl
    all_goals exact .error (hP _ rfl)
  exact FailsWith.map (.bind hun fun _ _ => .check (hP _ rfl) fun _ => .pure _)

end Runs

end Decisions

end BpmpPlatform
