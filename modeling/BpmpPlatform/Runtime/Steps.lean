import BpmpPlatform.Runtime.Composite

/-! # What a work-list step can do

One constructor for each way the loop body of `activation_events` succeeds, and the runs of the loop.
Every later invariant is a case analysis over these steps.
-/
namespace BpmpPlatform
open Std Outcome

def Node.joinPair : Node → Option (NodeId × NodeId)
  | .parallelJoin split next | .inclusiveJoin split next => some (split, next)
  | _ => none

inductive SplitSelects (current : NodeId) (vars : Variables) : Node → NodeId → List NodeId → Prop
  | parallel {targets join} : SplitSelects current vars (.parallelSplit targets join) join targets
  | inclusive {transitions coverage join selected}
      (h : selectTransitions current transitions vars = .ok selected) :
      SplitSelects current vars (.inclusiveSplit transitions coverage join) join selected

section Step
variable (d : WorkflowDefinition) (engine : EnginePolicy) (occurredAt : Nat)

/-- The successful passes through the loop body for a popped node; `p` holds the rest of the stack. -/
inductive Activates (current : NodeId) (scope : Option ScopeInstanceId) (p : Progress) :
    List DomainEvent → Progress → Prop
  | task {node next activated r₁ armed r₂} (hn : d.nodes[current]? = some node)
      (hact : node.activityNext = some next) (hmi : d.multiInstance current = none)
      (he : TaskActivation current activated) (ht : p.routing.activateTask current = .ok r₁)
      (ha : armBoundaryEvents d current occurredAt r₁ = .ok (armed, r₂)) :
      Activates current scope p (activated :: armed) { p with routing := r₂ }
  | multiInstance {node next taskType spec events r₁ armed r₂} (hn : d.nodes[current]? = some node)
      (hact : node.activityNext = some next) (hmi : d.multiInstance current = some spec)
      (hs : startMultiInstance current taskType spec p.vars engine occurredAt p.routing =
        .ok (events, r₁, false))
      (ha : armBoundaryEvents d current occurredAt r₁ = .ok (armed, r₂)) :
      Activates current scope p (events ++ armed) { p with routing := r₂ }
  | emptyMultiInstance {node next taskType spec events r₁} (hn : d.nodes[current]? = some node)
      (hact : node.activityNext = some next) (hmi : d.multiInstance current = some spec)
      (hs : startMultiInstance current taskType spec p.vars engine occurredAt p.routing =
        .ok (events, r₁, true)) :
      Activates current scope p events { p with pending := (next, scope) :: p.pending, routing := r₁ }
  | decision {tableId next table outputs} (hn : d.nodes[current]? = some (.decisionTask tableId next))
      (ht : d.decisionTables[tableId]? = some table)
      (ho : evaluateDecisionTable table p.vars = .ok outputs) :
      Activates current scope p [.decisionTaskEvaluated current tableId outputs occurredAt]
        { p with pending := (next, scope) :: p.pending, vars := p.vars.insertMany outputs.toList }
  | scopeEnd {owner scopeInstanceId r₁ completedScope exit} (hn : d.nodes[current]? = some .finish)
      (ho : d.ownerScopeId current = some owner) (hs : scope = some scopeInstanceId)
      (hc : p.routing.completeScope scopeInstanceId owner = .ok (r₁, completedScope))
      (hx : d.subProcessExit owner = .ok exit) :
      Activates current scope p
        (.scopeCompleted scopeInstanceId owner current occurredAt ::
          (disarmBoundaryEvents owner occurredAt r₁).1)
        { p with
          pending := (exit, completedScope.parentScopeInstanceId) :: p.pending
          routing := (disarmBoundaryEvents owner occurredAt r₁).2 }
  | branchEnd (hn : d.nodes[current]? = some .finish) (ho : d.ownerScopeId current = none)
      (hw : p.routing.hasOutstandingWork = true) :
      Activates current scope p [.workflowBranchCompleted current occurredAt] p
  | completed (hn : d.nodes[current]? = some .finish) (ho : d.ownerScopeId current = none)
      (hw : p.routing.hasOutstandingWork = false) :
      Activates current scope p [.workflowCompleted occurredAt] p
  | start {next owner scopeInstanceId} (hn : d.nodes[current]? = some (.start next))
      (ho : d.ownerScopeId current = some owner) (hs : scope = some scopeInstanceId) :
      Activates current scope p [] { p with pending := (next, scope) :: p.pending }
  | exclusive {transitions coverage target}
      (hn : d.nodes[current]? = some (.exclusiveGateway transitions coverage))
      (ht : selectTransition current transitions p.vars = .ok target) :
      Activates current scope p [] { p with pending := (target, scope) :: p.pending }
  | split {node join selected r₁} (hn : d.nodes[current]? = some node)
      (hs : SplitSelects current p.vars node join selected)
      (ho : p.routing.openJoin join selected.length = .ok r₁) :
      Activates current scope p [.gatewaySplitActivated current join selected occurredAt]
        { p with pending := selected.map (fun target => (target, scope)) ++ p.pending, routing := r₁ }
  | arrive {node split next r₁} (hn : d.nodes[current]? = some node)
      (hj : node.joinPair = some (split, next)) (ha : p.routing.arrive current = .ok (r₁, false)) :
      Activates current scope p [.gatewayTokenArrived current occurredAt] { p with routing := r₁ }
  | join {node split next r₁} (hn : d.nodes[current]? = some node)
      (hj : node.joinPair = some (split, next)) (ha : p.routing.arrive current = .ok (r₁, true)) :
      Activates current scope p
        [.gatewayTokenArrived current occurredAt, .gatewayJoined current occurredAt]
        { p with pending := (next, scope) :: p.pending, routing := r₁.closeJoin current }
  | enter {start finish next r₁ scopeInstanceId invocation armed r₂}
      (hn : d.nodes[current]? = some (.subProcess start finish next))
      (he : p.routing.enterScope current start scope = .ok (r₁, scopeInstanceId, invocation))
      (ha : armBoundaryEvents d current occurredAt r₁ = .ok (armed, r₂)) :
      Activates current scope p
        (.scopeEntered scopeInstanceId current start scope invocation occurredAt :: armed)
        { p with pending := (start, some scopeInstanceId) :: p.pending, routing := r₂ }

variable {d engine occurredAt} {current next : NodeId} {scope : Option ScopeInstanceId} {p p' : Progress}
  {events : List DomainEvent} {node : Node} {r : RoutingState}

theorem node_eq_ok {nodeId : NodeId} :
    d.node nodeId = .ok node ↔ d.nodes[nodeId]? = some node := okOr_eq_ok

theorem activateActivity_activates {taskType : TaskType} {activated : DomainEvent}
    (hn : d.nodes[current]? = some node) (hact : node.activityNext = some next)
    (he : TaskActivation current activated)
    (h : activateActivity d engine occurredAt current scope taskType next activated p = .ok (events, p')) :
    Activates d engine occurredAt current scope p events p' := by
  unfold activateActivity at h
  cases hmi : d.multiInstance current with
  | none =>
    simp only [hmi, bind_eq_ok] at h
    obtain ⟨r₁,ht,⟨armed,r₂⟩,ha,⟨⟩⟩ := h
    exact .task hn hact hmi he ht ha
  | some =>
    simp only [hmi, bind_eq_ok] at h
    obtain ⟨⟨started,r₁,completed⟩,hs,h⟩ := h
    cases completed with
    | true =>
      simp only [↓reduceIte, pure_eq_ok, Prod.mk.injEq] at h
      obtain ⟨rfl,rfl⟩ := h
      exact .emptyMultiInstance hn hact hmi hs
    | false =>
      simp only [Bool.false_eq_true, ↓reduceIte, bind_eq_ok] at h
      obtain ⟨⟨armed,r₂⟩,ha,⟨⟩⟩ := h
      exact .multiInstance hn hact hmi hs ha

theorem reachEnd_activates (hn : d.nodes[current]? = some .finish)
    (h : reachEnd d occurredAt current scope p = .ok (events, p')) :
    Activates d engine occurredAt current scope p events p' := by
  unfold reachEnd at h
  cases ho : d.ownerScopeId current with
  | some =>
    simp only [ho, bind_eq_ok, okOr_eq_ok] at h
    obtain ⟨id,hs,⟨r₁,completedScope⟩,hc,exit,hx,⟨⟩⟩ := h
    exact .scopeEnd hn ho hs hc hx
  | none =>
    simp only [ho] at h
    cases hw : p.routing.hasOutstandingWork with
    | true =>
      simp only [hw, ↓reduceIte] at h
      cases h
      exact .branchEnd hn ho hw
    | false =>
      simp only [hw, Bool.false_eq_true, ↓reduceIte] at h
      cases h
      exact .completed hn ho hw

theorem openSplit_activates {join : NodeId} {selected : List NodeId} (hn : d.nodes[current]? = some node)
    (hs : SplitSelects current p.vars node join selected)
    (h : openSplit occurredAt current join scope selected p = .ok (events, p')) :
    Activates d engine occurredAt current scope p events p' := by
  simp only [openSplit, bind_eq_ok] at h
  obtain ⟨r₁,ho,⟨⟩⟩ := h
  exact .split hn hs ho

theorem arriveAtJoin_activates {split : NodeId} (hn : d.nodes[current]? = some node)
    (hj : node.joinPair = some (split, next)) (h : arriveAtJoin occurredAt current scope next p = .ok (events, p')) :
    Activates d engine occurredAt current scope p events p' := by
  simp only [arriveAtJoin, bind_eq_ok] at h
  obtain ⟨⟨r₁,complete⟩,ha,h⟩ := h
  cases complete with
  | true =>
    simp only [↓reduceIte, pure_eq_ok, Prod.mk.injEq] at h
    obtain ⟨rfl,rfl⟩ := h
    exact .join hn hj ha
  | false =>
    simp only [Bool.false_eq_true, ↓reduceIte, pure_eq_ok, Prod.mk.injEq] at h
    obtain ⟨rfl,rfl⟩ := h
    exact .arrive hn hj ha

/-- The loop body does nothing but what the step relation allows. -/
theorem activateNode_activates (h : activateNode d engine occurredAt current scope p = .ok (events, p')) :
    Activates d engine occurredAt current scope p events p' := by
  simp only [activateNode, bind_eq_ok, node_eq_ok] at h
  obtain ⟨node,hn,h⟩ := h
  cases node with
  | serviceTask => exact activateActivity_activates hn rfl .service h
  | userTask =>
    exact activateActivity_activates hn rfl .user h
  | scriptTask => exact activateActivity_activates hn rfl .script h
  | callActivity => exact activateActivity_activates hn rfl .service h
  | decisionTask =>
    simp only [evaluateDecisionTask, bind_eq_ok, okOr_eq_ok] at h
    obtain ⟨table,ht,outputs,ho,⟨⟩⟩ := h
    exact .decision hn ht ho
  | finish => exact reachEnd_activates hn h
  | start =>
    simp only [bind_eq_ok, ensure_eq_ok, Bool.and_eq_true] at h
    obtain ⟨_,⟨ho,hs⟩,⟨⟩⟩ := h
    obtain ⟨owner,ho⟩ := Option.isSome_iff_exists.mp ho
    obtain ⟨id,hs⟩ := Option.isSome_iff_exists.mp hs
    exact .start hn ho hs
  | exclusiveGateway =>
    simp only [bind_eq_ok] at h
    obtain ⟨target,ht,⟨⟩⟩ := h
    exact .exclusive hn ht
  | parallelSplit => exact openSplit_activates hn .parallel h
  | inclusiveSplit =>
    simp only [bind_eq_ok] at h
    obtain ⟨selected,hs,h⟩ := h
    exact openSplit_activates hn (.inclusive hs) h
  | parallelJoin | inclusiveJoin => exact arriveAtJoin_activates hn rfl h
  | subProcess =>
    simp only [enterSubProcess, bind_eq_ok] at h
    obtain ⟨⟨r₁,id,invocation⟩,he,⟨armed,r₂⟩,ha,⟨⟩⟩ := h
    exact .enter hn he ha

theorem Activates.tracks (h : Activates d engine occurredAt current scope p events p') :
    Tracks events p.routing p'.routing := by
  cases h with
  | task hn hact hmi he ht ha =>
    exact Tracks.cons (activateTask_tracks he ht) (armBoundaryEvents_tracks ha)
  | multiInstance hn hact hmi hs ha =>
    exact (startMultiInstance_tracks hs).append (armBoundaryEvents_tracks ha)
  | emptyMultiInstance hn hact hmi hs => exact startMultiInstance_tracks hs
  | decision => exact Tracks.single rfl
  | scopeEnd hn ho hs hc =>
    obtain ⟨_,_,rfl⟩ := completeScope_eq_ok.mp hc
    exact Tracks.cons rfl (disarmBoundaryEvents_tracks _ _ _)
  | branchEnd => exact Tracks.single rfl
  | completed hn ho hw =>
    -- the five maps that `WorkflowCompleted` clears are empty already
    simp only [RoutingState.hasOutstandingWork, Bool.or_eq_false_iff, Bool.not_eq_false',
      ExtTreeMap.isEmpty_iff] at hw
    obtain ⟨⟨⟨⟨h₁,h₂⟩,h₃⟩,h₄⟩,h₅⟩ := hw
    refine Tracks.single ?_
    simp only [routeEvent, applyEvent, RoutingState.toState, InstanceState.routing]
    rw [← h₁, ← h₂, ← h₃, ← h₄, ← h₅]
  | start | exclusive => exact Tracks.nil _
  | split hn hs ho => exact Tracks.single (openJoin_tracks ho)
  | arrive hn hj ha => exact Tracks.single (arrive_tracks ha)
  | join hn hj ha => exact Tracks.cons (arrive_tracks ha) (Tracks.single rfl)
  | enter hn he ha => exact Tracks.cons (enterScope_tracks he) (armBoundaryEvents_tracks ha)

variable (d engine occurredAt) in
inductive Runs : Progress → List DomainEvent → RoutingState → Prop
  | done {p : Progress} (h : p.pending = []) : Runs p [] p.routing
  | step {p p' : Progress} {current scope rest events later r} (h : p.pending = (current, scope) :: rest)
      (ha : Activates d engine occurredAt current scope { p with pending := rest } events p')
      (hr : Runs p' later r) : Runs p (events ++ later) r

theorem activationLoop_runs {origin : NodeId} {remaining : Nat}
    (h : activationLoop d engine occurredAt origin remaining p = .ok (events, r)) :
    Runs d engine occurredAt p events r := by
  induction remaining generalizing p events with
  | zero =>
    rw [activationLoop] at h
    cases hp : p.pending with
    | nil => simp only [hp] at h; cases h; exact .done hp
    | cons => simp only [hp] at h; cases h
  | succ remaining ih =>
    rw [activationLoop] at h
    cases hp : p.pending with
    | nil => simp only [hp] at h; cases h; exact .done hp
    | cons entry =>
      obtain ⟨current,scope⟩ := entry
      simp only [hp, bind_eq_ok] at h
      obtain ⟨⟨first,p₁⟩,ha,⟨later,r₁⟩,hr,⟨⟩⟩ := h
      exact .step hp (activateNode_activates ha) (ih hr)

theorem Runs.tracks (h : Runs d engine occurredAt p events r) : Tracks events p.routing r := by
  induction h with
  | done => exact Tracks.nil _
  | step h ha hr ih => exact ha.tracks.append ih

end Step

end BpmpPlatform
