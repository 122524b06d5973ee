import BpmpPlatform.Runtime.Agreement

/-! # The data routing decisions read

While the token of a completed task is routed, gateways and decision tables read the variables that the loop of
`activation_events` carries. They are compared with those of the state replayed up to that point of the batch, overlaid
by those of the request.
-/
namespace BpmpPlatform
open Std Outcome List

section Recorded
variable (d : WorkflowDefinition)

/-- `activationLoop` with every node evaluated on the state replayed so far, overlaid by the request. -/
def recordedLoop (engine : EnginePolicy) (requested : Variables) (occurredAt : Nat) (origin : NodeId) :
    Nat → InstanceState → List (NodeId × Option ScopeInstanceId) → RoutingState → Except DomainError Decision
  | _, _, [], r => .ok ([], r)
  | 0, _, _ :: _, _ => .error (.automaticTransitionLimitExceeded origin)
  | remaining + 1, s, (current, scope) :: rest, r => do
    let (events, p) ← activateNode d engine occurredAt current scope ⟨rest, stateVariablesWithContext s requested, r⟩
    let (later, r) ← recordedLoop engine requested occurredAt origin remaining (events.foldl evolve s) p.pending p.routing
    return (events ++ later, r)

/-- `continueAfterTask` on the recorded variables. -/
def recordedAfterTask (state : InstanceState) (context : DecisionContext) (nodeId next : NodeId)
    (completed : DomainEvent) (occurredAt : Nat) : Except DomainError Decision := do
  let r ← state.routing.completeTask nodeId
  let (disarmed, r) := disarmBoundaryEvents nodeId occurredAt r
  let scope ← d.activeScopeForNode state nodeId
  let (events, r) ← recordedLoop d context.engine context.vars occurredAt next (maxSteps d)
    (disarmed.foldl evolve (evolve state completed)) [(next, scope)] r
  return (completed :: (disarmed ++ events), r)

end Recorded

def DomainEvent.assignments : DomainEvent → List (String × WorkflowValue)
  | .serviceTaskCompleted _ outputs _ | .decisionTaskEvaluated _ _ outputs _ => outputs.toList
  | .userTaskCompleted _ decision resultVariable _ => [(resultVariable, .string decision)]
  | _ => []

/-- The request gives no other value to what the events record. -/
def NotHidden (requested : Variables) (events : List DomainEvent) : Prop :=
  ∀ p ∈ events.flatMap DomainEvent.assignments, requested[p.1]? = none ∨ requested[p.1]? = some p.2

variable {s : InstanceState} {requested vars : Variables} {events : List DomainEvent} {d : WorkflowDefinition}
  {e : DomainEvent}

theorem evolve_vars : (evolve s e).vars = s.vars.insertMany e.assignments := by
  cases e with
  | serviceTaskCompleted | decisionTaskEvaluated => rfl
  | userTaskCompleted => exact ExtTreeMap.insertMany_list_singleton.symm
  | boundaryEventTriggered _ _ _ cancelActivity => cases cancelActivity <;> exact ExtTreeMap.insertMany_nil.symm
  | _ => exact ExtTreeMap.insertMany_nil.symm

theorem evolve_vars_all : (events.foldl evolve s).vars = s.vars.insertMany (events.flatMap DomainEvent.assignments) := by
  induction events generalizing s with
  | nil => exact ExtTreeMap.insertMany_nil.symm
  | cons e events ih => rw [foldl_cons, ih, evolve_vars, flatMap_cons, ExtTreeMap.insertMany_append]

/-- Assignments that the request does not hide can be made under it or over it. -/
theorem insertMany_comm {given : List (String × WorkflowValue)}
    (h : ∀ p ∈ given, requested[p.1]? = none ∨ requested[p.1]? = some p.2) :
    (vars.insertMany given).insertMany requested.toList = (vars.insertMany requested.toList).insertMany given := by
  induction given generalizing vars with
  | nil => simp
  | cons p given ih =>
    rw [ExtTreeMap.insertMany_cons, ExtTreeMap.insertMany_cons, ih fun q hq => h q (mem_cons_of_mem _ hq)]
    congr 1
    refine ExtTreeMap.ext_getElem? fun name => ?_
    simp only [getElem?_insertMany_toList, getElem?_insert_eq]
    split
    · rename_i heq
      rcases h p mem_cons_self with hr | hr <;> simp [← heq, hr]
    · rfl

theorem NotHidden.recorded (h : NotHidden requested events) :
    stateVariablesWithContext (events.foldl evolve s) requested =
      (stateVariablesWithContext s requested).insertMany (events.flatMap DomainEvent.assignments) := by
  rw [stateVariablesWithContext, evolve_vars_all]
  exact insertMany_comm h

section Loop
variable {engine : EnginePolicy} {occurredAt : Nat} {current : NodeId} {scope : Option ScopeInstanceId} {p p' : Progress}

theorem assignments_of_auxiliary (h : ∀ e ∈ events, e.isAuxiliary = true) :
    events.flatMap DomainEvent.assignments = [] := by
  refine flatMap_eq_nil_iff.mpr fun e he => ?_
  have ha := h e he
  cases e with
  | serviceTaskCompleted | userTaskCompleted | decisionTaskEvaluated => cases ha
  | _ => rfl

/-- The loop takes over what its events record. -/
theorem Activates.vars_eq (h : Activates d engine occurredAt current scope p events p') :
    p'.vars = p.vars.insertMany (events.flatMap DomainEvent.assignments) := by
  cases h with
  | task _ _ _ he _ ha =>
    rw [flatMap_cons, assignments_of_auxiliary (armBoundaryEvents_auxiliary ha)]
    cases he <;> exact ExtTreeMap.insertMany_nil.symm
  | multiInstance _ _ _ hs ha =>
    rw [flatMap_append, assignments_of_auxiliary (startMultiInstance_auxiliary hs),
      assignments_of_auxiliary (armBoundaryEvents_auxiliary ha)]
    exact ExtTreeMap.insertMany_nil.symm
  | emptyMultiInstance _ _ _ hs =>
    rw [assignments_of_auxiliary (startMultiInstance_auxiliary hs)]
    exact ExtTreeMap.insertMany_nil.symm
  | decision => simp [DomainEvent.assignments]
  | scopeEnd => simp [assignments_of_auxiliary disarmBoundaryEvents_auxiliary, DomainEvent.assignments]
  | enter _ _ ha => simp [assignments_of_auxiliary (armBoundaryEvents_auxiliary ha), DomainEvent.assignments]
  | _ => simp [DomainEvent.assignments]

/-- A loop that starts on recorded variables does what the loop on recorded variables does. The induction is on
the steps left. -/
theorem activationLoop_recorded {origin : NodeId} {remaining : Nat} {r : RoutingState}
    (hv : p.vars = stateVariablesWithContext s requested)
    (h : activationLoop d engine occurredAt origin remaining p = .ok (events, r)) (hh : NotHidden requested events) :
    recordedLoop d engine requested occurredAt origin remaining s p.pending p.routing = .ok (events, r) := by
  induction remaining generalizing p s events r with
  | zero =>
    rw [activationLoop] at h
    cases hp : p.pending with
    | nil => simp only [hp] at h; cases h; rfl
    | cons => simp only [hp] at h; cases h
  | succ remaining ih =>
    rw [activationLoop] at h
    cases hp : p.pending with
    | nil => simp only [hp] at h; cases h; rfl
    | cons =>
      simp only [hp, bind_eq_ok] at h
      obtain ⟨⟨first,p₁⟩,ha,⟨later,_⟩,hr,⟨⟩⟩ := h
      rw [NotHidden, flatMap_append, forall_mem_append] at hh
      simp only [recordedLoop, ← hv, bind_eq_ok]
      refine ⟨_,ha,_,ih ?_ hr hh.2,rfl⟩
      rw [(activateNode_activates ha).vars_eq, hv, NotHidden.recorded hh.1]

end Loop

section Completion
variable {context : DecisionContext} {nodeId next : NodeId} {completed : DomainEvent} {occurredAt : Nat}
  {command : Command} {node : Node} {r : RoutingState}

theorem continueAfterTask_recorded
    (hv : vars = (stateVariablesWithContext s context.vars).insertMany completed.assignments)
    (h : continueAfterTask d s context nodeId next completed vars occurredAt = .ok (events, r))
    (hh : NotHidden context.vars events) :
    recordedAfterTask d s context nodeId next completed occurredAt = .ok (events, r) := by
  simp only [continueAfterTask, recordedAfterTask, bind_eq_ok] at h ⊢
  obtain ⟨r₁,hc,scope,hs,⟨later,_⟩,hr,⟨⟩⟩ := h
  rw [NotHidden, ← cons_append, flatMap_append, forall_mem_append] at hh
  refine ⟨r₁,hc,scope,hs,_,activationLoop_recorded ?_ hr hh.2,rfl⟩
  rw [← foldl_cons, NotHidden.recorded hh.1, flatMap_cons, assignments_of_auxiliary disarmBoundaryEvents_auxiliary,
    append_nil]
  exact hv

/-- Taking over the outputs of a service task, which `decide` does not do, would change nothing. -/
def OutputsKnown (s : InstanceState) (requested : Variables) : Command → Prop
  | .completeServiceTask _ outputs _ =>
    stateVariablesWithContext s requested = (stateVariablesWithContext s requested).insertMany outputs.toList
  | _ => True

end Completion

namespace Sample

/-- The check is repeated until it approves. -/
def checkedInput : DefinitionInput := process (.lit "checked")
  [(.lit "start", .start (.lit "check")), (.lit "check", .serviceTask (.lit "check") (.lit "approved")),
    (.lit "approved", .exclusiveGateway [⟨.lit "end", some ⟨"approved", .equal, .boolean true⟩, none⟩,
      ⟨.lit "check", none, none⟩] none), (.lit "end", .finish)]

def checked : WorkflowDefinition := build checkedInput (by decide)

def outcome (approved : Bool) : Variables := (∅ : Variables).insert "approved" (.boolean approved)

def repeated (approved : Bool) (now : Nat) : List DomainEvent :=
  [.serviceTaskCompleted (.lit "check") (outcome approved) now, .serviceTaskActivated (.lit "check") (.lit "check") now]

def begun : List DomainEvent := [.workflowStarted (.lit "tenant-a") (.lit "checked") (.lit "1") (.lit "start") 5,
  .serviceTaskActivated (.lit "check") (.lit "check") 5]

/-- The first check has not approved, with the request saying so too. -/
def rechecked : InstanceState := (repeated false 6).foldl evolve (begun.foldl evolve {})

theorem rechecked_reachable : Reachable checked rechecked := by
  have hb : decideEvents checked {} (.startWorkflow (.lit "tenant-a") 5) context = .ok begun := by rfl
  have hr : decideEvents checked (begun.foldl evolve {}) (.completeServiceTask (.lit "check") (outcome false) 6)
      { context with vars := outcome false } = .ok (repeated false 6) := by rfl
  exact (Reachable.initial.step hb).step hr

end Sample

open Sample

end BpmpPlatform
