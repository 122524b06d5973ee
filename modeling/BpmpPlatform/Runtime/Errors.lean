import BpmpPlatform.Runtime.Decisions

/-! # Which errors a decision can raise

The errors that blame the routing state itself come from few places: opening a join, arriving at one, completing a
scope, resolving the scope of a node and triggering a boundary event.
-/
namespace BpmpPlatform
open Std Outcome BooleanExpression

def DomainError.blamesRouting : DomainError → Bool
  | .joinAlreadyPending _ | .unexpectedGatewayJoin _ | .scopeNotActive _ | .scopeInstanceNotActive _
  | .unknownBoundaryEvent _ | .boundarySubscriptionDefinitionMismatch _ | .boundaryOwnerNotActive _ => true
  | _ => false

theorem checkedSucc_failsWith {P : DomainError → Prop} {limit count : Nat} {error : DomainError}
    (h : P error) : FailsWith P (checkedSucc limit error count) := by
  unfold checkedSucc
  split
  · exact .ok _
  · exact .error h

variable {P : DomainError → Prop} {d : WorkflowDefinition} {occurredAt : Nat} {spec : MultiInstanceDefinition}

section Leaves
variable (hP : ∀ e : DomainError, e.blamesRouting = false → P e) {vars : Variables}
  {operands : List BooleanExpression} {table : DecisionTable} {gatewayId : NodeId}
  {transitions : List GuardedTransition}
include hP

theorem GuardExpression.evaluate_failsWith (guard : GuardExpression) : FailsWith P (guard.evaluate vars) := by
  unfold GuardExpression.evaluate
  split
  · exact .error (hP _ rfl)
  · split
    · exact .error (hP _ rfl)
    · exact .ok _

omit hP in
theorem BooleanExpression.evaluateList_failsWith (h : ∀ operand ∈ operands, FailsWith P (evaluate vars operand)) :
    FailsWith P (evaluateAll vars operands) ∧ FailsWith P (evaluateAny vars operands) := by
  induction operands with
  | nil => exact ⟨.ok _,.ok _⟩
  | cons operand rest ih =>
    obtain ⟨hall,hany⟩ := ih fun operand ho => h operand (by simp [ho])
    constructor
    all_goals refine .bind (h operand (by simp)) fun holds _ => ?_
    all_goals cases holds <;> first | assumption | exact .pure _

theorem BooleanExpression.evaluate_failsWith : (expression : BooleanExpression) →
    FailsWith P (evaluate vars expression)
  | .comparison guard => guard.evaluate_failsWith hP
  | .conjunction operands => (evaluateList_failsWith fun operand _ => operand.evaluate_failsWith).1
  | .disjunction operands => (evaluateList_failsWith fun operand _ => operand.evaluate_failsWith).2
  | .negation operand => .bind operand.evaluate_failsWith fun _ _ => .pure _
  | .constant _ => .ok _

theorem GuardedTransition.evaluate_failsWith (transition : GuardedTransition) :
    FailsWith P (transition.evaluate vars) := by
  unfold GuardedTransition.evaluate
  split
  · exact GuardExpression.evaluate_failsWith hP _
  · exact BooleanExpression.evaluate_failsWith hP _
  · exact .ok _
  · exact .error (hP _ rfl)

theorem testsMatch_failsWith {tableId : String} (tests : List (DecisionInput × UnaryTest)) :
    FailsWith P (testsMatch tableId vars tests) := by
  induction tests with
  | nil => exact .ok _
  | cons entry rest ih =>
    refine .get (hP _ rfl) fun value _ => .check (hP _ rfl) fun _ => ?_
    split
    · exact ih
    · exact .pure _

theorem selectRule_failsWith {selected : Option DecisionRule} (rules : List DecisionRule) :
    FailsWith P (selectRule table vars selected rules) := by
  induction rules generalizing selected with
  | nil => exact .ok _
  | cons rule rest ih =>
    refine .bind (testsMatch_failsWith hP _) fun holds _ => ?_
    cases holds with
    | false => exact ih
    | true =>
      simp only [↓reduceIte]
      split
      · exact .pure _
      · exact ih
      · exact .throw (hP _ rfl)

theorem evaluateDecisionTable_failsWith : FailsWith P (evaluateDecisionTable table vars) :=
  .bind (selectRule_failsWith hP _) fun _ _ => .get (hP _ rfl) fun _ _ => .pure _

theorem selectGuarded_failsWith {selected : Option NodeId} (transitions : List GuardedTransition) :
    FailsWith P (selectGuarded gatewayId vars selected transitions) := by
  induction transitions generalizing selected with
  | nil => exact .ok _
  | cons transition rest ih =>
    unfold selectGuarded
    split
    · exact ih
    · refine .bind (transition.evaluate_failsWith hP) fun holds _ => ?_
      cases holds with
      | true => exact .check (hP _ rfl) fun _ => ih
      | false => exact ih

theorem selectTransition_failsWith : FailsWith P (selectTransition gatewayId transitions vars) :=
  .bind (selectGuarded_failsWith hP _) fun _ _ => .okOr fun _ => hP _ rfl

theorem matchingTargets_failsWith (transitions : List GuardedTransition) :
    FailsWith P (matchingTargets vars transitions) := by
  induction transitions with
  | nil => exact .ok _
  | cons transition rest ih =>
    unfold matchingTargets
    split
    · exact ih
    · exact .bind (transition.evaluate_failsWith hP) fun _ _ => .bind ih fun _ _ => .pure _

theorem selectTransitions_failsWith : FailsWith P (selectTransitions gatewayId transitions vars) :=
  .bind (matchingTargets_failsWith hP _) fun _ _ => .check (hP _ rfl) fun _ => .pure _

theorem materializeMultiInstance_failsWith {nodeId : NodeId} :
    FailsWith P (materializeMultiInstance nodeId spec vars) := by
  have hite : FailsWith P (collectionItems nodeId spec vars) := by
    unfold collectionItems
    split
    · exact .ok _
    · split
      · split
        · exact .ok _
        · exact .error (hP _ rfl)
      · exact .error (hP _ rfl)
      · exact .error (hP _ rfl)
  refine .bind hite fun _ _ => .check (hP _ rfl) fun _ => ?_
  split
  · exact .pure _
  · refine .bind ?_ fun _ _ => .check (hP _ rfl) fun _ => .pure _
    exact .get (hP _ rfl) fun _ _ => .check (hP _ rfl) fun _ => .pure _

end Leaves

section Operations
variable (hP : ∀ e : DomainError, e.blamesRouting = false → P e) {r : RoutingState} {nodeId : NodeId} {n : Nat}
  {engine : EnginePolicy} {taskType : TaskType}
include hP

theorem activateTask_failsWith : FailsWith P (r.activateTask nodeId) :=
  .bind (checkedSucc_failsWith (hP _ rfl)) fun _ _ => .pure _

theorem completeTask_failsWith : FailsWith P (r.completeTask nodeId) := by
  refine .get (hP _ rfl) fun count _ => ?_
  split
  · exact .throw (hP _ rfl)
  · exact .pure _
  · exact .pure _

theorem completeTasks_failsWith : FailsWith P (RoutingState.completeTasks nodeId n r) := by
  induction n generalizing r with
  | zero => exact .ok _
  | succ n ih => exact .bind (completeTask_failsWith hP) fun _ _ => ih

theorem interruptActivity_failsWith {s : InstanceState} {cancelActivity : Bool} :
    FailsWith P (interruptActivity s cancelActivity nodeId) := by
  unfold interruptActivity
  split
  · exact completeTasks_failsWith hP
  · exact .ok _

theorem activateNextMultiInstance_failsWith : FailsWith P (r.activateNextMultiInstance nodeId) :=
  .get (hP _ rfl) fun _ _ => .check (hP _ rfl) fun _ =>
    .bind (checkedSucc_failsWith (hP _ rfl)) fun _ _ => .pure _

theorem activateIterations_failsWith : FailsWith P (activateIterations nodeId occurredAt n r) := by
  induction n generalizing r with
  | zero => exact .ok _
  | succ n ih => exact .bind (activateNextMultiInstance_failsWith hP) fun _ _ => .bind ih fun _ _ => .pure _

theorem startMultiInstance_failsWith {vars : Variables} :
    FailsWith P (startMultiInstance nodeId taskType spec vars engine occurredAt r) := by
  refine .bind (materializeMultiInstance_failsWith hP) fun _ _ => .check (hP _ rfl) fun _ =>
    .bind (.check (hP _ rfl) fun _ => .pure _) fun _ _ => ?_
  split
  · exact .pure _
  · exact .bind (activateIterations_failsWith hP) fun _ _ => .pure _

theorem armBoundaryEvents_failsWith : FailsWith P (armBoundaryEvents d nodeId occurredAt r) := by
  unfold armBoundaryEvents
  induction d.boundaryEvents nodeId generalizing r with
  | nil => exact .ok _
  | cons boundary rest ih =>
    exact .bind (.check (hP _ rfl) fun _ => .pure _) fun _ _ => .bind ih fun _ _ => .pure _

theorem enterScope_failsWith {startNodeId : NodeId} {parent : Option ScopeInstanceId} :
    FailsWith P (r.enterScope nodeId startNodeId parent) := by
  refine .check (hP _ rfl) fun _ => .bind (checkedSucc_failsWith (hP _ rfl)) fun _ _ => ?_
  split
  · exact .throw (hP _ rfl)
  · exact .pure _

theorem node_failsWith : FailsWith P (d.node nodeId) := .okOr fun _ => hP _ rfl

theorem subProcessExit_failsWith : FailsWith P (d.subProcessExit nodeId) := by
  refine .bind (node_failsWith hP) fun node _ => ?_
  split
  · exact .pure _
  · exact .throw (hP _ rfl)

theorem activateActivity_failsWith {scope : Option ScopeInstanceId} {next : NodeId} {activated : DomainEvent}
    {p : Progress} : FailsWith P (activateActivity d engine occurredAt nodeId scope taskType next activated p) := by
  unfold activateActivity
  split
  · refine .bind (startMultiInstance_failsWith hP) fun ⟨_,_,completed⟩ _ => ?_
    cases completed with
    | true => exact .pure _
    | false => exact .bind (armBoundaryEvents_failsWith hP) fun _ _ => .pure _
  · exact .bind (activateTask_failsWith hP) fun _ _ => .bind (armBoundaryEvents_failsWith hP) fun _ _ => .pure _

end Operations

section Step
variable {engine : EnginePolicy} {current : NodeId} {scope : Option ScopeInstanceId} {p : Progress}

/-- The three operations of the loop body that can blame the routing state. -/
structure StepFailsWith (P : DomainError → Prop) (d : WorkflowDefinition) (current : NodeId)
    (scope : Option ScopeInstanceId) (p : Progress) : Prop where
  opens : ∀ node join selected, d.nodes[current]? = some node → SplitSelects current p.vars node join selected →
    FailsWith P (p.routing.openJoin join selected.length)
  arrives : ∀ node split next, d.nodes[current]? = some node → node.joinPair = some (split, next) →
    FailsWith P (p.routing.arrive current)
  completes : ∀ owner scopeInstanceId, d.nodes[current]? = some .finish → d.ownerScopeId current = some owner →
    scope = some scopeInstanceId → FailsWith P (p.routing.completeScope scopeInstanceId owner)

theorem activateNode_failsWith (hP : ∀ e : DomainError, e.blamesRouting = false → P e)
    (h : StepFailsWith P d current scope p) : FailsWith P (activateNode d engine occurredAt current scope p) := by
  refine .bind (node_failsWith hP) fun node hno => ?_
  have hn := node_eq_ok.mp hno
  have hsp {join : NodeId} {selected : List NodeId} (hs : SplitSelects current p.vars node join selected) :
      FailsWith P (openSplit occurredAt current join scope selected p) :=
    .bind (h.opens node join selected hn hs) fun _ _ => .pure _
  have hjo {split next : NodeId} (hj : node.joinPair = some (split, next)) :
      FailsWith P (arriveAtJoin occurredAt current scope next p) := by
    refine .bind (h.arrives node split next hn hj) fun ⟨_,complete⟩ _ => ?_
    cases complete with
    | true | false => exact .pure _
  cases node with
  | serviceTask | userTask | scriptTask | callActivity => exact activateActivity_failsWith hP
  | decisionTask =>
    exact .get (hP _ rfl) fun _ _ => .bind (evaluateDecisionTable_failsWith hP) fun _ _ => .pure _
  | finish =>
    show FailsWith P (reachEnd d occurredAt current scope p)
    unfold reachEnd
    cases ho : d.ownerScopeId current with
    | some owner =>
      refine .get (hP _ rfl) fun id hs => ?_
      exact .bind (h.completes owner id hn ho hs) fun _ _ => .bind (subProcessExit_failsWith hP) fun _ _ => .pure _
    | none =>
      simp only
      split
      · exact .ok _
      · exact .ok _
  | start => exact .check (hP _ rfl) fun _ => .pure _
  | exclusiveGateway => exact .bind (selectTransition_failsWith hP) fun _ _ => .pure _
  | parallelSplit => exact hsp .parallel
  | inclusiveSplit =>
    exact .bind (selectTransitions_failsWith hP) fun _ hs => hsp (.inclusive hs)
  | parallelJoin | inclusiveJoin => exact hjo rfl
  | subProcess =>
    exact .bind (enterScope_failsWith hP) fun _ _ => .bind (armBoundaryEvents_failsWith hP) fun _ _ => .pure _

/-- An invariant of the work-list under which no step raises another error bounds the errors of the loop. -/
theorem activationLoop_failsWith (hP : ∀ e : DomainError, e.blamesRouting = false → P e) {J : Progress → Prop}
    (hk : ∀ (p p' : Progress) current scope rest events, J p → p.pending = (current, scope) :: rest →
      Activates d engine occurredAt current scope { p with pending := rest } events p' → J p')
    (hs : ∀ (p : Progress) current scope rest, J p → p.pending = (current, scope) :: rest →
      StepFailsWith P d current scope { p with pending := rest })
    {origin : NodeId} {remaining : Nat} (hp : J p) :
    FailsWith P (activationLoop d engine occurredAt origin remaining p) := by
  induction remaining generalizing p with
  | zero =>
    rw [activationLoop]
    split
    · exact .ok _
    · exact .error (hP _ rfl)
  | succ remaining ih =>
    rw [activationLoop]
    split
    · exact .ok _
    · rename_i current scope rest hpe
      refine .bind (activateNode_failsWith hP (hs p current scope rest hp hpe)) fun next ha => ?_
      obtain ⟨_,p'⟩ := next
      have hp' := hk p p' current scope rest _ hp hpe (activateNode_activates ha)
      exact .bind (ih hp') fun _ _ => .pure _

end Step

end BpmpPlatform
