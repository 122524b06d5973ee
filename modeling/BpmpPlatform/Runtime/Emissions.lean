import BpmpPlatform.Runtime.CaseEvents

/-! # What a command can emit

One constructor for each kind of event that takes something from the definition or the command, and one for all others.
-/
namespace BpmpPlatform
open Std Outcome List

/-- Events that take nothing but ids from the definition. -/
def DomainEvent.isPlain : DomainEvent → Bool
  | .serviceTaskActivated .. | .scriptTaskCompleted .. | .gatewaySplitActivated .. | .gatewayTokenArrived ..
  | .gatewayJoined .. | .boundaryEventsDisarmed .. | .boundaryEventTriggered .. | .multiInstanceIterationActivated ..
  | .multiInstanceIterationCompleted .. | .scopeCompleted .. | .workflowBranchCompleted .. | .workflowCompleted .. => true
  | e => e.isCase

inductive Emits (d : WorkflowDefinition) (command : Command) : DomainEvent → Prop
  | plain {e} (h : e.isPlain = true) : Emits d command e
  | started {tenantId t} (hc : command = .startWorkflow tenantId t) (ht : tenantId = d.tenantId) :
      Emits d command (.workflowStarted tenantId d.workflowType d.workflowVersion d.startNode t)
  | userTask {n taskType policy formKey result next t}
      (hn : d.nodes[n]? = some (.userTask taskType policy formKey result next)) :
      Emits d command (.userTaskActivated n taskType policy formKey t)
  | scriptTask {n taskType ref version next t} (hn : d.nodes[n]? = some (.scriptTask taskType ref version next)) :
      Emits d command (.scriptTaskActivated n taskType ref version t)
  | serviceCompleted {n outputs t} (hc : command = .completeServiceTask n outputs t) :
      Emits d command (.serviceTaskCompleted n outputs t)
  | userCompleted {n taskType policy formKey result next decision t}
      (hn : d.nodes[n]? = some (.userTask taskType policy formKey result next)) (hd : Text.isBlank decision = false) :
      Emits d command (.userTaskCompleted n decision result t)
  | userCancelled {n reason t} (hr : Text.isBlank reason = false) : Emits d command (.userTaskCancelled n reason t)
  | decision {n id table vars outputs t} (ht : d.decisionTables[id]? = some table)
      (ho : evaluateDecisionTable table vars = .ok outputs) : Emits d command (.decisionTaskEvaluated n id outputs t)
  | armed {n b t} (hb : b ∈ d.boundaryEvents n) : Emits d command (armedEvent n t b)
  | multiInstance {n spec engine taskType total items t} (hs : d.multiInstance n = some spec) :
      Emits d command (.multiInstanceStarted n taskType spec.mode total (effectiveParallelism engine spec total)
        spec.itemVariable items t)
  | skipped {n t} : Emits d command (.multiInstanceCompleted n false [] t)
  | ended {n i condition cancelled t} (hc : command = .completeMultiInstanceIteration n i t) :
      Emits d command (.multiInstanceCompleted n condition cancelled t)
  | entered {id n start parent invocation t} (hi : invocation ≠ 0) :
      Emits d command (.scopeEntered id n start parent invocation t)

variable {d : WorkflowDefinition} {command : Command} {now : Nat} {n : NodeId} {r r₁ : RoutingState}
  {events : List DomainEvent} {engine : EnginePolicy} {vars : Variables} {completed : Bool} {p : Progress}

theorem armBoundaryEvents_emits (h : armBoundaryEvents d n now r = .ok (events, r₁)) :
    ∀ e ∈ events, Emits d command e := armBoundaryEvents_forall h fun _ hb => .armed hb

theorem disarmBoundaryEvents_emits : ∀ e ∈ (disarmBoundaryEvents n now r).1, Emits d command e := by
  intro e he
  rw [disarmBoundaryEvents_shape he]
  exact .plain rfl

theorem startMultiInstance_emits {taskType : TaskType} {spec : MultiInstanceDefinition}
    (hs : d.multiInstance n = some spec)
    (h : startMultiInstance n taskType spec vars engine now r = .ok (events, r₁, completed)) :
    ∀ e ∈ events, Emits d command e := by
  obtain ⟨_,_,_,⟨-,-,-,rfl⟩ | ⟨-,-,later,rfl,hit⟩⟩ := startMultiInstance_cases h
  · exact forall_mem_cons.mpr ⟨.multiInstance hs,forall_mem_singleton.mpr .skipped⟩
  · exact forall_mem_cons.mpr ⟨.multiInstance hs,(activateIterations_spec hit).2.1 fun _ _ _ => .plain rfl⟩

theorem activateNode_emits {current : NodeId} {scope : Option ScopeInstanceId} {p' : Progress}
    (h : activateNode d engine now current scope p = .ok (events, p')) : ∀ e ∈ events, Emits d command e := by
  cases activateNode_activates h with
  | @task node _ activated _ armed _ hn hact hmi he ht ha =>
    refine forall_mem_cons.mpr ⟨?_,armBoundaryEvents_emits ha⟩
    -- the texts of the event are those of the node
    cases node with
    | serviceTask | userTask | scriptTask | callActivity =>
      simp only [activateNode, node_eq_ok.mpr hn, ok_bind, activateActivity, hmi, bind_eq_ok] at h
      obtain ⟨_,_,_,_,⟨⟩⟩ := h
      first
      | exact .plain rfl
      | exact .userTask hn
      | exact .scriptTask hn
    | _ => cases hact
  | multiInstance hn hact hmi hs ha =>
    exact forall_mem_append.mpr ⟨startMultiInstance_emits hmi hs,armBoundaryEvents_emits ha⟩
  | emptyMultiInstance hn hact hmi hs => exact startMultiInstance_emits hmi hs
  | decision hn ht ho => exact forall_mem_singleton.mpr (.decision ht ho)
  | scopeEnd => exact forall_mem_cons.mpr ⟨.plain rfl,disarmBoundaryEvents_emits⟩
  | branchEnd | completed | split | arrive => exact forall_mem_singleton.mpr (.plain rfl)
  | start | exclusive => exact forall_mem_nil _
  | join => exact forall_mem_cons.mpr ⟨.plain rfl,forall_mem_singleton.mpr (.plain rfl)⟩
  | enter hn he ha =>
    obtain ⟨_,_,rfl,_,_⟩ := enterScope_eq_ok.mp he
    exact forall_mem_cons.mpr ⟨.entered (Nat.succ_ne_zero _),armBoundaryEvents_emits ha⟩

theorem activationLoop_emits {origin : NodeId} {remaining : Nat}
    (h : activationLoop d engine now origin remaining p = .ok (events, r)) : ∀ e ∈ events, Emits d command e := by
  induction remaining generalizing p events with
  | zero =>
    rw [activationLoop] at h
    split at h
    · cases h; simp
    · cases h
  | succ remaining ih =>
    rw [activationLoop] at h
    split at h
    · cases h; simp
    · simp only [bind_eq_ok] at h
      obtain ⟨⟨first,p₁⟩,ha,⟨later,r₁⟩,hr,⟨⟩⟩ := h
      exact forall_mem_append.mpr ⟨activateNode_emits ha,ih hr⟩

section Decisions
variable {s : InstanceState} {context : DecisionContext} {next : NodeId}

theorem continueAfterTask_emits {completed : DomainEvent} (hc : Emits d command completed)
    (h : continueAfterTask d s context n next completed vars now = .ok (events, r)) :
    ∀ e ∈ events, Emits d command e := by
  simp only [continueAfterTask, bind_eq_ok] at h
  obtain ⟨_,_,_,_,⟨later,_⟩,hr,⟨⟩⟩ := h
  exact forall_mem_cons.mpr
    ⟨hc,forall_mem_append.mpr ⟨disarmBoundaryEvents_emits,activationLoop_emits hr⟩⟩

theorem afterIteration_emits {condition : Bool} {i : Nat} (hc : command = .completeMultiInstanceIteration n i now)
    (h : afterIteration d s context n next completed condition now r₁ = .ok (events, r)) :
    ∀ e ∈ events, Emits d command e := by
  unfold afterIteration at h
  split at h
  · simp only [finishActivity, bind_eq_ok] at h
    obtain ⟨_,_,⟨later,_⟩,hr,⟨⟩⟩ := h
    exact forall_mem_cons.mpr
      ⟨.ended hc,forall_mem_append.mpr ⟨disarmBoundaryEvents_emits,activationLoop_emits hr⟩⟩
  · simp only [continueActivity, bind_eq_ok] at h
    obtain ⟨_,_,h⟩ := h
    split at h
    · simp only [bind_eq_ok] at h
      obtain ⟨_,_,⟨⟩⟩ := h
      exact forall_mem_singleton.mpr (.plain rfl)
    · cases h
      exact forall_mem_nil _

theorem cancellationEvents_emits {boundary : BoundaryEventDefinition}
    (h : cancellationEvents d boundary n now = .ok events) : ∀ e ∈ events, Emits d command e := by
  unfold cancellationEvents at h
  split at h
  · simp only [bind_eq_ok] at h
    obtain ⟨node,_,⟨⟩⟩ := h
    split
    · refine forall_mem_singleton.mpr (.userCancelled ?_)
      simp only [Text.isBlank, String.toList_append, all_append]
      rfl
    · exact forall_mem_nil _
  · cases h
    exact forall_mem_nil _

theorem decideEvents_emits (h : decideEvents d s command context = .ok events) : ∀ e ∈ events, Emits d command e := by
  obtain ⟨_,hr⟩ := decideEvents_eq_ok.mp h
  have h := handler_of_decideRouting hr
  have hcase : (∀ e ∈ events, e.isCase = true) → ∀ e ∈ events, Emits d command e := fun hall e he => by
    have hc := hall e he
    cases e with
    | caseActivated | caseSentrySatisfied | casePlanItemTransitioned | caseCompleted => exact .plain rfl
    | _ => cases hc
  cases command with
  | activateCase =>
    obtain ⟨_,ha,⟨⟩⟩ := map_eq_ok.mp h
    exact hcase (activateCase_isCase ha)
  | evaluateCaseSentries =>
    obtain ⟨_,ha,⟨⟩⟩ := map_eq_ok.mp h
    exact hcase (evaluateCaseSentries_isCase ha)
  | startWorkflow =>
    simp only [handler, startWorkflow, bind_eq_ok, ensure_eq_ok, beq_iff_eq] at h
    obtain ⟨_,ht,_,_,h⟩ := h
    split at h
    · simp only [bind_eq_ok] at h
      obtain ⟨⟨later,_⟩,hl,⟨⟩⟩ := h
      exact forall_mem_cons.mpr ⟨.started rfl ht,activationLoop_emits hl⟩
    · exact absurd h throw_ne_ok
  | completeServiceTask =>
    simp only [handler, completeServiceTask, bind_eq_ok] at h
    obtain ⟨_,_,h⟩ := h
    split at h
    · exact continueAfterTask_emits (.serviceCompleted rfl) h
    · exact continueAfterTask_emits (.serviceCompleted rfl) h
    · exact absurd h throw_ne_ok
  | completeUserTask =>
    simp only [handler, completeUserTask, bind_eq_ok, node_eq_ok] at h
    obtain ⟨_,hn,h⟩ := h
    split at h
    · simp only [bind_eq_ok, ensure_eq_ok, Bool.not_eq_true'] at h
      obtain ⟨_,hd,h⟩ := h
      exact continueAfterTask_emits (.userCompleted hn hd) h
    · exact absurd h throw_ne_ok
  | completeScriptTask =>
    simp only [handler, completeScriptTask, bind_eq_ok] at h
    obtain ⟨_,_,h⟩ := h
    split at h
    · exact continueAfterTask_emits (.plain rfl) h
    · exact absurd h throw_ne_ok
  | completeMultiInstanceIteration =>
    simp only [handler, completeMultiInstanceIteration, bind_eq_ok] at h
    obtain ⟨_,_,_,_,_,_,_,_,_,_,_,_,_,_,⟨later,_⟩,ha,⟨⟩⟩ := h
    exact forall_mem_cons.mpr ⟨.plain rfl,afterIteration_emits rfl ha⟩
  | triggerBoundaryEvent =>
    simp only [handler, triggerBoundaryEvent, bind_eq_ok] at h
    obtain ⟨_,_,_,_,_,_,_,_,_,_,_,hc,_,_,_,_,⟨later,_⟩,hl,⟨⟩⟩ := h
    exact forall_mem_cons.mpr ⟨.plain rfl,
      forall_mem_append.mpr ⟨cancellationEvents_emits hc,activationLoop_emits hl⟩⟩

end Decisions

end BpmpPlatform
