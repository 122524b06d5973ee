import BpmpPlatform.Runtime.CompletionRuns

/-! # Compliance termination

`decide` looks at the case commands before it looks at the lifecycle, so a terminated instance still
accepts the activation of a case. It accepts nothing else.
-/
namespace BpmpPlatform
open Std Outcome

def CaseDefinition.openStages (model : CaseDefinition) : List CaseStageDefinition :=
  model.stages.filter fun stage => stage.entrySentryIds.isEmpty

/-- The command activates a case model of the definition, and the events fit the configured limit. -/
def OpensCase (d : WorkflowDefinition) (command : Command) (context : DecisionContext) : Prop :=
  ∃ caseId modelId occurredAt model, command = .activateCase caseId modelId occurredAt ∧
    d.caseModels[modelId]? = some model ∧
    1 + model.openStages.length ≤ min u32Max context.engine.maxEventsPerDecision

structure Fenced (s : InstanceState) : Prop where
  lifecycle : s.lifecycle = .terminatedForCompliance
  cases_empty : s.activeCases = ∅
  tokens_empty : s.activeTokens = ∅
  joins_empty : s.pendingGatewayJoins = ∅
  multiInstances_empty : s.activeMultiInstances = ∅
  subscriptions_empty : s.activeBoundarySubscriptions = ∅
  scopes_empty : s.activeScopes = ∅

section Fence
variable {d : WorkflowDefinition} {s : InstanceState} {context : DecisionContext} {command : Command}
  {modelId : CaseModelId}

theorem isOk_iff_not_error {ε α : Type} {x : Except ε α} : (∃ a, x = .ok a) ↔ ¬∃ e, x = .error e := by
  cases x <;> simp

theorem activateCase_fenced_ok (hf : Fenced s) (caseId : CaseId) (occurredAt : Nat) {model : CaseDefinition}
    (hm : d.caseModels[modelId]? = some model) :
    ∃ events, activateCase d s caseId modelId occurredAt = .ok events ∧
      events.length = 1 + model.openStages.length := by
  have hfr : (!s.activeCases.contains caseId) = true := by simp [hf.cases_empty]
  simp only [activateCase, WorkflowDefinition.caseModel, bind_eq_ok, ensure_eq_ok, okOr_eq_ok,
    pure_eq_ok]
  refine ⟨_,⟨(),hfr,model,hm,rfl⟩,?_⟩
  rw [List.length_cons, List.length_map, CaseDefinition.openStages]
  omega

/-- In a fenced state the only commands that succeed are case activations that fit the limit. -/
theorem decideEvents_fenced_iff (hf : Fenced s) :
    (∃ events, decideEvents d s command context = .ok events) ↔ OpensCase d command context := by
  have hlim : ∀ events : List DomainEvent,
      (decide (events.length ≤ u32Max) && decide (events.length ≤ context.engine.maxEventsPerDecision)) = true ↔
        events.length ≤ min u32Max context.engine.maxEventsPerDecision := by
    intro events
    simp only [Bool.and_eq_true, decide_eq_true_eq, Nat.le_min]
  have hok : ∀ {events : List DomainEvent},
      decideEvents d s command context = .ok events ↔ ∃ r, decideUnbounded d s command context = .ok (events, r) ∧
        events.length ≤ min u32Max context.engine.maxEventsPerDecision := by
    intro events
    rw [decideEvents_eq_ok]
    simp only [decideRouting, bind_eq_ok, ensure_eq_ok, hlim, pure_eq_ok, Prod.mk.injEq]
    constructor
    · rintro ⟨r,⟨es,r'⟩,h,_,hl,rfl,rfl⟩; exact ⟨_,h,hl⟩
    · rintro ⟨r,h,hl⟩; exact ⟨r,(events,r),h,(),hl,rfl,rfl⟩
  simp only [hok]
  constructor
  · rintro ⟨events,r,h,hl⟩
    cases decideUnbounded_decides h with
    | activateCase hc =>
      simp only [activateCase, WorkflowDefinition.caseModel, bind_eq_ok, okOr_eq_ok] at hc
      obtain ⟨_,_,model,hm,⟨⟩⟩ := hc
      rw [List.length_cons, List.length_map] at hl
      exact ⟨_,_,_,model,rfl,hm,by rw [CaseDefinition.openStages]; omega⟩
    | evaluateCaseSentries hc =>
      simp [evaluateCaseSentries, hf.cases_empty, okOr] at hc
    | start hl' | task hl' | iteration hl' | trigger hl' => rw [hf.lifecycle] at hl'; cases hl'
  · rintro ⟨caseId,modelId,occurredAt,model,rfl,hm,hl⟩
    obtain ⟨events,h,hlen⟩ := activateCase_fenced_ok hf caseId occurredAt hm
    refine ⟨events,s.routing,?_,by omega⟩
    simp only [decideUnbounded, h]
    rfl

theorem RunsWhile.fenced (hf : Fenced s) {t : InstanceState}
    (h : RunsWhile d (fun command context => ¬OpensCase d command context) s t) : t = s := by
  induction h with
  | refl => rfl
  | step h ha hdec ih =>
    subst ih
    exact absurd ((decideEvents_fenced_iff hf).mp ⟨_,hdec⟩) ha

/-- After a compliance termination a command fails exactly when it does not activate a case model of the
definition within the event limit, and as long as no such command is given the state stays as it is, with
nothing executable in it. -/
theorem compliance_fence_iff (s : InstanceState) (policyId : String) (digest : Vector UInt8 32)
    (reasonCode : String) (count occurredAt : Nat) :
    let fenced := evolve s (.workflowTerminatedForCompliance policyId digest reasonCode count occurredAt)
    (∀ command context, (∃ e, decideEvents d fenced command context = .error e) ↔ ¬OpensCase d command context) ∧
    (∀ t, RunsWhile d (fun command context => ¬OpensCase d command context) fenced t → t = fenced ∧ Fenced t) := by
  intro fenced
  have hf : Fenced fenced := ⟨rfl,rfl,rfl,rfl,rfl,rfl,rfl⟩
  constructor
  · intro command context
    rw [← decideEvents_fenced_iff hf, isOk_iff_not_error, not_not]
  · intro t h
    have ht := h.fenced hf
    exact ⟨ht,ht ▸ hf⟩

end Fence

namespace Sample

def caseInput : DefinitionInput :=
  { reviewInput with contracts := { caseModels :=
      [⟨.lit "claim", "Claim", [⟨.lit "intake", "Intake", [], []⟩], [], []⟩] } }

def caseReview : WorkflowDefinition := build caseInput (by decide)

def startedReview : InstanceState :=
  [DomainEvent.workflowStarted (.lit "tenant-a") (.lit "review") (.lit "1") (.lit "start") 5,
    .serviceTaskActivated (.lit "review") (.lit "check") 5].foldl evolve {}

theorem startedReview_reachable : Reachable caseReview startedReview := by
  have h : decideEvents caseReview {} (.startWorkflow (.lit "tenant-a") 5) context =
      .ok [.workflowStarted (.lit "tenant-a") (.lit "review") (.lit "1") (.lit "start") 5,
        .serviceTaskActivated (.lit "review") (.lit "check") 5] := by rfl
  exact .step .initial h

end Sample

open Sample

/-- A running instance is terminated, and then a case is activated: two events are produced and the
case stays in the state. -/
theorem compliance_fence_open_to_cases :
    let fenced := evolve startedReview
      (.workflowTerminatedForCompliance "retention" (Vector.replicate 32 7) "erasure" 0 6)
    caseReview.Accepted ∧ Reachable caseReview startedReview ∧
    decideEvents caseReview fenced (.activateCase (.lit "case-1") (.lit "claim") 7) context =
      .ok [.caseActivated (.lit "case-1") (.lit "claim") [.lit "intake"] [] 7,
        .casePlanItemTransitioned (.lit "case-1") (.lit "intake") .stage .active [] 7] ∧
    ([DomainEvent.caseActivated (.lit "case-1") (.lit "claim") [.lit "intake"] [] 7,
      .casePlanItemTransitioned (.lit "case-1") (.lit "intake") .stage .active [] 7].foldl evolve
        fenced).activeCases.keys = [.lit "case-1"] :=
  ⟨build_accepted _ _,startedReview_reachable,rfl,rfl⟩

end BpmpPlatform
