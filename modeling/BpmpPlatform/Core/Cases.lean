import BpmpPlatform.Core.Activation

/-! # Case commands

`activate_case` and `evaluate_case_sentries`: they emit case events and never touch the routing state.
-/
namespace BpmpPlatform
open Std Outcome

def stateVariablesWithContext (state : InstanceState) (contextVariables : Variables) : Variables :=
  state.vars.insertMany contextVariables.toList

def activateCase (d : WorkflowDefinition) (state : InstanceState) (caseId : CaseId)
    (caseModelId : CaseModelId) (occurredAt : Nat) : Except DomainError (List DomainEvent) := do
  ensure (!state.activeCases.contains caseId) (.caseAlreadyActivated caseId)
  let model ← d.caseModel caseModelId
  let started := (model.stages.filter fun stage => stage.entrySentryIds.isEmpty).map fun stage =>
    DomainEvent.casePlanItemTransitioned caseId stage.id .stage .active [] occurredAt
  return .caseActivated caseId caseModelId (model.stages.map CaseStageDefinition.id)
    (model.milestones.map CaseMilestoneDefinition.id) occurredAt :: started

def satisfySentries (caseId : CaseId) (vars : Variables) (occurredAt : Nat) :
    ExtTreeSet SentryId → List CaseSentryDefinition →
      Except DomainError (ExtTreeSet SentryId × List DomainEvent)
  | satisfied, [] => .ok (satisfied, [])
  | satisfied, sentry :: rest =>
    if satisfied.contains sentry.id then satisfySentries caseId vars occurredAt satisfied rest
    else do
      if ← sentry.condition.evaluate vars then
        let (satisfied, events) ←
          satisfySentries caseId vars occurredAt (satisfied.insert sentry.id) rest
        return (satisfied, .caseSentrySatisfied caseId sentry.id occurredAt :: events)
      else
        satisfySentries caseId vars occurredAt satisfied rest

def anySentrySatisfied (ids : List SentryId) (satisfied : ExtTreeSet SentryId) : Bool :=
  ids.any satisfied.contains

abbrev PlanItems := ExtTreeMap PlanItemId CasePlanItemState

/-- `push_case_transition`, made when the condition of its caller holds. -/
def pushCaseTransition (condition : Bool) (caseId : CaseId) (planItemId : PlanItemId)
    (kind : CasePlanItemKind) (status : CasePlanItemStatus) (governing : List SentryId)
    (satisfied : ExtTreeSet SentryId) (occurredAt : Nat) (projected : PlanItems) :
    PlanItems × List DomainEvent :=
  if condition then
    (projected.insert planItemId ⟨kind, status⟩,
      [.casePlanItemTransitioned caseId planItemId kind status
        (governing.filter satisfied.contains) occurredAt])
  else (projected, [])

def transitionStages (caseId : CaseId) (satisfied : ExtTreeSet SentryId) (occurredAt : Nat) :
    PlanItems → List CaseStageDefinition → Except DomainError (PlanItems × List DomainEvent)
  | projected, [] => .ok (projected, [])
  | projected, stage :: rest => do
    let current ← okOr (.unknownCasePlanItem stage.id) projected[stage.id]?
    let (projected, entered) := pushCaseTransition
      (current.status = .available && anySentrySatisfied stage.entrySentryIds satisfied)
      caseId stage.id .stage .active stage.entrySentryIds satisfied occurredAt projected
    let (projected, exited) := pushCaseTransition
      ((projected[stage.id]?.map CasePlanItemState.status) = some .active &&
        !stage.exitSentryIds.isEmpty && anySentrySatisfied stage.exitSentryIds satisfied)
      caseId stage.id .stage .completed stage.exitSentryIds satisfied occurredAt projected
    let (projected, later) ← transitionStages caseId satisfied occurredAt projected rest
    return (projected, entered ++ exited ++ later)

def transitionMilestones (caseId : CaseId) (satisfied : ExtTreeSet SentryId) (occurredAt : Nat) :
    PlanItems → List CaseMilestoneDefinition → Except DomainError (PlanItems × List DomainEvent)
  | projected, [] => .ok (projected, [])
  | projected, milestone :: rest => do
    let current ← okOr (.unknownCasePlanItem milestone.id) projected[milestone.id]?
    let (projected, reached) := pushCaseTransition
      (current.status = .available && !milestone.entrySentryIds.isEmpty &&
        anySentrySatisfied milestone.entrySentryIds satisfied)
      caseId milestone.id .milestone .completed milestone.entrySentryIds satisfied occurredAt projected
    let (projected, later) ← transitionMilestones caseId satisfied occurredAt projected rest
    return (projected, reached ++ later)

def evaluateCaseSentries (d : WorkflowDefinition) (state : InstanceState) (caseId : CaseId)
    (facts : Variables) (occurredAt : Nat) : Except DomainError (List DomainEvent) := do
  let active ← okOr (.caseNotActive caseId) state.activeCases[caseId]?
  ensure (active.lifecycle != .completed) (.caseAlreadyCompleted caseId)
  let model ← d.caseModel active.modelId
  let vars := stateVariablesWithContext state facts
  let (satisfied, events) ←
    satisfySentries caseId vars occurredAt active.satisfiedSentries model.sentries
  ensure (!events.isEmpty) (.noCaseSentrySatisfied caseId)
  let (projected, staged) ← transitionStages caseId satisfied occurredAt active.planItems model.stages
  let (projected, reached) ←
    transitionMilestones caseId satisfied occurredAt projected model.milestones
  let finished := !projected.isEmpty &&
    projected.toList.all fun entry => entry.2.status = .completed
  return events ++ staged ++ reached ++ if finished then [.caseCompleted caseId occurredAt] else []

end BpmpPlatform
