import BpmpPlatform.Runtime.Decisions

/-! # Case commands emit case events only

A case event changes the cases of an instance and nothing else.
-/
namespace BpmpPlatform
open Std Outcome List

def DomainEvent.isCase : DomainEvent → Bool
  | .caseActivated .. | .caseSentrySatisfied .. | .casePlanItemTransitioned .. | .caseCompleted .. => true
  | _ => false

def Command.isCase : Command → Bool
  | .activateCase .. | .evaluateCaseSentries .. => true
  | _ => false

variable {e : DomainEvent} {events : List DomainEvent}

theorem applyEvent_of_isCase (h : e.isCase = true) (s : InstanceState) :
    applyEvent s e = { s with activeCases := (applyEvent s e).activeCases } := by
  cases e with
  | caseActivated | caseSentrySatisfied | casePlanItemTransitioned | caseCompleted => rfl
  | _ => cases h

theorem evolve_lifecycle_of_isCase (h : e.isCase = true) (s : InstanceState) :
    (evolve s e).lifecycle = s.lifecycle := by
  rw [evolve, applyEvent_of_isCase h]

theorem routeEvent_of_isCase (h : e.isCase = true) (r : RoutingState) : routeEvent r e = r := by
  rw [routeEvent, applyEvent_of_isCase h]
  rfl

theorem tracks_of_isCase (h : ∀ e ∈ events, e.isCase = true) (r : RoutingState) : Tracks events r r := by
  induction events with
  | nil => exact Tracks.nil r
  | cons e events ih =>
    exact Tracks.cons (routeEvent_of_isCase (h e (by simp)) r) (ih fun e he => h e (by simp [he]))

theorem foldl_evolve_lifecycle_of_isCase (h : ∀ e ∈ events, e.isCase = true) (s : InstanceState) :
    (events.foldl evolve s).lifecycle = s.lifecycle := by
  induction events generalizing s with
  | nil => rfl
  | cons e events ih =>
    rw [foldl_cons, ih (fun e he => h e (by simp [he])), evolve_lifecycle_of_isCase (h e (by simp))]

section Commands
variable {d : WorkflowDefinition} {s : InstanceState} {caseId : CaseId} {occurredAt : Nat}
  {events : List DomainEvent}

theorem activateCase_isCase {modelId : CaseModelId}
    (h : activateCase d s caseId modelId occurredAt = .ok events) : ∀ e ∈ events, e.isCase = true := by
  simp only [activateCase, bind_eq_ok] at h
  obtain ⟨_,_,model,_,⟨⟩⟩ := h
  intro e he
  rcases mem_cons.mp he with rfl | he
  · rfl
  · obtain ⟨stage,_,rfl⟩ := mem_map.mp he
    rfl

variable {satisfied : ExtTreeSet SentryId} {projected projected' : PlanItems}

theorem satisfySentries_isCase {vars : Variables} {satisfied' : ExtTreeSet SentryId}
    {sentries : List CaseSentryDefinition}
    (h : satisfySentries caseId vars occurredAt satisfied sentries = .ok (satisfied', events)) :
    ∀ e ∈ events, e.isCase = true := by
  induction sentries generalizing satisfied events with
  | nil => cases h; simp
  | cons sentry rest ih =>
    simp only [satisfySentries] at h
    split at h
    · exact ih h
    · simp only [bind_eq_ok] at h
      obtain ⟨holds,_,h⟩ := h
      cases holds with
      | false => exact ih h
      | true =>
        simp only [↓reduceIte, bind_eq_ok] at h
        obtain ⟨⟨later,es⟩,hl,⟨⟩⟩ := h
        exact forall_mem_cons.mpr ⟨rfl,ih hl⟩

theorem pushCaseTransition_isCase {condition : Bool} {planItemId : PlanItemId} {kind : CasePlanItemKind}
    {status : CasePlanItemStatus} {governing : List SentryId} {e : DomainEvent}
    (he : e ∈ (pushCaseTransition condition caseId planItemId kind status governing satisfied occurredAt
      projected).2) : e.isCase = true := by
  cases condition with
  | true => rw [mem_singleton.mp he]; rfl
  | false => simp [pushCaseTransition] at he

theorem transitionStages_isCase {stages : List CaseStageDefinition}
    (h : transitionStages caseId satisfied occurredAt projected stages = .ok (projected', events)) :
    ∀ e ∈ events, e.isCase = true := by
  induction stages generalizing projected events with
  | nil => cases h; simp
  | cons stage rest ih =>
    simp only [transitionStages, bind_eq_ok] at h
    obtain ⟨current,_,⟨_,later⟩,hl,⟨⟩⟩ := h
    simp only [forall_mem_append]
    exact ⟨⟨fun _ he => pushCaseTransition_isCase he,fun _ he => pushCaseTransition_isCase he⟩,ih hl⟩

theorem transitionMilestones_isCase {milestones : List CaseMilestoneDefinition}
    (h : transitionMilestones caseId satisfied occurredAt projected milestones = .ok (projected', events)) :
    ∀ e ∈ events, e.isCase = true := by
  induction milestones generalizing projected events with
  | nil => cases h; simp
  | cons milestone rest ih =>
    simp only [transitionMilestones, bind_eq_ok] at h
    obtain ⟨current,_,⟨_,later⟩,hl,⟨⟩⟩ := h
    exact forall_mem_append.mpr ⟨fun _ he => pushCaseTransition_isCase he,ih hl⟩

theorem evaluateCaseSentries_isCase {facts : Variables}
    (h : evaluateCaseSentries d s caseId facts occurredAt = .ok events) : ∀ e ∈ events, e.isCase = true := by
  simp only [evaluateCaseSentries, bind_eq_ok] at h
  obtain ⟨_,_,_,_,_,_,⟨_,sentryEvents⟩,hs,_,_,⟨_,stageEvents⟩,hst,⟨_,milestoneEvents⟩,hm,⟨⟩⟩ := h
  simp only [forall_mem_append]
  refine ⟨⟨⟨satisfySentries_isCase hs,transitionStages_isCase hst⟩,transitionMilestones_isCase hm⟩,?_⟩
  split
  · exact forall_mem_singleton.mpr rfl
  · exact forall_mem_nil _

end Commands

end BpmpPlatform
