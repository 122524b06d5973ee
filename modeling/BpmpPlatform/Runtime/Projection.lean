import BpmpPlatform.Runtime.SubscriptionRuns
import BpmpPlatform.Runtime.Emissions

/-! # Projected subscriptions

The boundary runtime releases all subscriptions of a task when it completes, where `evolve` waits for the event that
disarms them. After the last event of every decision the two agree.
-/
namespace BpmpPlatform
open Std Outcome DomainEvent List

def releaseAttached (subs : Subscriptions) (nodeId : NodeId) : Subscriptions :=
  subs.filter fun _ subscription => subscription.attachedNodeId != nodeId

def projectEvent (subs : Subscriptions) : DomainEvent → Subscriptions
  | .boundaryEventArmed boundaryEventId attachedNodeId targetNodeId cancelActivity trigger occurredAt =>
    subs.insert boundaryEventId ⟨attachedNodeId, targetNodeId, cancelActivity, trigger, occurredAt⟩
  | .boundaryEventsDisarmed _ [boundaryEventId] _ => subs.erase boundaryEventId
  | .boundaryEventsDisarmed attachedNodeId _ _ => releaseAttached subs attachedNodeId
  | .serviceTaskCompleted nodeId _ _ | .userTaskCompleted nodeId _ _ _ | .scriptTaskCompleted nodeId _
  | .multiInstanceCompleted nodeId _ _ _ => releaseAttached subs nodeId
  | .boundaryEventTriggered _ attachedNodeId _ true _ _ _ => releaseAttached subs attachedNodeId
  | .workflowCompleted _ | .workflowTerminatedForCompliance _ _ _ _ _ => ∅
  | _ => subs

def DomainEvent.isRelease : DomainEvent → Bool
  | .boundaryEventsDisarmed .. | .serviceTaskCompleted .. | .userTaskCompleted .. | .scriptTaskCompleted ..
  | .multiInstanceCompleted .. => true
  | _ => false

def Projects (events : List DomainEvent) (r r' : RoutingState) : Prop :=
  events.foldl projectEvent r.activeBoundarySubscriptions = r'.activeBoundarySubscriptions

variable {r r₁ r₂ : RoutingState} {n next : NodeId} {occurredAt : Nat} {d : WorkflowDefinition}
  {events : List DomainEvent} {engine : EnginePolicy} {s : InstanceState} {context : DecisionContext}

section Projects
variable {events later : List DomainEvent} {subs : Subscriptions}

theorem Projects.append (h₁ : Projects events r r₁) (h₂ : Projects later r₁ r₂) : Projects (events ++ later) r r₂ := by
  rw [Projects, foldl_append, h₁]
  exact h₂

theorem projectEvent_eq_routeEvent (r : RoutingState) {e : DomainEvent} (h : e.isRelease = false) :
    projectEvent r.activeBoundarySubscriptions e = (routeEvent r e).activeBoundarySubscriptions := by
  cases e with
  | boundaryEventTriggered _ _ _ cancelActivity => cases cancelActivity <;> rfl
  | boundaryEventsDisarmed | serviceTaskCompleted | userTaskCompleted | scriptTaskCompleted
  | multiInstanceCompleted => cases h
  | _ => rfl

/-- Without such events the projection follows `evolve` step by step. -/
theorem Projects.of_tracks (ht : Tracks events r r₁) (h : ∀ e ∈ events, e.isRelease = false) :
    Projects events r r₁ := by
  induction events generalizing r with
  | nil => rw [Tracks, foldl_nil] at ht; rw [ht]; rfl
  | cons e events ih =>
    rw [Projects, foldl_cons, projectEvent_eq_routeEvent r (h e (by simp))]
    exact ih ht fun e he => h e (by simp [he])

theorem releaseAttached_getElem? (subs : Subscriptions) (n id : NodeId) :
    (releaseAttached subs n)[id]? = subs[id]?.filter fun subscription => subscription.attachedNodeId != n :=
  ExtTreeMap.getElem?_filter'

theorem releaseAttached_idem (subs : Subscriptions) (n : NodeId) :
    releaseAttached (releaseAttached subs n) n = releaseAttached subs n := by
  refine ExtTreeMap.ext_getElem? fun id => ?_
  rw [releaseAttached_getElem?, releaseAttached_getElem?, Option.filter_filter]
  simp

theorem releaseAttached_eq_self
    (h : ∀ (id : NodeId) subscription, subs[id]? = some subscription → subscription.attachedNodeId ≠ n) :
    releaseAttached subs n = subs := by
  refine ExtTreeMap.ext_getElem? fun id => ?_
  rw [releaseAttached_getElem?]
  cases hs : subs[id]? with
  | none => rfl
  | some subscription => simp [h id subscription hs]

theorem disarmBoundaries_subscriptions (r : RoutingState) (n : NodeId) :
    (r.disarmBoundaries n).activeBoundarySubscriptions = releaseAttached r.activeBoundarySubscriptions n := by
  rw [disarmBoundaries_eq]
  rfl

/-- One id or many: the event that disarms a node releases the subscriptions attached to it. -/
theorem disarmBoundaryEvents_release (h : ∀ (id : NodeId) subscription, subs[id]? = some subscription →
      (subscription.attachedNodeId = n ↔ id ∈ r.armedFor n)) :
    (disarmBoundaryEvents n occurredAt r).1.foldl projectEvent subs = releaseAttached subs n := by
  rw [disarmBoundaryEvents]
  cases har : r.armedFor n with
  | nil =>
    rw [releaseAttached_eq_self]
    · rfl
    · intro id subscription hs hat
      have hin := (h id subscription hs).mp hat
      rw [har] at hin
      cases hin
  | cons id ids =>
    cases ids with
    | cons => rfl
    | nil =>
      refine ExtTreeMap.ext_getElem? fun id' => ?_
      simp only [isEmpty_cons, Bool.false_eq_true, ↓reduceIte, foldl_cons, foldl_nil, projectEvent]
      rw [getElem?_erase_eq, releaseAttached_getElem?]
      cases hs : subs[id']? with
      | none => simp
      | some subscription =>
        have hin := h id' subscription hs
        rw [har, mem_singleton] at hin
        rw [Option.filter_some]
        by_cases heq : id = id'
        · simp [heq, hin.mpr heq.symm]
        · simp [heq, mt hin.mp (Ne.symm heq)]

theorem disarmBoundaryEvents_projects : Projects (disarmBoundaryEvents n occurredAt r).1 r (r.disarmBoundaries n) := by
  rw [Projects, disarmBoundaries_subscriptions]
  refine disarmBoundaryEvents_release fun id subscription hs => ?_
  rw [mem_armedFor, hs]
  simp

theorem completion_projects {completed : DomainEvent}
    (hsu : r₁.activeBoundarySubscriptions = r.activeBoundarySubscriptions)
    (hco : projectEvent r.activeBoundarySubscriptions completed = releaseAttached r.activeBoundarySubscriptions n) :
    Projects (completed :: (disarmBoundaryEvents n occurredAt r₁).1) r (r₁.disarmBoundaries n) := by
  rw [Projects, disarmBoundaries_subscriptions, foldl_cons, hco, hsu, disarmBoundaryEvents_release,
    releaseAttached_idem]
  intro id subscription hs
  rw [releaseAttached_getElem?, Option.filter_eq_some_iff] at hs
  obtain ⟨hs,hat⟩ := hs
  rw [mem_armedFor, hsu, hs]
  simp

end Projects

def IterationsGuarded (d : WorkflowDefinition) (r : RoutingState) : Prop :=
  ∀ (id : NodeId) subscription, r.activeBoundarySubscriptions[id]? = some subscription →
    (d.nodes[subscription.attachedNodeId]?.any fun node => node.activityNext.isSome) = true →
    d.multiInstance subscription.attachedNodeId ≠ none →
    r.activeMultiInstances[subscription.attachedNodeId]? ≠ none

section Guarded

theorem IterationsGuarded.of_subscriptions (h : IterationsGuarded d r)
    (hsu : r₁.activeBoundarySubscriptions = r.activeBoundarySubscriptions)
    (hmi : ∀ m : NodeId, r.activeMultiInstances[m]? ≠ none → r₁.activeMultiInstances[m]? ≠ none) :
    IterationsGuarded d r₁ := by
  intro id subscription hs hn hsp
  exact hmi _ (h id subscription (hsu ▸ hs) hn hsp)

theorem insert_ne_none {multi : ExtTreeMap NodeId ActiveMultiInstance} (n : NodeId) (active : ActiveMultiInstance)
    (m : NodeId) (h : multi[m]? ≠ none) : (multi.insert n active)[m]? ≠ none := by
  rw [getElem?_insert_eq]
  split
  · simp
  · exact h

theorem IterationsGuarded.disarm (h : IterationsGuarded d r)
    (hsu : r₁.activeBoundarySubscriptions = r.activeBoundarySubscriptions)
    (hmi : ∀ m : NodeId, m ≠ n → r.activeMultiInstances[m]? ≠ none → r₁.activeMultiInstances[m]? ≠ none) :
    IterationsGuarded d (r₁.disarmBoundaries n) := by
  intro id subscription hs hn hsp
  rw [disarmBoundaries_subscriptions, hsu, releaseAttached_getElem?, Option.filter_eq_some_iff] at hs
  obtain ⟨hs,hne⟩ := hs
  exact hmi _ (by simpa using hne) (h id subscription hs hn hsp)

/-- Arming a node is guarded unless the node is a multi-instance activity that is not running. -/
theorem IterationsGuarded.arm (h : IterationsGuarded d r)
    (harm : armBoundaryEvents d n occurredAt r₁ = .ok (events, r₂))
    (hsu : r₁.activeBoundarySubscriptions = r.activeBoundarySubscriptions)
    (hmi : ∀ m : NodeId, r.activeMultiInstances[m]? ≠ none → r₁.activeMultiInstances[m]? ≠ none)
    (hn : (d.nodes[n]?.any fun node => node.activityNext.isSome) = true → d.multiInstance n ≠ none →
      r₁.activeMultiInstances[n]? ≠ none) : IterationsGuarded d r₂ := by
  have hf : r₂.activeMultiInstances = r₁.activeMultiInstances := by rw [armBoundaryEvents_frame harm]
  intro id subscription hs hno hsp
  rw [hf]
  rcases (armAll_spec harm).2.2.2 id subscription hs with hold | hnew
  · exact h.of_subscriptions hsu hmi id subscription hold hno hsp
  · subst hnew
    exact hn hno hsp

end Guarded

theorem armBoundaryEvents_projects {d : WorkflowDefinition} {r r₁ : RoutingState} {n : NodeId} {occurredAt : Nat}
    {events : List DomainEvent} (h : armBoundaryEvents d n occurredAt r = .ok (events, r₁)) : Projects events r r₁ :=
  .of_tracks (armBoundaryEvents_tracks h) (armBoundaryEvents_forall h fun _ _ => rfl)

section Steps
variable {current : NodeId} {scope : Option ScopeInstanceId} {p p' : Progress} {r : RoutingState}

theorem Activates.projects (h : Activates d engine occurredAt current scope p events p')
    (hg : IterationsGuarded d p.routing) : Projects events p.routing p'.routing ∧ IterationsGuarded d p'.routing := by
  have plain (hev : ∀ e ∈ events, e.isRelease = false) : Projects events p.routing p'.routing :=
    .of_tracks h.tracks hev
  cases h with
  | task hn hact hmi he ht ha =>
    refine ⟨?_,?_⟩
    · refine .append (.of_tracks (Tracks.single (activateTask_tracks he ht)) ?_) (armBoundaryEvents_projects ha)
      cases he <;> simp [isRelease]
    · obtain ⟨_,rfl⟩ := activateTask_eq_ok.mp ht
      exact hg.arm ha rfl (fun _ hm => hm) fun _ hsp => absurd hmi hsp
  | multiInstance hn hact hmi hs ha =>
    refine ⟨?_,?_⟩
    · refine .append (.of_tracks (startMultiInstance_tracks hs) ?_) (armBoundaryEvents_projects ha)
      obtain ⟨_,_,_,⟨-,hab,-⟩ | ⟨-,-,later,rfl,hit⟩⟩ := startMultiInstance_cases hs
      · cases hab
      · exact forall_mem_cons.mpr ⟨rfl,(activateIterations_spec hit).2.1 fun _ _ _ => rfl⟩
    · obtain ⟨_,active,rfl⟩ := startMultiInstance_runs hs
      refine hg.arm ha rfl (insert_ne_none _ active) fun _ _ => ?_
      rw [RoutingState.withMultiInstance, getElem?_insert_eq, if_pos rfl]
      simp
  | emptyMultiInstance hn hact hmi hs =>
    obtain ⟨_,_,hst,⟨-,-,rfl,rfl⟩ | ⟨-,hab,-⟩⟩ := startMultiInstance_cases hs
    · refine ⟨releaseAttached_eq_self fun id subscription hget hat => ?_,hg⟩
      subst hat
      exact hg id subscription hget (by rw [hn]; simp [hact]) (by rw [hmi]; simp) hst.fresh
    · cases hab
  | decision => exact ⟨plain (by simp [isRelease]),hg⟩
  | scopeEnd hn ho hs hc =>
    obtain ⟨_,_,rfl⟩ := completeScope_eq_ok.mp hc
    exact ⟨disarmBoundaryEvents_projects,hg.disarm rfl fun _ _ hm => hm⟩
  | branchEnd | completed => exact ⟨plain (by simp [isRelease]),hg⟩
  | start | exclusive => exact ⟨rfl,hg⟩
  | split hn hs ho =>
    obtain ⟨_,_,rfl⟩ := openJoin_eq_ok.mp ho
    exact ⟨rfl,hg.of_subscriptions rfl fun _ hm => hm⟩
  | arrive hn hj ha =>
    obtain ⟨_,_,_,rfl⟩ := arrive_open ha
    exact ⟨rfl,hg.of_subscriptions rfl fun _ hm => hm⟩
  | join hn hj ha =>
    obtain ⟨_,_,_,hcl⟩ := arrive_close ha
    simp only [hcl]
    exact ⟨rfl,hg.of_subscriptions rfl fun _ hm => hm⟩
  | enter hn he ha =>
    refine ⟨?_,?_⟩
    · refine .append (.of_tracks (Tracks.single (enterScope_tracks he)) ?_) (armBoundaryEvents_projects ha)
      simp [isRelease]
    · obtain ⟨_,_,_,_,rfl⟩ := enterScope_eq_ok.mp he
      refine hg.arm ha rfl (fun _ hm => hm) fun hno => ?_
      rw [hn] at hno
      cases hno

theorem Runs.projects (h : Runs d engine occurredAt p events r) (hg : IterationsGuarded d p.routing) :
    Projects events p.routing r ∧ IterationsGuarded d r := by
  induction h with
  | done => exact ⟨rfl,hg⟩
  | step hp ha hr ih =>
    obtain ⟨hpr,hg'⟩ := ha.projects hg
    obtain ⟨hl,hg''⟩ := ih hg'
    exact ⟨hpr.append hl,hg''⟩

end Steps

section Decisions
variable {command : Command} {r : RoutingState}

theorem projects_of_isCase (h : ∀ e ∈ events, e.isCase = true) (r : RoutingState) : Projects events r r := by
  refine .of_tracks (tracks_of_isCase h r) fun e he => ?_
  have hc := h e he
  cases e <;> first | rfl | cases hc

theorem IterationOutcome.projects {nodeId : NodeId} {occurredAt : Nat} {r₁ : RoutingState}
    (h : IterationOutcome d s context nodeId next occurredAt r₁ events r) (hg : IterationsGuarded d r₁) :
    Projects events r₁ r ∧ IterationsGuarded d r := by
  cases h with
  | finished hs hr =>
    have hfi : IterationsGuarded d ((r₁.finishMultiInstance nodeId).disarmBoundaries nodeId) := by
      refine hg.disarm rfl fun m hm hact => ?_
      rw [RoutingState.finishMultiInstance, getElem?_erase_eq, if_neg (Ne.symm hm)]
      exact hact
    obtain ⟨hrun,hg'⟩ := hr.projects hfi
    exact ⟨.append (completion_projects rfl rfl) hrun,hg'⟩
  | advanced ha =>
    obtain ⟨active,_,_,_,_,rfl,_⟩ := activateNextMultiInstance_eq_ok.mp ha
    exact ⟨rfl,hg.of_subscriptions rfl (insert_ne_none _ _)⟩
  | waiting => exact ⟨rfl,hg⟩

theorem Decides.projects (hpos : TokensPositive s.routing) (hg : IterationsGuarded d s.routing)
    (h : Decides d s context command events r) : Projects events s.routing r ∧ IterationsGuarded d r := by
  cases h with
  | activateCase h => exact ⟨projects_of_isCase (activateCase_isCase h) _,hg⟩
  | evaluateCaseSentries h => exact ⟨projects_of_isCase (evaluateCaseSentries_isCase h) _,hg⟩
  | start hl hn hr => exact hr.projects hg
  | task hl hn hact he hc hs hr =>
    obtain ⟨_,_,rfl⟩ := completeTask_eq_ok.mp hc
    obtain ⟨hrun,hg'⟩ := hr.projects (hg.disarm rfl fun _ _ hm => hm)
    refine ⟨.append (completion_projects rfl ?_) hrun,hg'⟩
    cases he <;> rfl
  | @iteration nodeId _ _ iteration _ _ _ _ _ _ hl hn hact hmi hc ho =>
    obtain ⟨active,ha,_,rfl,_⟩ := completeMultiInstanceIteration_eq_ok.mp hc
    obtain ⟨hp,hg'⟩ := ho.projects
      (hg.of_subscriptions rfl (insert_ne_none nodeId (active.retire iteration)))
    exact ⟨hp,hg'⟩
  | @trigger _ _ subscription _ boundary _ _ r₁ _ _ _ _ hl hsub hb hm ho hi hu hr₁ hs hr =>
    have hg₁ : IterationsGuarded d r₁ := by
      cases hca : boundary.cancelActivity with
      | true =>
        rw [hca] at hr₁
        rw [interruptActivity_routing hpos hr₁]
        refine hg.disarm rfl fun m hm hac => ?_
        rw [getElem?_erase_eq, if_neg (Ne.symm hm)]
        exact hac
      | false =>
        rw [hca] at hr₁
        cases hr₁
        exact hg
    obtain ⟨hrun,hg'⟩ := hr.projects hg₁
    refine ⟨.append (.of_tracks (Tracks.cons (interruptActivity_tracks hpos hr₁) (tracks_cancelled hu _)) ?_) hrun,hg'⟩
    rcases hu with rfl | ⟨reason,rfl⟩ <;> simp [isRelease]

/-- Projecting the events of a run from nothing gives the subscriptions of the state it leads to, whenever
the last decision is projected to its end. -/
theorem History.projects {batches : List (List DomainEvent)} (h : History d s batches) :
    batches.flatten.foldl projectEvent ∅ = s.activeBoundarySubscriptions ∧ IterationsGuarded d s.routing := by
  induction h with
  | initial => exact ⟨rfl,fun id subscription hs => by simp [InstanceState.routing] at hs⟩
  | @step s batches command context events hs hdec ih =>
    obtain ⟨hp,hg⟩ := ih
    obtain ⟨r,hr⟩ := decideEvents_eq_ok.mp hdec
    obtain ⟨hb,hg'⟩ := (decideRouting_decides hr).projects hs.reachable.tokensPositive hg
    have hag := decideRouting_agrees hs.reachable hr
    rw [hag]
    refine ⟨?_,hg'⟩
    rw [flatten_append, foldl_append, hp, flatten_singleton]
    exact hb.trans (congrArg RoutingState.activeBoundarySubscriptions hag.symm)

end Decisions

/-- An event after the start of a workflow; the boundary event it arms, if any, is one of the definition. -/
def DomainEvent.ContinuesIn (d : WorkflowDefinition) : DomainEvent → Prop
  | .boundaryEventArmed _ attachedNodeId _ _ trigger _ => ∃ b ∈ d.boundaryEvents attachedNodeId, b.trigger = trigger
  | .workflowStarted _ _ _ _ _ => False
  | _ => True

section Arming
variable {e : DomainEvent} {r r₁ : RoutingState}

/-- Every event of a decision continues the instance, or starts it for the tenant of the definition. -/
theorem decideEvents_continuesIn {command : Command}
    (h : decideEvents d s command context = .ok events) (he : e ∈ events) : e.ContinuesIn d ∨ ∃ occurredAt,
      e = .workflowStarted d.tenantId d.workflowType d.workflowVersion d.startNode occurredAt := by
  cases decideEvents_emits h e he with
  | plain hp =>
    cases e with
    | boundaryEventArmed | workflowStarted => cases hp
    | _ => exact .inl trivial
  | started _ ht =>
    subst ht
    exact .inr ⟨_,rfl⟩
  | armed hb => exact .inl ⟨_,hb,rfl⟩
  | _ => exact .inl trivial

end Arming
end BpmpPlatform
