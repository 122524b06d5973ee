import BpmpPlatform.Core.Decide

/-! # Events track the routing state

The routing part of `evolve` depends on the routing part alone. Every operation of the routing state is tracked by the
events emitted with it.
-/
namespace BpmpPlatform
open Std Outcome RoutingState InstanceState

def RoutingState.toState (r : RoutingState) : InstanceState where
  activeTokens := r.activeTokens
  pendingGatewayJoins := r.pendingJoins
  activeMultiInstances := r.activeMultiInstances
  activeBoundarySubscriptions := r.activeBoundarySubscriptions
  activeScopes := r.activeScopes
  scopeInvocationCounts := r.scopeInvocationCounts

/-- The routing part of `evolve`. -/
def routeEvent (r : RoutingState) (event : DomainEvent) : RoutingState :=
  (applyEvent r.toState event).routing

theorem evolve_routing (s : InstanceState) (event : DomainEvent) :
    (evolve s event).routing = routeEvent s.routing event := by
  cases event with
  | boundaryEventTriggered _ _ _ cancelActivity => cases cancelActivity <;> rfl
  | _ => rfl

def Tracks (events : List DomainEvent) (r r' : RoutingState) : Prop :=
  events.foldl routeEvent r = r'

theorem foldl_evolve_routing (events : List DomainEvent) (s : InstanceState) :
    Tracks events s.routing (events.foldl evolve s).routing := by
  induction events generalizing s with
  | nil => rfl
  | cons event events ih =>
    have h := ih (evolve s event)
    rw [evolve_routing] at h
    exact h

namespace Tracks
variable {r r₁ r₂ : RoutingState} {es fs : List DomainEvent} {e : DomainEvent}

theorem nil (r : RoutingState) : Tracks [] r r := rfl

theorem cons (h₁ : routeEvent r e = r₁) (h₂ : Tracks es r₁ r₂) : Tracks (e :: es) r r₂ := by
  subst h₁; exact h₂

theorem append (h₁ : Tracks es r r₁) (h₂ : Tracks fs r₁ r₂) : Tracks (es ++ fs) r r₂ := by
  subst h₁
  rw [Tracks, List.foldl_append]
  exact h₂

theorem single (h : routeEvent r e = r₁) : Tracks [e] r r₁ := h

end Tracks

def EachEvent (fits : RoutingState → DomainEvent → Prop) : RoutingState → List DomainEvent → Prop
  | _, [] => True
  | r, e :: es => fits r e ∧ EachEvent fits (routeEvent r e) es

section EachEvent
variable {fits : RoutingState → DomainEvent → Prop} {r r₁ : RoutingState} {es fs : List DomainEvent} {e : DomainEvent}

theorem EachEvent.append (h₁ : EachEvent fits r es) (ht : Tracks es r r₁) (h₂ : EachEvent fits r₁ fs) :
    EachEvent fits r (es ++ fs) := by
  induction es generalizing r with
  | nil => cases ht; exact h₂
  | cons e es ih => exact ⟨h₁.1,ih h₁.2 ht⟩

theorem eachEvent_of_forall (h : ∀ e ∈ es, ∀ r, fits r e) : EachEvent fits r es := by
  induction es generalizing r with
  | nil => trivial
  | cons e es ih => exact ⟨h e (by simp) r,ih fun e he => h e (by simp [he])⟩

theorem EachEvent.at {before after : List DomainEvent} (h : EachEvent fits r (before ++ e :: after)) :
    fits (before.foldl routeEvent r) e := by
  induction before generalizing r with
  | nil => exact h.1
  | cons e' before ih => exact ih h.2

theorem EachEvent.drop (before : List DomainEvent) (h : EachEvent fits r (before ++ es)) :
    EachEvent fits (before.foldl routeEvent r) es := by
  induction before generalizing r with
  | nil => exact h
  | cons e before ih => exact ih h.2

theorem EachEvent.take (h : EachEvent fits r (es ++ fs)) : EachEvent fits r es := by
  induction es generalizing r with
  | nil => trivial
  | cons e es ih => exact ⟨h.1,ih h.2⟩

end EachEvent

inductive TaskActivation (nodeId : NodeId) : DomainEvent → Prop
  | service {taskType occurredAt} : TaskActivation nodeId (.serviceTaskActivated nodeId taskType occurredAt)
  | user {taskType policy formKey occurredAt} :
      TaskActivation nodeId (.userTaskActivated nodeId taskType policy formKey occurredAt)
  | script {taskType ref version occurredAt} :
      TaskActivation nodeId (.scriptTaskActivated nodeId taskType ref version occurredAt)

inductive TaskCompletion (nodeId : NodeId) (node : Node) (occurredAt : Nat) : Command → DomainEvent → Prop
  | service {outputs} : TaskCompletion nodeId node occurredAt (.completeServiceTask nodeId outputs occurredAt)
      (.serviceTaskCompleted nodeId outputs occurredAt)
  | user {decision taskType policy formKey resultVariable next}
      (hnode : node = .userTask taskType policy formKey resultVariable next) :
      TaskCompletion nodeId node occurredAt (.completeUserTask nodeId decision occurredAt)
        (.userTaskCompleted nodeId decision resultVariable occurredAt)
  | script : TaskCompletion nodeId node occurredAt (.completeScriptTask nodeId occurredAt)
      (.scriptTaskCompleted nodeId occurredAt)

section Operations
variable {r r' : RoutingState} {nodeId : NodeId} {e : DomainEvent}

theorem activateTask_eq_ok : r.activateTask nodeId = .ok r' ↔ r.activeTokens[nodeId]?.getD 0 < u32Max ∧
      r' = { r with activeTokens := r.activeTokens.insert nodeId (r.activeTokens[nodeId]?.getD 0 + 1) } := by
  simp only [activateTask, bind_eq_ok, checkedSucc_eq_ok, pure_eq_ok]
  constructor
  · rintro ⟨count,⟨hlt,rfl⟩,rfl⟩; exact ⟨hlt,rfl⟩
  · rintro ⟨hlt,rfl⟩; exact ⟨_,⟨hlt,rfl⟩,rfl⟩

theorem saturatingSucc_of_lt {limit n : Nat} (h : n < limit) : saturatingSucc limit n = n + 1 := by
  simp [saturatingSucc, h]

theorem activateTask_tracks (he : TaskActivation nodeId e) (h : r.activateTask nodeId = .ok r') :
    routeEvent r e = r' := by
  obtain ⟨hlt,rfl⟩ := activateTask_eq_ok.mp h
  have hs := saturatingSucc_of_lt hlt
  cases he <;> simp only [routeEvent, applyEvent, toState, routing, hs]

theorem completeTask_eq_ok : r.completeTask nodeId = .ok r' ↔ ∃ count, r.activeTokens[nodeId]? = some (count + 1) ∧
      r' = { r with activeTokens := releaseTokens r.activeTokens nodeId 1 } := by
  simp only [completeTask, bind_eq_ok, okOr_eq_ok]
  constructor
  · rintro ⟨count,hc,h⟩
    rcases count with _ | _ | n
    · simp at h
    · cases h
      exact ⟨0,hc,by simp [releaseTokens, hc]⟩
    · cases h
      exact ⟨n + 1,hc,by simp [releaseTokens, hc]⟩
  · rintro ⟨count,hc,rfl⟩
    refine ⟨count + 1,hc,?_⟩
    cases count with
    | zero | succ => simp [releaseTokens, hc]

variable {occurredAt iteration : Nat} {item : Option WorkflowValue} {taskType : TaskType} {completed complete : Bool}

theorem completeTask_tracks {node : Node} {command : Command}
    (he : TaskCompletion nodeId node occurredAt command e) (h : r.completeTask nodeId = .ok r') :
    routeEvent r e = r' := by
  obtain ⟨_,_,rfl⟩ := completeTask_eq_ok.mp h
  cases he <;> rfl

theorem startMultiInstance_eq_ok {mi : ActiveMultiInstance} :
    r.startMultiInstance nodeId mi = .ok r' ↔ r.activeMultiInstances[nodeId]? = none ∧
      r' = { r with activeMultiInstances := r.activeMultiInstances.insert nodeId mi } := by
  simp only [RoutingState.startMultiInstance, bind_eq_ok, ensure_eq_ok, pure_eq_ok,
    not_contains_iff]
  constructor
  · rintro ⟨_,hn,rfl⟩; exact ⟨hn,rfl⟩
  · rintro ⟨hn,rfl⟩; exact ⟨(),hn,rfl⟩

def ActiveMultiInstance.advance (active : ActiveMultiInstance) : ActiveMultiInstance :=
  { active with
    nextIteration := active.nextIteration + 1
    activeIterations := active.activeIterations.insert active.nextIteration }

def ActiveMultiInstance.retire (active : ActiveMultiInstance) (iteration : Nat) : ActiveMultiInstance :=
  { active with
    activeIterations := active.activeIterations.erase iteration
    completedIterations := active.completedIterations.insert iteration }

theorem activateNextMultiInstance_eq_ok :
    r.activateNextMultiInstance nodeId = .ok (r', iteration, taskType, item) ↔
      ∃ active, r.activeMultiInstances[nodeId]? = some active ∧ active.nextIteration < active.totalInstances ∧
        active.activeIterations.size < active.maxParallelism ∧ active.nextIteration < u32Max ∧
        r' = { r with activeMultiInstances := r.activeMultiInstances.insert nodeId active.advance } ∧
        iteration = active.nextIteration ∧ taskType = active.taskType ∧
        item = active.items[active.nextIteration]? := by
  simp only [activateNextMultiInstance, bind_eq_ok, okOr_eq_ok, ensure_eq_ok,
    Bool.and_eq_true, decide_eq_true_eq, checkedSucc_eq_ok, pure_eq_ok, Prod.mk.injEq]
  constructor
  · rintro ⟨active,ha,_,⟨h₁,h₂⟩,next,⟨h₃,rfl⟩,rfl,rfl,rfl,rfl⟩
    exact ⟨active,ha,h₁,h₂,h₃,rfl,rfl,rfl,rfl⟩
  · rintro ⟨active,ha,h₁,h₂,h₃,rfl,rfl,rfl,rfl⟩
    exact ⟨active,ha,(),⟨h₁,h₂⟩,_,⟨h₃,rfl⟩,rfl,rfl,rfl,rfl⟩

theorem activateNextMultiInstance_tracks
    (h : r.activateNextMultiInstance nodeId = .ok (r', iteration, taskType, item)) :
    routeEvent r (.multiInstanceIterationActivated nodeId taskType iteration item occurredAt) = r' := by
  obtain ⟨active,ha,_,_,hlt,rfl,rfl,rfl,rfl⟩ := activateNextMultiInstance_eq_ok.mp h
  have hs := saturatingSucc_of_lt hlt
  have hm : max active.nextIteration (active.nextIteration + 1) = active.nextIteration + 1 := by omega
  simp only [routeEvent, applyEvent, toState, routing, adjust, ha, hs, hm, ActiveMultiInstance.advance]

theorem completeMultiInstanceIteration_eq_ok :
    r.completeMultiInstanceIteration nodeId iteration = .ok (r', completed) ↔
      ∃ active, r.activeMultiInstances[nodeId]? = some active ∧ iteration ∈ active.activeIterations ∧
        r' = { r with
          activeMultiInstances := r.activeMultiInstances.insert nodeId (active.retire iteration) } ∧
        completed = ((active.retire iteration).completedIterations.size == active.totalInstances) := by
  simp only [RoutingState.completeMultiInstanceIteration, bind_eq_ok, okOr_eq_ok,
    ensure_eq_ok, pure_eq_ok, Prod.mk.injEq, ExtTreeSet.contains_iff_mem]
  constructor
  · rintro ⟨active,ha,_,hc,rfl,rfl⟩; exact ⟨active,ha,hc,rfl,rfl⟩
  · rintro ⟨active,ha,hc,rfl,rfl⟩; exact ⟨active,ha,(),hc,rfl,rfl⟩

theorem completeMultiInstanceIteration_tracks
    (h : r.completeMultiInstanceIteration nodeId iteration = .ok (r', completed)) :
    routeEvent r (.multiInstanceIterationCompleted nodeId iteration occurredAt) = r' := by
  obtain ⟨active,ha,_,rfl,_⟩ := completeMultiInstanceIteration_eq_ok.mp h
  simp only [routeEvent, applyEvent, toState, routing, adjust, ha, ActiveMultiInstance.retire]

theorem armBoundary_eq_ok {subscription : ActiveBoundarySubscription} :
    r.armBoundary nodeId subscription = .ok r' ↔ r.activeBoundarySubscriptions[nodeId]? = none ∧
      r' = { r with
        activeBoundarySubscriptions := r.activeBoundarySubscriptions.insert nodeId subscription } := by
  simp only [armBoundary, bind_eq_ok, ensure_eq_ok, pure_eq_ok,
    not_contains_iff]
  constructor
  · rintro ⟨_,hn,rfl⟩; exact ⟨hn,rfl⟩
  · rintro ⟨hn,rfl⟩; exact ⟨(),hn,rfl⟩

theorem openJoin_eq_ok {count : Nat} :
    r.openJoin nodeId count = .ok r' ↔ count ≤ u32Max ∧ r.pendingJoins[nodeId]? = none ∧
      r' = { r with pendingJoins := r.pendingJoins.insert nodeId ⟨count, 0⟩ } := by
  simp only [openJoin, bind_eq_ok, ensure_eq_ok, pure_eq_ok, decide_eq_true_eq,
    not_contains_iff]
  constructor
  · rintro ⟨_,hle,_,hn,rfl⟩; exact ⟨hle,hn,rfl⟩
  · rintro ⟨hle,hn,rfl⟩; exact ⟨(),hle,(),hn,rfl⟩

theorem openJoin_tracks {gatewayId : NodeId} {selected : List NodeId}
    (h : r.openJoin nodeId selected.length = .ok r') :
    routeEvent r (.gatewaySplitActivated gatewayId nodeId selected occurredAt) = r' := by
  obtain ⟨hle,_,rfl⟩ := openJoin_eq_ok.mp h
  have hm : min selected.length u32Max = selected.length := by omega
  simp only [routeEvent, applyEvent, toState, routing, hm]

theorem arrive_eq_ok :
    r.arrive nodeId = .ok (r', complete) ↔ ∃ join, r.pendingJoins[nodeId]? = some join ∧
      join.arrivedTokens < u32Max ∧ join.arrivedTokens + 1 ≤ join.expectedTokens ∧
      r' = { r with pendingJoins :=
        r.pendingJoins.insert nodeId ⟨join.expectedTokens, join.arrivedTokens + 1⟩ } ∧
      complete = (join.arrivedTokens + 1 == join.expectedTokens) := by
  simp only [arrive, bind_eq_ok, okOr_eq_ok, checkedSucc_eq_ok, ensure_eq_ok,
    decide_eq_true_eq, pure_eq_ok, Prod.mk.injEq]
  constructor
  · rintro ⟨join,hj,arrived,⟨hlt,rfl⟩,_,hle,rfl,rfl⟩; exact ⟨join,hj,hlt,hle,rfl,rfl⟩
  · rintro ⟨join,hj,hlt,hle,rfl,rfl⟩; exact ⟨join,hj,_,⟨hlt,rfl⟩,(),hle,rfl,rfl⟩

theorem arrive_open (h : r.arrive nodeId = .ok (r', false)) :
    ∃ join, r.pendingJoins[nodeId]? = some join ∧ join.arrivedTokens + 1 < join.expectedTokens ∧
      r' = { r with pendingJoins :=
        r.pendingJoins.insert nodeId ⟨join.expectedTokens, join.arrivedTokens + 1⟩ } := by
  obtain ⟨join,hj,_,hle,hr,hc⟩ := arrive_eq_ok.mp h
  have hne : join.arrivedTokens + 1 ≠ join.expectedTokens := by simpa using hc
  exact ⟨join,hj,by omega,hr⟩

/-- The token that completes the join, after which the join is closed. -/
theorem arrive_close (h : r.arrive nodeId = .ok (r', true)) :
    ∃ join, r.pendingJoins[nodeId]? = some join ∧ join.arrivedTokens + 1 = join.expectedTokens ∧
      r'.closeJoin nodeId = { r with pendingJoins := r.pendingJoins.erase nodeId } := by
  obtain ⟨join,hj,_,hle,rfl,hc⟩ := arrive_eq_ok.mp h
  refine ⟨join,hj,by simpa using hc.symm,?_⟩
  simp only [closeJoin, erase_insert]

theorem arrive_tracks (h : r.arrive nodeId = .ok (r', complete)) :
    routeEvent r (.gatewayTokenArrived nodeId occurredAt) = r' := by
  obtain ⟨join,hj,hlt,_,rfl,_⟩ := arrive_eq_ok.mp h
  have hs := saturatingSucc_of_lt hlt
  simp only [routeEvent, applyEvent, toState, routing, adjust, hj, hs]

end Operations

end BpmpPlatform
